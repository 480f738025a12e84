import Settings.Text.Ranges

/-!
# Blank characters

Blank characters separate words and surround values.  They are the white space
of Unicode together with the four information separators U+001C to U+001F; the
zero-width space U+200B and the byte order mark U+FEFF are not among them.

## Main definitions

* `isBlank` — membership in the class.
* `trim`, `trimLeft`, `trimRight` — a text without the blanks around it.
* `isInlineBlank` — blank, but not a line feed.
-/

namespace Settings.Text

/-- The code points of the blank characters. -/
def blankRanges : List (Nat × Nat) :=
  [(0x09, 0x0D), (0x1C, 0x20), (0x85, 0x85), (0xA0, 0xA0), (0x1680, 0x1680), (0x2000, 0x200A),
   (0x2028, 0x2029), (0x202F, 0x202F), (0x205F, 0x205F), (0x3000, 0x3000)]

/-- The character is blank. -/
def isBlank (c : Char) : Bool := inRanges blankRanges c

/-- The character is blank and does not end a line. -/
def isInlineBlank (c : Char) : Bool := isBlank c && c != '\n'

/-! ### Trimming -/

/-- A text without the blanks at its start. -/
def trimLeft (cs : List Char) : List Char := cs.dropWhile isBlank

/-- A text without the blanks at its end. -/
def trimRight (cs : List Char) : List Char := (cs.reverse.dropWhile isBlank).reverse

/-- A text without the blanks at either end. -/
def trim (cs : List Char) : List Char := trimRight (trimLeft cs)

@[simp] theorem trimLeft_nil : trimLeft [] = [] := rfl

@[simp] theorem trimRight_nil : trimRight [] = [] := rfl

@[simp] theorem trim_nil : trim [] = [] := rfl

theorem trimLeft_cons (c : Char) (cs : List Char) :
    trimLeft (c :: cs) = if isBlank c then trimLeft cs else c :: cs := by
  simp only [trimLeft, List.dropWhile_cons]

end Settings.Text
