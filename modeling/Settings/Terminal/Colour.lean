import Settings.Number.Integer
import Settings.Text.Split

/-!
# Colours of terminal text

A colour has a name, or a number up to 255 in the palette of the terminal, or it is mixed of
red, green and blue: as six hexadecimal digits, or as three integers up to 255.

## Main definitions

* `colourNames` — the colours that have names.
* `isColour` — whether a word in small letters is a colour.
-/

namespace Settings.Terminal

open Text Number

/-! ### Names -/

/-- The colours of the smallest palette. -/
def basicColours : List String :=
  ["black", "red", "green", "yellow", "blue", "magenta", "cyan", "white"]

/-- The shades of grey, by their share of white in hundredths. -/
def greyShades : List Nat :=
  [0, 3, 7, 11, 15, 19, 23, 27, 30, 35, 37, 39, 42, 46, 50, 53, 54, 58, 62, 63, 66, 69, 70,
   74, 78, 82, 84, 85, 89, 93, 100]

/-- The colours of the large palette apart from greys. -/
def paletteColours : List String :=
  ["aquamarine1", "aquamarine3", "blue1", "blue3", "blue_violet", "cadet_blue", "chartreuse1",
   "chartreuse2", "chartreuse3", "chartreuse4", "cornflower_blue", "cornsilk1", "cyan1", "cyan2",
   "cyan3", "dark_blue", "dark_cyan", "dark_goldenrod", "dark_green", "dark_khaki", "dark_magenta",
   "dark_olive_green1", "dark_olive_green2", "dark_olive_green3", "dark_orange", "dark_orange3",
   "dark_red", "dark_sea_green", "dark_sea_green1", "dark_sea_green2", "dark_sea_green3",
   "dark_sea_green4", "dark_slate_gray1", "dark_slate_gray2", "dark_slate_gray3", "dark_turquoise",
   "dark_violet", "deep_pink1", "deep_pink2", "deep_pink3", "deep_pink4", "deep_sky_blue1",
   "deep_sky_blue2", "deep_sky_blue3", "deep_sky_blue4", "dodger_blue1", "dodger_blue2",
   "dodger_blue3", "gold1", "gold3", "green1", "green3", "green4", "green_yellow", "honeydew2",
   "hot_pink", "hot_pink2", "hot_pink3", "indian_red", "indian_red1", "khaki1", "khaki3",
   "light_coral", "light_cyan1", "light_cyan3", "light_goldenrod1", "light_goldenrod2",
   "light_goldenrod3", "light_green", "light_pink1", "light_pink3", "light_pink4", "light_salmon1",
   "light_salmon3", "light_sea_green", "light_sky_blue1", "light_sky_blue3", "light_slate_blue",
   "light_slate_gray", "light_slate_grey", "light_steel_blue", "light_steel_blue1",
   "light_steel_blue3", "light_yellow3", "magenta1", "magenta2", "magenta3", "medium_orchid",
   "medium_orchid1", "medium_orchid3", "medium_purple", "medium_purple1", "medium_purple2",
   "medium_purple3", "medium_purple4", "medium_spring_green", "medium_turquoise",
   "medium_violet_red", "misty_rose1", "misty_rose3", "navajo_white1", "navajo_white3",
   "navy_blue", "orange1", "orange3", "orange4", "orange_red1", "orchid", "orchid1", "orchid2",
   "pale_green1", "pale_green3", "pale_turquoise1", "pale_turquoise4", "pale_violet_red1", "pink1",
   "pink3", "plum1", "plum2", "plum3", "plum4", "purple", "purple3", "purple4", "red1", "red3",
   "rosy_brown", "royal_blue1", "salmon1", "sandy_brown", "sea_green1", "sea_green2", "sea_green3",
   "sky_blue1", "sky_blue2", "sky_blue3", "slate_blue1", "slate_blue3", "spring_green1",
   "spring_green2", "spring_green3", "spring_green4", "steel_blue", "steel_blue1", "steel_blue3",
   "tan", "thistle1", "thistle3", "turquoise2", "turquoise4", "violet", "wheat1", "wheat4",
   "yellow1", "yellow2", "yellow3", "yellow4"]

/-- The colours that have names of their own. -/
def colourNames : List String :=
  "default" :: basicColours ++ basicColours.map ("bright_" ++ ·)
    ++ greyShades.map ("grey" ++ numeral ·) ++ greyShades.map ("gray" ++ numeral ·)
    ++ paletteColours

/-! ### Colours in numbers -/

/-- The largest share of a basic colour in a mixed one, and the largest number in a palette. -/
def largestShare : Nat := 255

/-- The word is a colour by six hexadecimal digits. -/
def isHexColour (word : List Char) : Bool :=
  match word with
  | '#' :: digits =>
    digits.length == 6 && digits.all fun c => isAsciiDigit c || ('a' ≤ c && c ≤ 'f')
  | _ => false

/-- What a word has in round brackets after a function's name. -/
def argument? (function : String) (word : List Char) : Option (List Char) :=
  if (function ++ "(").toList.isPrefixOf word && word.getLast? == some ')' then
    some ((word.drop (function.length + 1)).dropLast)
  else none

/-- The text of one to three digits is the number of a colour in the palette. -/
def isPaletteNumber (digits : List Char) : Bool :=
  0 < digits.length && digits.length ≤ 3 && digits.all isAsciiDigit
    && decide (ofDigits (digits.filterMap digitValue?) ≤ largestShare)

/-- A text is three shares of basic colours between commas.  A text of digits and commas that
leaves a share out is refused where the share is read. -/
def isMixture (shares : List Char) : Except NumeralFault Bool :=
  if !shares.isEmpty && shares.all fun c => (digitValue? c).isSome || c == ',' then
    match splitOn ',' shares with
    | [red, green, blue] => do
      let shares ← [red, green, blue].mapM fun share => readInteger (String.ofList share)
      return shares.all fun n => decide (n ≤ (largestShare : Int))
    | _ => .ok false
  else .ok false

/-- The word in small letters is a colour. -/
def isColour (word : String) : Except NumeralFault Bool :=
  if colourNames.contains word || isHexColour word.toList then .ok true
  else
    match argument? "color" word.toList, argument? "rgb" word.toList with
    | some digits, _ => .ok (isPaletteNumber digits)
    | none, some shares => isMixture shares
    | none, none => .ok false

end Settings.Terminal
