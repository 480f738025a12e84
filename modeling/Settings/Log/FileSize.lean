import Settings.Number.Integer

/-!
# File sizes

A file size is an integer number of bytes, or of a unit that follows it: `10MB`.
-/

namespace Settings.Log

open Number

/-- The units of file sizes and their bytes. -/
def sizeUnits : List (String × Nat) :=
  [("KB", 1024), ("MB", 1024 * 1024), ("GB", 1024 * 1024 * 1024)]

/-- The text before `ending`, if the text ends so. -/
def beforeEnding? (ending text : String) : Option String :=
  let cs := text.toList
  if ending.toList.isSuffixOf cs then some (String.ofList (cs.take (cs.length - ending.length)))
  else none

/-- The count and the bytes of the unit that a text writes. -/
def splitSize (text : String) : String × Nat :=
  (sizeUnits.findSome? fun u => (beforeEnding? u.1 text).map (·, u.2)).getD (text, 1)

/-- The bytes that a text writes. -/
def parseFileSize (text : String) : Except NumeralFault Int :=
  let (count, unit) := splitSize text
  (readInteger count).map (· * unit)

end Settings.Log
