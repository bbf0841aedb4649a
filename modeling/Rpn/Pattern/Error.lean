/-! Why a text is no pattern. -/

namespace Rpn.Pattern

inductive Error
  | nothingToRepeat
  | badCount
  | unclosedCount
  | reversedCount
  | unclosedGroup
  | unopenedGroup
  | lookAround
  | badFlag
  | repeatedFlag
  | badName
  | repeatedName
  | unclosedClass
  | reversedRange
  | badClassItem
  | unfinishedEscape
  | unclosedEscape
  | backReference
  | unknownEscape (c : Char)
  | badCodePoint
  | badWordPlace
  | unknownProperty
  | notInBytes
  | tooDeep
  | tooLarge
deriving DecidableEq

def Error.message : Error → String
  | nothingToRepeat => "there is nothing to repeat"
  | badCount => "the number of repetitions is not a number"
  | unclosedCount => "the number of repetitions is not closed"
  | reversedCount => "the least number of repetitions is above the greatest"
  | unclosedGroup => "a group is not closed"
  | unopenedGroup => "a group is closed that was not opened"
  | lookAround => "look-around is not supported"
  | badFlag => "the flags of a group cannot be read"
  | repeatedFlag => "a flag is repeated"
  | badName => "the name of a group cannot be read"
  | repeatedName => "two groups have one name"
  | unclosedClass => "a class is not closed"
  | reversedRange => "a range ends before it starts"
  | badClassItem => "this cannot stand in a class"
  | unfinishedEscape => "an escape is not finished"
  | unclosedEscape => "the brace of an escape is not closed"
  | backReference => "back references are not supported"
  | unknownEscape c => "unknown escape of " ++ c.toString
  | badCodePoint => "this is not the number of a character"
  | badWordPlace => "this is no place in a word"
  | unknownProperty => "there is no property of this name"
  | notInBytes => "without Unicode this could match a part of a character"
  | tooDeep => "the pattern is nested too deeply"
  | tooLarge => "the pattern is too large"

end Rpn.Pattern
