set_option autoImplicit false

namespace ParserSplice.Regex

/-- The reason why a text is no regular expression. -/
inductive Fault where
  | backreference
  | badClassEscape
  | badClassRange
  | badCount
  | badEscape
  | badGroupName
  | badHexDigit
  | badRangeEnd
  | boundaryNameUnknown
  | codePointOutOfRange
  | danglingNegation
  | duplicateFlag
  | duplicateGroupName
  | endOfText
  | lookaround
  | missingDigits
  | missingOperand
  | nestedTooDeeply
  | notAByte
  | repeatedNegation
  | unclosedClass
  | unclosedCount
  | unclosedGroup
  | unicodeOff
  | unknownFlag
  | unknownProperty
  | unopenedGroup
deriving DecidableEq, Repr, Inhabited

def Fault.text : Fault → String
  | backreference => "backreferences are not supported"
  | badClassEscape => "this escape cannot be part of a class"
  | badClassRange => "the range ends before it starts"
  | badCount => "the repetition count is not a range of 32-bit numbers"
  | badEscape => "unknown escape"
  | badGroupName => "a group name starts with a letter or an underscore"
  | badHexDigit => "not a hexadecimal digit"
  | badRangeEnd => "a range goes from one character to another"
  | boundaryNameUnknown => "unknown kind of word boundary"
  | codePointOutOfRange => "the number is not a Unicode scalar value"
  | danglingNegation => "no flag follows the minus sign"
  | duplicateFlag => "a flag is given twice"
  | duplicateGroupName => "a group name is given twice"
  | endOfText => "the text ends too early"
  | lookaround => "look-around is not supported"
  | missingDigits => "digits are missing"
  | missingOperand => "there is nothing to repeat"
  | nestedTooDeeply => "the expression is nested too deeply"
  | notAByte => "the character is not a single byte"
  | repeatedNegation => "the minus sign is given twice"
  | unclosedClass => "a class is not closed"
  | unclosedCount => "a repetition count is not closed"
  | unclosedGroup => "a group is not closed"
  | unicodeOff => "Unicode properties are switched off"
  | unknownFlag => "unknown flag"
  | unknownProperty => "unknown Unicode property"
  | unopenedGroup => "a group is closed that was not opened"

end ParserSplice.Regex
