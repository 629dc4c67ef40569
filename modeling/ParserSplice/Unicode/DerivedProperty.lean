import ParserSplice.Unicode.SetExpr

set_option autoImplicit false

-- Properties that a code point has or has not, defined by tables and by one another, as of version
-- 16.0.

namespace ParserSplice.Unicode

def lowercase : SetExpr := .categories [.lowercaseLetter] + .tabled .otherLowercase

def uppercase : SetExpr := .categories [.uppercaseLetter] + .tabled .otherUppercase

/-- Code points that count as letters of an alphabet. -/
def alphabetic : SetExpr :=
  lowercase + uppercase +
    .categories [.titlecaseLetter, .modifierLetter, .otherLetter, .letterNumber] +
    .tabled .otherAlphabetic

/-- Code points that extend the character before them. -/
def graphemeExtend : SetExpr :=
  .categories [.enclosingMark, .nonspacingMark] + .tabled .otherGraphemeExtend

/-- Code points that are not shown where they are not supported. -/
def defaultIgnorable : SetExpr :=
  .tabled .otherDefaultIgnorableCodePoint + .categories [.format] + .tabled .variationSelector -
    .tabled .whiteSpace - .points "FFF9-FFFB 13430-1343F" - .tabled .prependedConcatenationMark

/-- Code points on which a character can be built. -/
def graphemeBase : SetExpr :=
  .categories (GeneralCategory.all.filter (fun c =>
    !([.control, .format, .privateUse, .lineSeparator, .paragraphSeparator,
      .enclosingMark, .nonspacingMark] : List GeneralCategory).contains c)) -
    .tabled .otherGraphemeExtend

/-- Marks and blanks that are set apart from names for good. -/
def patternMarks : SetExpr := .tabled .patternSyntax + .tabled .patternWhiteSpace

/-- Code points with which an identifier can start. -/
def idStart : SetExpr :=
  .categories [.lowercaseLetter, .uppercaseLetter, .titlecaseLetter, .modifierLetter, .otherLetter,
    .letterNumber] + .tabled .otherIdStart - patternMarks

/-- Code points that an identifier can have after its start. -/
def idContinue : SetExpr :=
  idStart + (.categories [.nonspacingMark, .spacingMark, .decimalNumber, .connectorPunctuation] +
    .tabled .otherIdContinue - patternMarks)

/-- Code points that identifiers cannot have if they are to keep their form when normalized. -/
def unstable : SetExpr :=
  .points "37A 309B-309C FC5E-FC63 FDFA-FDFB FE70-FE7E/2"

/-- Code points inside words, between letters. -/
def midLetter : SetExpr := .points "3A B7 387 55F 5F4 2027 FE13 FE55 FF1A"

/-- Code points inside words, between letters or between digits. -/
def midNumLet : SetExpr := .points "2E 2018-2019 2024 FE52 FF07 FF0E"

/-- The properties that are defined by others. -/
inductive DerivedProperty where
  | alphabetic
  | caseIgnorable
  | cased
  | changesWhenCasemapped
  | defaultIgnorableCodePoint
  | graphemeBase
  | graphemeExtend
  | idContinue
  | idStart
  | lowercase
  | math
  | uppercase
  | xidContinue
  | xidStart
deriving DecidableEq, Repr, Inhabited

namespace DerivedProperty

def all : List DerivedProperty :=
  [.alphabetic, .caseIgnorable, .cased, .changesWhenCasemapped, .defaultIgnorableCodePoint,
    .graphemeBase, .graphemeExtend, .idContinue, .idStart, .lowercase, .math, .uppercase,
    .xidContinue, .xidStart]

/-- The names of a property, in lower case and without separators. -/
def names : DerivedProperty → List String
  | alphabetic => ["alpha", "alphabetic"]
  | caseIgnorable => ["caseignorable", "ci"]
  | cased => ["cased"]
  | changesWhenCasemapped => ["changeswhencasemapped", "cwcm"]
  | defaultIgnorableCodePoint => ["defaultignorablecodepoint", "di"]
  | graphemeBase => ["graphemebase", "grbase"]
  | graphemeExtend => ["graphemeextend", "grext"]
  | idContinue => ["idc", "idcontinue"]
  | idStart => ["ids", "idstart"]
  | lowercase => ["lower", "lowercase"]
  | math => ["math"]
  | uppercase => ["upper", "uppercase"]
  | xidContinue => ["xidc", "xidcontinue"]
  | xidStart => ["xids", "xidstart"]

def expr : DerivedProperty → SetExpr
  | alphabetic => Unicode.alphabetic
  | caseIgnorable =>
    .categories [.nonspacingMark, .enclosingMark, .format, .modifierLetter, .modifierSymbol] +
      midLetter + midNumLet + .points "27"
  | cased => Unicode.lowercase + Unicode.uppercase + .categories [.titlecaseLetter]
  | changesWhenCasemapped =>
    .tabled .changesWhenLowercased + .tabled .changesWhenUppercased +
      .tabled .changesWhenTitlecased
  | defaultIgnorableCodePoint => defaultIgnorable
  | graphemeBase => Unicode.graphemeBase
  | graphemeExtend => Unicode.graphemeExtend
  | idContinue => Unicode.idContinue
  | idStart => Unicode.idStart
  | lowercase => Unicode.lowercase
  | math => .categories [.mathSymbol] + .tabled .otherMath
  | uppercase => Unicode.uppercase
  | xidContinue => Unicode.idContinue - unstable
  | xidStart => Unicode.idStart - unstable - .points "E33 EB3 FF9E-FF9F"

end DerivedProperty

end ParserSplice.Unicode
