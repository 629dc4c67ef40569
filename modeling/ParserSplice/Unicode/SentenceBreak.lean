import ParserSplice.Unicode.DerivedProperty

set_option autoImplicit false

namespace ParserSplice.Unicode

/-- The values of Sentence_Break. -/
inductive SentenceBreak where
  | ambiguousTerminator
  | carriageReturn
  | close
  | extend
  | format
  | lineFeed
  | lower
  | numeric
  | otherLetter
  | sentenceContinue
  | sentenceTerminator
  | separator
  | space
  | upper
deriving DecidableEq, Repr, Inhabited

namespace SentenceBreak

def all : List SentenceBreak :=
  [.ambiguousTerminator, .carriageReturn, .close, .extend, .format, .lineFeed, .lower, .numeric,
    .otherLetter, .sentenceContinue, .sentenceTerminator, .separator, .space, .upper]

/-- The names of a value, in lower case and without separators. -/
def names : SentenceBreak → List String
  | ambiguousTerminator => ["at", "aterm"]
  | carriageReturn => ["cr"]
  | close => ["cl", "close"]
  | extend => ["ex", "extend"]
  | format => ["fo", "format"]
  | lineFeed => ["lf"]
  | lower => ["lo", "lower"]
  | numeric => ["nu", "numeric"]
  | otherLetter => ["le", "oletter"]
  | sentenceContinue => ["sc", "scontinue"]
  | sentenceTerminator => ["st", "sterm"]
  | separator => ["se", "sep"]
  | space => ["sp"]
  | upper => ["up", "upper"]

/-- Code points that extend the character before them. -/
def extending : SetExpr :=
  graphemeExtend + .categories [.spacingMark] + .points "200D"

/-- Lowercase code points; the letters of Georgian have no case within a sentence. -/
def lowerLetter : SetExpr := lowercase - graphemeExtend - .points "10D0-10FA 10FD-10FF"

/-- Uppercase code points; the letters of Georgian have no case within a sentence. -/
def upperLetter : SetExpr := uppercase + .categories [.titlecaseLetter] - .points "1C90-1CBF"

def expr : SentenceBreak → SetExpr
  | ambiguousTerminator => .points "2E 2024 FE52 FF0E"
  | carriageReturn => .points "D"
  | close =>
    .points
      ("22 27-29 5B 5D 7B 7D AB BB F3A-F3D 169B-169C 2018-201F 2039-203A 2045-2046 207D-207E " ++
      "208D-208E 2308-230B 2329-232A 275B-2760 2768-2775 27C5-27C6 27E6-27EF 2983-2998 " ++
      "29D8-29DB 29FC-29FD 2E00-2E0D 2E1C-2E1D 2E20-2E29 2E42 2E55-2E5C 3008-3011 3014-301B " ++
      "301D-301F FD3E-FD3F FE17-FE18 FE35-FE44 FE47-FE48 FE59-FE5E FF08-FF09 FF3B FF3D FF5B " ++
      "FF5D FF5F-FF60 FF62-FF63 1F676-1F678")
  | extend => extending
  | format =>
    .points
      ("AD 61C 70F 180E 200B 200E-200F 202A-202E 2060-2064 2066-206F FEFF FFF9-FFFB 13430-1343F " ++
      "1BCA0-1BCA3 1D173-1D17A E0001")
  | lineFeed => .points "A"
  | lower => lowerLetter
  | numeric =>
    .points
      ("30-39 600-605 660-669 66B-66C 6DD 6F0-6F9 7C0-7C9 890-891 8E2 966-96F 9E6-9EF A66-A6F " ++
      "AE6-AEF B66-B6F BE6-BEF C66-C6F CE6-CEF D66-D6F DE6-DEF E50-E59 ED0-ED9 F20-F29 " ++
      "1040-1049 1090-1099 17E0-17E9 1810-1819 1946-194F 19D0-19DA 1A80-1A89 1A90-1A99 " ++
      "1B50-1B59 1BB0-1BB9 1C40-1C49 1C50-1C59 A620-A629 A8D0-A8D9 A900-A909 A9D0-A9D9 " ++
      "A9F0-A9F9 AA50-AA59 ABF0-ABF9 FF10-FF19 104A0-104A9 10D30-10D39 10D40-10D49 11066-1106F " ++
      "110BD 110CD 110F0-110F9 11136-1113F 111D0-111D9 112F0-112F9 11450-11459 114D0-114D9 " ++
      "11650-11659 116C0-116C9 116D0-116E3 11730-11739 118E0-118E9 11950-11959 11BF0-11BF9 " ++
      "11C50-11C59 11D50-11D59 11DA0-11DA9 11F50-11F59 16130-16139 16A60-16A69 16AC0-16AC9 " ++
      "16B50-16B59 16D70-16D79 1CCF0-1CCF9 1D7CE-1D7FF 1E140-1E149 1E2F0-1E2F9 1E4F0-1E4F9 " ++
      "1E5F1-1E5FA 1E950-1E959 1FBF0-1FBF9")
  | otherLetter =>
    alphabetic + .points "5F3" - .points "A0" - lowerLetter - upperLetter - extending
  | sentenceContinue =>
    .points
      ("2C-2D 3A-3B 37E 55D 60C-60D 7F8 1802 1808 2013-2014 3001 FE10-FE11 FE13-FE14 FE31-FE32 " ++
      "FE50-FE51 FE54-FE55 FE58 FE63 FF0C-FF0D FF1A-FF1B FF64")
  | sentenceTerminator => .tabled .sentenceTerminal - .points "2E 2024 FE52 FF0E"
  | separator => .points "85 2028-2029"
  | space => .tabled .whiteSpace - .points "A D 85 2028-2029"
  | upper => upperLetter

end SentenceBreak

end ParserSplice.Unicode
