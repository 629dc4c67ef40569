import ParserSplice.Unicode.DerivedProperty

set_option autoImplicit false

namespace ParserSplice.Unicode

/-- The values of Word_Break. -/
inductive WordBreak where
  | alphabeticLetter
  | carriageReturn
  | doubleQuote
  | extend
  | extendNumberOrLetter
  | format
  | hebrewLetter
  | katakana
  | lineFeed
  | midLetter
  | midNumber
  | midNumberOrLetter
  | newline
  | numeric
  | regionalIndicator
  | singleQuote
  | segmentSpace
  | joiner
deriving DecidableEq, Repr, Inhabited

namespace WordBreak

def all : List WordBreak :=
  [.alphabeticLetter, .carriageReturn, .doubleQuote, .extend, .extendNumberOrLetter, .format,
    .hebrewLetter, .katakana, .lineFeed, .midLetter, .midNumber, .midNumberOrLetter, .newline,
    .numeric, .regionalIndicator, .singleQuote, .segmentSpace, .joiner]

/-- The names of a value, in lower case and without separators. -/
def names : WordBreak → List String
  | alphabeticLetter => ["aletter", "le"]
  | carriageReturn => ["cr"]
  | doubleQuote => ["doublequote", "dq"]
  | extend => ["extend"]
  | extendNumberOrLetter => ["ex", "extendnumlet"]
  | format => ["fo", "format"]
  | hebrewLetter => ["hebrewletter", "hl"]
  | katakana => ["ka", "katakana"]
  | lineFeed => ["lf"]
  | midLetter => ["midletter", "ml"]
  | midNumber => ["midnum", "mn"]
  | midNumberOrLetter => ["mb", "midnumlet"]
  | newline => ["newline", "nl"]
  | numeric => ["nu", "numeric"]
  | regionalIndicator => ["regionalindicator", "ri"]
  | singleQuote => ["singlequote", "sq"]
  | segmentSpace => ["wsegspace"]
  | joiner => ["zwj"]

/-- Code points that extend the character before them. -/
def extending : SetExpr :=
  graphemeExtend + .categories [.spacingMark] + .tabled .emojiModifier

def katakanaLetter : SetExpr :=
  .points ("3031-3035 309B-309C 30A0-30FA 30FC-30FF 31F0-31FF 32D0-32FE 3300-3357 FF66-FF9D " ++
    "1AFF0-1AFF3 1AFF5-1AFFB 1AFFD-1AFFE 1B000 1B120-1B122 1B155 1B164-1B167")

def hebrew : SetExpr := (SetExpr.script "hebrew").inter (.categories [.otherLetter])

/-- Letters of languages that set no spaces between words. -/
def unspaced : SetExpr :=
  .points
    ("E01-E30 E32-E33 E40-E46 E81-E82 E84 E86-E8A E8C-EA3 EA5 EA7-EB0 EB2-EB3 EBD EC0-EC4 EC6 " ++
    "EDC-EDF 1000-102A 103F 1050-1055 105A-105D 1061 1065-1066 106E-1070 1075-1081 108E " ++
    "1780-17B3 17D7 17DC 1950-196D 1970-1974 1980-19AB 19B0-19C9 1A20-1A54 1AA7 A9E0-A9E4 " ++
    "A9E6-A9EF A9FA-A9FE AA60-AA76 AA7A AA7E-AAAF AAB1 AAB5-AAB6 AAB9-AABD AAC0 AAC2 AADB-AADD " ++
    "11700-1171A 11740-11746")

/-- The code points with a value. -/
def expr : WordBreak → SetExpr
  | alphabeticLetter =>
    alphabetic - .tabled .ideographic - katakanaLetter - .script "hiragana" - extending -
      hebrew - unspaced +
      .points
        ("2C2-2C5 2D2-2D7 2DE-2DF 2E5-2EB 2ED 2EF-2FF 55A-55C 55E 58A 5F3 70F A708-A716 " ++
        "A720-A721 A789-A78A AB5B")
  | carriageReturn => .points "D"
  | doubleQuote => .points "22"
  | extend => extending
  | extendNumberOrLetter => .points "5F 202F 203F-2040 2054 FE33-FE34 FE4D-FE4F FF3F"
  | format =>
    .categories [.format] - .points "200B-200D" - .tabled .prependedConcatenationMark -
      graphemeExtend
  | hebrewLetter => hebrew
  | katakana => katakanaLetter
  | lineFeed => .points "A"
  | midLetter => Unicode.midLetter
  | midNumber => .points "2C 3B 37E 589 60C-60D 66C 7F8 2044 FE50 FE54 FF0C FF1B"
  | midNumberOrLetter => Unicode.midNumLet
  | newline => .points "B-C 85 2028-2029"
  | numeric =>
    .points
      ("30-39 600-605 660-669 66B 6DD 6F0-6F9 7C0-7C9 890-891 8E2 966-96F 9E6-9EF A66-A6F " ++
      "AE6-AEF B66-B6F BE6-BEF C66-C6F CE6-CEF D66-D6F DE6-DEF E50-E59 ED0-ED9 F20-F29 " ++
      "1040-1049 1090-1099 17E0-17E9 1810-1819 1946-194F 19D0-19DA 1A80-1A89 1A90-1A99 " ++
      "1B50-1B59 1BB0-1BB9 1C40-1C49 1C50-1C59 A620-A629 A8D0-A8D9 A900-A909 A9D0-A9D9 " ++
      "A9F0-A9F9 AA50-AA59 ABF0-ABF9 FF10-FF19 104A0-104A9 10D30-10D39 10D40-10D49 11066-1106F " ++
      "110BD 110CD 110F0-110F9 11136-1113F 111D0-111D9 112F0-112F9 11450-11459 114D0-114D9 " ++
      "11650-11659 116C0-116C9 116D0-116E3 11730-11739 118E0-118E9 11950-11959 11BF0-11BF9 " ++
      "11C50-11C59 11D50-11D59 11DA0-11DA9 11F50-11F59 16130-16139 16A60-16A69 16AC0-16AC9 " ++
      "16B50-16B59 16D70-16D79 1CCF0-1CCF9 1D7CE-1D7FF 1E140-1E149 1E2F0-1E2F9 1E4F0-1E4F9 " ++
      "1E5F1-1E5FA 1E950-1E959 1FBF0-1FBF9")
  | regionalIndicator => .points "1F1E6-1F1FF"
  | singleQuote => .points "27"
  | segmentSpace => .points "20 1680 2000-2006 2008-200A 205F 3000"
  | joiner => .points "200D"

end WordBreak

end ParserSplice.Unicode
