import ParserSplice.Unicode.DerivedProperty

set_option autoImplicit false

namespace ParserSplice.Unicode

/-- The values of Grapheme_Cluster_Break. -/
inductive GraphemeBreak where
  | carriageReturn
  | control
  | extend
  | leading
  | lineFeed
  | leadingVowel
  | leadingVowelTrailing
  | prepend
  | regionalIndicator
  | spacingMark
  | trailing
  | vowel
  | joiner
deriving DecidableEq, Repr, Inhabited

namespace GraphemeBreak

def all : List GraphemeBreak :=
  [.carriageReturn, .control, .extend, .leading, .lineFeed, .leadingVowel, .leadingVowelTrailing,
    .prepend, .regionalIndicator, .spacingMark, .trailing, .vowel, .joiner]

/-- The names of a value, in lower case and without separators. -/
def names : GraphemeBreak → List String
  | carriageReturn => ["cr"]
  | control => ["cn", "control"]
  | extend => ["ex", "extend"]
  | leading => ["l"]
  | lineFeed => ["lf"]
  | leadingVowel => ["lv"]
  | leadingVowelTrailing => ["lvt"]
  | prepend => ["pp", "prepend"]
  | regionalIndicator => ["regionalindicator", "ri"]
  | spacingMark => ["sm", "spacingmark"]
  | trailing => ["t"]
  | vowel => ["v"]
  | joiner => ["zwj"]

/-- Code points that extend the character before them, modifiers of pictures among them. -/
def extending : SetExpr := graphemeExtend + .tabled .emojiModifier

def expr : GraphemeBreak → SetExpr
  | carriageReturn => .points "D"
  | control =>
    .categories [.lineSeparator, .paragraphSeparator, .control, .format] +
      (defaultIgnorable.inter unassigned) - .points "A D 200C-200D" -
      .tabled .prependedConcatenationMark - extending
  | extend => extending
  | leading => .points "1100-115F A960-A97C"
  | lineFeed => .points "A"
  | leadingVowel => .points "AC00-D788/1C"
  | leadingVowelTrailing => .points "AC00-D7A3" - .points "AC00-D788/1C"
  | prepend =>
    .points
      ("600-605 6DD 70F 890-891 8E2 D4E 110BD 110CD 111C2-111C3 113D1 1193F 11941 11A3A " ++
      "11A84-11A89 11D46 11F02")
  | regionalIndicator => .points "1F1E6-1F1FF"
  | spacingMark =>
    .points
      ("903 93B 93E-940 949-94C 94E-94F 982-983 9BF-9C0 9C7-9C8 9CB-9CC A03 A3E-A40 A83 ABE-AC0 " ++
      "AC9 ACB-ACC B02-B03 B40 B47-B48 B4B-B4C BBF BC1-BC2 BC6-BC8 BCA-BCC C01-C03 C41-C44 " ++
      "C82-C83 CBE CC1 CC3-CC4 CF3 D02-D03 D3F-D40 D46-D48 D4A-D4C D82-D83 DD0-DD1 DD8-DDE " ++
      "DF2-DF3 E33 EB3 F3E-F3F F7F 1031 103B-103C 1056-1057 1084 17B6 17BE-17C5 17C7-17C8 " ++
      "1923-1926 1929-192B 1930-1931 1933-1938 1A19-1A1A 1A55 1A57 1A6D-1A72 1B04 1B3E-1B41 " ++
      "1B82 1BA1 1BA6-1BA7 1BE7 1BEA-1BEC 1BEE 1C24-1C2B 1C34-1C35 1CE1 1CF7 A823-A824 A827 " ++
      "A880-A881 A8B4-A8C3 A952 A983 A9B4-A9B5 A9BA-A9BB A9BE-A9BF AA2F-AA30 AA33-AA34 AA4D " ++
      "AAEB AAEE-AAEF AAF5 ABE3-ABE4 ABE6-ABE7 ABE9-ABEA ABEC 11000 11002 11082 110B0-110B2 " ++
      "110B7-110B8 1112C 11145-11146 11182 111B3-111B5 111BF 111CE 1122C-1122E 11232-11233 " ++
      "112E0-112E2 11302-11303 1133F 11341-11344 11347-11348 1134B-1134C 11362-11363 " ++
      "113B9-113BA 113CA 113CC-113CD 11435-11437 11440-11441 11445 114B1-114B2 114B9 " ++
      "114BB-114BC 114BE 114C1 115B0-115B1 115B8-115BB 115BE 11630-11632 1163B-1163C 1163E " ++
      "116AC 116AE-116AF 1171E 11726 1182C-1182E 11838 11931-11935 11937-11938 11940 11942 " ++
      "119D1-119D3 119DC-119DF 119E4 11A39 11A57-11A58 11A97 11C2F 11C3E 11CA9 11CB1 11CB4 " ++
      "11D8A-11D8E 11D93-11D94 11D96 11EF5-11EF6 11F03 11F34-11F35 11F3E-11F3F 1612A-1612C " ++
      "16F51-16F87")
  | trailing => .points "11A8-11FF D7CB-D7FB"
  | vowel => .points "1160-11A7 D7B0-D7C6 16D63 16D67-16D6A"
  | joiner => .points "200D"

end GraphemeBreak

end ParserSplice.Unicode
