import ParserSplice.Regex.Cursor
import ParserSplice.Regex.Pattern
import ParserSplice.Text.Hex

set_option autoImplicit false

namespace ParserSplice.Regex

/-- What one character or one escape stands for. -/
inductive Primitive where
  | literal (c : Literal)
  | dot
  | assertion (kind : Assertion)
  | property (query : PropertyQuery) (negated : Bool)
  | shorthand (kind : Shorthand) (negated : Bool)

/-- Whether a character has a meaning of its own in expressions. -/
def isMeta (c : Char) : Bool := "\\.+*?()|[]\x7b\x7d^$#&-~".toList.contains c

/-- Whether a backslash may stand before a character that then stands for itself. -/
def isEscapable (c : Char) : Bool :=
  isMeta c || (decide (c.toNat < 128) && !c.isAlphanum && c != '<' && c != '>')

def scalar? (n : Nat) : Except Fault Char :=
  if n < 0xD800 || (0xDFFF < n && n < 0x110000) then .ok (Char.ofNat n)
  else .error .codePointOutOfRange

def readDigits (c : Cursor) : Nat → Except Fault (List Char × Cursor)
  | 0 => .ok ([], c)
  | count + 1 => do
    match c.char? with
    | none => .error .endOfText
    | some digit =>
      if Hex.isDigit digit then
        let (digits, after) ← readDigits c.advance count
        return (digit :: digits, after)
      else .error .badHexDigit

/-- Reads a code point in hexadecimal, after the letter of the escape. Digits in braces may be any
number. -/
def readCodePoint (c : Cursor) (count : Nat) : Except Fault (Literal × Cursor) := do
  match c.char? with
  | none => .error .endOfText
  | some '\x7b' =>
    let (digits, after) := c.advance.takeWhile Hex.isDigit
    match after.char? with
    | none => .error .endOfText
    | some '\x7d' =>
      if digits.isEmpty then .error .missingDigits
      else
        let char ← scalar? (Hex.value digits)
        return (⟨char, false⟩, after.advance)
    | some _ => .error .badHexDigit
  | some _ =>
    let (digits, after) ← readDigits c count
    let char ← scalar? (Hex.value digits)
    return (⟨char, count == 2⟩, after)

/-- Splits text at the first occurrence of a mark. -/
def splitAtMark (mark : List Char) : List Char → Option (List Char × List Char)
  | [] => none
  | c :: rest =>
    if mark.isPrefixOf (c :: rest) then some ([], (c :: rest).drop mark.length)
    else (splitAtMark mark rest).map (fun found => (c :: found.1, found.2))

/-- The query in the braces of a property escape, and whether it asks for inequality. -/
def propertyQuery (text : List Char) : PropertyQuery × Bool :=
  match splitAtMark ['!', '='] text with
  | some (name, value) => (.valued name value, true)
  | none =>
    match splitAtMark [':'] text with
    | some (name, value) => (.valued name value, false)
    | none =>
      match splitAtMark ['='] text with
      | some (name, value) => (.valued name value, false)
      | none => (.named text, false)

def readProperty (c : Cursor) (negated : Bool) : Except Fault (Primitive × Cursor) := do
  match c.char? with
  | none => .error .endOfText
  | some '\x7b' =>
    let (text, after) := c.advance.takeWhile (· != '\x7d')
    if after.atEnd then .error .endOfText
    else
      let (query, unequal) := propertyQuery text
      return (.property query (negated != unequal), after.next)
  | some '\\' => .error .unknownProperty
  | some letter => return (.property (.named [letter]) negated, c.advance)

def isBoundaryNameChar (c : Char) : Bool := c.isAlpha || c == '-'

def boundary? (name : List Char) : Option Assertion :=
  [("start", Assertion.wordStart), ("end", .wordEnd), ("start-half", .wordStartHalf),
    ("end-half", .wordEndHalf)].lookup (String.ofList name)

/-- Reads the name of a boundary in braces. Braces that do not start with a name are left for a
repetition count. -/
def readBoundary (c : Cursor) : Except Fault (Assertion × Cursor) := do
  if c.char? != some '\x7b' then return (.wordBoundary, c)
  else
    let inside := c.advance
    match inside.char? with
    | none => .error .endOfText
    | some first =>
      if isBoundaryNameChar first then
        let (name, after) := inside.takeWhile isBoundaryNameChar
        if after.char? != some '\x7d' then .error .unclosedCount
        else match boundary? name with
          | none => .error .boundaryNameUnknown
          | some kind => return (kind, after.next)
      else return (.wordBoundary, c)

def controlEscape? (c : Char) : Option Char :=
  [('a', Char.ofNat 7), ('f', Char.ofNat 12), ('t', '\t'), ('n', '\n'), ('r', '\r'),
    ('v', Char.ofNat 11)].lookup c

def assertionEscape? (c : Char) : Option Assertion :=
  [('A', Assertion.textStart), ('z', .textEnd), ('B', .notWordBoundary), ('<', .wordStart),
    ('>', .wordEnd)].lookup c

/-- The class that a one-letter escape stands for, and whether it is negated. -/
def shorthandEscape? (c : Char) : Option (Shorthand × Bool) :=
  [('d', Shorthand.digit, false), ('s', .space, false), ('w', .word, false),
    ('D', .digit, true), ('S', .space, true), ('W', .word, true)].lookup c

def codePointDigits? (c : Char) : Option Nat := [('x', 2), ('u', 4), ('U', 8)].lookup c

def readEscape (c : Cursor) : Except Fault (Primitive × Cursor) := do
  let named := c.next
  match named.char? with
  | none => .error .endOfText
  | some letter =>
    if letter.isDigit then .error .backreference
    else match codePointDigits? letter with
    | some count =>
      let (literal, after) ← readCodePoint named.advance count
      return (.literal literal, after)
    | none =>
    if letter = 'p' || letter = 'P' then readProperty named.advance (letter == 'P')
    else match shorthandEscape? letter with
    | some (kind, negated) => return (.shorthand kind negated, named.next)
    | none =>
    if isEscapable letter then return (.literal ⟨letter, false⟩, named.next)
    else match controlEscape? letter with
    | some char => return (.literal ⟨char, false⟩, named.next)
    | none =>
    match assertionEscape? letter with
    | some kind => return (.assertion kind, named.next)
    | none =>
    if letter = 'b' then
      let (kind, after) ← readBoundary named.next
      return (.assertion kind, after)
    else .error .badEscape

end ParserSplice.Regex
