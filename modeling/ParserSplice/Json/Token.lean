import ParserSplice.Text.Hex

set_option autoImplicit false

namespace ParserSplice.Json

/-- A token of JSON text. -/
inductive Token where
  | openArray
  | closeArray
  | openObject
  | closeObject
  | comma
  | colon
  | null
  | bool (value : Bool)
  | number (written : List Char)
  | string (written : List Char)
deriving Repr, DecidableEq, Inhabited

namespace Token

/-- Whether a character may stand between tokens. -/
def isBlank (c : Char) : Bool := c == ' ' || c == '\t' || c == '\n' || c == '\r'

/-- Whether a character can be part of a number. -/
def isNumeric (c : Char) : Bool :=
  c.isDigit || c == '-' || c == '+' || c == '.' || c == 'e' || c == 'E'

def isDigits (cs : List Char) : Bool := !cs.isEmpty && cs.all Char.isDigit

def isExponent : List Char → Bool
  | [] => true
  | mark :: sign :: rest =>
    (mark == 'e' || mark == 'E') &&
      (if sign == '+' || sign == '-' then isDigits rest else isDigits (sign :: rest))
  | [_] => false

/-- Whether the characters after the whole part of a number complete it. -/
def isFraction : List Char → Bool
  | '.' :: rest =>
    !(rest.takeWhile Char.isDigit).isEmpty && isExponent (rest.dropWhile Char.isDigit)
  | rest => isExponent rest

/-- Whether the characters are a number without a sign; its whole part has no leading zero. -/
def isUnsigned : List Char → Bool
  | '0' :: rest => isFraction rest
  | d :: rest => d.isDigit && isFraction (rest.dropWhile Char.isDigit)
  | [] => false

def isNumber : List Char → Bool
  | '-' :: rest => isUnsigned rest
  | cs => isUnsigned cs

/-- Reads a string up to its closing quote. `read` holds, in reverse, what stands before. -/
def readString (read : List Char) : List Char → Option (List Char × List Char)
  | [] => none
  | '"' :: rest => some (read.reverse, rest)
  | '\\' :: 'u' :: a :: b :: c :: d :: rest =>
    if Hex.isDigit a && Hex.isDigit b && Hex.isDigit c && Hex.isDigit d then
      readString (d :: c :: b :: a :: 'u' :: '\\' :: read) rest
    else none
  | '\\' :: c :: rest =>
    if ['"', '\\', '/', 'b', 'f', 'n', 'r', 't'].contains c then
      readString (c :: '\\' :: read) rest
    else none
  | c :: rest => if c.toNat < 32 || c = '\\' then none else readString (c :: read) rest

/-- Reads a number: the longest run of numeric characters. -/
def readNumber (cs : List Char) : Option (List Char × List Char) :=
  let written := cs.takeWhile isNumeric
  if isNumber written then some (written, cs.dropWhile isNumeric) else none

def read (cs : List Char) : Option (Token × List Char) :=
  match cs with
  | '[' :: rest => some (openArray, rest)
  | ']' :: rest => some (closeArray, rest)
  | '\x7b' :: rest => some (openObject, rest)
  | '\x7d' :: rest => some (closeObject, rest)
  | ',' :: rest => some (comma, rest)
  | ':' :: rest => some (colon, rest)
  | 'n' :: 'u' :: 'l' :: 'l' :: rest => some (null, rest)
  | 't' :: 'r' :: 'u' :: 'e' :: rest => some (bool true, rest)
  | 'f' :: 'a' :: 'l' :: 's' :: 'e' :: rest => some (bool false, rest)
  | '"' :: rest => (readString [] rest).map (fun found => (string found.1, found.2))
  | cs => (readNumber cs).map (fun found => (number found.1, found.2))

/-- Reads tokens up to the end of the text. `steps` bounds the number of characters left, and
`before` holds, in reverse, the tokens that stand before. -/
def readAll (before : List Token) : Nat → List Char → Option (List Token)
  | _, [] => some before.reverse
  | 0, _ => none
  | steps + 1, c :: rest =>
    if isBlank c then readAll before steps rest
    else match read (c :: rest) with
      | none => none
      | some (token, left) => readAll (token :: before) steps left

def ofText (text : List Char) : Option (List Token) := readAll [] text.length text

end Token

end ParserSplice.Json
