import ParserSplice.Text.Hex

set_option autoImplicit false

namespace ParserSplice.Json

/-- A JSON document. Strings and keys are kept as written between their quotes. -/
inductive Value where
  | null
  | bool (value : Bool)
  | number (written : List Char)
  | string (written : List Char)
  | array (items : List Value)
  | object (members : List (List Char × Value))
deriving Inhabited

/-- A character as it is written between the quotes of a JSON string. -/
def escape (c : Char) : List Char :=
  if c = '"' then ['\\', '"']
  else if c = '\\' then ['\\', '\\']
  else if c = '\n' then ['\\', 'n']
  else if c = '\r' then ['\\', 'r']
  else if c = '\t' then ['\\', 't']
  else if c.toNat = 8 then ['\\', 'b']
  else if c.toNat = 12 then ['\\', 'f']
  else if c.toNat < 32 then '\\' :: 'u' :: '0' :: '0' :: Hex.ofByte (UInt8.ofNat c.toNat)
  else [c]

def written (text : String) : List Char := text.toList.flatMap escape

namespace Value

def ofString (text : String) : Value := string (written text)

/-- The document that holds a natural number. -/
def ofNat (n : Nat) : Value := number (Nat.toDigits 10 n)

def ofInt : Int → Value
  | .ofNat n => ofNat n
  | .negSucc n => number ('-' :: Nat.toDigits 10 (n + 1))

def ofMembers (members : List (String × Value)) : Value :=
  object (members.map (fun m => (written m.1, m.2)))

mutual

/-- The compact text of a document, in front of other text. -/
def renderOnto (v : Value) (after : List Char) : List Char :=
  match v with
  | null => "null".toList ++ after
  | bool true => "true".toList ++ after
  | bool false => "false".toList ++ after
  | number text => text ++ after
  | string text => '"' :: (text ++ '"' :: after)
  | array items => '[' :: renderItems items (']' :: after)
  | object members => '\x7b' :: renderMembers members ('\x7d' :: after)

/-- The texts of documents with commas between them, in front of other text. -/
def renderItems (items : List Value) (after : List Char) : List Char :=
  match items with
  | [] => after
  | [item] => renderOnto item after
  | item :: next :: rest => renderOnto item (',' :: renderItems (next :: rest) after)

/-- The texts of members with commas between them, in front of other text. -/
def renderMembers (members : List (List Char × Value)) (after : List Char) : List Char :=
  match members with
  | [] => after
  | [(key, value)] => '"' :: (key ++ '"' :: ':' :: renderOnto value after)
  | (key, value) :: next :: rest =>
    '"' :: (key ++ '"' :: ':' :: renderOnto value (',' :: renderMembers (next :: rest) after))

end

def render (v : Value) : String := String.ofList (v.renderOnto [])

end Value

end ParserSplice.Json
