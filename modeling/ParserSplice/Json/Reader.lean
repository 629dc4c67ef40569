import ParserSplice.Json.Token
import ParserSplice.Json.Value

set_option autoImplicit false

namespace ParserSplice.Json

namespace Reader

/-- A container that waits for a value: an array, or an object with the key of that value. What it
holds so far is in reverse. -/
inductive Frame where
  | items (before : List Value)
  | member (before : List (List Char × Value)) (key : List Char)

/-- What the next token may be. -/
inductive Expectation where
  | value
  | firstItem
  | afterItem (before : List Value)
  | firstKey
  | nextKey (before : List (List Char × Value))
  | colon (before : List (List Char × Value)) (key : List Char)
  | afterMember (before : List (List Char × Value))
  | finished (document : Value)

/-- The open containers, innermost first, and what may come next. -/
structure State where
  stack : List Frame
  expected : Expectation

/-- Gives a complete value to the innermost container. -/
def give (stack : List Frame) (v : Value) : State :=
  match stack with
  | [] => ⟨[], .finished v⟩
  | .items before :: rest => ⟨rest, .afterItem (v :: before)⟩
  | .member before key :: rest => ⟨rest, .afterMember ((key, v) :: before)⟩

def start (stack : List Frame) : Token → Option State
  | .openArray => some ⟨stack, .firstItem⟩
  | .openObject => some ⟨stack, .firstKey⟩
  | .null => some (give stack .null)
  | .bool b => some (give stack (.bool b))
  | .number text => some (give stack (.number text))
  | .string text => some (give stack (.string text))
  | .closeArray | .closeObject | .comma | .colon => none

def step (s : State) (token : Token) : Option State :=
  match s.expected, token with
  | .value, token => start s.stack token
  | .firstItem, .closeArray => some (give s.stack (.array []))
  | .firstItem, token => start (.items [] :: s.stack) token
  | .afterItem before, .comma => some ⟨.items before :: s.stack, .value⟩
  | .afterItem before, .closeArray => some (give s.stack (.array before.reverse))
  | .firstKey, .closeObject => some (give s.stack (.object []))
  | .firstKey, .string key => some ⟨s.stack, .colon [] key⟩
  | .nextKey before, .string key => some ⟨s.stack, .colon before key⟩
  | .colon before key, .colon => some ⟨.member before key :: s.stack, .value⟩
  | .afterMember before, .comma => some ⟨s.stack, .nextKey before⟩
  | .afterMember before, .closeObject => some (give s.stack (.object before.reverse))
  | _, _ => none

def run (s : State) (tokens : List Token) : Option State := tokens.foldlM step s

def ofTokens (tokens : List Token) : Option Value :=
  match run ⟨[], .value⟩ tokens with
  | some ⟨_, .finished document⟩ => some document
  | _ => none

end Reader

/-- Reads a text that holds one document and nothing else but blanks. -/
def read (text : String) : Option Value :=
  (Token.ofText text.toList).bind Reader.ofTokens

/-- Reads the UTF-8 bytes of such a text. -/
def readBytes (bytes : ByteArray) : Option Value :=
  (String.fromUTF8? bytes).bind read

end ParserSplice.Json
