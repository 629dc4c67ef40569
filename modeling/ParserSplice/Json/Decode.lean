import ParserSplice.Json.Value
import ParserSplice.Ordered.Map

set_option autoImplicit false

namespace ParserSplice.Json

def shortEscape? (c : Char) : Option Char :=
  if c = '"' || c = '\\' || c = '/' then some c
  else if c = 'b' then some (Char.ofNat 8)
  else if c = 'f' then some (Char.ofNat 12)
  else if c = 'n' then some '\n'
  else if c = 'r' then some '\r'
  else if c = 't' then some '\t'
  else none

/-- The characters that a written string stands for. An escaped half of a surrogate pair stands for
none without its other half. -/
def unescape? : List Char → Option (List Char)
  | [] => some []
  | '\\' :: 'u' :: a :: b :: c :: d :: rest =>
    let unit := Hex.value [a, b, c, d]
    if unit < 0xD800 || 0xDFFF < unit then (unescape? rest).map (Char.ofNat unit :: ·)
    else if 0xDBFF < unit then none
    else match rest with
      | '\\' :: 'u' :: e :: f :: g :: h :: rest =>
        let low := Hex.value [e, f, g, h]
        if low < 0xDC00 || 0xDFFF < low then none
        else (unescape? rest).map
          (Char.ofNat (0x10000 + (unit - 0xD800) * 0x400 + (low - 0xDC00)) :: ·)
      | _ => none
  | '\\' :: c :: rest => do
    let first ← shortEscape? c
    let others ← unescape? rest
    return first :: others
  | c :: rest => (unescape? rest).map (c :: ·)

def content? (written : List Char) : Option String := (unescape? written).map String.ofList

/-- The number that plain digits without a leading zero denote. -/
def plainNat? : List Char → Option Nat
  | [] => none
  | '0' :: rest => if rest.isEmpty then some 0 else none
  | digits =>
    if digits.all Char.isDigit then
      some (digits.foldl (fun total c => total * 10 + (c.toNat - '0'.toNat)) 0)
    else none

namespace Value

def text? : Value → Option String
  | string written => content? written
  | _ => none

def bool? : Value → Option Bool
  | bool b => some b
  | _ => none

def natBelow? (limit : Nat) : Value → Option Nat
  | number written => (plainNat? written).filter (fun n => decide (n < limit))
  | _ => none

/-- Reads a number of 64 bits. -/
def nat? : Value → Option Nat := natBelow? UInt64.size

/-- Reads a word of 32 bits. -/
def word? (v : Value) : Option UInt32 := (v.natBelow? UInt32.size).map UInt32.ofNat

def byte? (v : Value) : Option UInt8 := (v.natBelow? 256).map UInt8.ofNat

/-- Reads an integer between two bounds. Zero has no sign. -/
def intBetween? (low high : Int) : Value → Option Int
  | number ('-' :: digits) =>
    (plainNat? digits).bind (fun n =>
      if n ≠ 0 ∧ low ≤ -(n : Int) then some (-(n : Int)) else none)
  | number digits => (plainNat? digits).bind (fun n => if (n : Int) ≤ high then some n else none)
  | _ => none

def list? {α : Type} (item : Value → Option α) : Value → Option (List α)
  | array items => items.mapM item
  | _ => none

def set? {α : Type} [Ranked α] (item : Value → Option α) (v : Value) : Option (OrderedSet α) :=
  (v.list? item).map OrderedSet.ofList

/-- Reads a map whose keys are written as plain 64-bit numbers. Of two entries with one key the
later one holds. -/
def map? {α : Type} (item : Value → Option α) : Value → Option (OrderedMap α)
  | object members =>
    (members.mapM (fun (m : List Char × Value) => do
      let key ← (plainNat? m.1).filter (fun n => decide (n < UInt64.size))
      let value ← item m.2
      return (key, value))).map OrderedMap.ofList
  | _ => none

def optional? {α : Type} (item : Value → Option α) : Value → Option (Option α)
  | null => some none
  | v => (item v).map some

/-- Reads one of several alternatives: a bare name, or an object with one member whose value is the
content of the alternative. A bare name stands for an alternative without content. -/
def alternative? : Value → Option (String × Option Value)
  | string written => (content? written).map (fun name => (name, none))
  | object [(key, value)] => (content? key).map (fun name => (name, some value))
  | _ => none

def name? {α : Type} (names : List (String × α)) (v : Value) : Option α :=
  match v.alternative? with
  | some (name, none) => names.lookup name
  | some (name, some null) => names.lookup name
  | _ => none

end Value

/-- The fields of a record that a document gives. -/
structure Fields where
  given : List (String × Value)

namespace Fields

/-- The members of an object that belong to known fields. Fails if a key stands for no text or a
known field occurs twice. -/
def ofMembers (known : List String) :
    List (List Char × Value) → Option (List (String × Value))
  | [] => some []
  | (key, value) :: rest => do
    let name ← content? key
    let others ← ofMembers known rest
    if known.contains name then
      if (others.lookup name).isSome then none else return (name, value) :: others
    else return others

/-- The fields that a document gives to a record with these field names. -/
def ofValue (known : List String) : Value → Option Fields
  | .object members => (ofMembers known members).map Fields.mk
  | .array items => if known.length < items.length then none else some ⟨known.zip items⟩
  | _ => none

def required {α : Type} (f : Fields) (name : String) (item : Value → Option α) : Option α :=
  (f.given.lookup name).bind item

/-- A field that has a value when it is not given. -/
def withDefault {α : Type} (f : Fields) (name : String) (item : Value → Option α)
    (default : α) : Option α :=
  match f.given.lookup name with
  | none => some default
  | some v => item v

end Fields

end ParserSplice.Json
