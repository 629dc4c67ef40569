import ParserSplice.Json.Decode

set_option autoImplicit false

namespace ParserSplice.Json

/-- How values of a type are written as documents and read from them. -/
structure Codec (α : Type) where
  encode : α → Value
  decode : Value → Option α

namespace Codec

/-- A number of 64 bits. -/
def number : Codec Nat := ⟨Value.ofNat, Value.nat?⟩

/-- A word of 32 bits. -/
def word : Codec UInt32 := ⟨fun w => Value.ofNat w.toNat, Value.word?⟩

def byte : Codec UInt8 := ⟨fun b => Value.ofNat b.toNat, Value.byte?⟩

/-- A signed number of 32 bits. -/
def signed : Codec Int := ⟨Value.ofInt, Value.intBetween? (-2147483648) 2147483647⟩

def text : Codec String := ⟨Value.ofString, Value.text?⟩

def flag : Codec Bool := ⟨Value.bool, Value.bool?⟩

variable {α : Type}

def list (item : Codec α) : Codec (List α) where
  encode items := .array (items.map item.encode)
  decode v := v.list? item.decode

def set [Ranked α] (item : Codec α) : Codec (OrderedSet α) where
  encode s := .array (s.elems.map item.encode)
  decode v := v.set? item.decode

def map (item : Codec α) : Codec (OrderedMap α) where
  encode m := .object (m.entries.map (fun entry => (Nat.toDigits 10 entry.1, item.encode entry.2)))
  decode v := v.map? item.decode

def optional (item : Codec α) : Codec (Option α) where
  encode
    | none => .null
    | some a => item.encode a
  decode v := v.optional? item.decode

def name (label : α → String) (all : List α) : Codec α where
  encode a := .ofString (label a)
  decode v := v.name? (all.map (fun a => (label a, a)))

def numbers : Codec IndexSet := set number

end Codec

def Value.tagged (label : String) (content : Value) : Value := .ofMembers [(label, content)]

end ParserSplice.Json
