import ParserSplice.Category

set_option autoImplicit false

namespace ParserSplice

/-- One symbol table entry. -/
structure Symbol where
  kind : Category
  name : String
  displayName : Option String := none
deriving DecidableEq, Repr, Inhabited

/-- The name shown to users: the display name, or else the internal name. -/
def Symbol.display (s : Symbol) : String := s.displayName.getD s.name

/-- Symbols addressed by their position. -/
structure SymbolTable where
  symbols : List Symbol := []
deriving DecidableEq, Repr, Inhabited

namespace SymbolTable

def get? (t : SymbolTable) (index : Nat) : Option Symbol := t.symbols[index]?

/-- Number of symbols, which is also the number that the next symbol gets. -/
def size (t : SymbolTable) : Nat := t.symbols.length

def push (t : SymbolTable) (s : Symbol) : SymbolTable := ⟨t.symbols ++ [s]⟩

def name? (t : SymbolTable) (index : Nat) : Option String := (t.get? index).map Symbol.name

/-- The first symbol with an internal name. -/
def index? (t : SymbolTable) (name : String) : Option Nat :=
  t.symbols.findIdx? (fun s => s.name == name)

def ofKind (t : SymbolTable) (kind : Category) : SymbolTable :=
  ⟨t.symbols.filter (fun s => s.kind == kind)⟩

theorem get?_push_size (t : SymbolTable) (s : Symbol) : (t.push s).get? t.size = some s := by
  simp [push, get?, size]

end SymbolTable

end ParserSplice
