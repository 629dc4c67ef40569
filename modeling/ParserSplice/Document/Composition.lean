import ParserSplice.Document.Fragment
import ParserSplice.Json.Reader

set_option autoImplicit false

namespace ParserSplice

open Json (Codec Fields Value)

/-- Host fragments; every field may be missing. -/
def HostFragment.codec : Codec HostFragment where
  encode h := .ofMembers ([
    ("spec", Grammar.codec.encode h.grammar),
    ("symbol_table", SymbolTable.codec.encode h.symbolTable)] ++
    h.toFragment.members "parse_table")
  decode v := do
    let f ← Fields.ofValue (["spec", "symbol_table"] ++ Fragment.fields "parse_table") v
    let grammar ← f.withDefault "spec" Grammar.codec.decode {}
    let symbolTable ← f.withDefault "symbol_table" SymbolTable.codec.decode {}
    let fragment ← Fragment.ofFields "parse_table" f
    return { fragment with grammar := grammar, symbolTable := symbolTable }

def ExtensionBundle.fields : List String :=
  ["name", "full_spec", "full_symbol_table", "composed_to_host_states",
    "composed_extension_states"] ++ Fragment.fields "appended_table" ++ ["marking_terminals"]

/-- Extension bundles; every field may be missing. -/
def ExtensionBundle.codec : Codec ExtensionBundle where
  encode b := .ofMembers ([
    ("name", Codec.text.encode b.name),
    ("full_spec", Grammar.codec.encode b.grammar),
    ("full_symbol_table", SymbolTable.codec.encode b.symbolTable),
    ("composed_to_host_states", Codec.number.map.encode b.hostStates),
    ("composed_extension_states", Codec.numbers.encode b.extensionStates)] ++
    b.toFragment.members "appended_table" ++
    [("marking_terminals", MarkingTerminal.codec.map.encode b.markings)])
  decode v := do
    let f ← Fields.ofValue ExtensionBundle.fields v
    let name ← f.withDefault "name" Codec.text.decode ""
    let grammar ← f.withDefault "full_spec" Grammar.codec.decode {}
    let symbolTable ← f.withDefault "full_symbol_table" SymbolTable.codec.decode {}
    let hostStates ← f.withDefault "composed_to_host_states" Codec.number.map.decode ∅
    let extensionStates ← f.withDefault "composed_extension_states" Codec.numbers.decode ∅
    let fragment ← Fragment.ofFields "appended_table" f
    let markings ← f.withDefault "marking_terminals" MarkingTerminal.codec.map.decode ∅
    return { fragment with
      name := name
      grammar := grammar
      symbolTable := symbolTable
      hostStates := hostStates
      extensionStates := extensionStates
      markings := markings }

/-- Compositions; the host has to be given. -/
def Composition.codec : Codec Composition where
  encode c := .ofMembers [
    ("host", HostFragment.codec.encode c.host),
    ("extensions", ExtensionBundle.codec.list.encode c.extensions)]
  decode v := do
    let f ← Fields.ofValue ["host", "extensions"] v
    let host ← f.required "host" HostFragment.codec.decode
    let extensions ← f.withDefault "extensions" ExtensionBundle.codec.list.decode []
    return ⟨host, extensions⟩

namespace Composition

def render (c : Composition) : String := (Composition.codec.encode c).render

def read (text : String) : Option Composition := (Json.read text).bind Composition.codec.decode

/-- Reads the UTF-8 bytes of the text of a composition. -/
def readBytes (bytes : List UInt8) : Option Composition :=
  (Json.readBytes ⟨bytes.toArray⟩).bind Composition.codec.decode

end Composition

end ParserSplice
