import ParserSplice.Document.Grammar
import ParserSplice.Fragment.Basic

set_option autoImplicit false

namespace ParserSplice

open Json (Codec Fields Value)

/-- Actions; those with a parameter are tagged with their kind. -/
def FragmentAction.codec : Codec FragmentAction where
  encode
    | .error => .ofString "Error"
    | .accept => .ofString "Accept"
    | .shift target => .tagged "Shift" (Decomposed.codec.encode target)
    | .reduce production => .tagged "Reduce" (Codec.number.encode production)
    | .goto target => .tagged "Goto" (Decomposed.codec.encode target)
  decode v :=
    match v.alternative? with
    | some ("Error", none) | some ("Error", some .null) => some .error
    | some ("Accept", none) | some ("Accept", some .null) => some .accept
    | some ("Shift", some content) => (Decomposed.codec.decode content).map .shift
    | some ("Reduce", some content) => (Codec.number.decode content).map .reduce
    | some ("Goto", some content) => (Decomposed.codec.decode content).map .goto
    | _ => none

def FragmentTable.codec : Codec FragmentTable where
  encode t := FragmentAction.codec.map.list.encode t.rows
  decode v := (FragmentAction.codec.map.list.decode v).map FragmentTable.mk

def ScannerTable.codec : Codec ScannerTable where
  encode t := .ofMembers [
    ("start_state", Codec.number.encode t.start),
    ("transitions", Codec.number.list.list.encode t.rows)]
  decode v := do
    let f ← Fields.ofValue ["start_state", "transitions"] v
    let start ← f.required "start_state" Codec.number.decode
    let rows ← f.required "transitions" Codec.number.list.list.decode
    return ⟨start, rows⟩

def ScannerSets.codec : Codec ScannerSets where
  encode s := .ofMembers [
    ("accept_sets", Codec.numbers.list.encode s.accepts),
    ("reject_sets", Codec.numbers.list.encode s.rejects),
    ("possible_sets", Codec.numbers.list.encode s.possible)]
  decode v := do
    let f ← Fields.ofValue ["accept_sets", "reject_sets", "possible_sets"] v
    let accepts ← f.required "accept_sets" Codec.numbers.list.decode
    let rejects ← f.required "reject_sets" Codec.numbers.list.decode
    let possible ← f.required "possible_sets" Codec.numbers.list.decode
    return ⟨accepts, rejects, possible⟩

def MarkingTerminal.codec : Codec MarkingTerminal where
  encode m := .ofMembers [
    ("hook_nonterminal", Codec.number.encode m.hook),
    ("entry_state", Decomposed.codec.encode m.entry),
    ("regex", Codec.text.encode m.regex)]
  decode v := do
    let f ← Fields.ofValue ["hook_nonterminal", "entry_state", "regex"] v
    let hook ← f.required "hook_nonterminal" Codec.number.decode
    let entry ← f.required "entry_state" Decomposed.codec.decode
    let regex ← f.required "regex" Codec.text.decode
    return ⟨hook, entry, regex⟩

namespace Fragment

/-- Lookahead and layout sets, which share a record. -/
def setsCodec : Codec (List IndexSet × List IndexSet) where
  encode s := .ofMembers [
    ("lookaheads", Codec.numbers.list.encode s.1),
    ("layouts", Codec.numbers.list.encode s.2)]
  decode v := do
    let f ← Fields.ofValue ["lookaheads", "layouts"] v
    let lookaheads ← f.withDefault "lookaheads" Codec.numbers.list.decode []
    let layouts ← f.withDefault "layouts" Codec.numbers.list.decode []
    return (lookaheads, layouts)

/-- Reducible productions per state and nonterminal. -/
def reducibleCodec : Codec (List (OrderedMap IndexSet)) := Codec.numbers.map.list

/-- Field names of a fragment whose table has this field name. -/
def fields (table : String) : List String :=
  [table, "lookahead_sets", "prefixes", "scanner_dfa", "scanner_annotations", "init_nts",
    "la_sources"]

def members (table : String) (f : Fragment) : List (String × Value) :=
  [(table, FragmentTable.codec.encode f.table),
    ("lookahead_sets", setsCodec.encode (f.lookaheads, f.layouts)),
    ("prefixes", Codec.numbers.list.encode f.transparents),
    ("scanner_dfa", ScannerTable.codec.encode f.scanner),
    ("scanner_annotations", ScannerSets.codec.encode f.scannerSets),
    ("init_nts", Codec.numbers.list.encode f.startable),
    ("la_sources", reducibleCodec.encode f.reducible)]

def ofFields (table : String) (f : Fields) : Option Fragment := do
  let rows ← f.withDefault table FragmentTable.codec.decode {}
  let sets ← f.withDefault "lookahead_sets" setsCodec.decode ([], [])
  let transparents ← f.withDefault "prefixes" Codec.numbers.list.decode []
  let scanner ← f.withDefault "scanner_dfa" ScannerTable.codec.decode .blank
  let scannerSets ← f.withDefault "scanner_annotations" ScannerSets.codec.decode {}
  let startable ← f.withDefault "init_nts" Codec.numbers.list.decode []
  let reducible ← f.withDefault "la_sources" reducibleCodec.decode []
  return ⟨rows, sets.1, sets.2, transparents, scanner, scannerSets, startable, reducible⟩

end Fragment

end ParserSplice
