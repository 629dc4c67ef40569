import ParserSplice.Document.Grammar
import ParserSplice.Proofs.Json.Codec

set_option autoImplicit false

namespace ParserSplice

open Json (Codec Fields Value)

variable {S : Type} [Ranked S]

/-- A number that 64 bits hold. -/
abbrev Fits64 (n : Nat) : Prop := n < UInt64.size

/-- An integer that 32 bits with a sign hold. -/
abbrev FitsSigned (i : Int) : Prop := -2147483648 ≤ i ∧ i ≤ 2147483647

abbrev OrderedMap.Fits {β : Type} (fits : β → Prop) (m : OrderedMap β) : Prop :=
  ∀ entry ∈ m.entries, Fits64 entry.1 ∧ fits entry.2

def OrderedSet.Fits (fits : S → Prop) (s : OrderedSet S) : Prop := ∀ a ∈ s, fits a

instance (fits : S → Prop) [DecidablePred fits] (s : OrderedSet S) : Decidable (s.Fits fits) :=
  inferInstanceAs (Decidable (∀ a ∈ s.elems, fits a))

/-- Terminal data whose references and numbers fit. -/
structure TerminalData.Fits (fits : S → Prop) (a : TerminalData S) : Prop where
  classes : a.classes.Fits fits
  transparentPrefix : ∀ s ∈ a.transparentPrefix, fits s
  operatorClass : ∀ s ∈ a.operatorClass, fits s
  precedence : FitsSigned a.precedence

/-- Nonterminal data whose references fit. -/
structure NonterminalData.Fits (fits : S → Prop) (a : NonterminalData S) : Prop where
  productions : a.productions.Fits fits

/-- Production data whose references and numbers fit. -/
structure ProductionData.Fits (fits : S → Prop) (a : ProductionData S) : Prop where
  lhs : fits a.lhs
  rhs : ∀ s ∈ a.rhs, fits s
  operator : ∀ s ∈ a.operator, fits s
  precedence : FitsSigned a.precedence
  layouts : a.layouts.Fits fits

/-- Disambiguation function data whose references fit. -/
structure DisambiguationData.Fits (fits : S → Prop) (a : DisambiguationData S) : Prop where
  members : a.members.Fits fits
  target : ∀ s ∈ a.target, fits s

/-- Terminal class data whose references fit. -/
structure TerminalClassData.Fits (fits : S → Prop) (a : TerminalClassData S) : Prop where
  members : a.members.Fits fits

/-- A grammar whose numbers fit. -/
structure Grammar.Fits (g : Grammar) : Prop where
  symbols : ∀ c ∈ Category.all, (g.symbols c).Fits Fits64
  terminalData : g.terminalData.Fits (TerminalData.Fits Fits64)
  nonterminalData : g.nonterminalData.Fits (NonterminalData.Fits Fits64)
  productionData : g.productionData.Fits (ProductionData.Fits Fits64)
  disambiguationData : g.disambiguationData.Fits (DisambiguationData.Fits Fits64)
  terminalClassData : g.terminalClassData.Fits (TerminalClassData.Fits Fits64)
  startProduction : Fits64 g.startProduction
  endOfInput : Fits64 g.endOfInput

section Decidability

variable (fits : S → Prop) [DecidablePred fits]

instance : DecidablePred (TerminalData.Fits fits) := fun a => decidable_of_iff
  (a.classes.Fits fits ∧ (∀ s ∈ a.transparentPrefix, fits s) ∧ (∀ s ∈ a.operatorClass, fits s) ∧
    FitsSigned a.precedence)
  ⟨fun ⟨w, x, y, z⟩ => ⟨w, x, y, z⟩, fun ⟨w, x, y, z⟩ => ⟨w, x, y, z⟩⟩

instance : DecidablePred (NonterminalData.Fits fits) := fun a =>
  decidable_of_iff (a.productions.Fits fits) ⟨fun x => ⟨x⟩, fun ⟨x⟩ => x⟩

instance : DecidablePred (ProductionData.Fits fits) := fun a => decidable_of_iff
  (fits a.lhs ∧ (∀ s ∈ a.rhs, fits s) ∧ (∀ s ∈ a.operator, fits s) ∧ FitsSigned a.precedence ∧
    a.layouts.Fits fits)
  ⟨fun ⟨v, w, x, y, z⟩ => ⟨v, w, x, y, z⟩, fun ⟨v, w, x, y, z⟩ => ⟨v, w, x, y, z⟩⟩

instance : DecidablePred (DisambiguationData.Fits fits) := fun a =>
  decidable_of_iff (a.members.Fits fits ∧ ∀ s ∈ a.target, fits s)
    ⟨fun ⟨x, y⟩ => ⟨x, y⟩, fun ⟨x, y⟩ => ⟨x, y⟩⟩

instance : DecidablePred (TerminalClassData.Fits fits) := fun a =>
  decidable_of_iff (a.members.Fits fits) ⟨fun x => ⟨x⟩, fun ⟨x⟩ => x⟩

instance : DecidablePred Grammar.Fits := fun g => decidable_of_iff
  ((∀ c ∈ Category.all, (g.symbols c).Fits Fits64) ∧
    g.terminalData.Fits (TerminalData.Fits Fits64) ∧
    g.nonterminalData.Fits (NonterminalData.Fits Fits64) ∧
    g.productionData.Fits (ProductionData.Fits Fits64) ∧
    g.disambiguationData.Fits (DisambiguationData.Fits Fits64) ∧
    g.terminalClassData.Fits (TerminalClassData.Fits Fits64) ∧
    Fits64 g.startProduction ∧ Fits64 g.endOfInput)
  ⟨fun ⟨s, t, u, v, w, x, y, z⟩ => ⟨s, t, u, v, w, x, y, z⟩,
    fun ⟨s, t, u, v, w, x, y, z⟩ => ⟨s, t, u, v, w, x, y, z⟩⟩

end Decidability

theorem Decomposed.codec_lossless : Decomposed.codec.Lossless where
  legible
    | .host i, _ => (Codec.word_lossless.legible i trivial).tagged
    | .extension i, _ => (Codec.word_lossless.legible i trivial).tagged
  decode
    | .host i, _ => by simp [codec, Codec.word_lossless.decode i trivial]
    | .extension i, _ => by simp [codec, Codec.word_lossless.decode i trivial]

theorem Category.codec_lossless : Category.codec.Lossless :=
  Codec.name_lossless (by intro a b; cases a <;> cases b <;> decide) Category.mem_all

theorem Associativity.codec_lossless : Associativity.codec.Lossless :=
  Codec.name_lossless (by intro a b; cases a <;> cases b <;> decide)
    (by intro a; cases a <;> decide)

variable {ref : Codec S} {fits : S → Prop}

theorem TerminalData.codec_roundTrips (law : ref.RoundTrips fits)
    (present : ∀ s, ref.encode s ≠ .null) :
    (TerminalData.codec ref).RoundTrips (TerminalData.Fits fits) where
  legible a own := by
    refine Value.legible_ofMembers ?_
    simp only [List.forall_mem_cons, List.not_mem_nil, false_implies, implies_true, and_true]
    exact ⟨Codec.text_lossless.legible _ trivial, law.set.legible _ own.classes,
      (law.optional present).legible _ own.transparentPrefix,
      (law.optional present).legible _ own.operatorClass,
      Codec.signed_roundTrips.legible _ own.precedence,
      Associativity.codec_lossless.legible _ trivial⟩
  decode a own := by
    have given : Fields.ofValue fields ((TerminalData.codec ref).encode a) = some _ :=
      Fields.ofValue_ofMembers rfl (by decide)
    refine Fields.bind_eq_of_some given ?_
    refine Fields.bind_required Codec.text_lossless trivial rfl ?_
    refine Fields.bind_withDefault law.set own.classes rfl ?_
    refine Fields.bind_withDefault (law.optional present) own.transparentPrefix rfl ?_
    refine Fields.bind_withDefault (law.optional present) own.operatorClass rfl ?_
    refine Fields.bind_withDefault Codec.signed_roundTrips own.precedence rfl ?_
    exact Fields.bind_withDefault Associativity.codec_lossless trivial rfl rfl

theorem NonterminalData.codec_roundTrips (law : ref.RoundTrips fits) :
    (NonterminalData.codec ref).RoundTrips (NonterminalData.Fits fits) where
  legible a own := by
    refine Value.legible_ofMembers ?_
    simp only [List.forall_mem_cons, List.not_mem_nil, false_implies, implies_true, and_true]
    exact law.set.legible _ own.productions
  decode a own := by
    have given : Fields.ofValue ["productions"] ((NonterminalData.codec ref).encode a) = some _ :=
      Fields.ofValue_ofMembers rfl (by decide)
    refine Fields.bind_eq_of_some given ?_
    exact Fields.bind_required law.set own.productions rfl rfl

theorem ProductionData.codec_roundTrips (law : ref.RoundTrips fits)
    (present : ∀ s, ref.encode s ≠ .null) :
    (ProductionData.codec ref).RoundTrips (ProductionData.Fits fits) where
  legible a own := by
    refine Value.legible_ofMembers ?_
    simp only [List.forall_mem_cons, List.not_mem_nil, false_implies, implies_true, and_true]
    exact ⟨law.legible _ own.lhs, law.list.legible _ own.rhs,
      (law.optional present).legible _ own.operator,
      Codec.signed_roundTrips.legible _ own.precedence, Codec.flag_lossless.legible _ trivial,
      law.set.legible _ own.layouts⟩
  decode a own := by
    have given : Fields.ofValue fields ((ProductionData.codec ref).encode a) = some _ :=
      Fields.ofValue_ofMembers rfl (by decide)
    refine Fields.bind_eq_of_some given ?_
    refine Fields.bind_required law own.lhs rfl ?_
    refine Fields.bind_required law.list own.rhs rfl ?_
    refine Fields.bind_withDefault (law.optional present) own.operator rfl ?_
    refine Fields.bind_withDefault Codec.signed_roundTrips own.precedence rfl ?_
    refine Fields.bind_withDefault Codec.flag_lossless trivial rfl ?_
    exact Fields.bind_withDefault law.set own.layouts rfl rfl

theorem DisambiguationData.codec_roundTrips (law : ref.RoundTrips fits)
    (present : ∀ s, ref.encode s ≠ .null) :
    (DisambiguationData.codec ref).RoundTrips (DisambiguationData.Fits fits) where
  legible a own := by
    refine Value.legible_ofMembers ?_
    simp only [List.forall_mem_cons, List.not_mem_nil, false_implies, implies_true, and_true]
    exact ⟨law.set.legible _ own.members, (law.optional present).legible _ own.target,
      Codec.flag_lossless.legible _ trivial⟩
  decode a own := by
    have given : Fields.ofValue fields ((DisambiguationData.codec ref).encode a) = some _ :=
      Fields.ofValue_ofMembers rfl (by decide)
    refine Fields.bind_eq_of_some given ?_
    refine Fields.bind_required law.set own.members rfl ?_
    refine Fields.bind_withDefault (law.optional present) own.target rfl ?_
    exact Fields.bind_withDefault Codec.flag_lossless trivial rfl rfl

theorem TerminalClassData.codec_roundTrips (law : ref.RoundTrips fits) :
    (TerminalClassData.codec ref).RoundTrips (TerminalClassData.Fits fits) where
  legible a own := by
    refine Value.legible_ofMembers ?_
    simp only [List.forall_mem_cons, List.not_mem_nil, false_implies, implies_true, and_true]
    exact law.set.legible _ own.members
  decode a own := by
    have given : Fields.ofValue ["members"] ((TerminalClassData.codec ref).encode a) = some _ :=
      Fields.ofValue_ofMembers rfl (by decide)
    refine Fields.bind_eq_of_some given ?_
    exact Fields.bind_required law.set own.members rfl rfl

theorem Grammar.codec_roundTrips : Grammar.codec.RoundTrips Grammar.Fits := by
  have number := Codec.number_roundTrips
  have present := Codec.number_encode_ne_null
  have sets := Codec.numbers_roundTrips
  have t := (TerminalData.codec_roundTrips number present).map
  have nt := (NonterminalData.codec_roundTrips number).map
  have pr := (ProductionData.codec_roundTrips number present).map
  have df := (DisambiguationData.codec_roundTrips number present).map
  have tc := (TerminalClassData.codec_roundTrips number).map
  constructor
  · intro g own
    have symbols := fun c => own.symbols c (Category.mem_all c)
    refine Value.legible_ofMembers ?_
    simp only [List.forall_mem_cons, List.not_mem_nil, false_implies, implies_true, and_true]
    exact ⟨sets.legible _ (symbols .terminal), sets.legible _ (symbols .nonterminal),
      sets.legible _ (symbols .production),
      sets.legible _ (symbols .disambiguationFunction),
      sets.legible _ (symbols .terminalClass), sets.legible _ (symbols .operatorClass),
      sets.legible _ (symbols .parserAttribute), t.legible _ own.terminalData,
      nt.legible _ own.nonterminalData, pr.legible _ own.productionData,
      df.legible _ own.disambiguationData, tc.legible _ own.terminalClassData,
      number.legible _ own.startProduction, number.legible _ own.endOfInput⟩
  · intro g own
    have symbols := fun c => own.symbols c (Category.mem_all c)
    have given : Fields.ofValue fields (Grammar.codec.encode g) = some _ :=
      Fields.ofValue_ofMembers rfl (by decide)
    refine Fields.bind_eq_of_some given ?_
    refine Fields.bind_withDefault sets (symbols .terminal) rfl ?_
    refine Fields.bind_withDefault sets (symbols .nonterminal) rfl ?_
    refine Fields.bind_withDefault sets (symbols .production) rfl ?_
    refine Fields.bind_withDefault sets (symbols .disambiguationFunction) rfl ?_
    refine Fields.bind_withDefault sets (symbols .terminalClass) rfl ?_
    refine Fields.bind_withDefault sets (symbols .operatorClass) rfl ?_
    refine Fields.bind_withDefault sets (symbols .parserAttribute) rfl ?_
    refine Fields.bind_withDefault t own.terminalData rfl ?_
    refine Fields.bind_withDefault nt own.nonterminalData rfl ?_
    refine Fields.bind_withDefault pr own.productionData rfl ?_
    refine Fields.bind_withDefault df own.disambiguationData rfl ?_
    refine Fields.bind_withDefault tc own.terminalClassData rfl ?_
    refine Fields.bind_withDefault number own.startProduction rfl ?_
    exact Fields.bind_withDefault number own.endOfInput rfl rfl

theorem Symbol.codec_lossless : Symbol.codec.Lossless where
  legible s own := by
    refine Value.legible_ofMembers ?_
    simp only [List.forall_mem_cons, List.not_mem_nil, false_implies, implies_true, and_true]
    exact ⟨Category.codec_lossless.legible _ trivial, Codec.text_lossless.legible _ trivial,
      (Codec.text_lossless.optional Codec.text_encode_ne_null).legible _ (fun _ _ => trivial)⟩
  decode s own := by
    have given : Fields.ofValue ["kind", "name", "display_name"] (Symbol.codec.encode s) = some _ :=
      Fields.ofValue_ofMembers rfl (by decide)
    refine Fields.bind_eq_of_some given ?_
    refine Fields.bind_required Category.codec_lossless trivial rfl ?_
    refine Fields.bind_required Codec.text_lossless trivial rfl ?_
    exact Fields.bind_withDefault (Codec.text_lossless.optional Codec.text_encode_ne_null)
      (fun _ _ => trivial) rfl rfl

theorem SymbolTable.codec_lossless : SymbolTable.codec.Lossless where
  legible t _ := Symbol.codec_lossless.list.legible t.symbols (fun _ _ => trivial)
  decode t _ := by
    change (Symbol.codec.list.decode (Symbol.codec.list.encode t.symbols)).map SymbolTable.mk = _
    rw [Symbol.codec_lossless.list.decode t.symbols (fun _ _ => trivial), Option.map_some]

end ParserSplice
