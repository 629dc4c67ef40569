import Mathlib.Data.List.Basic
import ParserSplice.Artifact.Basic
import ParserSplice.Proofs.Document.Grammar

set_option autoImplicit false

namespace ParserSplice

open Json (Codec Value)

/-- A table whose numbers fit. Cells and use masks always do. -/
def TableContent.Fits : TableContent → Prop
  | cells _ | uses _ | usesPerFragment _ => True
  | sets perState => ∀ set ∈ perState, set.Fits Fits64
  | transitions perFragment => ∀ rows ∈ perFragment, ∀ row ∈ rows, ∀ state ∈ row, Fits64 state
  | setsPerFragment perFragment => ∀ sets ∈ perFragment, ∀ set ∈ sets, set.Fits Fits64
  | lengths perFragment => ∀ lengths ∈ perFragment, ∀ n ∈ lengths, Fits64 n

theorem TableContent.legible_encode (content : TableContent) (own : content.Fits) :
    content.encode.Legible := by
  cases content with
  | cells rows =>
    exact Codec.word_lossless.list.list.legible rows (fun _ _ _ _ => trivial)
  | uses masks => exact Codec.byte_lossless.list.legible masks (fun _ _ => trivial)
  | usesPerFragment masks =>
    exact Codec.byte_lossless.list.list.legible masks (fun _ _ _ _ => trivial)
  | sets perState => exact Codec.numbers_roundTrips.list.legible perState own
  | transitions rows => exact Codec.number_roundTrips.list.list.list.legible rows own
  | setsPerFragment sets => exact Codec.numbers_roundTrips.list.list.legible sets own
  | lengths perFragment => exact Codec.number_roundTrips.list.list.legible perFragment own

/-- A table is read from its document at its shape. -/
theorem TableContent.decode_encode (content : TableContent) (own : content.Fits) :
    content.shape.decode content.encode = some content := by
  cases content with
  | cells rows =>
    exact congrArg (Option.map cells)
      (Codec.word_lossless.list.list.decode rows (fun _ _ _ _ => trivial))
  | uses masks =>
    exact congrArg (Option.map uses) (Codec.byte_lossless.list.decode masks (fun _ _ => trivial))
  | usesPerFragment masks =>
    exact congrArg (Option.map usesPerFragment)
      (Codec.byte_lossless.list.list.decode masks (fun _ _ _ _ => trivial))
  | sets perState =>
    exact congrArg (Option.map sets) (Codec.numbers_roundTrips.list.decode perState own)
  | transitions rows =>
    exact congrArg (Option.map transitions)
      (Codec.number_roundTrips.list.list.list.decode rows own)
  | setsPerFragment sets =>
    exact congrArg (Option.map setsPerFragment)
      (Codec.numbers_roundTrips.list.list.decode sets own)
  | lengths perFragment =>
    exact congrArg (Option.map lengths)
      (Codec.number_roundTrips.list.list.decode perFragment own)

/-- Different shapes have different types in emitted code. -/
theorem TableShape.typeName_injective {shape other : TableShape}
    (same : shape.typeName = other.typeName) : shape = other := by
  revert same
  cases shape <;> cases other <;> decide

namespace Artifact

/-- A letter in either case has the same lower case. -/
theorem toLower_eq (c : Char) : c.toLower.toLower = c.toLower ∧ c.toUpper.toLower = c.toLower := by
  by_cases ascii : c.toNat < 128
  · have every : ∀ n < 128, (Char.ofNat n).toLower.toLower = (Char.ofNat n).toLower ∧
        (Char.ofNat n).toUpper.toLower = (Char.ofNat n).toLower := by decide
    simpa only [Char.ofNat_toNat] using every c.toNat ascii
  · -- No other character has a case.
    have large : 128 ≤ c.val.toNat := Nat.le_of_not_lt ascii
    have lower : c.toLower = c := by
      refine dif_neg (fun given => ?_)
      have last : c.val.toNat ≤ 90 := UInt32.le_iff_toNat_le.mp given.2
      omega
    have upper : c.toUpper = c := by
      refine dif_neg (fun given => ?_)
      have last : c.val.toNat ≤ 122 := UInt32.le_iff_toNat_le.mp given.2
      omega
    rw [upper, lower, lower]
    exact ⟨rfl, rfl⟩

/-- A text and the same text with each ASCII letter in either case. -/
def CaseVariant (text other : String) : Prop :=
  List.Forall₂ (fun c d => d = c ∨ d = c.toLower ∨ d = c.toUpper) text.toList other.toList

theorem CaseVariant.sameHash {text other : String} (variant : CaseVariant text other) :
    sameHash text other = true := by
  have lower : ∀ c d : Char, d = c ∨ d = c.toLower ∨ d = c.toUpper → c.toLower = d.toLower := by
    rintro c d (rfl | rfl | rfl)
    · rfl
    · exact (toLower_eq c).1.symm
    · exact (toLower_eq c).2.symm
  refine beq_iff_eq.mpr ?_
  rw [CaseVariant] at variant
  generalize text.toList = letters, other.toList = letters' at variant ⊢
  induction variant with
  | nil => rfl
  | cons first _ ih => rw [List.map_cons, List.map_cons, lower _ _ first, ih]

/-- A table is loaded from its bytes with their digest, however its letters are cased. -/
theorem load_ofContent (content : TableContent) (own : content.Fits) (name expected : String)
    (variant : CaseVariant (ofContent content).hash expected) :
    load content.shape name (ofContent content).bytes expected = .ok content := by
  have bytes : (⟨(bytesOf content).toArray⟩ : ByteArray) = content.encode.render.toUTF8 := by
    rw [bytesOf, Array.toArray_toList]
  have same : sameHash (Digest.text (bytesOf content)) expected = true := variant.sameHash
  rw [load, ofContent, if_pos same, bytes, Value.readBytes_render (content.legible_encode own),
    Option.bind_some, content.decode_encode own]

end Artifact

end ParserSplice
