import ParserSplice.Emission.Driver
import ParserSplice.Proofs.Emission.Reading

set_option autoImplicit false

namespace ParserSplice

theorem ne_nil_of_mem_chunks {α : Type} {size : Nat} {items piece : List α}
    (inside : piece ∈ chunks size items) : piece ≠ [] := by
  fun_induction chunks size items with
  | case1 => cases inside
  | case2 items _ full =>
    rw [List.mem_singleton.mp inside]
    simpa using full
  | case3 items long ih =>
    rcases List.mem_cons.mp inside with rfl | later
    · intro empty
      have none := congrArg List.length empty
      rw [List.length_take, List.length_nil] at none
      omega
    · exact ih later

namespace Emission

def textOf (lines : List String) : List Char := lines.flatMap (fun line => line.toList ++ ['\n'])

theorem textOf_append (front rest : List String) : textOf (front ++ rest) =
    textOf front ++ textOf rest := List.flatMap_append

theorem toList_driver (engine : Engine) (host : HostFragment)
    (extensions : List ExtensionFragment) (options : EmitOptions) :
    (engine.driver host extensions options).toList =
      textOf (lines engine host extensions options) := by
  rw [Engine.driver, String.toList_join, List.flatMap_map]
  simp [textOf]

def Holds (text : String) (lines : List String) : Prop :=
  ∃ before after, text.toList = before ++ textOf lines ++ after

theorem holds_of_append {text : String} {front lines rest : List String}
    (whole : text.toList = textOf (front ++ lines ++ rest)) : Holds text lines :=
  ⟨textOf front, textOf rest, by rw [whole, textOf_append, textOf_append]⟩

/-- A driver has a block for each artifact of its engine. -/
theorem holds_artifactLines {engine : Engine} {entry : ArtifactKind × Artifact}
    (listed : entry ∈ engine.artifacts) (host : HostFragment)
    (extensions : List ExtensionFragment) (options : EmitOptions) :
    Holds (engine.driver host extensions options) (artifactLines entry) := by
  obtain ⟨before, after, split⟩ := List.append_of_mem listed
  let names := NameTables.ofEngine engine host extensions
  let front := header engine host extensions ++ preamble options ++ imports ++
    constants engine.layout host names ++
    nameTables (extensions.map ExtensionFragment.name)
      (engine.scanner.terminals.map PlacedMarking.column) names ++
    before.flatMap artifactLines
  let rest := after.flatMap artifactLines ++ (arrays options.parserName ++
    loader options.parserName ++ parser options.parserName ++
    interface options.parserName engine extensions)
  have whole : lines engine host extensions options = front ++ artifactLines entry ++ rest := by
    simp only [lines, artifacts, split, front, rest, names, List.flatMap_append,
      List.flatMap_cons, List.append_assoc]
  exact holds_of_append (by rw [toList_driver, whole])

/-- Words with commas between them, in front of a character that ends a word. -/
theorem Lexes.commas {α : Type} {write : α → String} {word : α → List Token}
    (each : ∀ (a : α) (c : Char) (rest : List Char) (tokens : List Token),
      Lexer.isLetter c = false → Lexes (c :: rest) tokens →
        Lexes ((write a).toList ++ c :: rest) (word a ++ tokens))
    (items : List α) {c : Char} {rest : List Char} {tokens : List Token}
    (ends : Lexer.isLetter c = false) (lexes : Lexes (c :: rest) tokens) :
    Lexes ((", ".intercalate (items.map write)).toList ++ c :: rest)
      (Reader.joined word items ++ tokens) := by
  induction items with
  | nil => exact lexes
  | cons a items ih =>
    cases items with
    | nil => simpa [Reader.joined] using each a c rest tokens ends lexes
    | cons next items =>
      have comma : Lexes [',', ' '] [.mark ','] := rfl
      have written := each a ',' _ _ rfl (comma.append ih)
      simpa [Reader.joined, String.intercalate_cons_cons] using written

open Reader (byteWord joined separated)

theorem isLetter_of_mem_ofByte {b : UInt8} {c : Char} (inside : c ∈ Hex.ofByte b) :
    Lexer.isLetter c = true := by
  have every : ∀ n < 16, Lexer.isLetter (Nat.digitChar n) = true := by decide
  rcases List.mem_cons.mp inside with rfl | last
  · exact every _ (Nat.mod_lt _ (by decide))
  · rw [List.mem_singleton.mp last]
    exact every _ (Nat.mod_lt _ (by decide))

theorem Lexes.byteLiteral (b : UInt8) {c : Char} {rest : List Char} {tokens : List Token}
    (ends : Lexer.isLetter c = false) (lexes : Lexes (c :: rest) tokens) :
    Lexes ((byteLiteral b).toList ++ c :: rest) (byteWord b ++ tokens) := by
  have word : (Emission.byteLiteral b).toList = '0' :: 'x' :: Hex.ofByte b := by
    simp [Emission.byteLiteral]
  rw [word]
  refine Lexes.word (List.cons_ne_nil _ _) (fun d inside => ?_) ends lexes
  rcases List.mem_cons.mp inside with rfl | inside
  · rfl
  · rcases List.mem_cons.mp inside with rfl | inside
    · rfl
    · exact isLetter_of_mem_ofByte inside

theorem lexes_byteLines (bytes : List UInt8) :
    Lexes (textOf (byteLines bytes)) (separated byteWord bytes) := by
  have whole : (chunks 16 bytes).flatMap (separated byteWord) = separated byteWord bytes := by
    rw [← congrArg (separated byteWord) (flatten_chunks 16 bytes)]
    simp only [separated, List.flatten_eq_flatMap, List.flatMap_assoc]
    rfl
  rw [← whole, textOf, byteLines, List.flatMap_map]
  refine Lexes.flatMap _ (fun line inside => ?_)
  obtain ⟨first, others, rfl⟩ := List.exists_cons_of_ne_nil (ne_nil_of_mem_chunks inside)
  have indent : Lexes "    ".toList [] := rfl
  have closed : Lexes [',', '\n'] [.mark ','] := rfl
  have bytes := Lexes.commas (fun b _ _ _ => Lexes.byteLiteral b) (first :: others) rfl closed
  rw [Reader.separated_cons]
  simpa using indent.append bytes

def bytesType : List Token := [.mark '&', .mark '[', .word "u8".toList, .mark ']']
def hashType : List Token := [.mark '&', .word "str".toList]

def blockDeclarations (k : ArtifactKind) (artifact : Artifact) : List Declaration :=
  [⟨"static", k.constantName ++ "_BYTES", bytesType, Reader.sliceOf byteWord artifact.bytes⟩,
    ⟨"const", k.constantName ++ "_HASH", hashType, [.text artifact.hash.toList]⟩]

theorem toList_constantName (k : ArtifactKind) :
    k.constantName.toList = k.fieldName.toList.map Char.toUpper := String.toList_map

theorem lexes_artifactLines (k : ArtifactKind) (artifact : Artifact) :
    Lexes (textOf (artifactLines (k, artifact)))
      ((blockDeclarations k artifact).flatMap Declaration.tokens) := by
  have opening : Lexes (("pub static " ++ k.constantName ++ "_BYTES: &[u8] = &[").toList ++ ['\n'])
      ([.word "pub".toList, .word "static".toList, .word (k.constantName ++ "_BYTES").toList,
        .mark ':'] ++ bytesType ++ [.mark '=', .mark '&', .mark '[']) := by
    simp only [String.toList_append, toList_constantName]
    cases k <;> decide +kernel
  have middle : Lexes ("];\n".toList ++ ("pub const " ++ k.constantName ++ "_HASH: &str = ").toList)
      ([.mark ']', .mark ';', .word "pub".toList, .word "const".toList,
        .word (k.constantName ++ "_HASH").toList, .mark ':'] ++ hashType ++ [.mark '=']) := by
    simp only [String.toList_append, toList_constantName]
    cases k <;> decide +kernel
  have closing : Lexes ";\n\n".toList [.mark ';'] := rfl
  have block := opening.append ((lexes_byteLines artifact.bytes).append
    (middle.append ((lexes_encode artifact.hash).append closing)))
  simpa [artifactLines, textOf, blockDeclarations, Declaration.tokens, Reader.sliceOf,
    Reader.bracketOf] using block

theorem isName_of_mem_byteWord {b : UInt8} {t : Token} (inside : t ∈ byteWord b) :
    t.isName = false := by
  have every : ∀ n < 16, Nat.digitChar n ≠ '_' := by decide
  have first := every (b.toNat / 16 % 16) (Nat.mod_lt _ (by decide))
  have second := every (b.toNat % 16) (Nat.mod_lt _ (by decide))
  rw [List.mem_singleton.mp inside]
  simp [Token.isName, Hex.ofByte, Hex.digit, first.symm, second.symm]

theorem plain_blockDeclarations (k : ArtifactKind) (artifact : Artifact) :
    ∀ d ∈ blockDeclarations k artifact, d.Plain := by
  have named : (Token.word (k.constantName ++ "_BYTES").toList).isName = true ∧
      (Token.word (k.constantName ++ "_HASH").toList).isName = true := by
    simp only [String.toList_append, toList_constantName]
    cases k <;> decide
  have kinds : (Token.word "static".toList).isName = false ∧
      (Token.word "const".toList).isName = false := by decide
  have bytesTyped : ∀ t ∈ bytesType, t.isName = false ∧ t ≠ .mark '=' := by decide
  have hashTyped : ∀ t ∈ hashType, t.isName = false ∧ t ≠ .mark '=' := by decide
  simp only [blockDeclarations, List.forall_mem_cons]
  refine ⟨⟨named.1, kinds.1, bytesTyped, fun t inside => ?_⟩,
    ⟨named.2, kinds.2, hashTyped, fun t inside => ?_⟩, nofun⟩
  · exact Reader.isName_of_mem_sliceOf (fun _ _ _ => isName_of_mem_byteWord) inside
  · rw [List.mem_singleton.mp inside]
    rfl

/-- What is read from a block. -/
theorem read_blockDeclarations (k : ArtifactKind) (artifact : Artifact) :
    valueOf (k.constantName ++ "_BYTES") (.slice .byte)
      ((blockDeclarations k artifact).flatMap Declaration.tokens) = some artifact.bytes ∧
    valueOf (k.constantName ++ "_HASH") .text
      ((blockDeclarations k artifact).flatMap Declaration.tokens) = some artifact.hash := by
  have distinct : ((blockDeclarations k artifact).map Declaration.name).Nodup := by
    have other : k.constantName ++ "_BYTES" ≠ k.constantName ++ "_HASH" := by
      rw [ne_eq, ← String.toList_inj]
      simp
    simp [blockDeclarations, other]
  have plain := plain_blockDeclarations k artifact
  have bytes : (Reader.slice .byte).Reads (Reader.sliceOf byteWord artifact.bytes) artifact.bytes :=
    Reader.slice_separated (fun b _ => ⟨Reader.byte_reads b, _, _, rfl, nofun⟩)
  have bytesListed : ⟨"static", k.constantName ++ "_BYTES", bytesType,
      Reader.sliceOf byteWord artifact.bytes⟩ ∈ blockDeclarations k artifact := List.mem_cons_self
  have hashListed : ⟨"const", k.constantName ++ "_HASH", hashType, [.text artifact.hash.toList]⟩ ∈
      blockDeclarations k artifact := List.mem_cons_of_mem _ List.mem_cons_self
  have bytesRead := valueOf_of_mem distinct plain bytesListed bytes
  have hashRead := valueOf_of_mem distinct plain hashListed (Reader.text_reads artifact.hash)
  exact ⟨bytesRead, hashRead⟩

end Emission

end ParserSplice
