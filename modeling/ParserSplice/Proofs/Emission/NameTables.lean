import ParserSplice.Proofs.Emission.ArtifactBlocks
import ParserSplice.Proofs.Emission.Comments

set_option autoImplicit false

namespace ParserSplice.Emission

open Lexer (run step isLetter)
open Reader (numberWord joined separated sliceOf)

theorem lexes_comment {text : List Char} (plain : '/' ∉ text) :
    Lexes ("/* ".toList ++ text ++ " */".toList) [] :=
  ((isComment_label_iff text).mpr (openAfter?_of_no_slash 0 plain)).lexes

/-- A name that does no harm in a comment: no token is read from it or from what is around it. -/
def Commentable (name : String) : Prop := Lexes ("/* ".toList ++ name.toList ++ " */".toList) []

instance (name : String) : Decidable (Commentable name) := inferInstanceAs (Decidable (Lexes _ _))

variable {rest : List Char} {tokens : List Token}

theorem Lexes.number (n : Nat) {c : Char} (ends : isLetter c = false)
    (lexes : Lexes (c :: rest) tokens) :
    Lexes ((toString n).toList ++ c :: rest) (numberWord n ++ tokens) := by
  have digits : (toString n).toList = Nat.toDigits 10 n := Nat.toList_repr
  have letters : ∀ d ∈ Nat.toDigits 10 n, isLetter d = true := by
    intro d inside
    have digit := List.all_eq_true.mp (Json.all_isDigit_toDigits n) d inside
    simp [isLetter, Char.isAlphanum, digit]
  rw [digits]
  exact Lexes.word (List.ne_nil_of_length_pos Nat.length_toDigits_pos) letters ends lexes

def numberDeclaration (name : String) (value : Nat) : Declaration :=
  ⟨"const", name, [.word "usize".toList], numberWord value⟩

def numbersDeclaration (name : String) (values : List Nat) : Declaration :=
  ⟨"const", name, [.mark '&', .mark '[', .word "usize".toList, .mark ']'],
    Reader.bracketOf (joined numberWord values)⟩

def isWord (name : String) : Bool := !name.toList.isEmpty && name.toList.all isLetter

/-- The start of a line that declares a constant. -/
theorem Lexes.constant {name : String} (word : isWord name = true)
    (lexes : Lexes (':' :: rest) (.mark ':' :: tokens)) :
    Lexes ("pub const ".toList ++ (name.toList ++ ':' :: rest))
      (.word "pub".toList :: .word "const".toList :: .word name.toList :: .mark ':' :: tokens) := by
  have opened : Lexes "pub const ".toList [.word "pub".toList, .word "const".toList] := by
    decide +kernel
  obtain ⟨nonempty, letters⟩ := (Bool.and_eq_true_iff).mp word
  have nonempty : name.toList ≠ [] := by simpa using nonempty
  exact opened.append (Lexes.word nonempty (List.all_eq_true.mp letters) rfl lexes)

theorem lexes_numberConstant (name : String) (word : isWord name = true) (value : Nat) :
    Lexes (textOf [numberConstant name value]) (numberDeclaration name value).tokens := by
  have typed : Lexes (':' :: " usize = ".toList) [.mark ':', .word "usize".toList, .mark '='] := by
    decide +kernel
  have closed : Lexes [';', '\n'] [.mark ';'] := rfl
  have line := Lexes.constant word (typed.append (Lexes.number value rfl closed))
  simpa [numberConstant, textOf, numberDeclaration, Declaration.tokens] using line

theorem lexes_numbersConstant (name : String) (word : isWord name = true) (values : List Nat) :
    Lexes (textOf [numbersConstant name values]) (numbersDeclaration name values).tokens := by
  have typed : Lexes (':' :: " &[usize] = &[".toList)
      [.mark ':', .mark '&', .mark '[', .word "usize".toList, .mark ']', .mark '=', .mark '&',
        .mark '['] := by decide +kernel
  have closed : Lexes [']', ';', '\n'] [.mark ']', .mark ';'] := rfl
  have numbers := Lexes.commas (fun n _ _ _ => Lexes.number n) values rfl closed
  have line := Lexes.constant word (typed.append numbers)
  simpa [numbersConstant, bracketed, textOf, numbersDeclaration, Declaration.tokens,
    Reader.bracketOf] using line

/-- What stands before the quoted names of a terminal. -/
def callTokens : List Token :=
  [.word "Some".toList, .mark '(', .word "TerminalName".toList, .mark ':', .mark ':',
    .word "new".toList, .mark '(']

def nameTokens : Option TerminalName → List Token
  | none => [.word "None".toList]
  | some n => callTokens ++ [.text n.real.toList, .mark ',', .text n.display.toList, .mark ')',
    .mark ')']

def Reader.names : Reader (Option TerminalName) := fun tokens =>
  if tokens.head? = some (.word "None".toList) then some (none, tokens.drop 1)
  else if tokens.take callTokens.length = callTokens then
    match tokens.drop callTokens.length with
    | .text real :: .mark ',' :: .text display :: .mark ')' :: .mark ')' :: rest =>
      some (some ⟨String.ofList real, String.ofList display⟩, rest)
    | _ => none
  else none

theorem Reader.names_reads (name : Option TerminalName) :
    Reader.names.Reads (nameTokens name) name := by
  intro rest
  cases name with
  | none => rfl
  | some n =>
    have other : (nameTokens (some n) ++ rest).head? ≠ some (.word "None".toList) :=
      show some (Token.word "Some".toList) ≠ some (.word "None".toList) by decide
    rw [names, if_neg other, nameTokens, List.append_assoc, List.take_left, if_pos rfl,
      List.drop_left]
    simp

theorem opens_nameTokens (name : Option TerminalName) : Reader.Opens (nameTokens name) := by
  cases name <;> exact ⟨_, _, rfl, nofun⟩

theorem isName_of_mem_nameTokens {name : Option TerminalName} {t : Token}
    (inside : t ∈ nameTokens name) : t.isName = false := by
  cases name with
  | none =>
    rw [List.mem_singleton.mp inside]
    decide
  | some n =>
    have call : ∀ t ∈ callTokens, t.isName = false := by decide
    rcases List.mem_append.mp inside with first | later
    · exact call t first
    · simp only [List.mem_cons, List.not_mem_nil, or_false] at later
      rcases later with rfl | rfl | rfl | rfl | rfl <;> rfl

/-- The names of a terminal are read as they are, with the comma behind them. -/
theorem lexes_nameLiteral (name : Option TerminalName) :
    Lexes ((nameLiteral name).toList ++ [',', '\n']) (nameTokens name ++ [.mark ',']) := by
  cases name with
  | none =>
    change Lexes ("None".toList ++ [',', '\n']) [.word "None".toList, .mark ',']
    decide +kernel
  | some n =>
    have call : Lexes "Some(TerminalName::new(".toList callTokens := by decide +kernel
    have comma : Lexes ", ".toList [.mark ','] := rfl
    have closed : Lexes ("))".toList ++ [',', '\n']) [.mark ')', .mark ')', .mark ','] := rfl
    have whole := call.append ((lexes_encode n.real).append
      (comma.append ((lexes_encode n.display).append closed)))
    have written : nameLiteral (some n) = "Some(TerminalName::new(" ++ Quoted.encode n.real ++
        ", " ++ Quoted.encode n.display ++ "))" := rfl
    simpa only [written, nameTokens, String.toList_append, List.append_assoc, List.cons_append,
      List.nil_append] using whole

theorem lexes_numberedNames (entries : List (Nat × Option TerminalName)) :
    Lexes (textOf (entries.map (fun entry => numberedName entry.1 entry.2)))
      (separated nameTokens (entries.map Prod.snd)) := by
  rw [textOf, List.flatMap_map, separated, List.flatMap_map]
  refine Lexes.flatMap entries (fun entry _ => ?_)
  have plain : '/' ∉ (toString entry.1).toList := by
    intro inside
    have digit := List.all_eq_true.mp (Json.all_isDigit_toDigits entry.1) '/'
      (by rwa [← Nat.toList_repr])
    exact absurd digit (by decide)
  have indent : Lexes "    ".toList [] := rfl
  have space : Lexes [' '] [] := rfl
  have line := indent.append ((lexes_comment plain).append
    (space.append (lexes_nameLiteral entry.2)))
  simpa [numberedName] using line

/-- The names of the terminals of one extension. -/
theorem lexes_extensionNames {label : String} (harmless : Commentable label)
    (names : List (Option TerminalName)) :
    Lexes (textOf (extensionNames label names)) (sliceOf nameTokens names ++ [.mark ',']) := by
  have indent : Lexes "    ".toList [] := rfl
  have opened : Lexes [' ', '&', '[', '\n'] [.mark '&', .mark '['] := rfl
  have lines : Lexes (textOf (names.map (fun n => "        " ++ nameLiteral n ++ ",")))
      (separated nameTokens names) := by
    rw [textOf, List.flatMap_map, separated]
    refine Lexes.flatMap names (fun name _ => ?_)
    have deeper : Lexes "        ".toList [] := rfl
    simpa using deeper.append (lexes_nameLiteral name)
  have closed : Lexes ("    ],".toList ++ ['\n']) [.mark ']', .mark ','] := by decide +kernel
  have whole := indent.append (harmless.append (opened.append (lines.append closed)))
  simpa [extensionNames, textOf, sliceOf, Reader.bracketOf] using whole

theorem lexes_allExtensionNames (entries : List (String × List (Option TerminalName)))
    (harmless : ∀ entry ∈ entries, Commentable entry.1) :
    Lexes (textOf (entries.flatMap (fun entry => extensionNames entry.1 entry.2)))
      (separated (sliceOf nameTokens) (entries.map Prod.snd)) := by
  rw [textOf, List.flatMap_assoc, separated, List.flatMap_map]
  exact Lexes.flatMap entries
    (fun entry inside => lexes_extensionNames (harmless entry inside) entry.2)

/-- The types of a name, of a table of names, and of a table for each extension. -/
def nameType : List Token :=
  [.word "Option".toList, .mark '<', .word "TerminalName".toList, .mark '>']
def tableType : List Token := .mark '&' :: .mark '[' :: (nameType ++ [.mark ']'])
def tablesType : List Token := .mark '&' :: .mark '[' :: (tableType ++ [.mark ']'])

def constantDeclarations (layout : Layout) (host : HostFragment) (names : NameTables) :
    List Declaration :=
  [numberDeclaration "FRAGMENT_COUNT" layout.fragmentCount,
    numberDeclaration "HOST_STATE_COUNT" layout.hostStates,
    numberDeclaration "TOTAL_STATE_COUNT" layout.totalStates,
    numbersDeclaration "EXT_STATE_OFFSETS" layout.offsets,
    numbersDeclaration "EXT_SYMBOL_TABLE_OFFSETS" names.extensionColumns,
    numberDeclaration "MARKING_TERMINAL_OFFSET" names.markingColumn,
    numberDeclaration "EOF_TERMINAL" host.grammar.endOfInput]

def tableDeclarations (names : NameTables) : List Declaration :=
  [⟨"static", "HOST_TERMINAL_NAMES", tableType, sliceOf nameTokens names.host⟩,
    ⟨"static", "EXT_TERMINAL_NAMES", tablesType, sliceOf (sliceOf nameTokens) names.extensions⟩,
    ⟨"static", "MARKING_TERMINAL_NAMES", tableType, sliceOf nameTokens names.markings⟩]

variable (layout : Layout) (host : HostFragment) (names : NameTables)

theorem lexes_constants : Lexes (textOf (constants layout host names))
    ((constantDeclarations layout host names).flatMap Declaration.tokens) := by
  have blank : Lexes (textOf [""]) [] := rfl
  have lines := (lexes_numberConstant "FRAGMENT_COUNT" (by decide) layout.fragmentCount).append
    ((lexes_numberConstant "HOST_STATE_COUNT" (by decide) layout.hostStates).append
    ((lexes_numberConstant "TOTAL_STATE_COUNT" (by decide) layout.totalStates).append
    ((lexes_numbersConstant "EXT_STATE_OFFSETS" (by decide) layout.offsets).append
    ((lexes_numbersConstant "EXT_SYMBOL_TABLE_OFFSETS" (by decide) names.extensionColumns).append
    ((lexes_numberConstant "MARKING_TERMINAL_OFFSET" (by decide) names.markingColumn).append
    ((lexes_numberConstant "EOF_TERMINAL" (by decide) host.grammar.endOfInput).append blank))))))
  simp only [← textOf_append, List.singleton_append] at lines
  simpa only [constants, constantDeclarations, List.flatMap_cons, List.flatMap_nil] using lines

/-- The tables of names are read from their text if every extension has a harmless name. -/
theorem lexes_nameTables {labels : List String} {columns : List Nat}
    (harmless : ∀ label ∈ labels, Commentable label)
    (extensions : labels.length = names.extensions.length)
    (markings : columns.length = names.markings.length) :
    Lexes (textOf (nameTables labels columns names))
      ((tableDeclarations names).flatMap Declaration.tokens) := by
  have first : Lexes (textOf ["pub static HOST_TERMINAL_NAMES: &[Option<TerminalName>] = &["])
      ([.word "pub".toList, .word "static".toList, .word "HOST_TERMINAL_NAMES".toList, .mark ':'] ++
        tableType ++ [.mark '=', .mark '&', .mark '[']) := by decide +kernel
  have hostEntries := lexes_numberedNames (names.host.zipIdx.map Prod.swap)
  have second : Lexes (textOf ["];", "",
        "pub static EXT_TERMINAL_NAMES: &[&[Option<TerminalName>]] = &["])
      ([.mark ']', .mark ';', .word "pub".toList, .word "static".toList,
        .word "EXT_TERMINAL_NAMES".toList, .mark ':'] ++ tablesType ++
        [.mark '=', .mark '&', .mark '[']) := by decide +kernel
  have extensionEntries := lexes_allExtensionNames (labels.zip names.extensions)
    (fun entry inside => harmless _ (List.of_mem_zip inside).1)
  have third : Lexes (textOf ["];", "",
        "pub static MARKING_TERMINAL_NAMES: &[Option<TerminalName>] = &["])
      ([.mark ']', .mark ';', .word "pub".toList, .word "static".toList,
        .word "MARKING_TERMINAL_NAMES".toList, .mark ':'] ++ tableType ++
        [.mark '=', .mark '&', .mark '[']) := by decide +kernel
  have markingEntries := lexes_numberedNames (columns.zip names.markings)
  have last : Lexes (textOf ["];", ""]) [.mark ']', .mark ';'] := by decide +kernel
  have lines := first.append (hostEntries.append (second.append (extensionEntries.append
    (third.append (markingEntries.append last)))))
  have swapped : (names.host.zipIdx.map Prod.swap).map Prod.snd = names.host := by
    rw [List.map_map]
    exact List.zipIdx_map_fst 0 names.host
  rw [swapped, List.map_snd_zip (Nat.le_of_eq extensions.symm),
    List.map_snd_zip (Nat.le_of_eq markings.symm), List.map_map, List.flatMap_def,
    List.zip_eq_zipWith, List.map_zipWith, List.zip_eq_zipWith, List.map_zipWith] at lines
  simp only [← textOf_append] at lines
  simp only [nameTables, tableDeclarations, Declaration.tokens, sliceOf, Reader.bracketOf,
    List.flatMap_cons, List.flatMap_nil, List.append_assoc, List.cons_append,
    List.nil_append] at lines ⊢
  exact lines

/-- All that a driver declares about numbers and names. -/
def nameDeclarations : List Declaration :=
  constantDeclarations layout host names ++ tableDeclarations names

theorem isName_of_mem_numberWord {n : Nat} {t : Token} (inside : t ∈ numberWord n) :
    t.isName = false := by
  have plain : '_' ∉ Nat.toDigits 10 n := by
    intro found
    have digit := List.all_eq_true.mp (Json.all_isDigit_toDigits n) '_' found
    exact absurd digit (by decide)
  rw [List.mem_singleton.mp inside]
  simp [Token.isName, plain]

theorem isName_kinds : (Token.word "const".toList).isName = false ∧
    (Token.word "static".toList).isName = false := by decide

theorem plain_numberDeclaration {name : String}
    (named : (Token.word name.toList).isName = true) (value : Nat) :
    (numberDeclaration name value).Plain :=
  have typed : ∀ t ∈ [Token.word "usize".toList], t.isName = false ∧ t ≠ .mark '=' := by decide
  ⟨named, isName_kinds.1, typed, fun _ => isName_of_mem_numberWord⟩

theorem plain_numbersDeclaration {name : String}
    (named : (Token.word name.toList).isName = true) (values : List Nat) :
    (numbersDeclaration name values).Plain := by
  have typed : ∀ t ∈ [Token.mark '&', .mark '[', .word "usize".toList, .mark ']'],
      t.isName = false ∧ t ≠ .mark '=' := by decide
  have numbers : ∀ t ∈ joined numberWord values, t.isName = false :=
    fun _ => Reader.isName_of_mem_joined (fun _ _ _ => isName_of_mem_numberWord)
  exact ⟨named, isName_kinds.1, typed, fun _ => Reader.isName_of_mem_bracketOf numbers⟩

theorem plain_nameDeclarations : ∀ d ∈ nameDeclarations layout host names, d.Plain := by
  have named : (Token.word "HOST_TERMINAL_NAMES".toList).isName = true ∧
      (Token.word "EXT_TERMINAL_NAMES".toList).isName = true ∧
      (Token.word "MARKING_TERMINAL_NAMES".toList).isName = true := by decide
  have tableTyped : ∀ t ∈ tableType, t.isName = false ∧ t ≠ .mark '=' := by decide
  have tablesTyped : ∀ t ∈ tablesType, t.isName = false ∧ t ≠ .mark '=' := by decide
  have entries : ∀ (table : List (Option TerminalName)) t, t ∈ sliceOf nameTokens table →
      t.isName = false :=
    fun _ _ => Reader.isName_of_mem_sliceOf (fun _ _ _ => isName_of_mem_nameTokens)
  have tables : ∀ t ∈ sliceOf (sliceOf nameTokens) names.extensions, t.isName = false :=
    fun _ => Reader.isName_of_mem_sliceOf (fun table _ => entries table)
  simp only [nameDeclarations, constantDeclarations, tableDeclarations, List.forall_mem_append,
    List.forall_mem_cons]
  exact ⟨⟨plain_numberDeclaration (by decide) _, plain_numberDeclaration (by decide) _,
      plain_numberDeclaration (by decide) _, plain_numbersDeclaration (by decide) _,
      plain_numbersDeclaration (by decide) _, plain_numberDeclaration (by decide) _,
      plain_numberDeclaration (by decide) _, nofun⟩,
    ⟨named.1, isName_kinds.2, tableTyped, entries _⟩,
    ⟨named.2.1, isName_kinds.2, tablesTyped, tables⟩,
    ⟨named.2.2, isName_kinds.2, tableTyped, entries _⟩, nofun⟩

theorem distinct_nameDeclarations :
    ((nameDeclarations layout host names).map Declaration.name).Nodup :=
  show ["FRAGMENT_COUNT", "HOST_STATE_COUNT", "TOTAL_STATE_COUNT", "EXT_STATE_OFFSETS",
    "EXT_SYMBOL_TABLE_OFFSETS", "MARKING_TERMINAL_OFFSET", "EOF_TERMINAL", "HOST_TERMINAL_NAMES",
    "EXT_TERMINAL_NAMES", "MARKING_TERMINAL_NAMES"].Nodup by decide

/-- What the lookup of a name needs to read. -/
structure ReadsFrom (data : List Token) : Prop where
  markingColumn : valueOf "MARKING_TERMINAL_OFFSET" .number data = some names.markingColumn
  extensionColumns :
    valueOf "EXT_SYMBOL_TABLE_OFFSETS" (.slice .number) data = some names.extensionColumns
  host : valueOf "HOST_TERMINAL_NAMES" (.slice .names) data = some names.host
  extensions : valueOf "EXT_TERMINAL_NAMES" (.slice (.slice .names)) data = some names.extensions
  markings : valueOf "MARKING_TERMINAL_NAMES" (.slice .names) data = some names.markings

/-- The tables of names are read from their declarations. -/
theorem readsFrom_nameDeclarations :
    ReadsFrom names ((nameDeclarations layout host names).flatMap Declaration.tokens) := by
  have distinct := distinct_nameDeclarations layout host names
  have plain := plain_nameDeclarations layout host names
  have table (entries : List (Option TerminalName)) :
      (Reader.slice .names).Reads (sliceOf nameTokens entries) entries :=
    Reader.slice_separated (fun name _ => ⟨Reader.names_reads name, opens_nameTokens name⟩)
  have tables : (Reader.slice (.slice .names)).Reads (sliceOf (sliceOf nameTokens) names.extensions)
      names.extensions :=
    Reader.slice_separated (fun entries _ => ⟨table entries, _, _, rfl, nofun⟩)
  have column : numberDeclaration "MARKING_TERMINAL_OFFSET" names.markingColumn ∈
      nameDeclarations layout host names := by
    simp [nameDeclarations, constantDeclarations]
  have columns : numbersDeclaration "EXT_SYMBOL_TABLE_OFFSETS" names.extensionColumns ∈
      nameDeclarations layout host names := by
    simp [nameDeclarations, constantDeclarations]
  have listed : ∀ d ∈ tableDeclarations names, d ∈ nameDeclarations layout host names :=
    fun d inside => List.mem_append_right _ inside
  simp only [tableDeclarations, List.forall_mem_cons] at listed
  obtain ⟨hostTable, extensionTables, markingTable, _⟩ := listed
  have first := valueOf_of_mem distinct plain column (Reader.number_reads names.markingColumn)
  have columnsRead : (Reader.slice .number).Reads
      (numbersDeclaration "EXT_SYMBOL_TABLE_OFFSETS" names.extensionColumns).value
      names.extensionColumns := by
    have read := Reader.slice_joined
      (fun n (_ : n ∈ names.extensionColumns) => ⟨Reader.number_reads n, _, _, rfl, nofun⟩)
      (Or.inl rfl)
    rwa [List.append_nil] at read
  have second := valueOf_of_mem distinct plain columns columnsRead
  have third := valueOf_of_mem distinct plain hostTable (table names.host)
  have fourth := valueOf_of_mem distinct plain extensionTables tables
  have fifth := valueOf_of_mem distinct plain markingTable (table names.markings)
  exact ⟨first, second, third, fourth, fifth⟩

/-- The lines with the constants of a driver and its tables of names. -/
def nameData (engine : Engine) (host : HostFragment) (extensions : List ExtensionFragment) :
    List String :=
  let names := NameTables.ofEngine engine host extensions
  constants engine.layout host names ++
    nameTables (extensions.map ExtensionFragment.name)
      (engine.scanner.terminals.map PlacedMarking.column) names

theorem lexes_nameData (engine : Engine) (host : HostFragment)
    {extensions : List ExtensionFragment} (harmless : ∀ e ∈ extensions, Commentable e.name) :
    Lexes (textOf (nameData engine host extensions))
      ((nameDeclarations engine.layout host
        (NameTables.ofEngine engine host extensions)).flatMap Declaration.tokens) := by
  rw [nameData, textOf_append, nameDeclarations, List.flatMap_append]
  refine (lexes_constants _ _ _).append (lexes_nameTables _ (fun label inside => ?_) ?_ ?_)
  · obtain ⟨e, listed, rfl⟩ := List.mem_map.mp inside
    exact harmless e listed
  · simp [NameTables.ofEngine]
  · simp [NameTables.ofEngine]

/-- A driver has its constants and tables of names in one place. -/
theorem holds_nameData (engine : Engine) (host : HostFragment)
    (extensions : List ExtensionFragment) (options : EmitOptions) :
    Holds (engine.driver host extensions options) (nameData engine host extensions) := by
  let front := header engine host extensions ++ preamble options ++ imports
  let rest := artifacts engine ++ arrays options.parserName ++ loader options.parserName ++
    parser options.parserName ++ interface options.parserName engine extensions
  have whole : lines engine host extensions options =
      front ++ nameData engine host extensions ++ rest := by
    simp only [lines, nameData, front, rest, List.append_assoc]
  exact holds_of_append (by rw [toList_driver, whole])

end ParserSplice.Emission
