import ParserSplice.Proofs.Engine.Building
import ParserSplice.Proofs.Engine.Dispatch
import ParserSplice.Proofs.Scanner.Recognition

set_option autoImplicit false

namespace ParserSplice

namespace MarkingScanner

/-- A marking terminal that is placed has the regular expression that its extension declares. -/
def Declares (extensions : List ExtensionFragment) (mk : PlacedMarking) (regex : String) : Prop :=
  ∃ e m, extensions[mk.extension]? = some e ∧ e.markings.get? mk.terminal = some m ∧
    m.regex = regex

/-- A column belongs to a marking terminal with a regular expression. -/
def ColumnHas (extensions : List ExtensionFragment) (l : Layout) (column : Nat) (regex : String) :
    Prop :=
  ∃ mk ∈ l.markings, mk.column = column ∧ Declares extensions mk regex

/-- What the scanner of marking terminals recognizes: the columns by their regular expressions. Every
marking terminal that an extension declares has a column, its own one, and is accepted in it after
exactly the texts that its regular expression matches. -/
structure RecognizesMarkings (Matches : String → List UInt8 → Prop)
    (extensions : List ExtensionFragment) (l : Layout) (scanner : MarkingScanner) : Prop where
  columns : Scanner.Recognizes Matches (ColumnHas extensions l) scanner.table scanner.sets
  own : ∀ mk ∈ l.markings, ∀ mk' ∈ l.markings, mk.column = mk'.column → mk = mk'
  kept : ∀ (i : Nat) e terminal m, extensions[i]? = some e → e.markings.get? terminal = some m →
    ∃ mk ∈ l.markings, mk.extension = i ∧ mk.terminal = terminal ∧
      ∀ text, ∃ set, scanner.sets.accepts[scanner.table.run text]? = some set ∧
        (mk.column ∈ set ↔ Matches m.regex text)

variable {host : HostFragment} {extensions : List ExtensionFragment} {l : Layout}

theorem regexOf_eq_ok_iff (mk : PlacedMarking) (column : Nat) (regex : String) :
    regexOf extensions mk = .ok (column, regex) ↔
      mk.column = column ∧ Declares extensions mk regex := by
  rw [regexOf]
  constructor
  · intro made
    split at made
    · next m found =>
      cases made
      obtain ⟨e, listed, own⟩ := Option.bind_eq_some_iff.mp found
      exact ⟨rfl, e, m, listed, own, rfl⟩
    · cases made
  · rintro ⟨rfl, e, m, listed, own, rfl⟩
    rw [listed, Option.bind_some, own]

theorem Declares.unique {mk : PlacedMarking} {regex regex' : String}
    (first : Declares extensions mk regex) (second : Declares extensions mk regex') :
    regex = regex' := by
  obtain ⟨e, m, listed, own, rfl⟩ := first
  obtain ⟨e', m', listed', own', rfl⟩ := second
  obtain rfl : e = e' := Option.some.inj (listed.symm.trans listed')
  obtain rfl : m = m' := Option.some.inj (own.symm.trans own')
  rfl

theorem map_fst_of_regexes {markings : List PlacedMarking} {regexes : List (Nat × String)}
    (paired : List.Forall₂ (fun mk entry => regexOf extensions mk = .ok entry) markings regexes) :
    regexes.map Prod.fst = markings.map (fun mk => mk.column) := by
  induction paired with
  | nil => rfl
  | cons first _ ih => rw [List.map_cons, List.map_cons, ih, ((regexOf_eq_ok_iff _ _ _).mp first).1]

/-- The map from columns to regular expressions holds what the columns have. -/
theorem get?_regexes_iff (laid : Layout.Laid host extensions l) {regexes : List (Nat × String)}
    (found : l.markings.mapM (regexOf extensions) = .ok regexes) (column : Nat) (regex : String) :
    (OrderedMap.ofList regexes).get? column = some regex ↔ ColumnHas extensions l column regex := by
  have paired := (mapM_eq_ok_iff _ _ _).mp found
  have distinct : (regexes.map Prod.fst).Nodup := by
    rw [map_fst_of_regexes paired]
    exact laid.nodup_columns
  rw [OrderedMap.get?_ofList_iff regexes distinct]
  constructor
  · intro listed
    obtain ⟨mk, inside, made⟩ := exists_item_of_mem paired _ listed
    exact ⟨mk, inside, (regexOf_eq_ok_iff mk column regex).mp made⟩
  · rintro ⟨mk, inside, column, declared⟩
    obtain ⟨entry, listed, made⟩ := exists_result_of_mem paired mk inside
    rw [(regexOf_eq_ok_iff mk _ regex).mpr ⟨column, declared⟩] at made
    cases made
    exact listed

section Library

variable {library : Compiler} {Matches : library.Expression → List UInt8 → Prop}

theorem columns_of_build (faithful : library.Faithful Matches)
    (laid : Layout.Laid host extensions l) {scanner : MarkingScanner}
    (built : buildBy library.build extensions l = .ok scanner) :
    Scanner.Recognizes (library.MatchesWhole Matches) (ColumnHas extensions l) scanner.table
      scanner.sets := by
  simp only [buildBy, ordered_eq laid, bind_eq_ok_iff, pure_eq_ok_iff] at built
  obtain ⟨regexes, found, ⟨table, sets⟩, scanned, rfl⟩ := built
  exact (Compiler.recognizes_of_build faithful scanned).congr (get?_regexes_iff laid found)

theorem recognizesMarkings_of_build (faithful : library.Faithful Matches)
    (laid : Layout.Laid host extensions l) {scanner : MarkingScanner}
    (built : buildBy library.build extensions l = .ok scanner) :
    RecognizesMarkings (library.MatchesWhole Matches) extensions l scanner := by
  have columns := columns_of_build faithful laid built
  refine ⟨columns, fun mk inside mk' inside' => laid.eq_of_column_eq inside inside',
    fun i e terminal m listed own => ?_⟩
  obtain ⟨mk, inside, key⟩ := (laid.exists_marking_iff i terminal).mpr
    ⟨e, listed, (e.markings.mem_keys terminal).mpr ⟨m, own⟩⟩
  obtain ⟨rfl, rfl⟩ := Prod.mk.inj key
  have declared : Declares extensions mk m.regex := ⟨e, m, listed, own, rfl⟩
  refine ⟨mk, inside, rfl, rfl, fun text => ?_⟩
  obtain ⟨set, found, exact⟩ := columns.accepts text
  refine ⟨set, found, (exact mk.column).trans ⟨?_, fun matched => ?_⟩⟩
  · rintro ⟨regex, ⟨other, inside', column, declared'⟩, matched⟩
    obtain rfl := laid.eq_of_column_eq inside' inside column
    rwa [declared.unique declared']
  · exact ⟨m.regex, ⟨mk, inside, rfl, declared⟩, matched⟩

end Library

end MarkingScanner

namespace Scanner

/-- An expression of one character matches the character. -/
theorem matchesWhole_at : compiler.MatchesWhole MatchesWhole "@" [64] := by
  have read : (Regex.Pattern.read "@").bind Regex.Meaning.ofPatternText = .ok _ :=
    eq_ok_of_isOk default (by decide +kernel)
  refine ⟨_, congrArg (Except.mapError Regex.Fault.text) read, ?_⟩
  show Regex.Term.Matches _ _ _ _
  rw [Regex.Term.matches_cons_iff]
  simp only [Regex.Term.matches_nil_iff]
  decide +kernel

/-- Scanners recognize exactly their regular expressions, if the library that compiles them is
faithful: those that are built from a map, of which the empty one tells nothing after any text, and
those of the marking terminals of all extensions. -/
theorem recognizes_exactly (library : Compiler)
    (Matches : library.Expression → List UInt8 → Prop) (faithful : library.Faithful Matches) :
    (∀ regexes table sets, library.build regexes = .ok (table, sets) →
      Recognizes (library.MatchesWhole Matches) (fun t regex => regexes.get? t = some regex) table
        sets) ∧
    (∃ table sets, library.build ∅ = .ok (table, sets) ∧
      ∀ text, sets.accepts[table.run text]? = some ∅ ∧ sets.possible[table.run text]? = some ∅) ∧
    ∀ host extensions l scanner, Layout.compute host extensions = .ok l →
      MarkingScanner.buildBy library.build extensions l = .ok scanner →
        MarkingScanner.RecognizesMarkings (library.MatchesWhole Matches) extensions l scanner := by
  refine ⟨fun _ _ _ built => Compiler.recognizes_of_build faithful built, ?_,
    fun _ _ _ _ computed built => MarkingScanner.recognizesMarkings_of_build faithful
      (Layout.compute_eq_ok_iff.mp computed) built⟩
  have built : library.build ∅ = .ok (.blank, .blank 2) := rfl
  exact ⟨_, _, built, (Compiler.recognizes_of_build faithful built).silent
    (fun _ _ found => nomatch found)⟩

/-- The library of the program is faithful, and its scanner of the one marking terminal accepts the
column of this terminal after the character that the expression consists of. -/
theorem recognizes_exactly_waitingFragment :
    compiler.Faithful MatchesWhole ∧
    (∃ table sets, compiler.build (.ofList [(7, "@")]) = .ok (table, sets) ∧
      Recognizes (compiler.MatchesWhole MatchesWhole)
        (fun t regex => (OrderedMap.ofList [(7, "@")]).get? t = some regex) table sets) ∧
    ∃ l scanner, Layout.compute MergedTables.waitingFragment [MergedTables.waitingExtension] =
        .ok l ∧
      MarkingScanner.buildBy compiler.build [MergedTables.waitingExtension] l = .ok scanner ∧
      MarkingScanner.RecognizesMarkings (compiler.MatchesWhole MatchesWhole)
        [MergedTables.waitingExtension] l scanner ∧
      ∃ set, scanner.sets.accepts[scanner.table.run [64]]? = some set ∧ 7 ∈ set := by
  have exactly := recognizes_exactly compiler MatchesWhole compiler_faithful
  obtain ⟨⟨table, sets⟩, built⟩ := Engine.exists_waitingScanner
  refine ⟨compiler_faithful, ⟨table, sets, built, exactly.1 _ table sets built⟩, ?_⟩
  have computed : Layout.compute MergedTables.waitingFragment [MergedTables.waitingExtension] =
      .ok _ := rfl
  obtain ⟨scanner, made⟩ := MarkingScanner.exists_buildBy (Layout.compute_eq_ok_iff.mp computed) rfl
    Engine.exists_waitingScanner
  have recognizes := exactly.2.2 _ _ _ scanner computed made
  refine ⟨_, scanner, computed, made, recognizes, ?_⟩
  obtain ⟨set, found, exact⟩ := recognizes.columns.accepts [64]
  exact ⟨set, found, (exact 7).mpr
    ⟨"@", ⟨_, List.mem_singleton.mpr rfl, rfl, _, _, rfl, rfl, rfl⟩, matchesWhole_at⟩⟩

end Scanner

end ParserSplice
