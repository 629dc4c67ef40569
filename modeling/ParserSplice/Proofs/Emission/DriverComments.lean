import ParserSplice.Proofs.Emission.TerminalNames

set_option autoImplicit false

namespace ParserSplice.Emission

/-- The text of a driver from its start to the line that closes its first comment. -/
def opening (engine : Engine) (host : HostFragment) (extensions : List ExtensionFragment) :
    List Char :=
  textOf (header engine host extensions).dropLast.dropLast ++ "*/".toList

def markingNames (host : HostFragment) (extensions : List ExtensionFragment) (m : PlacedMarking) :
    List String :=
  [((extensions[m.extension]?).map ExtensionFragment.name).getD "",
    (host.symbolTable.name? m.hook).getD "?"]

/-- The names that the opening comment of a driver repeats, in order. -/
def headerNames (engine : Engine) (host : HostFragment) (extensions : List ExtensionFragment) :
    List String :=
  extensions.map ExtensionFragment.name ++
    engine.layout.markings.flatMap (markingNames host extensions)

theorem marksOf_fragmentLine (layout : Layout) (entry : ExtensionFragment × Nat) :
    MarksOf ((fragmentLine layout entry).toList ++ ['\n']) [entry.1.name] := by
  have front : Quiet ("  ".toList ++ (toString (entry.2 + 1)).toList ++ ": ".toList) := by
    simp only [quiet_append, quiet_number]
    decide
  have back : Quiet (" ".toList ++ (toString (layout.counts[entry.2]?.getD 0)).toList ++
      " states from ".toList ++ (toString (layout.offset entry.2)).toList ++ ['\n']) := by
    simp only [quiet_append, quiet_number]
    decide
  have named := marksOf_name entry.1.name (show Neutral ',' by decide)
  have line := (marksOf_quiet front).append (named.append (marksOf_quiet back))
  simpa [fragmentLine] using line

theorem marksOf_markingLine (host : HostFragment) (extensions : List ExtensionFragment)
    (m : PlacedMarking) :
    MarksOf ((markingLine host extensions m).toList ++ ['\n'])
      (markingNames host extensions m) := by
  have front : Quiet ("  column ".toList ++ (toString m.column).toList ++ ": ".toList) := by
    simp only [quiet_append, quiet_number]
    decide
  have between : Quiet ("terminal ".toList ++ (toString m.terminal).toList ++ " on ".toList) := by
    simp only [quiet_append, quiet_number]
    decide
  have back : Quiet (" enters state ".toList ++ (toString m.target).toList ++ ['\n']) := by
    simp only [quiet_append, quiet_number]
    decide
  unfold markingLine markingNames
  generalize ((extensions[m.extension]?).map ExtensionFragment.name).getD "" = owner
  generalize (host.symbolTable.name? m.hook).getD "?" = hook
  have named := marksOf_name owner (show Neutral ' ' by decide)
  have hooked := marksOf_name hook (show Neutral ',' by decide)
  have line := (marksOf_quiet front).append (named.append ((marksOf_quiet between).append
    (hooked.append (marksOf_quiet back))))
  simpa using line

/-- The slash in the kind of a conflict is half of no mark. -/
theorem marksOf_conflictLine (c : Conflict) :
    MarksOf (("  " ++ c.text).toList ++ ['\n']) [] := by
  refine marksOf_of_no_star (by decide) ?_
  have number : ∀ n, '*' ∉ (toString n).toList := fun n inside => (quiet_number n _ inside).2 rfl
  have kind : '*' ∉ c.kind.text.toList := by cases c.kind <;> decide
  have action : ∀ a : EngineAction, '*' ∉ a.text.toList := by
    intro a
    cases a <;> simp only [EngineAction.text, String.toList_append, List.mem_append, number] <;>
      decide
  simp only [Conflict.text, String.toList_append, List.mem_append, number, kind, action]
  decide

theorem textOf_map {α : Type} (write : α → String) (items : List α) :
    textOf (items.map write) = items.flatMap (fun item => (write item).toList ++ ['\n']) := by
  rw [textOf, List.flatMap_map]

theorem marksOf_titled {title : String} {lines names : List String} (quiet : Quiet title.toList)
    (marks : MarksOf (textOf lines) names) : MarksOf (textOf (titled title lines)) names := by
  unfold titled
  split
  · next empty =>
    rwa [List.isEmpty_iff.mp empty] at marks
  · have line : Quiet (title.toList ++ ['\n']) :=
      (quiet_append _ _).mpr ⟨quiet, by decide⟩
    exact (marksOf_quiet line).append marks

theorem marksOf_fragmentLines (layout : Layout) (extensions : List ExtensionFragment) :
    MarksOf (textOf (extensions.zipIdx.map (fragmentLine layout)))
      (extensions.map ExtensionFragment.name) := by
  have lines := MarksOf.flatMap extensions.zipIdx
    (fun entry _ => marksOf_fragmentLine layout entry)
  have names : extensions.zipIdx.flatMap (fun entry => [entry.1.name]) =
      extensions.map ExtensionFragment.name := by
    calc extensions.zipIdx.flatMap (fun entry => [entry.1.name])
      _ = extensions.zipIdx.map (fun entry => entry.1.name) := List.map_eq_flatMap.symm
      _ = (extensions.zipIdx.map Prod.fst).map ExtensionFragment.name := by rw [List.map_map]; rfl
      _ = extensions.map ExtensionFragment.name := by rw [List.zipIdx_map_fst]
  rwa [textOf_map, ← names]

theorem marksOf_conflictLines (conflicts : List Conflict) :
    MarksOf (textOf (conflicts.map (fun c => "  " ++ c.text))) [] := by
  have lines := MarksOf.flatMap conflicts (fun c _ => marksOf_conflictLine c)
  have none : conflicts.flatMap (fun _ => ([] : List String)) = [] :=
    List.flatMap_eq_nil_iff.mpr (fun _ _ => rfl)
  rwa [textOf_map, ← none]

/-- What the opening comment lists has no marks but those of its names. -/
theorem marksOf_summary (engine : Engine) (host : HostFragment)
    (extensions : List ExtensionFragment) :
    MarksOf (textOf (summary engine host extensions)) (headerNames engine host extensions) := by
  have first : Quiet (textOf ["Fragments:",
      "  0: host, " ++ toString engine.layout.hostStates ++ " states, marking scanner"]) := by
    simp only [textOf, List.flatMap_cons, List.flatMap_nil, String.toList_append, quiet_append,
      quiet_number]
    decide
  have fragments := marksOf_fragmentLines engine.layout extensions
  have markings : MarksOf (textOf (engine.layout.markings.map (markingLine host extensions)))
      (engine.layout.markings.flatMap (markingNames host extensions)) := by
    rw [textOf_map]
    exact MarksOf.flatMap _ (fun m _ => marksOf_markingLine host extensions m)
  have conflicts := marksOf_conflictLines engine.conflicts
  have listing := (marksOf_quiet first).append (fragments.append
    ((marksOf_titled (show Quiet "Marking terminals:".toList by decide) markings).append
      (marksOf_titled (show Quiet "Conflicts:".toList by decide) conflicts)))
  simpa only [summary, textOf_append, List.append_assoc, headerNames, List.nil_append,
    List.append_nil] using listing

/-- The lines of the opening comment, of which the first and the last hold its outer marks. -/
theorem exists_header_eq (engine : Engine) (host : HostFragment)
    (extensions : List ExtensionFragment) : ∃ fixed, Quiet (textOf fixed) ∧
      header engine host extensions =
        "/*" :: fixed ++ summary engine host extensions ++ ["*/", ""] := by
  unfold header
  refine ⟨_, ?_, rfl⟩
  decide

theorem dropLast_dropLast {α : Type} (front : List α) (a b : α) :
    (front ++ [a, b]).dropLast.dropLast = front := by
  have last : front ++ [a, b] = front ++ [a] ++ [b] := by simp
  rw [last, List.dropLast_concat, List.dropLast_concat]

theorem exists_textOf_eq (lines : List String) : ∃ body, '\n' :: textOf lines = body ++ ['\n'] := by
  rcases List.eq_nil_or_concat' lines with rfl | ⟨front, last, rfl⟩
  · exact ⟨[], rfl⟩
  · exact ⟨'\n' :: textOf front ++ last.toList, by simp [textOf]⟩

/-- The opening comment has its outer marks, and between them those of its names. -/
theorem exists_opening_eq (engine : Engine) (host : HostFragment)
    (extensions : List ExtensionFragment) : ∃ body,
      opening engine host extensions = "/*".toList ++ (body ++ ['\n']) ++ "*/".toList ∧
      MarksOf (body ++ ['\n']) (headerNames engine host extensions) := by
  obtain ⟨fixed, quiet, split⟩ := exists_header_eq engine host extensions
  obtain ⟨body, ends⟩ := exists_textOf_eq (fixed ++ summary engine host extensions)
  have marks := (marksOf_quiet ((quiet_append ['\n'] _).mpr ⟨by decide, quiet⟩)).append
    (marksOf_summary engine host extensions)
  have listed : ['\n'] ++ textOf fixed ++ textOf (summary engine host extensions) =
      body ++ ['\n'] := by
    rw [← ends, textOf_append]
    rfl
  rw [listed, List.nil_append] at marks
  refine ⟨body, ?_, marks⟩
  rw [opening, split, dropLast_dropLast, ← ends]
  rfl

theorem isComment_opening_iff (engine : Engine) (host : HostFragment)
    (extensions : List ExtensionFragment) : IsComment (opening engine host extensions) ↔
      openAfterNames? 0 (headerNames engine host extensions) = some 0 := by
  obtain ⟨body, whole, marks⟩ := exists_opening_eq engine host extensions
  rw [whole, isComment_iff (by decide), marks.openAfter?_eq]

theorem exists_driver_eq (engine : Engine) (host : HostFragment)
    (extensions : List ExtensionFragment) (options : EmitOptions) : ∃ rest,
      (engine.driver host extensions options).toList =
        opening engine host extensions ++ '\n' :: rest := by
  obtain ⟨fixed, _, split⟩ := exists_header_eq engine host extensions
  have first : textOf (header engine host extensions) =
      opening engine host extensions ++ ['\n', '\n'] := by
    rw [opening, split, dropLast_dropLast, textOf_append, List.append_assoc]
    rfl
  obtain ⟨rest, whole⟩ : ∃ rest, lines engine host extensions options =
      header engine host extensions ++ rest := by
    apply Exists.intro
    simp only [lines, List.append_assoc]
    rfl
  refine ⟨'\n' :: textOf rest, ?_⟩
  rw [toList_driver, whole, textOf_append, first, List.append_assoc]
  rfl

def labelLine (name : String) : String := "    /* " ++ name ++ " */ &["

theorem labelLine_mem_lines (engine : Engine) (host : HostFragment)
    {extensions : List ExtensionFragment} (options : EmitOptions) {e : ExtensionFragment}
    (inside : e ∈ extensions) : labelLine e.name ∈ lines engine host extensions options := by
  have own : labelLine e.name ∈ extensionNames e.name e.terminalNames := List.mem_cons_self
  have listed : labelLine e.name ∈ (List.zipWith extensionNames
      (extensions.map ExtensionFragment.name)
      (NameTables.ofEngine engine host extensions).extensions).flatten := by
    rw [NameTables.ofEngine, List.zipWith_map, List.zipWith_self, ← List.flatMap_def]
    exact List.mem_flatMap.mpr ⟨e, inside, own⟩
  simp only [lines, nameTables, List.mem_append, listed, true_or, or_true]

/-- The comment with the name of an extension stands in every driver. -/
theorem exists_driver_label_eq (engine : Engine) (host : HostFragment)
    {extensions : List ExtensionFragment} (options : EmitOptions) {e : ExtensionFragment}
    (inside : e ∈ extensions) :
    ∃ before after, (engine.driver host extensions options).toList =
      before ++ label e.name.toList ++ " &[\n".toList ++ after := by
  obtain ⟨front, back, split⟩ :=
    List.append_of_mem (labelLine_mem_lines engine host options inside)
  refine ⟨textOf front ++ "    ".toList, textOf back, ?_⟩
  rw [toList_driver, split]
  simp [textOf, labelLine, label]

end ParserSplice.Emission

namespace ParserSplice.Engine

open Emission

variable (engine : Engine) (host : HostFragment) (extensions : List ExtensionFragment)

/-- The comments of a driver with names in them, and when they are comments. -/
structure KeepsComments (driver : String) : Prop where
  starts : ∃ rest, driver.toList = opening engine host extensions ++ '\n' :: rest
  first : IsComment (opening engine host extensions) ↔
    openAfterNames? 0 (headerNames engine host extensions) = some 0
  labels : ∀ e ∈ extensions, ∃ before after, driver.toList =
    before ++ label e.name.toList ++ " &[\n".toList ++ after
  others : ∀ e ∈ extensions, IsComment (label e.name.toList) ↔ openAfter? 0 e.name.toList = some 0
  unmarked : (∀ name ∈ headerNames engine host extensions, Unmarked name) →
    IsComment (opening engine host extensions) ∧ ∀ e ∈ extensions, IsComment (label e.name.toList)

/-- The names in the comments of a driver decide whether they end where they should. -/
theorem keepsComments (options : EmitOptions) :
    engine.KeepsComments host extensions (engine.driver host extensions options) := by
  have first := isComment_opening_iff engine host extensions
  refine ⟨exists_driver_eq engine host extensions options, first,
    fun e inside => exists_driver_label_eq engine host options inside,
    fun e _ => isComment_label_iff e.name.toList, fun unmarked => ⟨?_, fun e inside => ?_⟩⟩
  · exact first.mpr (openAfterNames?_of_unmarked 0 unmarked)
  · have listed : e.name ∈ headerNames engine host extensions :=
      List.mem_append_left _ (List.mem_map_of_mem inside)
    obtain ⟨unopened, unclosed⟩ := unmarked e.name listed
    exact (isComment_label_iff e.name.toList).mpr (openAfter?_of_unmarked 0 unopened unclosed)

/-- A name that is just a closing mark ends the opening comment in the line of its extension, and
the comment before the names of the extension in front of its own closing mark. -/
theorem uncommented_quotedHost : ∃ engine,
    (Composition.mk quotedHost [quotedBundle "*/"]).fragments =
      .ok (quotedHost, [quotedExtension "*/"]) ∧
    build quotedHost [quotedExtension "*/"] = .ok engine ∧
    ¬ IsComment (opening engine quotedHost [quotedExtension "*/"]) ∧
    ¬ IsComment (label (quotedExtension "*/").name.toList) := by
  obtain ⟨engine, parts, built, _⟩ := exists_quotedEngine "*/"
  refine ⟨engine, parts, built, fun comment => ?_, fun comment => ?_⟩
  · have kept := (isComment_opening_iff engine quotedHost [quotedExtension "*/"]).mp comment
    cases kept
  · have kept := (isComment_label_iff "*/".toList).mp comment
    cases kept

end ParserSplice.Engine
