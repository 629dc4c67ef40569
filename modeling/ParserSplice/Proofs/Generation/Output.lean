import ParserSplice.Generation.Basic
import ParserSplice.Proofs.Traversal

set_option autoImplicit false

namespace ParserSplice

namespace Path

def names (parts : List (List Char)) : Path :=
  (parts.map String.ofList).filter (fun name => name != "" && name != ".")

theorem names_append (first second : List (List Char)) :
    names (first ++ second) = names first ++ names second := by
  rw [names, List.map_append, List.filter_append, names, names]

theorem splitFrom_slash (current front rest : List Char) :
    splitFrom current (front ++ '/' :: rest) = splitFrom current front ++ splitFrom [] rest := by
  induction front generalizing current with
  | nil => simp [splitFrom]
  | cons c front ih =>
    by_cases slash : c = '/'
    · subst slash
      simp [splitFrom, ih]
    · simp [splitFrom, slash, ih]

theorem splitFrom_of_no_slash (current text : List Char) (plain : '/' ∉ text) :
    splitFrom current text = [current.reverse ++ text] := by
  induction text generalizing current with
  | nil => simp [splitFrom]
  | cons c rest ih =>
    obtain ⟨other, later⟩ := not_or.mp (fun inside => plain (List.mem_cons.mpr inside))
    have next : c ≠ '/' := fun same => other same.symm
    simp [splitFrom, next, ih _ later]

/-- Text that names one file or directory, wherever it stands on a path. -/
structure IsName (text : String) : Prop where
  plain : '/' ∉ text.toList
  written : text ≠ ""
  notHere : text ≠ "."
  notBack : text ≠ ".."

variable {base text : String}

theorem IsName.names_eq (named : IsName text) : names (splitFrom [] text.toList) = [text] := by
  rw [splitFrom_of_no_slash _ _ named.plain]
  simp [names, named.written, named.notHere]

/-- Behind a slash a name comes last on the path. -/
theorem IsName.ofText_slash (named : IsName text) {front : List Char} {whole : String}
    (split : whole.toList = front ++ '/' :: text.toList) :
    ofText whole = names (splitFrom [] front) ++ [text] := by
  rw [ofText, split, splitFrom_slash]
  exact (names_append _ _).trans (by rw [named.names_eq])

/-- A name that is written below a path comes after the names on it. -/
theorem IsName.ofText_join (named : IsName text) :
    ofText (join base text) = ofText base ++ [text] := by
  have relative : text.toList.head? ≠ some '/' :=
    fun first => named.plain (List.mem_of_mem_head? first)
  unfold join
  split
  · next start =>
    obtain rfl : base = "" := by simpa [relative] using start
    exact named.names_eq
  · split
    · next closed =>
      obtain ⟨front, ends⟩ := List.getLast?_eq_some_iff.mp (beq_iff_eq.mp closed)
      have split : (base ++ text).toList = front ++ '/' :: text.toList := by simp [ends]
      have before : ofText base = names (splitFrom [] front) := by
        rw [ofText, ends, splitFrom_slash]
        exact (names_append _ _).trans (List.append_nil _)
      rw [named.ofText_slash split, before]
    · have split : (base ++ "/" ++ text).toList = base.toList ++ '/' :: text.toList := by simp
      exact named.ofText_slash split

theorem utf8ByteSize_le_join (named : IsName text) :
    base.utf8ByteSize ≤ (join base text).utf8ByteSize := by
  have relative : text.toList.head? ≠ some '/' :=
    fun first => named.plain (List.mem_of_mem_head? first)
  unfold join
  split
  · next start =>
    obtain rfl : base = "" := by simpa [relative] using start
    exact Nat.zero_le _
  · split
    · rw [String.utf8ByteSize_append]
      exact Nat.le_add_right _ _
    · rw [String.utf8ByteSize_append, String.utf8ByteSize_append]
      omega

end Path

namespace Storage

variable (s : Storage)

/-- The last name on a path leads one step further. -/
theorem follow_concat {name : String} (forward : name ≠ "..") (back front : Path) :
    s.follow back (front ++ [name]) = (s.follow back front).map (fun place => place ++ [name]) := by
  induction front generalizing back with
  | nil => simp [follow, forward]
  | cons first rest ih =>
    simp only [List.cons_append, follow, ih]
    by_cases up : first = ".."
    · rw [if_pos up, if_pos up]
      split <;> rfl
    · rw [if_neg up, if_neg up]

/-- What is written below a directory by its name lies directly in the directory. -/
theorem find_join {base text : String} (named : Path.IsName text) {place : Path}
    (found : s.find (Path.join base text) = some place) :
    ∃ parent, s.find base = some parent ∧ place = parent ++ [text] := by
  unfold find at found ⊢
  split at found
  · next short =>
    rw [named.ofText_join, follow_concat s named.notBack] at found
    obtain ⟨parent, reached, rfl⟩ := Option.map_eq_some_iff.mp found
    rw [if_pos (Nat.le_trans (Path.utf8ByteSize_le_join named) short)]
    exact ⟨parent, reached, rfl⟩
  · cases found

theorem directory_of_canOpen {parent : Path} {name : String}
    (opened : s.canOpen (parent ++ [name]) = true) : s.at? parent = some .directory := by
  simp only [canOpen, List.getLast?_concat, List.dropLast_concat, Bool.and_eq_true] at opened
  exact beq_iff_eq.mp opened.1.2

theorem exists_save_iff (place : Path) (content : List UInt8) :
    (∃ t, s.save place content = some t) ↔ s.canOpen place = true := by
  unfold save
  by_cases opened : s.canOpen place = true <;> simp [opened]

end Storage

section Names

variable {c : Char}

theorem mem_camelCaseFrom (kept : Unicode.toUpper c = [c]) (apart : ¬ (c = '_' ∨ c = '-'))
    (raise : Bool) {text : List Char} (inside : c ∈ text) : c ∈ camelCaseFrom raise text := by
  induction text generalizing raise with
  | nil => cases inside
  | cons first rest ih =>
    unfold camelCaseFrom
    rcases List.mem_cons.mp inside with rfl | later
    · rw [if_neg apart]
      cases raise <;> simp [kept]
    · split
      · exact ih true later
      · split
        · exact List.mem_append_right _ (ih false later)
        · exact List.mem_cons_of_mem _ (ih false later)

theorem isAlphanum_of_isIdentifier {text : String} (identifier : isIdentifier text = true)
    (inside : c ∈ text.toList) : (c.isAlphanum || c == '_') = true := by
  unfold isIdentifier at identifier
  split at identifier
  · cases identifier
  · next first rest spelt =>
    obtain ⟨start, others⟩ := Bool.and_eq_true_iff.mp identifier
    rw [spelt] at inside
    rcases List.mem_cons.mp inside with rfl | later
    · rcases Bool.or_eq_true_iff.mp start with letter | underscore
      · simp [Char.isAlphanum, letter]
      · simp [underscore]
    · exact List.all_eq_true.mp others c later

theorem toUpper_of_not_isAlphanum (ascii : c.toNat < 128) (other : c.isAlphanum = false) :
    Unicode.toUpper c = [c] := by
  have notLower : ¬ ('a'.val ≤ c.val ∧ c.val ≤ 'z'.val) := by
    intro within
    have lower : c.isLower = true :=
      Bool.and_eq_true_iff.mpr ⟨decide_eq_true within.1, decide_eq_true within.2⟩
    have letter : c.isAlpha = true := Bool.or_eq_true_iff.mpr (Or.inr lower)
    have alphanumeric : c.isAlphanum = true := Bool.or_eq_true_iff.mpr (Or.inl letter)
    rw [other] at alphanumeric
    cases alphanumeric
  have kept : c.toUpper = c := dif_neg notLower
  rw [Unicode.toUpper, if_pos ascii, kept]

/-- All other characters of a name are dropped or raised to letters in camel case, so of the ASCII
characters only these may stand in it. -/
theorem name_of_isIdentifier {name : String} (identifier : isIdentifier (camelCase name) = true)
    (inside : c ∈ name.toList) (ascii : c.toNat < 128) :
    c.isAlphanum = true ∨ c = '_' ∨ c = '-' := by
  by_contra refused
  obtain ⟨other, apart⟩ := not_or.mp refused
  have kept := toUpper_of_not_isAlphanum ascii (Bool.not_eq_true _ ▸ other)
  have converted : c ∈ (camelCase name).toList := by
    rw [camelCase, String.toList_ofList]
    exact mem_camelCaseFrom kept apart true inside
  have allowed := isAlphanum_of_isIdentifier identifier converted
  rcases Bool.or_eq_true_iff.mp allowed with alphanumeric | underscore
  · exact other alphanumeric
  · exact apart (Or.inl (beq_iff_eq.mp underscore))

/-- The file of a driver has a name of its own. -/
theorem isName_of_isIdentifier {name : String}
    (identifier : isIdentifier (camelCase name) = true) : Path.IsName (name ++ ".rs") := by
  have long : 3 ≤ (name ++ ".rs").toList.length := by simp
  refine ⟨fun inside => ?_, fun same => ?_, fun same => ?_, fun same => ?_⟩
  · rw [String.toList_append, List.mem_append] at inside
    rcases inside with early | late
    · exact absurd (name_of_isIdentifier identifier early (by decide)) (by decide)
    · exact absurd late (by decide)
  · rw [same] at long
    exact absurd long (by decide)
  · rw [same] at long
    exact absurd long (by decide)
  · rw [same] at long
    exact absurd long (by decide)

end Names

namespace Generation

theorem lift_eq_ok_iff {α : Type} (result : Except CompositionError α) (value : α) :
    lift result = .ok value ↔ result = .ok value := by
  cases result <;> simp [lift, Except.mapError]

section By

variable (scan : OrderedMap String → Except CompositionError (ScannerTable × ScannerSets))

/-- A text is that of the driver for the bytes of a composition, with its parser named after the
output and scanners made in some way. -/
def DriverFor (input : List UInt8) (name text : String) : Prop :=
  ∃ composition host extensions engine, Composition.readBytes input = some composition ∧
    composition.fragments = .ok (host, extensions) ∧
    Engine.buildBy scan host extensions = .ok engine ∧
    text = engine.driver host extensions ⟨camelCase name, none⟩

end By

theorem named_eq_ok_iff (name : String) (options : EmitOptions) :
    EmitOptions.named name = .ok options ↔ isIdentifier name = true ∧ ⟨name, none⟩ = options := by
  unfold EmitOptions.named
  by_cases identifier : isIdentifier name = true <;> simp [identifier]

variable {scan : OrderedMap String → Except CompositionError (ScannerTable × ScannerSets)}

theorem driverText_eq_ok_iff (input : List UInt8) (name text : String) :
    driverTextBy scan input name = .ok text ↔
      isIdentifier (camelCase name) = true ∧ DriverFor scan input name text := by
  unfold driverTextBy DriverFor
  cases Composition.readBytes input with
  | none => simp
  | some composition =>
    simp only [bind_eq_ok_iff, lift_eq_ok_iff, named_eq_ok_iff, pure_eq_ok_iff]
    constructor
    · intro given
      obtain ⟨_, ⟨identifier, rfl⟩, ⟨host, extensions⟩, parts, engine, built, rfl⟩ := given
      exact ⟨identifier, composition, host, extensions, engine, rfl, parts, built, rfl⟩
    · intro given
      obtain ⟨identifier, _, host, extensions, engine, same, parts, built, rfl⟩ := given
      cases same
      exact ⟨_, ⟨identifier, rfl⟩, (host, extensions), parts, engine, built, rfl⟩

variable {inputPath directory name : String} {s t : Storage}

/-- The steps of a run that succeeds. -/
theorem run_eq_ok_iff (path : String) : runBy scan inputPath directory name s = (.ok path, t) ↔
    path = outputPath directory name ∧ ∃ input text place,
      (s.find inputPath).bind s.read = some input ∧ driverTextBy scan input name = .ok text ∧
      s.find (outputPath directory name) = some place ∧
      s.save place text.toUTF8.data.toList = some t := by
  constructor
  · intro finished
    unfold runBy at finished
    split at finished
    · cases finished
    · next input readable =>
      split at finished
      · cases finished
      · next text made =>
        dsimp only at finished
        split at finished
        · cases finished
        · next saved written =>
          cases finished
          obtain ⟨place, found, stored⟩ := Option.bind_eq_some_iff.mp written
          exact ⟨rfl, input, text, place, readable, made, found, stored⟩
  · intro given
    obtain ⟨rfl, input, text, place, readable, made, found, stored⟩ := given
    simp only [runBy, readable, made, found, Option.bind_some, stored]

theorem run_eq_error {e : GenerationError}
    (failed : runBy scan inputPath directory name s = (.error e, t)) : t = s := by
  unfold runBy at failed
  split at failed
  · cases failed
    rfl
  · split at failed
    · cases failed
      rfl
    · dsimp only at failed
      split at failed
      · cases failed
        rfl
      · cases failed

theorem lift_eq_error {α : Type} {result : Except CompositionError α} {e : GenerationError}
    (failed : lift result = .error e) : ∃ fault, e = .composition fault := by
  cases result with
  | ok value => cases failed
  | error fault =>
    cases failed
    exact ⟨fault, rfl⟩

/-- A driver that cannot be made is no matter of the output. -/
theorem driverText_ne_unwritable (input : List UInt8) (name path : String) :
    driverTextBy scan input name ≠ .error (.unwritableOutput path) := by
  intro failed
  unfold driverTextBy at failed
  split at failed
  · cases failed
  · simp only [bind_eq_error_iff] at failed
    rcases failed with options | ⟨_, _, parts | ⟨_, _, engine | ⟨_, _, finished⟩⟩⟩
    · obtain ⟨_, impossible⟩ := lift_eq_error options
      cases impossible
    · obtain ⟨_, impossible⟩ := lift_eq_error parts
      cases impossible
    · obtain ⟨_, impossible⟩ := lift_eq_error engine
      cases impossible
    · cases finished

/-- The output is only opened once the driver has been made. -/
theorem run_eq_unwritable {path : String}
    (failed : runBy scan inputPath directory name s = (.error (.unwritableOutput path), t)) :
    path = outputPath directory name ∧ ∃ input text,
      (s.find inputPath).bind s.read = some input ∧ driverTextBy scan input name = .ok text := by
  unfold runBy at failed
  split at failed
  · cases failed
  · next input readable =>
    split at failed
    · next e made =>
      cases failed
      exact absurd made (driverText_ne_unwritable input name path)
    · next text made =>
      dsimp only at failed
      split at failed
      · cases failed
        exact ⟨rfl, input, text, readable, made⟩
      · cases failed

/-- A run that fails changes nothing, and finds the output unwritable only after the driver has been
made. A run that succeeds writes the driver to one file of the output directory. -/
structure WritesOneFile
    (scan : OrderedMap String → Except CompositionError (ScannerTable × ScannerSets))
    (inputPath directory name : String) (s : Storage) : Prop where
  failed : ∀ e t, runBy scan inputPath directory name s = (.error e, t) → t = s
  unwritable : ∀ path t, runBy scan inputPath directory name s = (.error (.unwritableOutput path), t) →
    path = outputPath directory name ∧ isIdentifier (camelCase name) = true ∧
      ∃ input text, (s.find inputPath).bind s.read = some input ∧ DriverFor scan input name text
  succeeds : (∃ path t, runBy scan inputPath directory name s = (.ok path, t)) ↔
    isIdentifier (camelCase name) = true ∧ ∃ input text place,
      (s.find inputPath).bind s.read = some input ∧ DriverFor scan input name text ∧
      s.find (outputPath directory name) = some place ∧ s.canOpen place = true
  written : ∀ path t, runBy scan inputPath directory name s = (.ok path, t) →
    path = outputPath directory name ∧ ∃ input text parent,
      (s.find inputPath).bind s.read = some input ∧ DriverFor scan input name text ∧
      s.find directory = some parent ∧ s.at? parent = some .directory ∧
      s.find path = some (parent ++ [name ++ ".rs"]) ∧
      t.at? (parent ++ [name ++ ".rs"]) = some (.file text.toUTF8.data.toList) ∧
      ∀ other, other ≠ parent ++ [name ++ ".rs"] → t.at? other = s.at? other
  named : ∀ path t, runBy scan inputPath directory name s = (.ok path, t) →
    '/' ∉ name.toList ∧ '\\' ∉ name.toList

/-- In whatever way scanners are made, a run either changes nothing or writes one file of the output
directory. -/
theorem writesOneFile
    (scan : OrderedMap String → Except CompositionError (ScannerTable × ScannerSets))
    (inputPath directory name : String) (s : Storage) :
    WritesOneFile scan inputPath directory name s := by
  refine {
    failed := fun e t => run_eq_error
    unwritable := fun path t refused => ?_
    succeeds := ⟨fun given => ?_, fun given => ?_⟩
    written := fun path t finished => ?_
    named := fun path t finished => ?_ }
  · obtain ⟨same, input, text, readable, made⟩ := run_eq_unwritable refused
    obtain ⟨identifier, driver⟩ := (driverText_eq_ok_iff input name text).mp made
    exact ⟨same, identifier, input, text, readable, driver⟩
  · obtain ⟨path, t, finished⟩ := given
    obtain ⟨_, input, text, place, readable, made, found, stored⟩ :=
      (run_eq_ok_iff path).mp finished
    obtain ⟨identifier, driver⟩ := (driverText_eq_ok_iff input name text).mp made
    have opened := (s.exists_save_iff place _).mp ⟨t, stored⟩
    exact ⟨identifier, input, text, place, readable, driver, found, opened⟩
  · obtain ⟨identifier, input, text, place, readable, driver, found, opened⟩ := given
    have made := (driverText_eq_ok_iff input name text).mpr ⟨identifier, driver⟩
    obtain ⟨t, stored⟩ := (s.exists_save_iff place text.toUTF8.data.toList).mpr opened
    exact ⟨_, t, (run_eq_ok_iff _).mpr ⟨rfl, input, text, place, readable, made, found, stored⟩⟩
  · obtain ⟨rfl, input, text, place, readable, made, found, stored⟩ :=
      (run_eq_ok_iff path).mp finished
    obtain ⟨identifier, driver⟩ := (driverText_eq_ok_iff input name text).mp made
    obtain ⟨parent, reached, rfl⟩ := s.find_join (isName_of_isIdentifier identifier) found
    have directoryThere := s.directory_of_canOpen ((s.exists_save_iff _ _).mp ⟨t, stored⟩)
    have contents := fun other => s.at?_save t _ other _ stored
    refine ⟨rfl, input, text, parent, readable, driver, reached, directoryThere, found, ?_, ?_⟩
    · rw [contents, if_pos rfl]
    · intro other apart
      rw [contents, if_neg apart]
  · obtain ⟨_, input, text, _, _, made, _, _⟩ := (run_eq_ok_iff path).mp finished
    obtain ⟨identifier, _⟩ := (driverText_eq_ok_iff input name text).mp made
    have plain : ∀ c : Char, c.toNat < 128 → ¬ (c.isAlphanum = true ∨ c = '_' ∨ c = '-') →
        c ∉ name.toList :=
      fun c ascii other inside => other (name_of_isIdentifier identifier inside ascii)
    exact ⟨plain '/' (by decide) (by decide), plain '\\' (by decide) (by decide)⟩

end Generation

end ParserSplice
