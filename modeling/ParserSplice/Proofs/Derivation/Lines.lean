import Mathlib.Data.List.Basic
import ParserSplice.Derivation

set_option autoImplicit false

namespace ParserSplice.Derivation

/-- The text of a line; there is none past the last line. -/
def lineAt (lines : List String) (i : Nat) : String := lines[i]?.getD ""

theorem getElem?_eq_lineAt {lines : List String} {i : Nat} (inside : i < lines.length) :
    lines[i]? = some (lineAt lines i) := by
  simp [lineAt, inside]

theorem lineAt_eq {lines : List String} {i : Nat} {line : String}
    (found : lines[i]? = some line) : lineAt lines i = line := by
  simp [lineAt, found]

theorem toList_put (col : Nat) (text line : String) :
    (put col text line).toList =
      line.toList ++ List.replicate (col - line.length) ' ' ++ text.toList := by
  simp [put]

theorem length_put (col : Nat) (text line : String) :
    (put col text line).length = max line.length col + text.length := by
  simp only [put, String.length_append, String.length_ofList, List.length_replicate]
  omega

theorem length_putAt (lines : List String) (row col : Nat) (text : String) :
    (putAt lines row col text).length = max lines.length (row + 1) := by
  simp only [putAt, List.length_modify, List.length_append, List.length_replicate]
  omega

theorem lineAt_pad (lines : List String) (count i : Nat) :
    lineAt (lines ++ List.replicate count "") i = lineAt lines i := by
  simp only [lineAt, List.getElem?_append, List.getElem?_replicate]
  split
  · rfl
  · rw [List.getElem?_eq_none (by omega : lines.length ≤ i)]
    split <;> rfl

/-- Only the line of a symbol changes; lines that are added are empty. -/
theorem lineAt_putAt (lines : List String) (row col : Nat) (text : String) (i : Nat) :
    lineAt (putAt lines row col text) i =
      if i = row then put col text (lineAt lines i) else lineAt lines i := by
  rw [← lineAt_pad lines (row + 1 - lines.length) i, putAt]
  generalize padded : lines ++ List.replicate (row + 1 - lines.length) "" = all
  by_cases here : i = row
  · have inside : row < all.length := by
      simp only [← padded, List.length_append, List.length_replicate]
      omega
    simp [lineAt, here, inside]
  · simp [lineAt, here, Ne.symm here]

def Stands (line : String) (column : Nat) (text : String) : Prop :=
  ∃ front back, line.toList = front ++ text.toList ++ back ∧ front.length = column

/-- A line holds all that it held before, from its start on. -/
def Keeps (before after : String) : Prop := ∃ added, after = before ++ added

theorem Keeps.refl (line : String) : Keeps line line := ⟨"", by simp⟩

theorem Keeps.trans {first second third : String} (kept : Keeps first second)
    (kept' : Keeps second third) : Keeps first third := by
  obtain ⟨added, rfl⟩ := kept
  obtain ⟨more, rfl⟩ := kept'
  exact ⟨added ++ more, String.append_assoc⟩

theorem keeps_put (col : Nat) (text line : String) : Keeps line (put col text line) :=
  ⟨_, String.append_assoc⟩

theorem Stands.kept {before after text : String} {column : Nat}
    (stands : Stands before column text) (kept : Keeps before after) :
    Stands after column text := by
  obtain ⟨front, back, spelt, place⟩ := stands
  obtain ⟨added, rfl⟩ := kept
  exact ⟨front, back ++ added.toList, by simp [spelt], place⟩

/-- A symbol that is put past the end of its line stands at its column. -/
theorem stands_put {col : Nat} {line : String} (text : String) (short : line.length ≤ col) :
    Stands (put col text line) col text := by
  refine ⟨line.toList ++ List.replicate (col - line.length) ' ', [], ?_, ?_⟩
  · rw [toList_put, List.append_nil]
  · simp only [List.length_append, String.length_toList, List.length_replicate]
    omega

theorem getElem?_put {col : Nat} {text line : String} (short : line.length ≤ col) {c : Nat}
    {ch : Char} (found : (put col text line).toList[c]? = some ch) :
    line.toList[c]? = some ch ∨ ch = ' ' ∨ col ≤ c ∧ c < col + text.length := by
  simp only [toList_put, List.getElem?_append, List.length_append, List.length_replicate,
    String.length_toList, List.getElem?_replicate] at found
  split at found
  · split at found
    · exact Or.inl found
    · split at found
      · exact Or.inr (Or.inl (Option.some.inj found).symm)
      · cases found
  · have inside := (List.getElem?_eq_some_iff.mp found).1
    rw [String.length_toList] at inside
    exact Or.inr (Or.inr (by omega))

/-- A symbol with the place of its first character. -/
structure Mark where
  line : Nat
  column : Nat
  text : String

namespace Mark

/-- The column past the last character. -/
def stop (m : Mark) : Nat := m.column + m.text.length

/-- A character cell belongs to a symbol. -/
def Covers (m : Mark) (line column : Nat) : Prop :=
  m.line = line ∧ m.column ≤ column ∧ column < m.stop

def place (lines : List String) (m : Mark) : List String := putAt lines m.line m.column m.text

/-- Of two symbols on one line the first ends where the second starts, or before. -/
def Before (a b : Mark) : Prop := a.line = b.line → a.stop ≤ b.column

theorem Before.apart {a b : Mark} (before : a.Before b) (line column : Nat) :
    ¬ (a.Covers line column ∧ b.Covers line column) := by
  rintro ⟨⟨here, _, inside⟩, ⟨there, outside, _⟩⟩
  have := before (here.trans there.symm)
  omega

/-- A symbol fits if its line is no longer than its column. -/
def Fits (lines : List String) (m : Mark) : Prop := (lineAt lines m.line).length ≤ m.column

theorem Before.fits {lines : List String} {a b : Mark} (before : a.Before b) (first : a.Fits lines)
    (second : b.Fits lines) : b.Fits (a.place lines) := by
  rw [Fits, place, lineAt_putAt]
  split
  · next same =>
    have stop := before same.symm
    rw [length_put, same, Nat.max_eq_right first]
    exact stop
  · exact second

end Mark

variable {lines : List String} {marks : List Mark}

theorem length_foldl_place (marks : List Mark) (lines : List String) :
    (marks.foldl Mark.place lines).length =
      (marks.map (fun m => m.line + 1)).foldl max lines.length := by
  induction marks generalizing lines with
  | nil => rfl
  | cons m rest ih =>
    rw [List.foldl_cons, ih, Mark.place, length_putAt]
    rfl

theorem keeps_foldl_place (marks : List Mark) (lines : List String) (i : Nat) :
    Keeps (lineAt lines i) (lineAt (marks.foldl Mark.place lines) i) := by
  induction marks generalizing lines with
  | nil => exact Keeps.refl _
  | cons m rest ih =>
    refine Keeps.trans ?_ (ih (m.place lines))
    rw [Mark.place, lineAt_putAt]
    split
    · exact keeps_put _ _ _
    · exact Keeps.refl _

/-- Lines without a symbol stay as they are. -/
theorem lineAt_foldl_place_of_none {i : Nat} (none : ∀ m ∈ marks, m.line ≠ i) :
    lineAt (marks.foldl Mark.place lines) i = lineAt lines i := by
  induction marks generalizing lines with
  | nil => rfl
  | cons m rest ih =>
    obtain ⟨first, others⟩ := List.forall_mem_cons.mp none
    rw [List.foldl_cons, ih others, Mark.place, lineAt_putAt, if_neg (Ne.symm first)]

/-- Symbols that are put from left to right all stand where they were put. -/
theorem stands_of_ordered (ordered : marks.Pairwise Mark.Before)
    (fit : ∀ m ∈ marks, m.Fits lines) :
    ∀ m ∈ marks, Stands (lineAt (marks.foldl Mark.place lines) m.line) m.column m.text := by
  induction marks generalizing lines with
  | nil => simp
  | cons m rest ih =>
    obtain ⟨before, later⟩ := List.pairwise_cons.mp ordered
    obtain ⟨first, others⟩ := List.forall_mem_cons.mp fit
    rw [List.forall_mem_cons]
    constructor
    · refine Stands.kept ?_ (keeps_foldl_place rest (m.place lines) m.line)
      rw [Mark.place, lineAt_putAt, if_pos rfl]
      exact stands_put m.text first
    · exact ih later (fun b inside => (before b inside).fits first (others b inside))

/-- What is on a line was there before, is a blank, or belongs to a symbol. -/
theorem cases_of_ordered (ordered : marks.Pairwise Mark.Before)
    (fit : ∀ m ∈ marks, m.Fits lines) {i c : Nat} {ch : Char}
    (found : (lineAt (marks.foldl Mark.place lines) i).toList[c]? = some ch) :
    (lineAt lines i).toList[c]? = some ch ∨ ch = ' ' ∨ ∃ m ∈ marks, m.Covers i c := by
  induction marks generalizing lines with
  | nil => exact Or.inl found
  | cons m rest ih =>
    obtain ⟨before, later⟩ := List.pairwise_cons.mp ordered
    obtain ⟨first, others⟩ := List.forall_mem_cons.mp fit
    rcases ih later (fun b inside => (before b inside).fits first (others b inside)) found with
      old | blank | ⟨b, inside, covers⟩
    · rw [Mark.place, lineAt_putAt] at old
      split at old
      · next here =>
        subst here
        rcases getElem?_put first old with old | blank | covered
        · exact Or.inl old
        · exact Or.inr (Or.inl blank)
        · exact Or.inr (Or.inr ⟨m, List.mem_cons_self, rfl, covered⟩)
      · exact Or.inl old
    · exact Or.inr (Or.inl blank)
    · exact Or.inr (Or.inr ⟨b, List.mem_cons_of_mem _ inside, covers⟩)

end ParserSplice.Derivation
