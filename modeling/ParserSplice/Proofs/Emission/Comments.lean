import ParserSplice.Proofs.Emission.Lexing

set_option autoImplicit false

namespace ParserSplice.Emission

open Lexer (run step)

/-- A text that is one block comment. The comment is opened by its first two characters and is not
closed before its last. -/
def IsComment (text : List Char) : Prop :=
  ∃ body, text = '/' :: '*' :: body ∧ run ⟨.comment 0 none, []⟩ body = some ⟨.between, []⟩ ∧
    ∀ front, front <+: body → front ≠ body → ∃ depth previous,
      run ⟨.comment 0 none, []⟩ front = some ⟨.comment depth previous, []⟩

theorem IsComment.lexes {text : List Char} (comment : IsComment text) : Lexes text [] := by
  obtain ⟨body, rfl, closed, _⟩ := comment
  exact closed

/-- Number of open comments behind a text, when some are open before it. There is none if the text
closes more than are open. -/
def openAfter? : Nat → List Char → Option Nat
  | depth, [] => some depth
  | depth, [_] => some depth
  | depth, a :: b :: rest =>
    if a = '/' ∧ b = '*' then openAfter? (depth + 1) rest
    else if a = '*' ∧ b = '/' then
      match depth with
      | 0 => none
      | depth + 1 => openAfter? depth rest
    else openAfter? depth (b :: rest)

/-- A character that is not part of a mark. -/
def Neutral (c : Char) : Prop := c ≠ '/' ∧ c ≠ '*'

instance (c : Char) : Decidable (Neutral c) := inferInstanceAs (Decidable (_ ∧ _))

section Runs

variable {depth after : Nat} {text : List Char} {c : Char}

/-- In a comment, a character closes the last open one, or what is open behind the text is decided
by what is read after it. -/
theorem step_comment (depth : Nat) (previous : Option Char) (c : Char) (rest : List Char) :
    (step ⟨.comment depth previous, []⟩ c = some ⟨.between, []⟩ ∧
      openAfter? depth (previous.toList ++ c :: rest) = none) ∨
    ∃ depth' previous',
      step ⟨.comment depth previous, []⟩ c = some ⟨.comment depth' previous', []⟩ ∧
      openAfter? depth (previous.toList ++ c :: rest) =
        openAfter? depth' (previous'.toList ++ rest) := by
  by_cases opens : previous = some '/' ∧ c = '*'
  · obtain ⟨rfl, rfl⟩ := opens
    exact Or.inr ⟨depth + 1, none, rfl, rfl⟩
  · by_cases closes : previous = some '*' ∧ c = '/'
    · obtain ⟨rfl, rfl⟩ := closes
      cases depth with
      | zero => exact Or.inl ⟨rfl, rfl⟩
      | succ depth => exact Or.inr ⟨depth, none, rfl, rfl⟩
    · refine Or.inr ⟨depth, some c, by simp only [step, opens, closes, if_false], ?_⟩
      cases previous with
      | none => rfl
      | some a =>
        simp only [Option.some.injEq] at opens closes
        simp only [Option.toList_some, List.singleton_append, openAfter?, opens, closes, if_false]

/-- While the marks of a text keep a comment open, all of the text is inside. -/
theorem run_of_openAfter (previous : Option Char) (text : List Char)
    (kept : openAfter? depth (previous.toList ++ text) = some after) :
    (∃ last, run ⟨.comment depth previous, []⟩ text = some ⟨.comment after last, []⟩) ∧
      ∀ front, front <+: text → ∃ inside last,
        run ⟨.comment depth previous, []⟩ front = some ⟨.comment inside last, []⟩ := by
  induction text generalizing depth previous with
  | nil =>
    have same : depth = after := by
      cases previous <;> simpa [openAfter?] using kept
    refine ⟨⟨previous, same ▸ rfl⟩, fun front within => ?_⟩
    rw [List.prefix_nil.mp within]
    exact ⟨depth, previous, rfl⟩
  | cons c rest ih =>
    rcases step_comment depth previous c rest with ⟨_, none⟩ | ⟨depth', previous', taken, same⟩
    · rw [none] at kept
      cases kept
    · obtain ⟨⟨last, whole⟩, inside⟩ := ih previous' (same ▸ kept)
      refine ⟨⟨last, by rw [Lexer.run_cons_of_step taken, whole]⟩, fun front within => ?_⟩
      rcases List.prefix_cons_iff.mp within with rfl | ⟨front, rfl, later⟩
      · exact ⟨depth, previous, rfl⟩
      · rw [Lexer.run_cons_of_step taken]
        exact inside front later

/-- A text that closes more comments than are open leaves the comment before its end. -/
theorem run_of_openAfter_none (previous : Option Char) (text : List Char)
    (left : openAfter? depth (previous.toList ++ text) = none) :
    ∃ front, front <+: text ∧ run ⟨.comment depth previous, []⟩ front = some ⟨.between, []⟩ := by
  induction text generalizing depth previous with
  | nil => cases previous <;> simp [openAfter?] at left
  | cons c rest ih =>
    rcases step_comment depth previous c rest with ⟨taken, _⟩ | ⟨depth', previous', taken, same⟩
    · refine ⟨[c], ?_, Lexer.run_cons_of_step taken []⟩
      exact List.prefix_cons_iff.mpr (Or.inr ⟨[], rfl, List.nil_prefix⟩)
    · obtain ⟨front, within, ran⟩ := ih previous' (same ▸ left)
      refine ⟨c :: front, List.prefix_cons_inj c |>.mpr within, ?_⟩
      rw [Lexer.run_cons_of_step taken, ran]

/-- Behind a character that is not part of a mark, a closing mark closes one comment. -/
theorem run_closing (neutral : Neutral c) (kept : openAfter? depth (text ++ [c]) = some after) :
    run ⟨.comment depth none, []⟩ (text ++ [c] ++ ['*']) = some ⟨.comment after (some '*'), []⟩ ∧
      run ⟨.comment depth none, []⟩ (text ++ [c] ++ ['*', '/']) =
        some ⟨if after = 0 then .between else .comment (after - 1) none, []⟩ := by
  obtain ⟨⟨last, whole⟩, inside⟩ := run_of_openAfter none (text ++ [c]) kept
  obtain ⟨before, other, ran⟩ := inside text (List.prefix_append text [c])
  have stays : run ⟨.comment depth none, []⟩ (text ++ [c]) =
      some ⟨.comment before (some c), []⟩ := by
    rw [Lexer.run_append, ran]
    simp [run, step, neutral.1, neutral.2]
  obtain ⟨rfl, rfl⟩ : before = after ∧ some c = last := by simpa [stays] using whole
  rw [Lexer.run_append _ (text ++ [c]), Lexer.run_append _ (text ++ [c]), stays]
  simp [run, step, neutral.1]

/-- A text between the marks of a comment stays inside it, and leaves it to the last mark to close
it, exactly if its own marks do. -/
theorem isComment_iff (neutral : Neutral c) :
    IsComment ("/*".toList ++ (text ++ [c]) ++ "*/".toList) ↔
      openAfter? 0 (text ++ [c]) = some 0 := by
  constructor
  · intro comment
    obtain ⟨body, same, closed, inside⟩ := comment
    obtain rfl : text ++ [c] ++ ['*', '/'] = body := by simpa using same
    cases found : openAfter? 0 (text ++ [c]) with
    | none =>
      obtain ⟨front, within, ran⟩ := run_of_openAfter_none none (text ++ [c]) found
      have short : front.length < (text ++ [c] ++ ['*', '/']).length := by
        have bound := within.length_le
        simp only [List.length_append, List.length_cons, List.length_nil] at bound ⊢
        omega
      obtain ⟨depth, last, stays⟩ := inside front (within.trans (List.prefix_append _ _))
        (fun same => absurd (same ▸ short) (Nat.lt_irrefl _))
      rw [ran] at stays
      cases stays
    | some after =>
      rw [(run_closing neutral found).2] at closed
      by_cases final : after = 0
      · rw [final]
      · rw [if_neg final] at closed
        cases closed
  · intro kept
    obtain ⟨star, closed⟩ := run_closing neutral kept
    refine ⟨text ++ [c] ++ ['*', '/'], by simp, closed, fun front within proper => ?_⟩
    have split : text ++ [c] ++ ['*', '/'] = text ++ [c] ++ ['*'] ++ ['/'] := by simp
    rw [split] at within proper
    rcases List.prefix_concat_iff.mp within with whole | within
    · exact absurd whole proper
    · rcases List.prefix_concat_iff.mp within with rfl | within
      · exact ⟨_, _, star⟩
      · exact (run_of_openAfter none (text ++ [c]) kept).2 front within

end Runs

theorem openAfter?_neutral {c : Char} (neutral : Neutral c) (depth : Nat) (rest : List Char) :
    openAfter? depth (c :: rest) = openAfter? depth rest := by
  cases rest with
  | nil => rfl
  | cons next rest => simp [openAfter?, neutral.1, neutral.2]

/-- A character that is not part of a mark keeps the marks before it apart from those behind. -/
theorem openAfter?_break {c : Char} (neutral : Neutral c) (depth : Nat) (text rest : List Char) :
    openAfter? depth (text ++ c :: rest) =
      (openAfter? depth text).bind (fun after => openAfter? after rest) := by
  fun_induction openAfter? depth text with
  | case1 depth => exact openAfter?_neutral neutral depth rest
  | case2 depth only =>
    have apart : ¬ (only = '/' ∧ c = '*') ∧ ¬ (only = '*' ∧ c = '/') :=
      ⟨fun same => neutral.2 same.2, fun same => neutral.1 same.2⟩
    simp only [List.singleton_append, openAfter?, apart, if_false, Option.bind_some]
    exact openAfter?_neutral neutral depth rest
  | case3 depth a b tail opens ih => simpa [openAfter?, opens] using ih
  | case4 a b tail _ closes => simp [openAfter?, closes]
  | case5 a b tail _ closes depth ih => simpa [openAfter?, closes] using ih
  | case6 depth a b tail opens closes ih =>
    simpa only [List.cons_append, openAfter?, opens, closes, if_false] using ih

/-- Without a mark, as many comments are open behind a text as before it. -/
theorem openAfter?_of_unmarked {text : List Char} (depth : Nat)
    (unopened : ¬ ['/', '*'] <:+: text) (unclosed : ¬ ['*', '/'] <:+: text) :
    openAfter? depth text = some depth := by
  fun_induction openAfter? depth text with
  | case1 => rfl
  | case2 => rfl
  | case3 depth a b tail opens ih =>
    obtain ⟨rfl, rfl⟩ := opens
    exact absurd (List.prefix_append ['/', '*'] tail).isInfix unopened
  | case4 a b tail _ closes =>
    obtain ⟨rfl, rfl⟩ := closes
    exact absurd (List.prefix_append ['*', '/'] tail).isInfix unclosed
  | case5 a b tail _ closes depth ih =>
    obtain ⟨rfl, rfl⟩ := closes
    exact absurd (List.prefix_append ['*', '/'] tail).isInfix unclosed
  | case6 depth a b tail opens closes ih =>
    have within := (List.suffix_cons a (b :: tail)).isInfix
    exact ih (fun found => unopened (found.trans within))
      (fun found => unclosed (found.trans within))

theorem openAfter?_of_no_star {text : List Char} (depth : Nat) (plain : '*' ∉ text) :
    openAfter? depth text = some depth :=
  openAfter?_of_unmarked depth (fun found => plain (found.subset (by decide)))
    (fun found => plain (found.subset (by decide)))

theorem openAfter?_of_no_slash {text : List Char} (depth : Nat) (plain : '/' ∉ text) :
    openAfter? depth text = some depth :=
  openAfter?_of_unmarked depth (fun found => plain (found.subset (by decide)))
    (fun found => plain (found.subset (by decide)))

/-- The comment before the entries of a table, from what it says. -/
def label (text : List Char) : List Char := "/* ".toList ++ text ++ " */".toList

theorem isComment_label_iff (text : List Char) :
    IsComment (label text) ↔ openAfter? 0 text = some 0 := by
  have spaces : label text = "/*".toList ++ (' ' :: text ++ [' ']) ++ "*/".toList := by
    simp [label]
  have space : Neutral ' ' := by decide
  rw [spaces, isComment_iff space, List.cons_append, openAfter?_neutral space,
    openAfter?_break space]
  cases openAfter? 0 text <;> rfl

/-- Number of open comments behind some names, which are read one by one. -/
def openAfterNames? (depth : Nat) (names : List String) : Option Nat :=
  names.foldlM (fun depth name => openAfter? depth name.toList) depth

/-- The marks of a text are those of names that stand in it. No mark lies partly outside a name. -/
def MarksOf (text : List Char) (names : List String) : Prop :=
  ∀ depth rest, openAfter? depth (text ++ rest) =
    (openAfterNames? depth names).bind (fun after => openAfter? after rest)

/-- Whether no character of a text is part of a mark. -/
def Quiet (text : List Char) : Prop := ∀ c ∈ text, Neutral c

instance (text : List Char) : Decidable (Quiet text) := List.decidableBAll Neutral text

theorem quiet_append (front rest : List Char) : Quiet (front ++ rest) ↔ Quiet front ∧ Quiet rest :=
  List.forall_mem_append

theorem quiet_number (n : Nat) : Quiet (toString n).toList := by
  intro c inside
  have digits : (toString n).toList = Nat.toDigits 10 n := Nat.toList_repr
  have digit := List.all_eq_true.mp (Json.all_isDigit_toDigits n) c (digits ▸ inside)
  refine ⟨fun same => ?_, fun same => ?_⟩
  · rw [same] at digit
    exact absurd digit (by decide)
  · rw [same] at digit
    exact absurd digit (by decide)

section Marks

variable {text other : List Char} {names others : List String}

theorem MarksOf.append (first : MarksOf text names) (second : MarksOf other others) :
    MarksOf (text ++ other) (names ++ others) := by
  intro depth rest
  rw [List.append_assoc, first]
  simp only [second _ rest, openAfterNames?, List.foldlM_append, Option.bind_eq_bind,
    Option.bind_assoc]

theorem marksOf_quiet (quiet : Quiet text) : MarksOf text [] := by
  intro depth rest
  induction text with
  | nil => rfl
  | cons c text ih =>
    obtain ⟨neutral, later⟩ := List.forall_mem_cons.mp quiet
    rw [List.cons_append, openAfter?_neutral neutral, ih later]

theorem marksOf_name (name : String) {c : Char} (neutral : Neutral c) :
    MarksOf (name.toList ++ [c]) [name] := by
  intro depth rest
  rw [List.append_assoc, List.singleton_append, openAfter?_break neutral]
  simp [openAfterNames?]

theorem marksOf_of_no_star {c : Char} (neutral : Neutral c) (plain : '*' ∉ text) :
    MarksOf (text ++ [c]) [] := by
  intro depth rest
  rw [List.append_assoc, List.singleton_append, openAfter?_break neutral,
    openAfter?_of_no_star depth plain]
  rfl

theorem MarksOf.flatMap {α : Type} {write : α → List Char} {namesOf : α → List String}
    (items : List α) (each : ∀ item ∈ items, MarksOf (write item) (namesOf item)) :
    MarksOf (items.flatMap write) (items.flatMap namesOf) := by
  induction items with
  | nil => exact marksOf_quiet (fun _ none => absurd none List.not_mem_nil)
  | cons item rest ih =>
    obtain ⟨first, later⟩ := List.forall_mem_cons.mp each
    exact first.append (ih later)

theorem MarksOf.openAfter?_eq (marks : MarksOf text names) (depth : Nat) :
    openAfter? depth text = openAfterNames? depth names := by
  have whole := marks depth []
  rw [List.append_nil] at whole
  rw [whole]
  cases openAfterNames? depth names <;> rfl

end Marks

/-- A name in which no comment is opened or closed. -/
def Unmarked (name : String) : Prop :=
  ¬ "/*".toList <:+: name.toList ∧ ¬ "*/".toList <:+: name.toList

theorem openAfterNames?_of_unmarked {names : List String} (depth : Nat)
    (unmarked : ∀ name ∈ names, Unmarked name) : openAfterNames? depth names = some depth := by
  induction names with
  | nil => rfl
  | cons name rest ih =>
    obtain ⟨⟨unopened, unclosed⟩, later⟩ := List.forall_mem_cons.mp unmarked
    have first := openAfter?_of_unmarked depth unopened unclosed
    simpa [openAfterNames?, first] using ih later

end ParserSplice.Emission
