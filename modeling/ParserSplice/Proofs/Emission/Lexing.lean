import Mathlib.Algebra.Order.Group.Nat
import ParserSplice.Proofs.Json.Scalar
import ParserSplice.Text.Quoted

set_option autoImplicit false

namespace ParserSplice.Emission

/-- A token of emitted code. A text is what a string literal stands for. -/
inductive Token where
  | word (letters : List Char)
  | text (content : List Char)
  | mark (c : Char)
deriving DecidableEq, Repr

namespace Lexer

/-- What the next character belongs to. What was read of a word, of a literal, or of the digits of a
code point is in reverse. A block comment remembers a character that may be half of a mark. -/
inductive Mode where
  | between
  | word (read : List Char)
  | slash
  | lineComment
  | comment (depth : Nat) (previous : Option Char)
  | literal (read : List Char)
  | escape (read : List Char)
  | codePoint (read : List Char) (digits : Option (List Char))
deriving DecidableEq, Repr

/-- A run in progress, with the complete tokens in reverse. -/
structure State where
  mode : Mode
  tokens : List Token
deriving DecidableEq, Repr

/-- Whether a character can be part of a word. Numbers are words. -/
def isLetter (c : Char) : Bool := c.isAlphanum || c == '_'

/-- Whether a character separates tokens. -/
def isSpace (c : Char) : Bool := c == ' ' || c == '\t' || c == '\n' || c == '\r'

/-- Takes a character that starts something new. -/
def start (tokens : List Token) (c : Char) : State :=
  if isLetter c then ⟨.word [c], tokens⟩
  else if isSpace c then ⟨.between, tokens⟩
  else if c = '"' then ⟨.literal [], tokens⟩
  else if c = '/' then ⟨.slash, tokens⟩
  else ⟨.between, .mark c :: tokens⟩

def shortEscape? (c : Char) : Option Char :=
  if c = '"' || c = '\'' || c = '\\' then some c
  else if c = 'n' then some '\n'
  else if c = 'r' then some '\r'
  else if c = 't' then some '\t'
  else if c = '0' then some (Char.ofNat 0)
  else none

/-- The character with a code point of up to six hexadecimal digits. -/
def scalar? (digits : List Char) : Option Char :=
  if digits ≠ [] ∧ digits.length ≤ 6 ∧ (Hex.value digits).isValidChar then
    some (Char.ofNat (Hex.value digits))
  else none

def step (s : State) (c : Char) : Option State :=
  match s.mode with
  | .between => some (start s.tokens c)
  | .word read =>
    if isLetter c then some ⟨.word (c :: read), s.tokens⟩
    else some (start (.word read.reverse :: s.tokens) c)
  | .slash =>
    if c = '/' then some ⟨.lineComment, s.tokens⟩
    else if c = '*' then some ⟨.comment 0 none, s.tokens⟩
    else some (start (.mark '/' :: s.tokens) c)
  | .lineComment => some ⟨if c = '\n' then .between else .lineComment, s.tokens⟩
  | .comment depth previous =>
    if previous = some '/' ∧ c = '*' then some ⟨.comment (depth + 1) none, s.tokens⟩
    else if previous = some '*' ∧ c = '/' then
      some ⟨if depth = 0 then .between else .comment (depth - 1) none, s.tokens⟩
    else some ⟨.comment depth (some c), s.tokens⟩
  | .literal read =>
    if c = '"' then some ⟨.between, .text read.reverse :: s.tokens⟩
    else if c = '\\' then some ⟨.escape read, s.tokens⟩
    else if c = '\r' then none
    else some ⟨.literal (c :: read), s.tokens⟩
  | .escape read =>
    if c = 'u' then some ⟨.codePoint read none, s.tokens⟩
    else (shortEscape? c).map (fun decoded => ⟨.literal (decoded :: read), s.tokens⟩)
  | .codePoint read none => if c = '\x7b' then some ⟨.codePoint read (some []), s.tokens⟩ else none
  | .codePoint read (some digits) =>
    if c = '\x7d' then
      (scalar? digits.reverse).map (fun decoded => ⟨.literal (decoded :: read), s.tokens⟩)
    else if Hex.isDigit c then some ⟨.codePoint read (some (c :: digits)), s.tokens⟩
    else none

def run (s : State) (text : List Char) : Option State := text.foldlM step s

def State.after (s : State) (before : List Token) : State := ⟨s.mode, s.tokens ++ before⟩

theorem run_append (s : State) (front rest : List Char) :
    run s (front ++ rest) = (run s front).bind (fun t => run t rest) := List.foldlM_append

theorem run_cons_of_step {s t : State} {c : Char} (taken : step s c = some t) (rest : List Char) :
    run s (c :: rest) = run t rest := by
  simp [run, taken]

theorem start_after (tokens before : List Token) (c : Char) :
    start (tokens ++ before) c = (start tokens c).after before := by
  unfold start
  split_ifs <;> rfl

/-- A step does not depend on the tokens before. -/
theorem step_after (s : State) (before : List Token) (c : Char) :
    step (s.after before) c = (step s c).map (fun t => t.after before) := by
  obtain ⟨mode, tokens⟩ := s
  cases mode with
  | between => exact congrArg some (start_after tokens before c)
  | word read =>
    simp only [State.after, step, ← List.cons_append, start_after]
    split_ifs <;> rfl
  | slash =>
    simp only [State.after, step, ← List.cons_append, start_after]
    split_ifs <;> rfl
  | lineComment => rfl
  | comment depth previous =>
    simp only [State.after, step]
    split_ifs <;> rfl
  | literal read =>
    simp only [State.after, step]
    split_ifs <;> rfl
  | escape read =>
    simp only [State.after, step]
    split_ifs
    · rfl
    · rw [Option.map_map]
      rfl
  | codePoint read digits =>
    cases digits with
    | none =>
      simp only [State.after, step]
      split_ifs <;> rfl
    | some digits =>
      simp only [State.after, step]
      split_ifs
      · rw [Option.map_map]
        rfl
      · rfl
      · rfl

theorem run_after (s : State) (before : List Token) (text : List Char) :
    run (s.after before) text = (run s text).map (fun t => t.after before) := by
  induction text generalizing s with
  | nil => rfl
  | cons c rest ih =>
    simp only [run, List.foldlM_cons, step_after] at ih ⊢
    cases step s c with
    | none => rfl
    | some t => exact ih t

end Lexer

open Lexer (run step State isLetter)

/-- A text is cut into tokens, and nothing is left open at its end. -/
def Lexes (text : List Char) (tokens : List Token) : Prop :=
  run ⟨.between, []⟩ text = some ⟨.between, tokens.reverse⟩

instance (text : List Char) (tokens : List Token) : Decidable (Lexes text tokens) :=
  inferInstanceAs (Decidable (_ = _))

/-- The tokens of a text, unless something is left open at its end. -/
def tokens? (text : List Char) : Option (List Token) :=
  match run ⟨.between, []⟩ text with
  | some ⟨.between, tokens⟩ => some tokens.reverse
  | _ => none

variable {text other : List Char} {tokens others : List Token}

theorem Lexes.tokens?_eq (lexes : Lexes text tokens) : tokens? text = some tokens := by
  rw [tokens?, lexes]
  exact congrArg some (List.reverse_reverse tokens)

theorem lexes_nil : Lexes [] [] := rfl

theorem Lexes.run_eq (lexes : Lexes text tokens) (before : List Token) :
    run ⟨.between, before⟩ text = some ⟨.between, tokens.reverse ++ before⟩ := by
  have moved := Lexer.run_after ⟨.between, []⟩ before text
  rw [lexes] at moved
  exact moved

theorem Lexes.append (first : Lexes text tokens) (second : Lexes other others) :
    Lexes (text ++ other) (tokens ++ others) := by
  rw [Lexes, Lexer.run_append, first, Option.bind_some, second.run_eq, List.reverse_append]

theorem Lexes.flatMap {α : Type} {write : α → List Char} {meaning : α → List Token} (items : List α)
    (each : ∀ a ∈ items, Lexes (write a) (meaning a)) :
    Lexes (items.flatMap write) (items.flatMap meaning) := by
  induction items with
  | nil => exact lexes_nil
  | cons a rest ih =>
    obtain ⟨first, later⟩ := List.forall_mem_cons.mp each
    rw [List.flatMap_cons, List.flatMap_cons]
    exact first.append (ih later)

/-- Letters are read into a word. -/
theorem run_word (letters read : List Char) (before : List Token)
    (each : ∀ c ∈ letters, isLetter c = true) :
    run ⟨.word read, before⟩ letters = some ⟨.word (letters.reverse ++ read), before⟩ := by
  induction letters generalizing read with
  | nil => rfl
  | cons c rest ih =>
    obtain ⟨first, later⟩ := List.forall_mem_cons.mp each
    have taken : step ⟨.word read, before⟩ c = some ⟨.word (c :: read), before⟩ := if_pos first
    rw [Lexer.run_cons_of_step taken, ih _ later, List.reverse_cons, List.append_assoc,
      List.singleton_append]

/-- A word ends at the next character that is no letter. -/
theorem Lexes.word {letters : List Char} (nonempty : letters ≠ [])
    (each : ∀ c ∈ letters, isLetter c = true) {c : Char} {rest : List Char}
    (ends : isLetter c = false) (lexes : Lexes (c :: rest) tokens) :
    Lexes (letters ++ c :: rest) (.word letters :: tokens) := by
  obtain ⟨first, more, rfl⟩ := List.exists_cons_of_ne_nil nonempty
  obtain ⟨letter, later⟩ := List.forall_mem_cons.mp each
  have begun : step ⟨.between, []⟩ first = some ⟨.word [first], []⟩ :=
    congrArg some (if_pos letter)
  have closed : step ⟨.word (more.reverse ++ [first]), []⟩ c =
      step ⟨.between, [.word (first :: more)]⟩ c := by
    have whole : (more.reverse ++ [first]).reverse = first :: more := by simp
    simp [step, ends, whole]
  rw [Lexes, List.cons_append, Lexer.run_cons_of_step begun, Lexer.run_append,
    run_word more [first] [] later, Option.bind_some, List.reverse_cons]
  refine Eq.trans ?_ (lexes.run_eq [.word (first :: more)])
  simp only [run, List.foldlM_cons, closed]

theorem hexDigit?_digitChar : ∀ n < 16, Hex.digit? (Nat.digitChar n) = some n := by decide

/-- The hexadecimal digits of a number denote it. -/
theorem value_toDigits (n : Nat) : Hex.value (Nat.toDigits 16 n) = n := by
  induction n using Nat.strongRecOn with
  | ind n ih =>
    by_cases small : n < 16
    · rw [Nat.toDigits_of_lt_base small]
      simp [Hex.value, hexDigit?_digitChar n small]
    · have last := hexDigit?_digitChar (n % 16) (Nat.mod_lt n (by decide))
      have front := ih (n / 16) (by omega)
      rw [Nat.toDigits_of_base_le (by decide) (by omega)]
      simp only [Hex.value, List.foldl_append, List.foldl_cons, List.foldl_nil, last,
        Option.getD_some] at front ⊢
      rw [front]
      omega

theorem isDigit_of_mem_toDigits {n : Nat} {c : Char} (inside : c ∈ Nat.toDigits 16 n) :
    Hex.isDigit c = true := by
  induction n using Nat.strongRecOn with
  | ind n ih =>
    by_cases small : n < 16
    · rw [Nat.toDigits_of_lt_base small, List.mem_singleton] at inside
      rw [inside, Hex.isDigit, hexDigit?_digitChar n small]
      rfl
    · rw [Nat.toDigits_of_base_le (by decide) (by omega), List.mem_append,
        List.mem_singleton] at inside
      rcases inside with front | rfl
      · exact ih (n / 16) (by omega) front
      · rw [Hex.isDigit, hexDigit?_digitChar _ (Nat.mod_lt n (by decide))]
        rfl

theorem length_toDigits_le (digits n : Nat) (small : n < 16 ^ (digits + 1)) :
    (Nat.toDigits 16 n).length ≤ digits + 1 := by
  induction digits generalizing n with
  | zero => rw [Nat.toDigits_of_lt_base (by simpa using small)]; rfl
  | succ digits ih =>
    by_cases one : n < 16
    · rw [Nat.toDigits_of_lt_base one]
      exact Nat.succ_le_succ (Nat.zero_le _)
    · rw [Nat.toDigits_of_base_le (by decide) (by omega), List.length_append]
      have front := ih (n / 16) (by rw [Nat.div_lt_iff_lt_mul (by decide)]; rwa [← Nat.pow_succ])
      exact Nat.succ_le_succ front

theorem scalar?_toDigits (c : Char) : Lexer.scalar? (Nat.toDigits 16 c.toNat) = some c := by
  have valid : c.toNat.isValidChar := c.valid
  have small : c.toNat < 16 ^ (5 + 1) := by
    have : c.toNat < 1114112 := by rcases valid with low | high <;> omega
    omega
  have nonempty : Nat.toDigits 16 c.toNat ≠ [] :=
    List.ne_nil_of_length_pos Nat.length_toDigits_pos
  rw [Lexer.scalar?, if_pos ⟨nonempty, length_toDigits_le 5 _ small, by rwa [value_toDigits]⟩,
    value_toDigits, Char.ofNat_toNat]

theorem run_codePoint (read found digits : List Char) (before : List Token)
    (each : ∀ c ∈ digits, Hex.isDigit c = true) :
    run ⟨.codePoint read (some found), before⟩ digits =
      some ⟨.codePoint read (some (digits.reverse ++ found)), before⟩ := by
  induction digits generalizing found with
  | nil => rfl
  | cons c rest ih =>
    obtain ⟨first, later⟩ := List.forall_mem_cons.mp each
    have open_ : c ≠ '\x7d' := fun same => absurd (same ▸ first) (by decide)
    have taken : step ⟨.codePoint read (some found), before⟩ c =
        some ⟨.codePoint read (some (c :: found)), before⟩ := by
      simp [step, open_, first]
    rw [Lexer.run_cons_of_step taken, ih _ later, List.reverse_cons, List.append_assoc,
      List.singleton_append]

/-- A quoted character is decoded. -/
theorem run_escape (c : Char) (read : List Char) (before : List Token) :
    run ⟨.literal read, before⟩ (Quoted.escape c) = some ⟨.literal (c :: read), before⟩ := by
  unfold Quoted.escape
  split_ifs with quote slash feed return_ tab null plain
  · rw [quote]; rfl
  · rw [slash]; rfl
  · rw [feed]; rfl
  · rw [return_]; rfl
  · rw [tab]; rfl
  · rw [show c = Char.ofNat 0 by rw [← null, Char.ofNat_toNat]]; rfl
  · simp [run, step, quote, slash, return_]
  · have digits := run_codePoint read [] (Nat.toDigits 16 c.toNat) before
      (fun _ => isDigit_of_mem_toDigits)
    change run ⟨.codePoint read (some []), before⟩ (Nat.toDigits 16 c.toNat ++ ['\x7d']) = _
    rw [Lexer.run_append, digits, Option.bind_some, List.append_nil]
    simp [run, step, scalar?_toDigits]

/-- Quoted text is one token, which stands for the text. -/
theorem lexes_encode (text : String) : Lexes (Quoted.encode text).toList [.text text.toList] := by
  have letters : ∀ (rest read : List Char), run ⟨.literal read, []⟩ (rest.flatMap Quoted.escape) =
      some ⟨.literal (rest.reverse ++ read), []⟩ := by
    intro rest
    induction rest with
    | nil => exact fun _ => rfl
    | cons c rest ih =>
      intro read
      rw [List.flatMap_cons, Lexer.run_append, run_escape, Option.bind_some, ih, List.reverse_cons,
        List.append_assoc, List.singleton_append]
  rw [Quoted.encode, String.toList_ofList, Lexes, List.cons_append]
  change run ⟨.literal [], []⟩ (text.toList.flatMap Quoted.escape ++ ['"']) = _
  rw [Lexer.run_append, letters, Option.bind_some, List.append_nil]
  simp [run, step]

end ParserSplice.Emission
