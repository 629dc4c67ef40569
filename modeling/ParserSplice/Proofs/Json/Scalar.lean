import Mathlib.Data.List.Basic
import Mathlib.Data.List.TakeWhile
import ParserSplice.Json.Decode
import ParserSplice.Json.Token

set_option autoImplicit false

namespace ParserSplice.Json

/-- The forms of an escaped character. -/
theorem escape_cases (c : Char) :
    (∃ short, escape c = ['\\', short] ∧ shortEscape? short = some c ∧ short ≠ 'u' ∧
      ['"', '\\', '/', 'b', 'f', 'n', 'r', 't'].contains short = true) ∨
    (∃ high low, escape c = ['\\', 'u', '0', '0', high, low] ∧
      Hex.isDigit high = true ∧ Hex.isDigit low = true ∧
      Hex.value ['0', '0', high, low] = c.toNat ∧ c.toNat < 32) ∨
    (escape c = [c] ∧ c ≠ '"' ∧ c ≠ '\\' ∧ 32 ≤ c.toNat) := by
  have ofToNat {n : Nat} (same : c.toNat = n) : c = Char.ofNat n := by rw [← same, Char.ofNat_toNat]
  -- A control character is written with four digits, the last two those of its byte.
  have control : ∀ n < 32, Hex.isDigit (Hex.digit (n / 16)) = true ∧
      Hex.isDigit (Hex.digit n) = true ∧
      Hex.value ['0', '0', Hex.digit (n / 16), Hex.digit n] = n := by decide
  unfold escape
  split_ifs with quote slash feed return_ tab back form low
  · exact .inl ⟨'"', rfl, by rw [quote]; rfl, by decide, by decide⟩
  · exact .inl ⟨'\\', rfl, by rw [slash]; rfl, by decide, by decide⟩
  · exact .inl ⟨'n', rfl, by rw [feed]; rfl, by decide, by decide⟩
  · exact .inl ⟨'r', rfl, by rw [return_]; rfl, by decide, by decide⟩
  · exact .inl ⟨'t', rfl, by rw [tab]; rfl, by decide, by decide⟩
  · exact .inl ⟨'b', rfl, by rw [ofToNat back]; rfl, by decide, by decide⟩
  · exact .inl ⟨'f', rfl, by rw [ofToNat form]; rfl, by decide, by decide⟩
  · have byte : (UInt8.ofNat c.toNat).toNat = c.toNat :=
      UInt8.toNat_ofNat_of_lt' (by change c.toNat < 256; omega)
    obtain ⟨high, lower, value⟩ := control c.toNat low
    refine .inr (.inl ⟨Hex.digit (c.toNat / 16), Hex.digit c.toNat, ?_, high, lower, value, low⟩)
    rw [Hex.ofByte, byte]
  · exact .inr (.inr ⟨rfl, quote, slash, by omega⟩)

/-- Four digits that are no half of a surrogate pair stand for one character. -/
theorem unescape?_unit (a b c d : Char) (rest : List Char)
    (single : Hex.value [a, b, c, d] < 0xD800) :
    unescape? ('\\' :: 'u' :: a :: b :: c :: d :: rest) =
      (unescape? rest).map (Char.ofNat (Hex.value [a, b, c, d]) :: ·) := by
  by_cases paired : ∃ e f g h others, rest = '\\' :: 'u' :: e :: f :: g :: h :: others
  · obtain ⟨e, f, g, h, others, rfl⟩ := paired
    rw [unescape?, if_pos (by simp [single])]
  · rw [unescape?, if_pos (by simp [single])]
    exact fun e f g h others same => paired ⟨e, f, g, h, others, same⟩

theorem unescape?_escape (c : Char) (rest : List Char) :
    unescape? (escape c ++ rest) = (unescape? rest).map (c :: ·) := by
  rcases escape_cases c with ⟨short, form, stands, notCode, _⟩ |
    ⟨high, low, form, _, _, value, small⟩ | ⟨form, _, notSlash, _⟩
  · rw [form]
    cases others : unescape? rest with
    | none => simp [unescape?, stands, notCode, others]
    | some text => simp [unescape?, stands, notCode, others]
  · rw [form]
    simp only [List.cons_append, List.nil_append]
    rw [unescape?_unit _ _ _ _ _ (by omega), value, Char.ofNat_toNat]
  · rw [form]
    simp [unescape?, notSlash]

theorem unescape?_flatMap_escape (letters : List Char) :
    unescape? (letters.flatMap escape) = some letters := by
  induction letters with
  | nil => simp [unescape?]
  | cons c rest ih => rw [List.flatMap_cons, unescape?_escape, ih, Option.map_some]

/-- A text stands for itself once it is written. -/
@[simp] theorem content?_written (text : String) : content? (written text) = some text := by
  rw [content?, written, unescape?_flatMap_escape, Option.map_some, String.ofList_toList]

namespace Token

theorem readString_escape (c : Char) (read rest : List Char) :
    readString read (escape c ++ rest) = readString ((escape c).reverse ++ read) rest := by
  rcases escape_cases c with ⟨short, form, _, notCode, known⟩ |
    ⟨high, low, form, highDigit, lowDigit, _, _⟩ | ⟨form, _, notSlash, visible⟩
  · rw [form]
    simp only [List.cons_append, List.nil_append, List.reverse_cons, List.reverse_nil]
    rw [readString, if_pos known]
    exact fun _ _ _ _ _ same _ => notCode same
  · have zero : Hex.isDigit '0' = true := rfl
    rw [form]
    simp [readString, zero, highDigit, lowDigit]
  · rw [form]
    simp [readString, notSlash, Nat.not_lt.mpr visible]

theorem readString_flatMap_escape (letters read rest : List Char) :
    readString read (letters.flatMap escape ++ '"' :: rest) =
      some (read.reverse ++ letters.flatMap escape, rest) := by
  induction letters generalizing read with
  | nil => simp [readString]
  | cons c others ih =>
    rw [List.flatMap_cons, List.append_assoc, readString_escape, ih, List.reverse_append,
      List.reverse_reverse, List.append_assoc]

/-- A written text ends at its closing quote. -/
theorem readString_written (text : String) (rest : List Char) :
    readString [] (written text ++ '"' :: rest) = some (written text, rest) :=
  readString_flatMap_escape text.toList [] rest

end Token

/-- The digits of a number other than 0 do not start with the digit 0. -/
theorem toDigits_eq_cons (n : Nat) (positive : 0 < n) :
    ∃ first rest, Nat.toDigits 10 n = first :: rest ∧ first ≠ '0' := by
  induction n using Nat.strongRecOn with
  | ind n ih =>
    by_cases small : n < 10
    · refine ⟨n.digitChar, [], Nat.toDigits_of_lt_base small, ?_⟩
      have digit : ∀ m < 10, 0 < m → Nat.digitChar m ≠ '0' := by decide
      exact digit n small positive
    · obtain ⟨first, rest, digits, leading⟩ := ih (n / 10) (by omega) (by omega)
      refine ⟨first, rest ++ [(n % 10).digitChar], ?_, leading⟩
      rw [Nat.toDigits_of_base_le (by decide) (by omega), digits, List.cons_append]

theorem all_isDigit_toDigits (n : Nat) : (Nat.toDigits 10 n).all Char.isDigit = true :=
  List.all_eq_true.mpr (fun _ => Nat.isDigit_of_mem_toDigits (by decide) (by decide))

/-- The digits of a number denote it. -/
@[simp] theorem plainNat?_toDigits (n : Nat) : plainNat? (Nat.toDigits 10 n) = some n := by
  rcases Nat.eq_zero_or_pos n with rfl | positive
  · rfl
  obtain ⟨first, rest, digits, leading⟩ := toDigits_eq_cons n positive
  have value : (Nat.toDigits 10 n).foldl
      (fun total c => total * 10 + (c.toNat - '0'.toNat)) 0 = n := by
    have denotes := @Nat.ofDigitChars_ten_toDigits n
    simp only [Nat.ofDigitChars, Nat.mul_comm 10] at denotes
    exact denotes
  have plain := all_isDigit_toDigits n
  rw [digits] at value plain ⊢
  rw [plainNat?, if_pos plain, value]
  · simp
  · intro _ same
    exact leading (List.cons.inj same).1

/-- Digits are written as they are. -/
theorem toDigits_eq_written (n : Nat) :
    Nat.toDigits 10 n = written (String.ofList (Nat.toDigits 10 n)) := by
  have plain : ∀ c ∈ Nat.toDigits 10 n, escape c = [c] := by
    intro c inside
    have digit : c.isDigit = true := Nat.isDigit_of_mem_toDigits (by decide) (by decide) inside
    have range : 48 ≤ c.toNat ∧ c.toNat ≤ 57 := by
      simpa [Char.isDigit, UInt32.le_iff_toNat_le] using digit
    have apart {d : Char} (other : ¬ (48 ≤ d.toNat ∧ d.toNat ≤ 57)) : c ≠ d :=
      fun same => other (same ▸ range)
    simp [escape, apart (d := '"') (by decide), apart (d := '\\') (by decide),
      apart (d := '\n') (by decide), apart (d := '\r') (by decide), apart (d := '\t') (by decide),
      show c.toNat ≠ 8 by omega, show c.toNat ≠ 12 by omega, show ¬ c.toNat < 32 by omega]
  rw [written, String.toList_ofList, List.flatMap_congr plain]
  simp

/-- Digits have no sign. -/
theorem toDigits_ne_minus (n : Nat) (rest : List Char) : Nat.toDigits 10 n ≠ '-' :: rest := by
  intro same
  have digit : ('-' : Char).isDigit = true :=
    Nat.isDigit_of_mem_toDigits (by decide) (by decide) (same ▸ List.mem_cons_self)
  exact absurd digit (by decide)

namespace Token

theorem isUnsigned_toDigits (n : Nat) : isUnsigned (Nat.toDigits 10 n) = true := by
  rcases Nat.eq_zero_or_pos n with rfl | positive
  · rfl
  obtain ⟨first, rest, digits, leading⟩ := toDigits_eq_cons n positive
  have plain := all_isDigit_toDigits n
  rw [digits, List.all_cons, Bool.and_eq_true] at plain
  rw [digits]
  have whole : rest.dropWhile Char.isDigit = [] :=
    List.dropWhile_eq_nil_iff.mpr (fun c => List.all_eq_true.mp plain.2 c)
  simp [isUnsigned, plain.1, whole, isFraction, isExponent]

theorem isNumber_toDigits (n : Nat) : isNumber (Nat.toDigits 10 n) = true := by
  unfold isNumber
  split
  · next rest same => exact absurd same (toDigits_ne_minus n rest)
  · exact isUnsigned_toDigits n

theorem isNumber_negative (n : Nat) : isNumber ('-' :: Nat.toDigits 10 n) = true :=
  isUnsigned_toDigits n

theorem isNumeric_of_mem_toDigits {n : Nat} {c : Char} (inside : c ∈ Nat.toDigits 10 n) :
    isNumeric c = true := by
  simp [isNumeric, Nat.isDigit_of_mem_toDigits (by decide) (by decide) inside]

end Token

end ParserSplice.Json
