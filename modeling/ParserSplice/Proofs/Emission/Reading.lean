import ParserSplice.Proofs.Emission.Lexing

set_option autoImplicit false

namespace ParserSplice.Emission

/-- Reads a value from the front of some tokens and gives the tokens behind it. -/
abbrev Reader (α : Type) : Type := List Token → Option (α × List Token)

namespace Reader

variable {α : Type}

/-- What the reader makes of a value in front of any other tokens. -/
def Reads (reader : Reader α) (tokens : List Token) (a : α) : Prop :=
  ∀ rest, reader (tokens ++ rest) = some (a, rest)

def number : Reader Nat
  | .word digits :: rest =>
    if digits ≠ [] ∧ digits.all Char.isDigit then some (Nat.ofDigitChars 10 digits 0, rest)
    else none
  | _ => none

def byte : Reader UInt8
  | .word ('0' :: 'x' :: digits) :: rest =>
    if digits ≠ [] ∧ digits.all Hex.isDigit ∧ Hex.value digits < 256 then
      some (UInt8.ofNat (Hex.value digits), rest)
    else none
  | _ => none

def text : Reader String
  | .text content :: rest => some (String.ofList content, rest)
  | _ => none

/-- Items up to a closing bracket, with commas between them and maybe after the last one. `steps`
bounds their number. -/
def items (item : Reader α) : Nat → Reader (List α)
  | _, .mark ']' :: rest => some ([], rest)
  | 0, _ => none
  | steps + 1, tokens =>
    match item tokens with
    | some (a, .mark ',' :: rest) =>
      (items item steps rest).map (fun found => (a :: found.1, found.2))
    | some (a, .mark ']' :: rest) => some ([a], rest)
    | _ => none

def slice (item : Reader α) : Reader (List α)
  | .mark '&' :: .mark '[' :: rest => items item rest.length rest
  | _ => none

end Reader

/-- What stands behind the equals sign of the declaration of a name. -/
def initializer? (name : String) : List Token → Option (List Token)
  | [] => none
  | token :: rest =>
    if token = .word name.toList ∧ rest.head? = some (.mark ':') then
      some ((rest.dropWhile (fun t => decide (t ≠ .mark '='))).drop 1)
    else initializer? name rest

/-- The declared value of a name. A semicolon ends it. -/
def valueOf {α : Type} (name : String) (reader : Reader α) (tokens : List Token) : Option α :=
  match (initializer? name tokens).bind reader with
  | some (a, .mark ';' :: _) => some a
  | _ => none

/-- A declared constant. -/
structure Declaration where
  kind : String
  name : String
  type : List Token
  value : List Token

/-- Whether a token is a word with an underscore. Of all words only the names of constants have
one. -/
def Token.isName : Token → Bool
  | .word letters => letters.contains '_'
  | _ => false

namespace Declaration

def tokens (d : Declaration) : List Token :=
  [.word "pub".toList, .word d.kind.toList, .word d.name.toList, .mark ':'] ++ d.type ++
    .mark '=' :: (d.value ++ [.mark ';'])

/-- A declaration whose value can be found: there is one name in it, and its value stands behind the
first equals sign. -/
structure Plain (d : Declaration) : Prop where
  name : (Token.word d.name.toList).isName = true
  kind : (Token.word d.kind.toList).isName = false
  type : ∀ t ∈ d.type, t.isName = false ∧ t ≠ .mark '='
  value : ∀ t ∈ d.value, t.isName = false

end Declaration

theorem initializer?_append {name : String} {front : List Token}
    (other : .word name.toList ∉ front) (rest : List Token) :
    initializer? name (front ++ rest) = initializer? name rest := by
  induction front with
  | nil => rfl
  | cons token front ih =>
    obtain ⟨apart, later⟩ := not_or.mp (fun found => other (List.mem_cons.mpr found))
    rw [List.cons_append, initializer?, if_neg (fun found => apart found.1.symm), ih later]

/-- No other constant has its name in a declaration. -/
theorem Declaration.Plain.not_mem_tokens {d : Declaration} (plain : d.Plain) {name : String}
    (named : (Token.word name.toList).isName = true) (other : name ≠ d.name) :
    .word name.toList ∉ d.tokens := by
  intro inside
  have apart : ∀ t ∈ d.tokens, t.isName = true → t = .word d.name.toList := by
    intro t found own
    simp only [tokens, List.mem_append, List.mem_cons, List.not_mem_nil, or_false] at found
    rcases found with ((rfl | rfl | rfl | rfl) | typed) | rfl | valued | rfl
    · cases own
    · rw [plain.kind] at own
      cases own
    · rfl
    · cases own
    · rw [(plain.type t typed).1] at own
      cases own
    · cases own
    · rw [plain.value t valued] at own
      cases own
    · cases own
  exact other (String.toList_injective (Token.word.inj (apart _ inside named)))

variable {α : Type} {reader : Reader α} {a : α}

/-- The value of a constant is read from its declaration, wherever it is declared. -/
theorem valueOf_of_mem {declarations : List Declaration}
    (distinct : (declarations.map Declaration.name).Nodup)
    (plain : ∀ d ∈ declarations, d.Plain) {d : Declaration} (listed : d ∈ declarations)
    (reads : reader.Reads d.value a) :
    valueOf d.name reader (declarations.flatMap Declaration.tokens) = some a := by
  obtain ⟨before, after, rfl⟩ := List.append_of_mem listed
  have own := plain d listed
  have front : .word d.name.toList ∉ before.flatMap Declaration.tokens ++
      [.word "pub".toList, .word d.kind.toList] := by
    intro inside
    rcases List.mem_append.mp inside with inside | inside
    · obtain ⟨earlier, found, held⟩ := List.mem_flatMap.mp inside
      rw [List.map_append, List.map_cons] at distinct
      have other : earlier.name ≠ d.name :=
        (List.nodup_append.mp distinct).2.2 _ (List.mem_map_of_mem found) _ List.mem_cons_self
      exact (plain earlier (List.mem_append_left _ found)).not_mem_tokens own.name other.symm held
    · have named := own.name
      rcases List.mem_cons.mp inside with same | inside
      · rw [same] at named
        cases named
      · rw [List.mem_singleton.mp inside, own.kind] at named
        cases named
  have skipped : ∀ t ∈ Token.mark ':' :: d.type, decide (t ≠ .mark '=') = true := by
    intro t inside
    rw [decide_eq_true_eq]
    rcases List.mem_cons.mp inside with rfl | inside
    · decide
    · exact (own.type t inside).2
  have split : (before ++ d :: after).flatMap Declaration.tokens =
      (before.flatMap Declaration.tokens ++ [.word "pub".toList, .word d.kind.toList]) ++
        .word d.name.toList :: ((.mark ':' :: d.type) ++
          .mark '=' :: (d.value ++ .mark ';' :: after.flatMap Declaration.tokens)) := by
    simp [Declaration.tokens]
  rw [valueOf, split, initializer?_append front, initializer?, if_pos ⟨rfl, rfl⟩,
    List.dropWhile_append_of_pos skipped]
  change (match reader (d.value ++ .mark ';' :: _) with
    | some (a, .mark ';' :: _) => some a
    | _ => none) = some a
  rw [reads]
  rfl

namespace Reader

/-- The tokens of items with commas between them. -/
def joined (write : α → List Token) : List α → List Token
  | [] => []
  | [a] => write a
  | a :: next :: rest => write a ++ .mark ',' :: joined write (next :: rest)

def separated (write : α → List Token) (values : List α) : List Token :=
  values.flatMap (fun a => write a ++ [.mark ','])

def bracketOf (items : List Token) : List Token := .mark '&' :: .mark '[' :: (items ++ [.mark ']'])

def sliceOf (write : α → List Token) (values : List α) : List Token :=
  bracketOf (separated write values)

variable {item : Reader α} {write : α → List Token}

/-- A comma after the last item makes the difference. -/
theorem separated_cons (a : α) (values : List α) :
    separated write (a :: values) = joined write (a :: values) ++ [.mark ','] := by
  induction values generalizing a with
  | nil => simp [separated, joined]
  | cons next values ih =>
    have rest := ih next
    rw [separated] at rest ⊢
    rw [List.flatMap_cons, rest, joined, List.append_assoc, List.append_assoc]
    rfl

/-- Values do not start with the end of a list. -/
def Opens (tokens : List Token) : Prop := ∃ token rest, tokens = token :: rest ∧ token ≠ .mark ']'

theorem items_step (steps : Nat) {tokens : List Token} (opens : Opens tokens) (rest : List Token) :
    items item (steps + 1) (tokens ++ rest) =
      match item (tokens ++ rest) with
      | some (a, .mark ',' :: rest) =>
        (items item steps rest).map (fun found => (a :: found.1, found.2))
      | some (a, .mark ']' :: rest) => some ([a], rest)
      | _ => none := by
  obtain ⟨token, more, rfl, other⟩ := opens
  rw [List.cons_append, items]
  exact fun _ same => other (List.cons.inj same).1

theorem items_end (steps : Nat) (rest : List Token) :
    items item steps (.mark ']' :: rest) = some ([], rest) := by
  cases steps <;> rfl

/-- What is behind the last item, a comma or nothing, does not matter. -/
theorem items_joined {values : List α} {steps : Nat} (enough : values.length ≤ steps)
    (each : ∀ a ∈ values, item.Reads (write a) a ∧ Opens (write a)) {last : List Token}
    (trailing : last = [] ∨ last = [.mark ','] ∧ values ≠ []) (rest : List Token) :
    items item steps (joined write values ++ (last ++ .mark ']' :: rest)) =
      some (values, rest) := by
  induction values generalizing steps with
  | nil =>
    obtain rfl : last = [] := trailing.resolve_right (fun given => given.2 rfl)
    exact items_end steps rest
  | cons a values ih =>
    obtain ⟨⟨reads, opens⟩, later⟩ := List.forall_mem_cons.mp each
    obtain ⟨steps, rfl⟩ : ∃ n, steps = n + 1 :=
      ⟨steps - 1, by simp only [List.length_cons] at enough; omega⟩
    cases values with
    | nil =>
      rw [joined, items_step steps opens, reads]
      rcases trailing with rfl | ⟨rfl, _⟩
      · rfl
      · simp only [List.singleton_append, items_end, Option.map_some]
    | cons next values =>
      have others := ih (Nat.le_of_succ_le_succ enough) later
        (trailing.imp_right (fun given => ⟨given.1, List.cons_ne_nil _ _⟩))
      rw [joined, List.append_assoc, items_step steps opens, reads]
      simp only [List.cons_append, others, Option.map_some]

theorem length_le_joined (values : List α) (opens : ∀ a ∈ values, Opens (write a)) :
    values.length ≤ (joined write values).length := by
  induction values with
  | nil => exact Nat.le_refl _
  | cons a values ih =>
    obtain ⟨⟨token, more, starts, _⟩, later⟩ := List.forall_mem_cons.mp opens
    have rest := ih later
    cases values with
    | nil => simp [joined, starts]
    | cons next values =>
      simp only [joined, List.length_append, List.length_cons] at rest ⊢
      omega

/-- A list is read if each of its items is. -/
theorem slice_joined {values : List α}
    (each : ∀ a ∈ values, item.Reads (write a) a ∧ Opens (write a)) {last : List Token}
    (trailing : last = [] ∨ last = [.mark ','] ∧ values ≠ []) :
    (slice item).Reads (bracketOf (joined write values ++ last)) values := by
  intro rest
  have enough : values.length ≤
      (joined write values ++ (last ++ .mark ']' :: rest)).length := by
    rw [List.length_append]
    have count := length_le_joined values (fun a inside => (each a inside).2)
    omega
  have read := items_joined enough each trailing rest
  simp only [bracketOf, List.cons_append, List.append_assoc, List.nil_append, slice]
  exact read

theorem slice_separated {values : List α}
    (each : ∀ a ∈ values, item.Reads (write a) a ∧ Opens (write a)) :
    (slice item).Reads (sliceOf write values) values := by
  cases values with
  | nil => exact slice_joined each (Or.inl rfl)
  | cons a values =>
    rw [sliceOf, separated_cons]
    exact slice_joined each (Or.inr ⟨rfl, List.cons_ne_nil _ _⟩)

theorem isName_of_mem_bracketOf {items : List Token} (each : ∀ t ∈ items, t.isName = false)
    {t : Token} (inside : t ∈ bracketOf items) : t.isName = false := by
  simp only [bracketOf, List.mem_cons, List.mem_append, List.not_mem_nil, or_false] at inside
  rcases inside with rfl | rfl | inside | rfl
  · rfl
  · rfl
  · exact each t inside
  · rfl

theorem isName_of_mem_separated {values : List α}
    (each : ∀ a ∈ values, ∀ t ∈ write a, t.isName = false) {t : Token}
    (inside : t ∈ separated write values) : t.isName = false := by
  obtain ⟨a, listed, own⟩ := List.mem_flatMap.mp inside
  rcases List.mem_append.mp own with own | comma
  · exact each a listed t own
  · rw [List.mem_singleton.mp comma]
    rfl

theorem isName_of_mem_sliceOf {values : List α}
    (each : ∀ a ∈ values, ∀ t ∈ write a, t.isName = false) {t : Token}
    (inside : t ∈ sliceOf write values) : t.isName = false :=
  isName_of_mem_bracketOf (fun _ => isName_of_mem_separated each) inside

theorem isName_of_mem_joined {values : List α}
    (each : ∀ a ∈ values, ∀ t ∈ write a, t.isName = false) {t : Token}
    (inside : t ∈ joined write values) : t.isName = false := by
  cases values with
  | nil => cases inside
  | cons a values =>
    have within : t ∈ separated write (a :: values) := by
      rw [separated_cons]
      exact List.mem_append_left _ inside
    exact isName_of_mem_separated each within

theorem text_reads (content : String) : text.Reads [.text content.toList] content := by
  intro rest
  simp [text]

def numberWord (n : Nat) : List Token := [.word (Nat.toDigits 10 n)]

theorem number_reads (n : Nat) : number.Reads (numberWord n) n := by
  intro rest
  have nonempty : Nat.toDigits 10 n ≠ [] := List.ne_nil_of_length_pos Nat.length_toDigits_pos
  rw [numberWord, List.singleton_append, number, if_pos ⟨nonempty, Json.all_isDigit_toDigits n⟩,
    Nat.ofDigitChars_ten_toDigits]

def byteWord (b : UInt8) : List Token := [.word ('0' :: 'x' :: Hex.ofByte b)]

theorem byte_reads (b : UInt8) : byte.Reads (byteWord b) b := by
  have every : ∀ n < 256, [Hex.digit (n / 16), Hex.digit n].all Hex.isDigit = true ∧
      Hex.value [Hex.digit (n / 16), Hex.digit n] = n := by decide +kernel
  obtain ⟨digits, value⟩ := every b.toNat b.toNat_lt
  intro rest
  rw [byteWord, List.singleton_append, byte, Hex.ofByte,
    if_pos ⟨List.cons_ne_nil _ _, digits, by rw [value]; exact b.toNat_lt⟩, value,
    UInt8.ofNat_toNat]

end Reader

end ParserSplice.Emission
