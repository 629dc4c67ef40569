import ParserSplice.Json.Reader
import ParserSplice.Proofs.Json.Scalar

set_option autoImplicit false

namespace ParserSplice.Json

namespace Value

/-- Documents whose numbers and strings are well written. -/
inductive Legible : Value → Prop where
  | null : Legible .null
  | bool (b : Bool) : Legible (.bool b)
  | number {digits : List Char} (form : Token.isNumber digits = true)
      (letters : ∀ c ∈ digits, Token.isNumeric c = true) : Legible (.number digits)
  | string (text : String) : Legible (.string (written text))
  | array {items : List Value} (each : ∀ v ∈ items, Legible v) : Legible (.array items)
  | object {members : List (List Char × Value)}
      (keys : ∀ m ∈ members, ∃ text, m.1 = written text)
      (values : ∀ m ∈ members, Legible m.2) : Legible (.object members)

mutual

def tokens : Value → List Token
  | null => [.null]
  | bool b => [.bool b]
  | number digits => [.number digits]
  | string text => [.string text]
  | array items => .openArray :: (itemTokens items ++ [.closeArray])
  | object members => .openObject :: (memberTokens members ++ [.closeObject])

def itemTokens : List Value → List Token
  | [] => []
  | [item] => tokens item
  | item :: next :: rest => tokens item ++ .comma :: itemTokens (next :: rest)

def memberTokens : List (List Char × Value) → List Token
  | [] => []
  | [(key, value)] => .string key :: .colon :: tokens value
  | (key, value) :: next :: rest =>
    .string key :: .colon :: (tokens value ++ .comma :: memberTokens (next :: rest))

end

end Value

namespace Token

/-- The tokens that a text is cut into, whatever was read before it. -/
def Lexes (text : List Char) (tokens : List Token) : Prop :=
  ∀ before steps, text.length ≤ steps → readAll before steps text = some (before.reverse ++ tokens)

def Ends (text : List Char) : Prop := ∀ c ∈ text.head?, isNumeric c = false

theorem lexes_nil : Lexes [] [] := by
  intro before steps _
  simp [readAll]

theorem Lexes.cons {c : Char} {rest left : List Char} {token : Token} {tokens : List Token}
    (visible : isBlank c = false) (first : read (c :: rest) = some (token, left))
    (shorter : left.length ≤ rest.length) (others : Lexes left tokens) :
    Lexes (c :: rest) (token :: tokens) := by
  intro before steps enough
  obtain ⟨steps, rfl⟩ : ∃ n, steps = n + 1 := ⟨steps - 1, by simp at enough; omega⟩
  have room : left.length ≤ steps := by simp at enough; omega
  simp [readAll, visible, first, others (token :: before) steps room]

variable {after : List Char} {tokens : List Token}

theorem Lexes.text (others : Lexes after tokens) (text : String) :
    Lexes ('"' :: (written text ++ '"' :: after)) (string (written text) :: tokens) := by
  refine Lexes.cons rfl ?_ ?_ others
  · simp [read, readString_written]
  · simp; omega

theorem read_numeric {c : Char} {rest : List Char} (numeric : isNumeric c = true) :
    read (c :: rest) =
      (readNumber (c :: rest)).map (fun found => (number found.1, found.2)) := by
  unfold read
  split <;> first | rfl | simp_all [isNumeric, Char.isDigit]

theorem readNumber_append {digits : List Char} (form : isNumber digits = true)
    (letters : ∀ c ∈ digits, isNumeric c = true) (ends : Ends after) :
    readNumber (digits ++ after) = some (digits, after) := by
  have taken : after.takeWhile isNumeric = [] := by
    cases after with
    | nil => rfl
    | cons c rest => simp [ends c rfl]
  have left : after.dropWhile isNumeric = after := by
    cases after with
    | nil => rfl
    | cons c rest => simp [ends c rfl]
  rw [readNumber, List.takeWhile_append_of_pos letters, List.dropWhile_append_of_pos letters, taken,
    left, List.append_nil]
  simp [form]

theorem Lexes.number {digits : List Char} (form : isNumber digits = true)
    (letters : ∀ c ∈ digits, isNumeric c = true) (ends : Ends after) (others : Lexes after tokens) :
    Lexes (digits ++ after) (number digits :: tokens) := by
  cases digits with
  | nil => cases form
  | cons c rest =>
    have numeric := letters c List.mem_cons_self
    have visible : isBlank c = false := by
      cases blank : isBlank c with
      | false => rfl
      | true => simp only [isBlank, Bool.or_eq_true, beq_iff_eq] at blank
                rcases blank with ((rfl | rfl) | rfl) | rfl <;> cases numeric
    have whole : readNumber (c :: (rest ++ after)) = some (c :: rest, after) :=
      readNumber_append form letters ends
    rw [List.cons_append]
    refine Lexes.cons visible ?_ ?_ others
    · rw [read_numeric numeric, whole, Option.map_some]
    · simp

end Token

namespace Value

open Token (Lexes Ends)

/-- The text of a document is cut into the tokens of the document. -/
def Spelt (v : Value) : Prop :=
  ∀ after tokens, Ends after → Lexes after tokens → Lexes (v.renderOnto after) (v.tokens ++ tokens)

theorem lexes_renderItems {items : List Value} (each : ∀ v ∈ items, v.Spelt) {after : List Char}
    {tokens : List Token} (others : Lexes after tokens) :
    Lexes (renderItems items (']' :: after)) (itemTokens items ++ .closeArray :: tokens) := by
  have close : Lexes (']' :: after) (.closeArray :: tokens) :=
    others.cons rfl rfl (Nat.le_refl _)
  induction items with
  | nil => simpa [renderItems, itemTokens] using close
  | cons item rest ih =>
    have later := ih (fun v inside => each v (List.mem_cons_of_mem _ inside))
    cases rest with
    | nil =>
      simp only [renderItems, itemTokens]
      exact each item List.mem_cons_self _ _ (by simp [Ends, Token.isNumeric]) close
    | cons next rest =>
      simp only [renderItems, itemTokens, List.append_assoc, List.cons_append]
      exact each item List.mem_cons_self _ _ (by simp [Ends, Token.isNumeric])
        (later.cons rfl rfl (Nat.le_refl _))

theorem lexes_renderMembers {members : List (List Char × Value)}
    (keys : ∀ m ∈ members, ∃ text, m.1 = written text) (each : ∀ m ∈ members, m.2.Spelt)
    {after : List Char} {tokens : List Token} (others : Lexes after tokens) :
    Lexes (renderMembers members ('\x7d' :: after))
      (memberTokens members ++ .closeObject :: tokens) := by
  have close : Lexes ('\x7d' :: after) (.closeObject :: tokens) :=
    others.cons rfl rfl (Nat.le_refl _)
  induction members with
  | nil => simpa [renderMembers, memberTokens] using close
  | cons m rest ih =>
    obtain ⟨key, value⟩ := m
    obtain ⟨text, rfl⟩ : ∃ text, key = written text := keys _ List.mem_cons_self
    have spelt : value.Spelt := each _ List.mem_cons_self
    have later := ih (fun m inside => keys m (List.mem_cons_of_mem _ inside))
      (fun m inside => each m (List.mem_cons_of_mem _ inside))
    cases rest with
    | nil =>
      simp only [renderMembers, memberTokens, List.cons_append]
      refine Lexes.text (Lexes.cons rfl rfl (Nat.le_refl _) ?_) text
      exact spelt _ _ (by simp [Ends, Token.isNumeric]) close
    | cons next rest =>
      simp only [renderMembers, memberTokens, List.cons_append, List.append_assoc]
      refine Lexes.text (Lexes.cons rfl rfl (Nat.le_refl _) ?_) text
      exact spelt _ _ (by simp [Ends, Token.isNumeric]) (later.cons rfl rfl (Nat.le_refl _))

theorem Legible.spelt {v : Value} (legible : v.Legible) : v.Spelt := by
  intro after tokens ends others
  induction legible generalizing after tokens with
  | null => exact others.cons rfl rfl (by simp; omega)
  | bool b => cases b <;> exact others.cons rfl rfl (by simp; omega)
  | number form letters => exact others.number form letters ends
  | string text => exact others.text text
  | array _ ih =>
    simp only [renderOnto, Value.tokens, List.cons_append, List.append_assoc, List.nil_append]
    exact (lexes_renderItems ih others).cons rfl rfl (Nat.le_refl _)
  | object keys _ ih =>
    simp only [renderOnto, Value.tokens, List.cons_append, List.append_assoc, List.nil_append]
    exact (lexes_renderMembers keys ih others).cons rfl rfl (Nat.le_refl _)

end Value

namespace Value

open Reader (Frame State give run)

def Assembles (v : Value) : Prop :=
  ∀ (stack : List Frame) (rest : List Token),
    run ⟨stack, .value⟩ (v.tokens ++ rest) = run (give stack v) rest

theorem run_cons {s s' : State} {token : Token} (taken : Reader.step s token = some s')
    (rest : List Token) : run s (token :: rest) = run s' rest := by
  simp [run, taken]

/-- A document does not start with the end of an array. -/
theorem run_firstItem (v : Value) (stack : List Frame) (rest : List Token) :
    run ⟨stack, .firstItem⟩ (v.tokens ++ rest) =
      run ⟨.items [] :: stack, .value⟩ (v.tokens ++ rest) := by
  cases v <;> simp [Value.tokens, run, Reader.step]

theorem exists_itemTokens_eq (first : Value) (others : List Value) :
    ∃ rest, itemTokens (first :: others) = first.tokens ++ rest := by
  cases others with
  | nil => exact ⟨[], (List.append_nil _).symm⟩
  | cons next others => exact ⟨_, rfl⟩

theorem run_itemTokens {first : Value} {others : List Value}
    (each : ∀ v ∈ first :: others, v.Assembles) (before : List Value) (stack : List Frame)
    (rest : List Token) :
    run ⟨.items before :: stack, .value⟩ (itemTokens (first :: others) ++ .closeArray :: rest) =
      run (give stack (.array (before.reverse ++ first :: others))) rest := by
  induction others generalizing first before with
  | nil =>
    calc run ⟨.items before :: stack, .value⟩ (first.tokens ++ .closeArray :: rest)
      _ = run ⟨stack, .afterItem (first :: before)⟩ (.closeArray :: rest) :=
        each first List.mem_cons_self _ _
      _ = run (give stack (.array (first :: before).reverse)) rest := run_cons rfl rest
      _ = _ := by rw [List.reverse_cons]
  | cons next others ih =>
    have later := ih (fun v inside => each v (List.mem_cons_of_mem _ inside)) (first :: before)
    rw [itemTokens, List.append_assoc, each first List.mem_cons_self]
    calc run ⟨stack, .afterItem (first :: before)⟩
          (.comma :: (itemTokens (next :: others) ++ .closeArray :: rest))
      _ = run ⟨.items (first :: before) :: stack, .value⟩
            (itemTokens (next :: others) ++ .closeArray :: rest) := run_cons rfl _
      _ = _ := by rw [later, List.reverse_cons, List.append_assoc, List.singleton_append]

theorem exists_memberTokens_eq (first : List Char × Value) (others : List (List Char × Value)) :
    ∃ rest, memberTokens (first :: others) = .string first.1 :: rest := by
  cases others with
  | nil => exact ⟨_, rfl⟩
  | cons next others => exact ⟨_, rfl⟩

theorem run_member (before : List (List Char × Value)) (key : List Char) (stack : List Frame)
    {value : Value} (assembles : value.Assembles) (rest : List Token) :
    run ⟨stack, .nextKey before⟩ (.string key :: .colon :: (value.tokens ++ rest)) =
      run ⟨stack, .afterMember ((key, value) :: before)⟩ rest :=
  calc run ⟨stack, .nextKey before⟩ (.string key :: .colon :: (value.tokens ++ rest))
    _ = run ⟨stack, .colon before key⟩ (.colon :: (value.tokens ++ rest)) := run_cons rfl _
    _ = run ⟨.member before key :: stack, .value⟩ (value.tokens ++ rest) := run_cons rfl _
    _ = _ := assembles _ _

theorem run_memberTokens {first : List Char × Value} {others : List (List Char × Value)}
    (each : ∀ m ∈ first :: others, m.2.Assembles) (before : List (List Char × Value))
    (stack : List Frame) (rest : List Token) :
    run ⟨stack, .nextKey before⟩ (memberTokens (first :: others) ++ .closeObject :: rest) =
      run (give stack (.object (before.reverse ++ first :: others))) rest := by
  induction others generalizing first before with
  | nil =>
    obtain ⟨key, value⟩ := first
    calc run ⟨stack, .nextKey before⟩
          (.string key :: .colon :: (value.tokens ++ .closeObject :: rest))
      _ = run ⟨stack, .afterMember ((key, value) :: before)⟩ (.closeObject :: rest) :=
        run_member before key stack (each _ List.mem_cons_self) _
      _ = run (give stack (.object ((key, value) :: before).reverse)) rest := run_cons rfl rest
      _ = _ := by rw [List.reverse_cons]
  | cons next others ih =>
    obtain ⟨key, value⟩ := first
    have later := ih (fun m inside => each m (List.mem_cons_of_mem _ inside))
      ((key, value) :: before)
    rw [memberTokens, List.cons_append, List.cons_append, List.append_assoc,
      run_member before key stack (each (key, value) List.mem_cons_self)]
    calc run ⟨stack, .afterMember ((key, value) :: before)⟩
          (.comma :: (memberTokens (next :: others) ++ .closeObject :: rest))
      _ = run ⟨stack, .nextKey ((key, value) :: before)⟩
            (memberTokens (next :: others) ++ .closeObject :: rest) := run_cons rfl _
      _ = _ := by rw [later, List.reverse_cons, List.append_assoc, List.singleton_append]

theorem Legible.assembles {v : Value} (legible : v.Legible) : v.Assembles := by
  intro stack rest
  induction legible generalizing stack rest with
  | null | bool | number | string => rfl
  | @array items _ ih =>
    rw [Value.tokens, List.cons_append, List.append_assoc, List.singleton_append]
    change run ⟨stack, .firstItem⟩ (itemTokens items ++ .closeArray :: rest) = _
    cases items with
    | nil => rfl
    | cons first others =>
      obtain ⟨left, starts⟩ := exists_itemTokens_eq first others
      rw [starts, List.append_assoc, run_firstItem, ← List.append_assoc, ← starts,
        run_itemTokens ih, List.reverse_nil, List.nil_append]
  | @object members _ _ ih =>
    rw [Value.tokens, List.cons_append, List.append_assoc, List.singleton_append]
    change run ⟨stack, .firstKey⟩ (memberTokens members ++ .closeObject :: rest) = _
    cases members with
    | nil => rfl
    | cons first others =>
      -- The first key is taken as one after a comma is.
      obtain ⟨left, starts⟩ := exists_memberTokens_eq first others
      have same : run ⟨stack, .firstKey⟩
            (memberTokens (first :: others) ++ .closeObject :: rest) =
          run ⟨stack, .nextKey []⟩ (memberTokens (first :: others) ++ .closeObject :: rest) := by
        rw [starts]
        rfl
      rw [same, run_memberTokens ih, List.reverse_nil, List.nil_append]

/-- A document is read back from its text. -/
theorem read_render {v : Value} (legible : v.Legible) : Json.read v.render = some v := by
  have lexes := legible.spelt [] [] (by simp [Token.Ends]) Token.lexes_nil
  have tokens : Token.ofText v.render.toList = some v.tokens := by
    simpa [Token.ofText, render] using lexes [] _ (Nat.le_refl _)
  have assembled := legible.assembles [] []
  rw [List.append_nil] at assembled
  rw [Json.read, tokens, Option.bind_some, Reader.ofTokens, assembled]
  rfl

/-- A document is read back from the bytes of its text. -/
theorem readBytes_render {v : Value} (legible : v.Legible) :
    Json.readBytes v.render.toUTF8 = some v := by
  have text : String.fromUTF8? v.render.toUTF8 = some v.render := dif_pos v.render.isValidUTF8
  rw [Json.readBytes, text, Option.bind_some, read_render legible]

end Value

end ParserSplice.Json
