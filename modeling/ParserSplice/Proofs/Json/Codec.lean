import ParserSplice.Json.Codec
import ParserSplice.Proofs.Json.Reading
import ParserSplice.Proofs.Ordered

set_option autoImplicit false

namespace ParserSplice.Json

/-- What a codec promises for the values that fit it: their documents are well written, and reading
such a document gives the value back. -/
structure Codec.RoundTrips {α : Type} (c : Codec α) (fits : α → Prop) : Prop where
  legible : ∀ a, fits a → (c.encode a).Legible
  decode : ∀ a, fits a → c.decode (c.encode a) = some a

abbrev Codec.Lossless {α : Type} (c : Codec α) : Prop := c.RoundTrips (fun _ => True)

namespace Value

theorem legible_ofNat (n : Nat) : (ofNat n).Legible :=
  .number (Token.isNumber_toDigits n) (fun _ => Token.isNumeric_of_mem_toDigits)

theorem legible_ofInt (i : Int) : (ofInt i).Legible := by
  cases i with
  | ofNat n => exact legible_ofNat n
  | negSucc n =>
    refine .number (Token.isNumber_negative (n + 1)) (fun c inside => ?_)
    rcases List.mem_cons.mp inside with rfl | digit
    · rfl
    · exact Token.isNumeric_of_mem_toDigits digit

theorem legible_ofMembers {members : List (String × Value)}
    (each : ∀ m ∈ members, m.2.Legible) : (ofMembers members).Legible := by
  refine .object (fun m inside => ?_) (fun m inside => ?_)
  · obtain ⟨named, _, rfl⟩ := List.mem_map.mp inside
    exact ⟨named.1, rfl⟩
  · obtain ⟨named, own, rfl⟩ := List.mem_map.mp inside
    exact each named own

theorem natBelow?_ofNat {limit n : Nat} (small : n < limit) :
    (ofNat n).natBelow? limit = some n := by
  simp [natBelow?, ofNat, small]

theorem intBetween?_ofInt {low high i : Int} (above : low ≤ i) (below : i ≤ high) :
    (ofInt i).intBetween? low high = some i := by
  cases i with
  | ofNat n =>
    have fits : (n : Int) ≤ high := below
    rw [ofInt, ofNat, intBetween?]
    · simp [fits]
    · intro rest same
      exact toDigits_ne_minus n rest same
  | negSucc n =>
    have fits : low ≤ -((n + 1 : Nat) : Int) := above
    have nonzero : n + 1 ≠ 0 := Nat.succ_ne_zero n
    rw [ofInt, intBetween?, plainNat?_toDigits, Option.bind_some, if_pos ⟨nonzero, fits⟩]
    rfl

@[simp] theorem alternative?_ofString (text : String) :
    (ofString text).alternative? = some (text, none) := by
  simp [alternative?, ofString]

@[simp] theorem alternative?_tagged (label : String) (content : Value) :
    (tagged label content).alternative? = some (label, some content) := by
  simp [alternative?, tagged, ofMembers]

theorem Legible.tagged {label : String} {content : Value} (legible : content.Legible) :
    (Value.tagged label content).Legible := by
  refine legible_ofMembers (fun m inside => ?_)
  rw [List.mem_singleton.mp inside]
  exact legible

end Value

namespace Codec

open Value (Legible)

variable {α : Type} {item : Codec α} {fits : α → Prop}

theorem number_roundTrips : number.RoundTrips (· < UInt64.size) :=
  ⟨fun n _ => Value.legible_ofNat n, fun _ small => Value.natBelow?_ofNat small⟩

theorem word_lossless : word.Lossless where
  legible w _ := Value.legible_ofNat w.toNat
  decode w _ := by
    change ((Value.ofNat w.toNat).natBelow? UInt32.size).map UInt32.ofNat = some w
    rw [Value.natBelow?_ofNat w.toNat_lt_size, Option.map_some, UInt32.ofNat_toNat]

theorem byte_lossless : byte.Lossless where
  legible b _ := Value.legible_ofNat b.toNat
  decode b _ := by
    change ((Value.ofNat b.toNat).natBelow? UInt8.size).map UInt8.ofNat = some b
    rw [Value.natBelow?_ofNat b.toNat_lt_size, Option.map_some, UInt8.ofNat_toNat]

theorem signed_roundTrips :
    signed.RoundTrips (fun i => -2147483648 ≤ i ∧ i ≤ 2147483647) :=
  ⟨fun i _ => Value.legible_ofInt i, fun _ range => Value.intBetween?_ofInt range.1 range.2⟩

theorem text_lossless : text.Lossless :=
  ⟨fun s _ => .string s, fun s _ => content?_written s⟩

theorem flag_lossless : flag.Lossless := ⟨fun b _ => .bool b, fun _ _ => rfl⟩

theorem number_encode_ne_null (n : Nat) : number.encode n ≠ .null := nofun

theorem text_encode_ne_null (s : String) : text.encode s ≠ .null := Value.noConfusion

/-- Names that differ for different values are told apart. -/
theorem name_lossless {label : α → String} {all : List α}
    (distinct : ∀ a b, label a = label b → a = b) (complete : ∀ a, a ∈ all) :
    (name label all).Lossless where
  legible a _ := .string (label a)
  decode a _ := by
    have found : (all.map (fun a => (label a, a))).lookup (label a) = some a := by
      obtain ⟨before, after, rfl⟩ := List.append_of_mem (complete a)
      clear complete
      induction before with
      | nil => simp
      | cons b rest ih =>
        by_cases same : label a = label b
        · rw [distinct a b same]
          simp
        · have apart : (label a == label b) = false := beq_false_of_ne same
          simpa [List.lookup_cons, apart] using ih
    change Value.name? _ (Value.ofString (label a)) = _
    rw [Value.name?, Value.alternative?_ofString]
    exact found

theorem mapM_decode_encode (law : item.RoundTrips fits) {items : List α}
    (each : ∀ a ∈ items, fits a) : (items.map item.encode).mapM item.decode = some items := by
  induction items with
  | nil => rfl
  | cons a rest ih =>
    rw [List.map_cons, List.mapM_cons, law.decode a (each a List.mem_cons_self),
      ih (fun b inside => each b (List.mem_cons_of_mem _ inside))]
    rfl

theorem legible_array (law : item.RoundTrips fits) {items : List α}
    (each : ∀ a ∈ items, fits a) : (Value.array (items.map item.encode)).Legible := by
  refine .array (fun v inside => ?_)
  obtain ⟨a, own, rfl⟩ := List.mem_map.mp inside
  exact law.legible a (each a own)

theorem RoundTrips.list (law : item.RoundTrips fits) :
    item.list.RoundTrips (fun items => ∀ a ∈ items, fits a) :=
  ⟨fun _ each => legible_array law each, fun _ each => mapM_decode_encode law each⟩

theorem RoundTrips.set [Ranked α] (law : item.RoundTrips fits) :
    (Codec.set item).RoundTrips (fun s => ∀ a ∈ s, fits a) where
  legible _ each := legible_array law each
  decode s each := by
    change ((s.elems.map item.encode).mapM item.decode).map OrderedSet.ofList = some s
    rw [mapM_decode_encode law each, Option.map_some, OrderedSet.ofList_elems]

theorem RoundTrips.map (law : item.RoundTrips fits) :
    item.map.RoundTrips
      (fun m => ∀ entry ∈ m.entries, entry.1 < UInt64.size ∧ fits entry.2) where
  legible m each := by
    refine .object (fun member inside => ?_) (fun member inside => ?_)
    · obtain ⟨entry, _, rfl⟩ := List.mem_map.mp inside
      exact ⟨_, toDigits_eq_written entry.1⟩
    · obtain ⟨entry, own, rfl⟩ := List.mem_map.mp inside
      exact law.legible entry.2 (each entry own).2
  decode m each := by
    have entries : ∀ entries : List (Nat × α),
        (∀ entry ∈ entries, entry.1 < UInt64.size ∧ fits entry.2) →
        (entries.map (fun entry => (Nat.toDigits 10 entry.1, item.encode entry.2))).mapM
          (fun (m : List Char × Value) => do
            let key ← (plainNat? m.1).filter (fun n => decide (n < UInt64.size))
            let value ← item.decode m.2
            return (key, value)) = some entries := by
      intro entries each
      induction entries with
      | nil => rfl
      | cons entry rest ih =>
        obtain ⟨small, own⟩ := each entry List.mem_cons_self
        rw [List.map_cons, List.mapM_cons,
          ih (fun other inside => each other (List.mem_cons_of_mem _ inside))]
        simp [Option.filter, small, law.decode entry.2 own]
    change Option.map _ _ = _
    rw [entries m.entries each, Option.map_some, OrderedMap.ofList_entries]

/-- A value that may be absent, where a value that is present is never written as an absent one. -/
theorem RoundTrips.optional (law : item.RoundTrips fits)
    (present : ∀ a, item.encode a ≠ .null) :
    item.optional.RoundTrips (fun o => ∀ a ∈ o, fits a) where
  legible
    | none, _ => .null
    | some a, each => law.legible a (each a rfl)
  decode
    | none, _ => rfl
    | some a, each => by
      have written := law.decode a (each a rfl)
      have notNull := present a
      change (item.encode a).optional? item.decode = _
      cases encoded : item.encode a with
      | null => exact absurd encoded notNull
      | _ => rw [encoded] at written; simp [Value.optional?, written]

theorem numbers_roundTrips : numbers.RoundTrips (fun s => ∀ n ∈ s, n < UInt64.size) :=
  number_roundTrips.set

end Codec

namespace Fields

theorem ofMembers_written {known : List String} {members : List (String × Value)}
    (each : ∀ m ∈ members, m.1 ∈ known) (distinct : (members.map Prod.fst).Nodup) :
    ofMembers known (members.map (fun m => (written m.1, m.2))) = some members := by
  induction members with
  | nil => rfl
  | cons m rest ih =>
    obtain ⟨fresh, distinct⟩ := List.nodup_cons.mp distinct
    have others := ih (fun m inside => each m (List.mem_cons_of_mem _ inside)) distinct
    have absent : rest.lookup m.1 = none := by
      rw [List.lookup_eq_none_iff]
      intro other inside
      have apart : m.1 ≠ other.1 := fun same => fresh (same ▸ List.mem_map_of_mem inside)
      simpa using apart
    simp [ofMembers, others, absent, each m List.mem_cons_self]

/-- A record that writes all its fields is given all of them. -/
theorem ofValue_ofMembers {known : List String} {members : List (String × Value)}
    (names : members.map Prod.fst = known) (distinct : known.Nodup) :
    ofValue known (.ofMembers members) = some ⟨members⟩ := by
  have each : ∀ m ∈ members, m.1 ∈ known := fun m inside =>
    names ▸ List.mem_map_of_mem inside
  change (ofMembers known _).map _ = _
  rw [ofMembers_written each (names ▸ distinct), Option.map_some]

/-- Goes on with what was read. -/
theorem bind_eq_of_some {α β : Type} {read : Option α} {a : α} (given : read = some a)
    {next : α → Option β} {result : Option β} (rest : next a = result) :
    (read >>= next) = result := by
  rw [given]
  exact rest

variable {α β : Type} {c : Codec α} {fits : α → Prop} {a : α} {f : Fields} {name : String}
  {next : α → Option β} {result : Option β}

theorem bind_required (law : c.RoundTrips fits) (own : fits a)
    (given : f.given.lookup name = some (c.encode a)) (rest : next a = result) :
    (f.required name c.decode >>= next) = result := by
  refine bind_eq_of_some ?_ rest
  rw [required, given]
  exact law.decode a own

theorem bind_withDefault (law : c.RoundTrips fits) (own : fits a) {default : α}
    (given : f.given.lookup name = some (c.encode a)) (rest : next a = result) :
    (f.withDefault name c.decode default >>= next) = result := by
  refine bind_eq_of_some ?_ rest
  rw [withDefault, given]
  exact law.decode a own

end Fields

end ParserSplice.Json
