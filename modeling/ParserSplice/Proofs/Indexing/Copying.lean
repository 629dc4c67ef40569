import ParserSplice.Proofs.Indexing.Basic
import ParserSplice.Proofs.Indexing.Board

set_option autoImplicit false

namespace ParserSplice

namespace Indexed

open MergedTables

/-- The merged state that a marking terminal leads to. The first state of the extension is looked up
only if it is needed. -/
def target (hostStates : Nat) (offsets : List Nat) (index : Nat) (extension : ExtensionFragment) :
    Decomposed → Except Stop Nat
  | .host h =>
    if h.toNat < hostStates then .ok h.toNat
    else .error (.reported (.stateOutOfRange extension.name h.toNat extension.size))
  | .extension e =>
    if e.toNat < extension.size then do
      let offset ← fetch offsets index
      return e.toNat + offset
    else .error (.reported (.stateOutOfRange extension.name e.toNat extension.size))

def placeMarkings (host : HostFragment) (offsets : List Nat) (member : ExtensionFragment × Nat) :
    Except Stop (List (Nat → PlacedMarking)) :=
  member.1.markings.entries.mapM (fun marking => do
    if host.grammar.nonterminals.contains marking.2.hook then
      let state ← target host.size offsets member.2 member.1 marking.2.entry
      return fun column => ⟨member.2, marking.1, marking.2.hook, state, column⟩
    else .error (.reported
      (.unknownHookNonterminal member.1.name marking.1 marking.2.hook)))

def layout (host : HostFragment) (extensions : List ExtensionFragment) : Except Stop Layout := do
  let counts := extensions.map (fun e => e.size)
  let offsets := Layout.offsetsFrom host.size counts
  let total := host.size + counts.foldr (· + ·) 0
  let columns := (extensions.map (fun e => e.partition.tableWidth)).foldl max
    host.grammar.tableWidth
  let placed ← extensions.zipIdx.mapM (placeMarkings host offsets)
  let markings := placed.flatten.zipIdx.map (fun entry => entry.1 (columns + entry.2))
  let width := columns + markings.length
  let largest := max total width
  if EngineAction.maxParameter.toNat < largest then
    .error (.reported (.actionParameterOverflow largest))
  else return ⟨host.size, offsets, counts, total, columns, width, markings⟩

theorem placeMarkings_eq (host : HostFragment) {offsets : List Nat} {offset index : Nat}
    (e : ExtensionFragment) (found : offsets[index]? = some offset) :
    placeMarkings host offsets (e, index) = lift (Layout.placeMarkings host ((e, offset), index)) := by
  rw [placeMarkings, Layout.placeMarkings, lift_mapM]
  apply mapM_congr
  rintro ⟨terminal, hook, entry, regex⟩ _
  simp only [Layout.placeMarking]
  by_cases hooked : host.grammar.nonterminals.contains hook = true
  · rw [if_pos hooked, if_pos hooked]
    cases entry with
    | host h => by_cases inside : h.toNat < host.size <;> simp [target, Layout.target, inside]
    | extension s =>
      by_cases inside : s.toNat < e.size <;>
        simp [target, Layout.target, inside, fetch_eq found]
  · rw [if_neg hooked, if_neg hooked]
    rfl

theorem zipIdx_eq_map_zip {extensions : List ExtensionFragment} {offsets : List Nat}
    (same : offsets.length = extensions.length) : extensions.zipIdx =
      (extensions.zip offsets).zipIdx.map (fun member => (member.1.1, member.2)) := by
  apply List.ext_getElem?
  intro i
  simp only [List.getElem?_map, List.getElem?_zipIdx, Option.map_map]
  by_cases inside : i < extensions.length
  · have other : i < offsets.length := by omega
    simp [inside, other]
  · simp [inside]

/-- A layout finds the first state of every extension. -/
theorem layout_eq (host : HostFragment) (extensions : List ExtensionFragment) :
    layout host extensions = lift (Layout.compute host extensions) := by
  have same : (Layout.offsetsFrom host.size (extensions.map (fun e => e.size))).length =
      extensions.length := by
    simp only [Layout.length_offsetsFrom, List.length_map]
  generalize offsets : Layout.offsetsFrom host.size (extensions.map (fun e => e.size)) = first at same
  have placed : extensions.zipIdx.mapM (placeMarkings host first) =
      lift ((extensions.zip first).zipIdx.mapM (Layout.placeMarkings host)) := by
    rw [zipIdx_eq_map_zip same, List.mapM_map, lift_mapM]
    apply mapM_congr
    rintro ⟨⟨e, offset⟩, i⟩ listed
    have both := List.getElem?_zip_eq_some.mp (List.mem_zipIdx_iff_getElem?.mp listed)
    exact placeMarkings_eq host e both.2
  simp only [layout, Layout.compute, offsets, placed, lift_bind]
  apply lift_bind_congr
  intro found _
  split <;> rfl

/-- The merged table and the use masks of a fragment while the fragment is copied. -/
structure Copying where
  board : Board
  uses : List UInt8

def restrict (name : String) (role : TerminalUse) (uses : List UInt8) (terminal : Nat) :
    Except Stop (List UInt8) :=
  match uses[terminal]? with
  | some mask => .ok (uses.set terminal (mask &&& role.mask))
  | none => .error (.reported (.terminalOutOfRange name terminal uses.length))

/-- Writes the cell of an entry of a fragment table, and notes the role of its column. -/
def copyEntry (l : Layout) (m : Member) (host : Grammar) (state : Nat) (s : Copying)
    (entry : Nat × FragmentAction) : Except Stop Copying := do
  if l.ordinaryColumns ≤ entry.1 then
    .error (.reported (.columnOutOfRange m.name entry.1 l.ordinaryColumns))
  else match m.owner.classify host entry.1 with
    | none => .error (.reported (.unclassifiedColumn m.name state entry.1))
    | some kind =>
      let action ← lift (translate l m host entry.1 kind entry.2)
      let cell ← lift (pack action)
      let cells ← change s.board.cells (state + m.offset) (fun row =>
        change row entry.1 (fun _ => .ok cell))
      match kind with
      | .nonterminal => return ⟨⟨cells, s.board.layouts⟩, s.uses⟩
      | .terminal =>
        let uses ← restrict m.name .shiftable s.uses entry.1
        return ⟨⟨cells, s.board.layouts⟩, uses⟩

/-- Copies one state of a fragment to its merged row. -/
def copyState (l : Layout) (m : Member) (host : Grammar) (s : Copying) (state : Nat) :
    Except Stop Copying := do
  let s ← (m.fragment.table.row state).entries.foldlM (copyEntry l m host state) s
  let layout := m.fragment.layout state
  let uses ← layout.elems.foldlM (restrict m.name .layout) s.uses
  let layouts ← change s.board.layouts (state + m.offset) (fun held => .ok (held.union layout))
  let uses ← (m.fragment.transparent state).elems.foldlM (restrict m.name .transparent) uses
  return ⟨⟨s.board.cells, layouts⟩, uses⟩

def narrowed (uses : List UInt8) (appearances : List (Nat × TerminalUse)) : List UInt8 :=
  appearances.foldl (fun uses a => uses.modify a.1 (· &&& a.2.mask)) uses

theorem length_narrowed (uses : List UInt8) (appearances : List (Nat × TerminalUse)) :
    (narrowed uses appearances).length = uses.length := by
  induction appearances generalizing uses with
  | nil => rfl
  | cons a rest ih => exact (ih _).trans (List.length_modify ..)

theorem narrowed_append (uses : List UInt8) (first second : List (Nat × TerminalUse)) :
    narrowed uses (first ++ second) = narrowed (narrowed uses first) second := List.foldl_append

theorem restrict_eq (m : Member) (role : TerminalUse) {uses : List UInt8} {count : Nat}
    (length : uses.length = count) (terminal : Nat) : restrict m.name role uses terminal =
      (lift (appearance m count role terminal) >>= fun use => .ok (narrowed uses [use])) := by
  subst length
  rw [restrict, appearance]
  by_cases inside : terminal < uses.length
  · have made : uses.modify terminal (· &&& role.mask) =
        uses.set terminal (uses[terminal] &&& role.mask) := List.modify_eq_set_get _ inside
    rw [List.getElem?_eq_getElem inside, if_pos inside]
    exact congrArg Except.ok made.symm
  · rw [List.getElem?_eq_none (Nat.le_of_not_lt inside), if_neg inside]
    rfl

theorem foldlM_restrict_eq (m : Member) (role : TerminalUse) {uses : List UInt8} {count : Nat}
    (length : uses.length = count) (terminals : List Nat) :
    terminals.foldlM (restrict m.name role) uses =
      (lift (terminals.mapM (appearance m count role)) >>= fun found => .ok (narrowed uses found)) :=
  foldlM_eq (P := fun uses => uses.length = count)
    (fun uses use length => (length_narrowed uses [use]).trans length)
    (fun s length terminal _ => @restrict_eq m role s count length terminal) length

/-- Writing a cell that the merged table has. -/
theorem change_cell {rows width row column : Nat} {cells : List (List UInt32)}
    (shaped : Shaped rows width cells) (rowInside : row < rows) (columnInside : column < width)
    (cell : UInt32) : change cells row (fun r => change r column (fun _ => .ok cell)) =
      .ok (cells.modify row (fun r => r.set column cell)) := by
  obtain ⟨held, found, length⟩ := shaped.exists_row rowInside
  obtain ⟨below, rfl⟩ := List.getElem?_eq_some_iff.mp found
  have place : cells[row][column]? = some cells[row][column] := List.getElem?_eq_getElem (by omega)
  have written : change cells[row] column (fun _ => .ok cell) = .ok (cells[row].set column cell) :=
    change_eq place rfl
  rw [change_eq found written, List.modify_eq_set_get _ below]
  rfl

/-- The table and masks after an entry was copied to a row. -/
def Copying.wrote (row : Nat) (s : Copying) (r : (Nat × UInt32) × List (Nat × TerminalUse)) :
    Copying :=
  ⟨⟨s.board.cells.modify row (fun held => overwrite held [r.1]), s.board.layouts⟩,
    narrowed s.uses r.2⟩

/-- A table with rows and columns for everything, and masks for the terminals of a fragment. -/
structure Copying.Fits (rows width count : Nat) (s : Copying) : Prop where
  board : s.board.Fits rows width
  uses : s.uses.length = count

variable {l : Layout} {m : Member} {host : Grammar} {state : Nat}

theorem Copying.Fits.wrote {rows width count row : Nat} {s : Copying}
    (fits : s.Fits rows width count) (r : (Nat × UInt32) × List (Nat × TerminalUse)) :
    (s.wrote row r).Fits rows width count :=
  ⟨⟨fits.board.cells.modify (fun held => length_overwrite held [r.1]) row, fits.board.layouts⟩,
    (length_narrowed s.uses r.2).trans fits.uses⟩

theorem copyEntry_eq {s : Copying} (columns : l.ordinaryColumns ≤ l.width)
    (fits : s.Fits l.totalStates l.width (m.owner.terminalCount host))
    (inside : state + m.offset < l.totalStates) (entry : Nat × FragmentAction) :
    copyEntry l m host state s entry =
      (lift (MergedTables.copyEntry l m host state entry) >>= fun r =>
        .ok (s.wrote (state + m.offset) r)) := by
  unfold copyEntry MergedTables.copyEntry
  by_cases past : l.ordinaryColumns ≤ entry.1
  · rw [if_pos past, if_pos past]
    rfl
  · rw [if_neg past, if_neg past]
    have column : entry.1 < l.width := by omega
    cases m.owner.classify host entry.1 with
    | none => rfl
    | some kind =>
      simp only [lift_bind, bind_assoc]
      apply lift_bind_congr
      intro action _
      apply lift_bind_congr
      intro cell _
      rw [change_cell fits.board.cells inside column, ok_bind]
      cases kind with
      | nonterminal => rfl
      | terminal =>
        simp only [restrict_eq m .shiftable fits.uses, lift_bind, bind_assoc]
        rfl

/-- The entries of a row, copied one after the other. -/
theorem foldl_wrote (row : Nat) (s : Copying)
    (entries : List ((Nat × UInt32) × List (Nat × TerminalUse))) :
    entries.foldl (Copying.wrote row) s =
      ⟨⟨s.board.cells.modify row (fun held => overwrite held (entries.map Prod.fst)),
        s.board.layouts⟩, narrowed s.uses (entries.map Prod.snd).flatten⟩ := by
  induction entries generalizing s with
  | nil =>
    have kept : s.board.cells.modify row (fun held => overwrite held []) = s.board.cells :=
      List.modify_id row s.board.cells
    simp [kept, narrowed]
  | cons r rest ih =>
    rw [List.foldl_cons, ih, Copying.wrote]
    simp only [List.modify_modify_eq, List.map_cons, List.flatten_cons, narrowed_append]
    rfl

theorem copyState_eq {s : Copying} (columns : l.ordinaryColumns ≤ l.width)
    (fits : s.Fits l.totalStates l.width (m.owner.terminalCount host))
    (inside : state + m.offset < l.totalStates) : copyState l m host s state =
      (lift (MergedTables.copyState l m host state) >>= fun copied =>
        .ok ⟨s.board.place (state + m.offset, copied), narrowed s.uses copied.uses⟩) := by
  have entries : (m.fragment.table.row state).entries.foldlM (copyEntry l m host state) s =
      (lift ((m.fragment.table.row state).entries.mapM (MergedTables.copyEntry l m host state)) >>=
        fun found => .ok (found.foldl (Copying.wrote (state + m.offset)) s)) :=
    foldlM_eq (fun _ r held => held.wrote r)
      (fun _ held entry _ => copyEntry_eq columns held inside entry) fits
  have layouts : state + m.offset < s.board.layouts.length := by
    rw [fits.board.layouts]
    exact inside
  simp only [copyState, MergedTables.copyState, entries, lift_bind, bind_assoc, ok_bind]
  apply lift_bind_congr
  intro found _
  rw [foldl_wrote]
  have masks : (narrowed s.uses (found.map Prod.snd).flatten).length =
      m.owner.terminalCount host := (length_narrowed _ _).trans fits.uses
  simp only [foldlM_restrict_eq m .layout masks, bind_assoc, ok_bind, change_pure layouts]
  apply lift_bind_congr
  intro layoutUses _
  have masks' : (narrowed (narrowed s.uses (found.map Prod.snd).flatten) layoutUses).length =
      m.owner.terminalCount host := (length_narrowed _ _).trans masks
  simp only [foldlM_restrict_eq m .transparent masks', bind_assoc, ok_bind, lift_pure, pure_bind]
  apply lift_bind_congr
  intro transparentUses _
  rw [← narrowed_append, ← narrowed_append, ← List.append_assoc]
  rfl

/-- The first state of each extension is listed at the number of the extension. -/
theorem getElem?_offsets_of_mem {host : HostFragment} {extensions : List ExtensionFragment}
    (laid : Layout.Laid host extensions l) {entry : ExtensionFragment × Nat}
    (listed : entry ∈ extensions.zipIdx) : l.offsets[entry.2]? = some (l.offset entry.2) :=
  laid.getElem?_offsets entry.2
    (List.getElem?_eq_some_iff.mp (List.mem_zipIdx_iff_getElem?.mp listed)).1

theorem ofExtension_mem {host : HostFragment} {extensions : List ExtensionFragment}
    {entry : ExtensionFragment × Nat} (listed : entry ∈ extensions.zipIdx) :
    Member.ofExtension entry.1 (l.offset entry.2) ∈ Member.all host extensions l :=
  Member.ofExtension_mem_all (List.mem_zipIdx_iff_getElem?.mp listed)

/-- Copies a fragment to its merged rows. -/
def copyMember (l : Layout) (host : Grammar) (b : Board) (m : Member) : Except Stop Copying :=
  (List.range m.fragment.size).foldlM (copyState l m host)
    ⟨b, List.replicate (m.owner.terminalCount host) TerminalUse.unconstrained⟩

/-- Copies an extension, whose first state is looked up. -/
def copyExtension (l : Layout) (host : Grammar) (s : Board × List (List UInt8))
    (entry : ExtensionFragment × Nat) : Except Stop (Board × List (List UInt8)) := do
  let offset ← fetch l.offsets entry.2
  let done ← copyMember l host s.1 (Member.ofExtension entry.1 offset)
  return (done.board, s.2 ++ [done.uses])

/-- Merges the tables of a host and its extensions. -/
def copy (host : HostFragment) (extensions : List ExtensionFragment) (l : Layout) :
    Except Stop MergedTables := do
  let first ← copyMember l host.grammar (Board.blank l.totalStates l.width) (Member.ofHost host)
  let done ← extensions.zipIdx.foldlM (copyExtension l host.grammar) (first.board, [])
  return ⟨done.1.cells, done.1.layouts, first.uses, done.2⟩

theorem copyMember_eq {b : Board} (columns : l.ordinaryColumns ≤ l.width)
    (fits : b.Fits l.totalStates l.width) (inside : m.offset + m.fragment.size ≤ l.totalStates) :
    copyMember l host b m = (lift (MergedTables.copyMember l host m) >>= fun rows =>
      .ok ⟨b.placeAll rows, usesOf host m rows⟩) := by
  have states : copyMember l host b m = (lift (MergedTables.copyMember l host m) >>= fun rows =>
      .ok (rows.foldl (fun (s : Copying) (entry : Nat × CopiedState) =>
        ⟨s.board.place entry, narrowed s.uses entry.2.uses⟩)
        ⟨b, List.replicate (m.owner.terminalCount host) TerminalUse.unconstrained⟩)) := by
    apply foldlM_eq (P := Copying.Fits l.totalStates l.width (m.owner.terminalCount host))
    · intro s entry held
      exact ⟨held.board.place entry, (length_narrowed _ _).trans held.uses⟩
    · intro s held state listed
      have below := List.mem_range.mp listed
      rw [copyState_eq columns held (by omega)]
      simp only [lift_bind, lift_pure, bind_assoc, pure_bind]
    · exact ⟨fits, List.length_replicate⟩
  rw [states]
  apply lift_bind_congr
  intro rows done
  rw [usesOf, TerminalUse.masks]
  generalize List.replicate (m.owner.terminalCount host) TerminalUse.unconstrained = uses
  congr 1
  clear fits states done
  induction rows generalizing b uses with
  | nil => rfl
  | cons entry rest ih =>
    rw [List.foldl_cons, ih, List.flatMap_cons, List.foldl_append]
    rfl

theorem foldlM_copyExtension_eq {b : Board} {entries : List (ExtensionFragment × Nat)}
    (columns : l.ordinaryColumns ≤ l.width) (fits : b.Fits l.totalStates l.width)
    (placed : ∀ entry ∈ entries, l.offsets[entry.2]? = some (l.offset entry.2))
    (inside : ∀ entry ∈ entries, l.offset entry.2 + entry.1.size ≤ l.totalStates)
    (before : List (List UInt8)) :
    entries.foldlM (copyExtension l host) (b, before) =
      (lift ((entries.map (fun entry => Member.ofExtension entry.1 (l.offset entry.2))).mapM
        (MergedTables.copyMember l host)) >>= fun copied =>
          .ok (b.placeAll copied.flatten, before ++ List.zipWith (usesOf host)
            (entries.map (fun entry => Member.ofExtension entry.1 (l.offset entry.2))) copied)) := by
  induction entries generalizing b before with
  | nil => simp [Board.placeAll, pure, Except.pure]
  | cons entry rest ih =>
    obtain ⟨first, others⟩ := List.forall_mem_cons.mp placed
    obtain ⟨room, rooms⟩ := List.forall_mem_cons.mp inside
    have own : copyExtension l host (b, before) entry =
        (lift (MergedTables.copyMember l host (Member.ofExtension entry.1 (l.offset entry.2))) >>=
          fun rows => .ok (b.placeAll rows,
            before ++ [usesOf host (Member.ofExtension entry.1 (l.offset entry.2)) rows])) := by
      rw [copyExtension, fetch_eq first, ok_bind, copyMember_eq columns fits room]
      simp only [bind_assoc, ok_bind]
      rfl
    rw [List.foldlM_cons, own, List.map_cons, List.mapM_cons]
    simp only [lift_bind, lift_pure, bind_assoc, ok_bind, pure_bind]
    apply lift_bind_congr
    intro rows _
    rw [ih (fits.placeAll rows) others rooms]
    apply lift_bind_congr
    intro copied _
    simp [Board.placeAll, List.foldl_append]

/-- The cells of a copied state are for different columns. -/
theorem nodup_columns {rows : List (Nat × CopiedState)} (room : m.Room host l)
    (copied : MergedTables.copyMember l host m = .ok rows) :
    ∀ entry ∈ rows, (entry.2.cells.map Prod.fst).Nodup := by
  obtain ⟨_, rfl⟩ := (copyMember_eq_ok_iff room rows).mp copied
  intro entry listed
  obtain ⟨state, _, rfl⟩ := List.mem_map.mp listed
  have columns : (m.copied host state).cells.map Prod.fst =
      (m.fragment.table.row state).entries.map Prod.fst := by
    simp [Member.copied]
  rw [columns]
  exact (m.fragment.table.row state).nodup_keys

/-- Copying finds every row and column, and the first state of every extension. -/
theorem copy_eq {host : HostFragment} {extensions : List ExtensionFragment}
    (laid : Layout.Laid host extensions l) :
    copy host extensions l = lift (MergedTables.copy host extensions l) := by
  have columns := laid.ordinaryColumns_le
  have inside {m : Member} (member : m ∈ Member.all host extensions l) :=
    Member.offset_add_size_le laid member
  have fits := Board.fits_blank l.totalStates l.width
  rw [copy, copyMember_eq columns fits (inside Member.ofHost_mem_all)]
  simp only [MergedTables.copy, Member.all, List.mapM_cons, lift_bind, lift_pure, bind_assoc,
    ok_bind, pure_bind]
  apply lift_bind_congr
  intro first hostCopied
  rw [foldlM_copyExtension_eq columns (fits.placeAll first)
    (fun _ listed => getElem?_offsets_of_mem laid listed)
    (fun _ listed => inside (ofExtension_mem listed))]
  simp only [bind_assoc, ok_bind]
  apply lift_bind_congr
  intro copied extensionsCopied
  have distinct : ∀ entry ∈ (first :: copied).flatten, (entry.2.cells.map Prod.fst).Nodup := by
    have each := (mapM_eq_ok_iff _ _ _).mp extensionsCopied
    intro entry listed
    obtain ⟨rows, own, found⟩ := List.mem_flatten.mp listed
    rcases List.mem_cons.mp own with rfl | own
    · exact nodup_columns (Member.room_of_mem laid Member.ofHost_mem_all) hostCopied entry found
    · obtain ⟨m, extension, done⟩ := exists_item_of_mem each rows own
      obtain ⟨place, listed', rfl⟩ := List.mem_map.mp extension
      exact nodup_columns (Member.room_of_mem laid (ofExtension_mem listed')) done entry found
  have board : ((Board.blank l.totalStates l.width).placeAll first).placeAll copied.flatten =
      (Board.blank l.totalStates l.width).placeAll (first :: copied).flatten := by
    simp [Board.placeAll, List.foldl_append]
  rw [board, Board.placeAll_blank _ _ distinct]
  simp only [List.map_map, List.zipWith_cons_cons, List.headD_cons, List.tail_cons, List.nil_append]
  rfl

end Indexed

end ParserSplice
