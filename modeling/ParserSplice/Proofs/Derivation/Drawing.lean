import ParserSplice.Proofs.Derivation.Lines
import ParserSplice.Proofs.Traversal

set_option autoImplicit false

namespace ParserSplice.Derivation

def symbol : Derivation → String
  | leaf symbol => symbol
  | dot => dotMark
  | node symbol _ => symbol

def width (tree : Derivation) : Nat := (draw [] 0 0 tree).1

mutual

/-- Number of lines that a tree takes. -/
def height : Derivation → Nat
  | leaf _ => 1
  | dot => 1
  | node _ children => 1 + heights children

/-- Number of lines that trees side by side take. -/
def heights : List Derivation → Nat
  | [] => 0
  | child :: rest => max child.height (heights rest)

end

/-- A node of a drawn tree: the subtree below it, its depth, and its column. -/
structure Spot where
  tree : Derivation
  depth : Nat
  column : Nat

mutual

/-- The nodes of a tree whose root has a depth and a column, in the order in which they are drawn.
-/
def spots (depth column : Nat) : Derivation → List Spot
  | leaf symbol => [⟨leaf symbol, depth, column⟩]
  | dot => [⟨dot, depth, column⟩]
  | node symbol children =>
    ⟨node symbol children, depth, column⟩ :: childSpots (depth + 1) column children

/-- The nodes of trees side by side, one blank apart. -/
def childSpots (depth column : Nat) : List Derivation → List Spot
  | [] => []
  | child :: rest => spots depth column child ++ childSpots depth (column + child.width + 1) rest

end

/-- The symbol of a node, drawn below a line. -/
def Spot.mark (row : Nat) (p : Spot) : Mark := ⟨row + p.depth, p.column, p.tree.symbol⟩

mutual

theorem draw_fst_eq (lines lines' : List String) (row row' col col' : Nat) :
    ∀ tree, (draw lines row col tree).1 = (draw lines' row' col' tree).1
  | leaf _ => rfl
  | dot => rfl
  | node symbol children => by
    simp only [draw]
    rw [drawChildren_fst_eq _ (putAt lines' row' col' symbol) _ (row' + 1) _ col' 0 children]

theorem drawChildren_fst_eq (lines lines' : List String) (row row' col col' used : Nat) :
    ∀ children, (drawChildren lines row col used children).1 =
      (drawChildren lines' row' col' used children).1
  | [] => rfl
  | [child] => by
    simp only [drawChildren]
    rw [draw_fst_eq lines lines' row row' (col + used) (col' + used) child]
  | child :: next :: others => by
    rw [drawChildren, drawChildren]
    rw [draw_fst_eq lines lines' row row' (col + used) (col' + used) child]
    exact drawChildren_fst_eq _ _ row row' col col' _ (next :: others)

end

theorem draw_fst (lines : List String) (row col : Nat) (tree : Derivation) :
    (draw lines row col tree).1 = tree.width :=
  draw_fst_eq lines [] row 0 col 0 tree

mutual

theorem draw_snd (lines : List String) (row depth col : Nat) :
    ∀ tree, (draw lines (row + depth) col tree).2 =
      ((spots depth col tree).map (Spot.mark row)).foldl Mark.place lines
  | leaf _ => rfl
  | dot => rfl
  | node symbol children => by
    simp only [draw, spots, List.map_cons, List.foldl_cons]
    exact drawChildren_snd _ row (depth + 1) col 0 children

theorem drawChildren_snd (lines : List String) (row depth col used : Nat) :
    ∀ children, (drawChildren lines (row + depth) col used children).2 =
      ((childSpots depth (col + used) children).map (Spot.mark row)).foldl Mark.place lines
  | [] => rfl
  | [child] => by
    simp only [drawChildren, childSpots, List.append_nil]
    exact draw_snd lines row depth (col + used) child
  | child :: next :: others => by
    rw [drawChildren, childSpots, List.map_append, List.foldl_append, draw_fst,
      ← draw_snd lines row depth (col + used) child,
      (by omega : col + used + child.width + 1 = col + (used + child.width + 1))]
    exact drawChildren_snd _ row depth col (used + child.width + 1) (next :: others)

end

/-- The width of trees side by side, one blank apart. -/
def span : List Derivation → Nat
  | [] => 0
  | [child] => child.width
  | child :: next :: others => child.width + 1 + span (next :: others)

theorem drawChildren_fst (lines : List String) (row col used : Nat) (children : List Derivation) :
    (drawChildren lines row col used children).1 = used + span children := by
  fun_induction span children generalizing lines used with
  | case1 => rfl
  | case2 child => simp only [drawChildren, draw_fst]
  | case3 child next others ih =>
    rw [drawChildren, draw_fst, ih]
    omega

theorem width_node (symbol : String) (children : List Derivation) :
    (node symbol children).width = max (span children) symbol.length := by
  rw [width, draw, drawChildren_fst, Nat.zero_add]

theorem length_symbol_le (tree : Derivation) : tree.symbol.length ≤ tree.width := by
  cases tree with
  | leaf symbol => exact Nat.le_refl _
  | dot => exact Nat.le_refl _
  | node symbol children =>
    rw [width_node]
    exact Nat.le_max_right _ _

/-- A node lies in the rectangle of a depth, a column, a height and a width, and so does all that
is drawn below it. -/
structure Spot.Inside (p : Spot) (depth column height width : Nat) : Prop where
  top : depth ≤ p.depth
  bottom : p.depth < depth + height
  left : column ≤ p.column
  right : p.column + p.tree.width ≤ column + width

theorem Spot.inside_self (tree : Derivation) (depth col : Nat) :
    Spot.Inside ⟨tree, depth, col⟩ depth col tree.height tree.width := by
  have tall : 0 < tree.height := by cases tree <;> simp only [height] <;> omega
  constructor <;> dsimp only <;> omega

theorem Spot.Inside.widen {p : Spot} {depth col height width depth' col' height' width' : Nat}
    (inside : p.Inside depth col height width) (top : depth' ≤ depth)
    (bottom : depth + height ≤ depth' + height') (left : col' ≤ col)
    (right : col + width ≤ col' + width') : p.Inside depth' col' height' width' := by
  obtain ⟨_, _, _, _⟩ := inside
  constructor <;> omega

mutual

theorem inside_spots (depth col : Nat) :
    ∀ tree, ∀ p ∈ spots depth col tree, p.Inside depth col tree.height tree.width
  | leaf symbol => by
    rw [spots, List.forall_mem_singleton]
    exact Spot.inside_self (leaf symbol) depth col
  | dot => by
    rw [spots, List.forall_mem_singleton]
    exact Spot.inside_self dot depth col
  | node symbol children => by
    rw [spots, List.forall_mem_cons]
    refine ⟨Spot.inside_self _ depth col, fun p listed => ?_⟩
    have wide := width_node symbol children
    have tall : (node symbol children).height = 1 + heights children := by rw [height]
    apply (inside_childSpots (depth + 1) col children p listed).widen <;> omega

theorem inside_childSpots (depth col : Nat) :
    ∀ children, ∀ p ∈ childSpots depth col children,
      p.Inside depth col (heights children) (span children)
  | [] => by simp [childSpots]
  | [child] => by
    simp only [childSpots, List.append_nil, heights, span]
    intro p listed
    apply (inside_spots depth col child p listed).widen <;> omega
  | child :: next :: others => by
    have wide : span (child :: next :: others) = child.width + 1 + span (next :: others) := by
      rw [span]
    have tall : heights (child :: next :: others) =
        max child.height (heights (next :: others)) := by rw [heights]
    rw [childSpots, List.forall_mem_append]
    constructor
    · intro p listed
      apply (inside_spots depth col child p listed).widen <;> omega
    · intro p listed
      apply (inside_childSpots depth _ (next :: others) p listed).widen <;> omega

end

mutual

/-- Some node stands on the last line of a tree. -/
theorem exists_deepest (depth col : Nat) :
    ∀ tree, ∃ p ∈ spots depth col tree, p.depth + 1 = depth + tree.height
  | leaf symbol => ⟨⟨leaf symbol, depth, col⟩, by simp [spots], by rw [height]⟩
  | dot => ⟨⟨dot, depth, col⟩, by simp [spots], by rw [height]⟩
  | node symbol children => by
    rw [spots, height]
    by_cases childless : heights children = 0
    · exact ⟨_, List.mem_cons_self, by dsimp only; omega⟩
    · obtain ⟨p, listed, last⟩ := exists_deepest_child (depth + 1) col children childless
      exact ⟨p, List.mem_cons_of_mem _ listed, by omega⟩

theorem exists_deepest_child (depth col : Nat) :
    ∀ children, heights children ≠ 0 →
      ∃ p ∈ childSpots depth col children, p.depth + 1 = depth + heights children
  | [], tall => absurd rfl tall
  | child :: rest, _ => by
    rw [heights, childSpots]
    by_cases first : heights rest ≤ child.height
    · obtain ⟨p, listed, last⟩ := exists_deepest depth col child
      exact ⟨p, List.mem_append_left _ listed, by omega⟩
    · obtain ⟨p, listed, last⟩ := exists_deepest_child depth _ rest (by omega)
      exact ⟨p, List.mem_append_right _ listed, by omega⟩

end

mutual

/-- What is drawn for a node is drawn as a part of the tree. -/
theorem mem_spots_trans (depth col : Nat) :
    ∀ tree, ∀ p ∈ spots depth col tree, ∀ q ∈ spots p.depth p.column p.tree, q ∈ spots depth col tree
  | leaf symbol => by simp [spots]
  | dot => by simp [spots]
  | node symbol children => by
    rw [spots]
    intro p listed q below
    rcases List.mem_cons.mp listed with rfl | deeper
    · rwa [spots] at below
    · exact List.mem_cons_of_mem _ (mem_childSpots_trans _ col children p deeper q below)

theorem mem_childSpots_trans (depth col : Nat) :
    ∀ children, ∀ p ∈ childSpots depth col children, ∀ q ∈ spots p.depth p.column p.tree,
      q ∈ childSpots depth col children
  | [] => by simp [childSpots]
  | child :: rest => by
    rw [childSpots]
    intro p listed q below
    rcases List.mem_append.mp listed with first | later
    · exact List.mem_append_left _ (mem_spots_trans depth col child p first q below)
    · exact List.mem_append_right _ (mem_childSpots_trans depth _ rest p later q below)

end

mutual

/-- The symbols of a tree go from left to right on each line. -/
theorem ordered_spots (row depth col : Nat) :
    ∀ tree, ((spots depth col tree).map (Spot.mark row)).Pairwise Mark.Before
  | leaf symbol => by simp [spots]
  | dot => by simp [spots]
  | node symbol children => by
    rw [spots, List.map_cons, List.pairwise_cons]
    refine ⟨List.forall_mem_map.mpr (fun p listed same => ?_), ordered_childSpots row _ col children⟩
    -- The symbol of the root stands alone on its line.
    have deeper := (inside_childSpots (depth + 1) col children p listed).top
    simp only [Spot.mark] at same
    omega

theorem ordered_childSpots (row depth col : Nat) :
    ∀ children, ((childSpots depth col children).map (Spot.mark row)).Pairwise Mark.Before
  | [] => by simp [childSpots]
  | child :: rest => by
    rw [childSpots, List.map_append, List.pairwise_append]
    refine ⟨ordered_spots row depth col child, ordered_childSpots row depth _ rest, ?_⟩
    rw [List.forall_mem_map]
    intro p first
    rw [List.forall_mem_map]
    intro q later _
    have ends := (inside_spots depth col child p first).right
    have starts := (inside_childSpots depth _ rest q later).left
    have symbol := length_symbol_le p.tree
    simp only [Mark.stop, Spot.mark]
    omega

end

/-- What drawing a tree with its top left corner at a row and column does to some lines. -/
structure DrawsApart (lines : List String) (row col : Nat) (tree : Derivation)
    (used : Nat) (after : List String) : Prop where
  width : used = tree.width
  above : ∀ i < row, ∀ line, lines[i]? = some line → after[i]? = some line
  count : after.length = max lines.length (row + tree.height)
  kept : ∀ (i : Nat) line, lines[i]? = some line → ∃ added, after[i]? = some (line ++ added)
  stands : ∀ p ∈ tree.spots 0 col, ∃ line, after[row + p.depth]? = some line ∧
    Stands line p.column p.tree.symbol
  inside : ∀ p ∈ tree.spots 0 col,
    (∀ lines row col, (draw lines row col p.tree).1 = p.tree.width) ∧
    ∀ q ∈ p.tree.spots p.depth p.column, q ∈ tree.spots 0 col ∧ p.column ≤ q.column ∧
      q.column + q.tree.symbol.length ≤ p.column + p.tree.width
  apart : (tree.spots 0 col).Pairwise (fun p q => ∀ line column,
    ¬ ((p.mark row).Covers line column ∧ (q.mark row).Covers line column))
  blank : ∀ (i c : Nat) line ch, after[i]? = some line → line.toList[c]? = some ch →
    (lineAt lines i).toList[c]? = some ch ∨ ch = ' ' ∨
      ∃ p ∈ tree.spots 0 col, (p.mark row).Covers i c

/-- The number of lines is that of the lines before, or reaches down to the deepest node. -/
theorem length_draw (lines : List String) (row col : Nat) (tree : Derivation) :
    (draw lines row col tree).2.length = max lines.length (row + tree.height) := by
  rw [← Nat.add_zero row, draw_snd, length_foldl_place]
  obtain ⟨above, bound, attained⟩ := foldl_max_spec lines.length
    (((spots 0 col tree).map (Spot.mark row)).map (fun m => m.line + 1))
  generalize (((spots 0 col tree).map (Spot.mark row)).map (fun m => m.line + 1)).foldl max
    lines.length = most at above bound attained
  simp only [List.map_map, List.mem_map, Function.comp_apply, Spot.mark] at bound attained
  obtain ⟨p, listed, last⟩ := exists_deepest 0 col tree
  have reached := bound _ ⟨p, listed, rfl⟩
  rcases attained with same | ⟨q, deepest, same⟩
  · omega
  · have bottom := (inside_spots 0 col tree q deepest).bottom
    omega

theorem length_lineAt_le {lines : List String} {row col : Nat}
    (short : ∀ line ∈ lines.drop row, line.length ≤ col) {i : Nat} (below : row ≤ i) :
    (lineAt lines i).length ≤ col := by
  cases found : lines[i]? with
  | none => simp [lineAt, found]
  | some line =>
    rw [lineAt_eq found]
    apply short
    apply List.mem_of_getElem? (i := i - row)
    rw [List.getElem?_drop, Nat.add_sub_cancel' below, found]

/-- A tree that is drawn where all lines are short enough is drawn without overlap. -/
theorem draws_apart (lines : List String) (row col : Nat) (tree : Derivation)
    (short : ∀ line ∈ lines.drop row, line.length ≤ col) :
    DrawsApart lines row col tree (draw lines row col tree).1 (draw lines row col tree).2 := by
  have count := length_draw lines row col tree
  have drawn := draw_snd lines row 0 col tree
  rw [Nat.add_zero] at drawn
  have inside := inside_spots 0 col tree
  have ordered := ordered_spots row 0 col tree
  have fit : ∀ m ∈ (spots 0 col tree).map (Spot.mark row), m.Fits lines := by
    rw [List.forall_mem_map]
    intro p listed
    have room := length_lineAt_le short (Nat.le_add_right row p.depth)
    have left := (inside p listed).left
    exact Nat.le_trans room left
  constructor
  case width => exact draw_fst lines row col tree
  case count => exact count
  case above =>
    intro i before line found
    have present := (List.getElem?_eq_some_iff.mp found).1
    rw [getElem?_eq_lineAt (by omega), drawn, lineAt_foldl_place_of_none, lineAt_eq found]
    rw [List.forall_mem_map]
    intro p _ same
    simp only [Spot.mark] at same
    omega
  case kept =>
    intro i line found
    have present := (List.getElem?_eq_some_iff.mp found).1
    obtain ⟨added, same⟩ := keeps_foldl_place ((spots 0 col tree).map (Spot.mark row)) lines i
    rw [lineAt_eq found, ← drawn] at same
    exact ⟨added, by rw [getElem?_eq_lineAt (by omega), same]⟩
  case stands =>
    intro p listed
    have bottom := (inside p listed).bottom
    refine ⟨_, getElem?_eq_lineAt (by omega), ?_⟩
    rw [drawn]
    exact stands_of_ordered ordered fit (p.mark row) (List.mem_map_of_mem listed)
  case inside =>
    intro p listed
    refine ⟨fun lines row col => draw_fst lines row col p.tree, fun q below => ?_⟩
    obtain ⟨_, _, left, right⟩ := inside_spots p.depth p.column p.tree q below
    have symbol := length_symbol_le q.tree
    exact ⟨mem_spots_trans 0 col tree p listed q below, left, by omega⟩
  case apart => exact (List.pairwise_map.mp ordered).imp (fun before => before.apart)
  case blank =>
    intro i c line ch found written
    rw [← lineAt_eq found, drawn] at written
    rcases cases_of_ordered ordered fit written with old | blank | ⟨m, listed, covers⟩
    · exact Or.inl old
    · exact Or.inr (Or.inl blank)
    · obtain ⟨p, own, rfl⟩ := List.mem_map.mp listed
      exact Or.inr (Or.inr ⟨p, own, covers⟩)

/-- A statement with the point of a conflict below its rest. -/
def statement : Derivation :=
  node "Stmt" [node "Expr" [leaf "x"], leaf "';'", node "Rest" [dot]]

/-- The statement below a title, next to the mark of its line. -/
theorem draws_apart_statement :
    (∀ line ∈ ["title", "> "].drop 1, line.length ≤ 2) ∧
      DrawsApart ["title", "> "] 1 2 statement 13
        ["title", "> Stmt", "  Expr ';' Rest", "  x        •"] := by
  have short : ∀ line ∈ ["title", "> "].drop 1, line.length ≤ 2 := by decide
  have drawn : draw ["title", "> "] 1 2 statement =
      (13, ["title", "> Stmt", "  Expr ';' Rest", "  x        •"]) := by decide +kernel
  have apart := draws_apart ["title", "> "] 1 2 statement short
  rw [drawn] at apart
  exact ⟨short, apart⟩

end ParserSplice.Derivation
