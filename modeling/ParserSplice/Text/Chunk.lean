set_option autoImplicit false

namespace ParserSplice

/-- The pieces of a list, `size` members each. A list is not cut if `size` is 0. -/
def chunks {α : Type} (size : Nat) (items : List α) : List (List α) :=
  if items.length ≤ size ∨ size = 0 then
    if items.isEmpty then [] else [items]
  else items.take size :: chunks size (items.drop size)
termination_by items.length
decreasing_by simp only [List.length_drop]; omega

theorem flatten_chunks {α : Type} (size : Nat) (items : List α) :
    (chunks size items).flatten = items := by
  fun_induction chunks size items with
  | case1 items short isNil => simp [List.isEmpty_iff.mp isNil]
  | case2 items short full => simp
  | case3 items long ih => simp [ih]

end ParserSplice
