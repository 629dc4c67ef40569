import ParserSplice.Unicode.GeneralCategory
import ParserSplice.Unicode.Script
import ParserSplice.Unicode.TabledProperty

set_option autoImplicit false

namespace ParserSplice.Unicode

/-- A set of code points in terms of tables. -/
inductive SetExpr where
  | points (text : String)
  | categories (cs : List GeneralCategory)
  | tabled (p : TabledProperty)
  | script (name : String)
  | union (a b : SetExpr)
  | inter (a b : SetExpr)
  | difference (a b : SetExpr)
deriving Repr, Inhabited

namespace SetExpr

instance : Add SetExpr := ⟨union⟩

instance : Sub SetExpr := ⟨difference⟩

/-- The code points that an expression stands for. -/
def set : SetExpr → RangeSet
  | points text => rangesOf text
  | categories cs => inCategories cs
  | tabled p => p.set
  | script name => (script? name).getD {}
  | union a b => a.set.union b.set
  | inter a b => a.set.inter b.set
  | difference a b => a.set.difference b.set

theorem set_add (a b : SetExpr) : (a + b).set = a.set.union b.set := rfl

theorem set_sub (a b : SetExpr) : (a - b).set = a.set.difference b.set := rfl

end SetExpr

def scalars : SetExpr := .points "0-D7FF E000-10FFFF"

/-- Scalar values that stand for no character. -/
def unassigned : SetExpr := scalars - .categories GeneralCategory.all

end ParserSplice.Unicode
