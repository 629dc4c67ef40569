import ParserSplice.Unicode.Addition
import ParserSplice.Unicode.DerivedProperty

set_option autoImplicit false

-- The code points that leave a mark of their own on a page, as of version 17.0. Blanks, controls
-- and unassigned code points leave none, and neither do code points that are left out where they
-- are not supported. A code point that extends the character before it leaves no mark of its own,
-- except for the two voice marks of narrow Katakana, which take up a place.

namespace ParserSplice.Unicode

/-- Code points that extend the character before them and take up no place. -/
def overlaid : SetExpr := graphemeExtend - .points "FF9E-FF9F"

/-- Code points that leave a mark of their own on a page. -/
def visible : RangeSet :=
  let hidden : List GeneralCategory :=
    [.spaceSeparator, .lineSeparator, .paragraphSeparator, .control, .format, .privateUse]
  (.categories (GeneralCategory.all.filter (fun c => !hidden.contains c)) - overlaid -
    defaultIgnorable + .points addedVisible : SetExpr).set

end ParserSplice.Unicode
