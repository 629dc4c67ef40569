import ParserSplice.Unicode.TabledProperty

set_option autoImplicit false

namespace ParserSplice.Unicode

/-- The code points with the property White_Space. -/
def whiteSpace : RangeSet := TabledProperty.whiteSpace.set

end ParserSplice.Unicode
