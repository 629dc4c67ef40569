import ParserSplice.Unicode.Addition
import ParserSplice.Unicode.DerivedProperty

set_option autoImplicit false

-- Letters and numbers in the text of names, as of version 17.0.

namespace ParserSplice.Unicode

/-- Code points that count as letters of an alphabet. -/
def letters : RangeSet := (alphabetic + .points addedLetters).set

def numbers : RangeSet :=
  (.categories [.decimalNumber, .letterNumber, .otherNumber] + .points addedNumbers : SetExpr).set

end ParserSplice.Unicode
