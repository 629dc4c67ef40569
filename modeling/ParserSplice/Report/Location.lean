set_option autoImplicit false

namespace ParserSplice

/-- A place in an input file. Lines and columns count from 1, characters from 0. -/
structure Location where
  fileName : String
  line : Nat
  column : Nat
  charIndex : Nat
deriving DecidableEq, Repr

namespace Location

def text (l : Location) : String :=
  "line " ++ toString l.line ++ ", column " ++ toString l.column ++ " in file " ++ l.fileName

/-- Longest real file name that leaves the file clause of a report on the first line. -/
def longestOnLine : Nat := 40

/-- The report of an error in a parser state. Users see the virtual place, which follows line
directives; of the real place only the character index is shown. -/
def report (shown real : Location) (state : Nat) (message : String) : String :=
  "Error at line " ++ toString shown.line ++ ", column " ++ toString shown.column ++
    (if longestOnLine < real.fileName.length then "\n         " else "") ++
    " in file " ++ shown.fileName ++
    "\n         (parser state: " ++ toString state ++ "; real character index: " ++
    toString real.charIndex ++ "):\n  " ++ message

end Location

end ParserSplice
