import ParserSplice.Regex.Fault
import ParserSplice.Unicode.WhiteSpace

set_option autoImplicit false

namespace ParserSplice.Regex

def isWhiteSpace (c : Char) : Bool := Unicode.whiteSpace.contains c.toNat

/-- Passes over blanks and comments; a comment starts with a number sign and ends with its line. -/
def skipSpace (comment : Bool) : List Char → List Char
  | [] => []
  | c :: rest =>
    if comment then skipSpace (c != '\n') rest
    else if c = '#' then skipSpace true rest
    else if isWhiteSpace c then skipSpace false rest
    else c :: rest

theorem length_skipSpace_le (comment : Bool) (text : List Char) :
    (skipSpace comment text).length ≤ text.length := by
  induction text generalizing comment with
  | nil => simp [skipSpace]
  | cons c rest ih =>
    unfold skipSpace
    split
    · exact Nat.le_succ_of_le (ih _)
    · split
      · exact Nat.le_succ_of_le (ih _)
      · split
        · exact Nat.le_succ_of_le (ih _)
        · exact Nat.le_refl _

/-- The text that is left, and whether it is spaced. -/
structure Cursor where
  rest : List Char
  spaced : Bool := false
deriving Inhabited

namespace Cursor

def char? (c : Cursor) : Option Char := c.rest.head?

def atEnd (c : Cursor) : Bool := c.rest.isEmpty

def next (c : Cursor) : Cursor := { c with rest := c.rest.tail }

/-- Passes over blanks and comments in spaced text. -/
def skip (c : Cursor) : Cursor :=
  if c.spaced then { c with rest := skipSpace false c.rest } else c

/-- Passes over one character and the blanks and comments after it. -/
def advance (c : Cursor) : Cursor := c.next.skip

/-- Whether the text that is left starts with some characters. -/
def startsWith (c : Cursor) (start : List Char) : Bool := start.isPrefixOf c.rest

def drop (c : Cursor) (count : Nat) : Cursor := { c with rest := c.rest.drop count }

theorem length_skip_le (c : Cursor) : c.skip.rest.length ≤ c.rest.length := by
  unfold skip
  split
  · exact length_skipSpace_le false c.rest
  · exact Nat.le_refl _

theorem length_advance_lt (c : Cursor) (first : Char) (rest : List Char)
    (found : c.rest = first :: rest) : c.advance.rest.length < c.rest.length := by
  have bound := length_skip_le c.next
  have shorter : c.next.rest.length < c.rest.length := by simp [next, found]
  exact Nat.lt_of_le_of_lt bound shorter

/-- Takes characters with a property, up to the first without it. -/
def takeWhile (p : Char → Bool) (c : Cursor) : List Char × Cursor :=
  match _found : c.rest with
  | [] => ([], c)
  | first :: _rest =>
    if p first then
      let taken := takeWhile p c.advance
      (first :: taken.1, taken.2)
    else ([], c)
termination_by c.rest.length
decreasing_by exact length_advance_lt c first _rest _found

/-- The next character after the one at hand, with blanks and comments passed over in spaced text.
In such text a comment counts only up to its first blank. -/
def peekPast (c : Cursor) : Option Char :=
  if c.spaced then
    match pastBlanks false c.rest.tail with
    | [] => c.rest.tail.head?
    | first :: _ => some first
  else c.rest.tail.head?
where
  /-- What follows blanks and the marks that start and end comments. -/
  pastBlanks (comment : Bool) : List Char → List Char
    | [] => []
    | first :: rest =>
      if isWhiteSpace first then pastBlanks comment rest
      else if !comment && first = '#' then pastBlanks true rest
      else first :: rest

end Cursor

end ParserSplice.Regex
