import ParserSplice.Ordered.RangeSet
import ParserSplice.Text.Hex

set_option autoImplicit false

-- The written form of character data. A word `41-5A` stands for the code points from 41 to 5A in
-- hexadecimal, `B5` for one code point, and `100-136/2` for every second code point of a range. A
-- word `41,5A,1,+20` says that each code point of a range with a step is carried to the one 20
-- further on.

namespace ParserSplice.Unicode

def parts (mark : Char) (text : List Char) : List (List Char) :=
  text.foldr (fun c found =>
    if c = mark then [] :: found
    else match found with
      | [] => [[c]]
      | first :: rest => (c :: first) :: rest) [[]]

/-- The code points from `first` to `last` that are a multiple of `step` from `first`. -/
def stepped (first last step : Nat) : List Nat :=
  (List.range ((last - first) / step + 1)).map (fun k => first + k * step)

def wordRanges (word : List Char) : List (Nat × Nat) :=
  match (parts '/' word).map (parts '-') with
  | [[[]]] => []
  | [[one]] => [(Hex.value one, Hex.value one)]
  | [[first, last]] => [(Hex.value first, Hex.value last)]
  | [[first, last], [step]] =>
    (stepped (Hex.value first) (Hex.value last) (Hex.value step)).map (fun n => (n, n))
  | _ => []

def rangesOf (text : String) : RangeSet :=
  RangeSet.ofRanges ((parts ' ' text.toList).flatMap wordRanges)

/-- A range of code points, each carried by the same distance. -/
structure Shift where
  first : Nat
  last : Nat
  step : Nat
  distance : Int
deriving Repr, Inhabited

def wordShift (word : List Char) : Option Shift :=
  match parts ',' word with
  | [first, last, step, '+' :: distance] =>
    some ⟨Hex.value first, Hex.value last, Hex.value step, Hex.value distance⟩
  | [first, last, step, '-' :: distance] =>
    some ⟨Hex.value first, Hex.value last, Hex.value step, -(Hex.value distance : Int)⟩
  | _ => none

def shiftsOf (text : String) : List Shift := (parts ' ' text.toList).filterMap wordShift

namespace Shift

/-- Whether a shift moves a code point. -/
def moves (s : Shift) (n : Nat) : Bool :=
  decide (s.first ≤ n) && decide (n ≤ s.last) && (n - s.first) % s.step == 0

/-- The code point that another one is carried to. -/
def apply (s : Shift) (n : Nat) : Nat := ((n : Int) + s.distance).toNat

def back (s : Shift) : Shift :=
  ⟨s.apply s.first, s.apply s.last, s.step, -s.distance⟩

/-- The ranges that the members of a range are carried to. -/
def image (s : Shift) (r : Nat × Nat) : List (Nat × Nat) :=
  let low := max r.1 s.first
  let high := min r.2 s.last
  if high < low then []
  else if s.step = 1 then [(s.apply low, s.apply high)]
  else
    let start := s.first + (low - s.first + s.step - 1) / s.step * s.step
    if high < start then []
    else (stepped start high s.step).map (fun n => (s.apply n, s.apply n))

end Shift

end ParserSplice.Unicode
