import ParserSplice.Regex.Fault
import ParserSplice.Regex.Pattern
import ParserSplice.Regex.Term
import ParserSplice.Unicode.CaseVariants
import ParserSplice.Unicode.Property
import ParserSplice.Unicode.WhiteSpace

set_option autoImplicit false

namespace ParserSplice.Regex

/-- The flags at some place of a pattern. -/
structure Flags where
  caseInsensitive : Bool := false
  multiLine : Bool := false
  dotMatchesAll : Bool := false
  unicode : Bool := true
  carriageReturn : Bool := false
deriving DecidableEq, Repr, Inhabited

namespace Flags

/-- Switches one flag. Flags about greed and spaces do not change what is matched. -/
def switch (f : Flags) (change : Flag × Bool) : Flags :=
  match change.1 with
  | .caseInsensitive => { f with caseInsensitive := change.2 }
  | .multiLine => { f with multiLine := change.2 }
  | .dotMatchesAll => { f with dotMatchesAll := change.2 }
  | .unicode => { f with unicode := change.2 }
  | .carriageReturn => { f with carriageReturn := change.2 }
  | .swapGreed | .spaced => f

def apply (f : Flags) (change : FlagChange) : Flags := change.foldl switch f

end Flags

def bytes : RangeSet := RangeSet.interval 0 255

def closeUnderAsciiCase (s : RangeSet) : RangeSet :=
  let lower := s.inter (RangeSet.interval 97 122)
  let upper := s.inter (RangeSet.interval 65 90)
  RangeSet.ofRanges (s.ranges ++ lower.ranges.map (fun r => (r.1 - 32, r.2 - 32)) ++
    upper.ranges.map (fun r => (r.1 + 32, r.2 + 32)))

def AsciiClass.ranges : AsciiClass → List (Nat × Nat)
  | alnum => [(48, 57), (65, 90), (97, 122)]
  | alpha => [(65, 90), (97, 122)]
  | ascii => [(0, 127)]
  | blank => [(9, 9), (32, 32)]
  | cntrl => [(0, 31), (127, 127)]
  | digit => [(48, 57)]
  | graph => [(33, 126)]
  | lower => [(97, 122)]
  | print => [(32, 126)]
  | punct => [(33, 47), (58, 64), (91, 96), (123, 126)]
  | space => [(9, 13), (32, 32)]
  | upper => [(65, 90)]
  | word => [(48, 57), (65, 90), (95, 95), (97, 122)]
  | xdigit => [(48, 57), (65, 70), (97, 102)]

def Shorthand.asciiClass : Shorthand → AsciiClass
  | digit => .digit
  | space => .space
  | word => .word

def Shorthand.unicodeSet : Shorthand → RangeSet
  | digit => Unicode.digits
  | space => Unicode.whiteSpace
  | word => Unicode.wordChars

namespace Flags

def everything (f : Flags) : RangeSet := if f.unicode then Unicode.scalars.set else bytes

/-- A class together with the other cases of its members, where case does not matter. -/
def fold (f : Flags) (s : RangeSet) : RangeSet :=
  if f.caseInsensitive then
    if f.unicode then Unicode.closeUnderCase s else closeUnderAsciiCase s
  else s

/-- A class or, if negated, everything outside of it. -/
def negate (f : Flags) (negated : Bool) (s : RangeSet) : RangeSet :=
  if negated then f.everything.difference s else s

def shorthandSet (f : Flags) (kind : Shorthand) (negated : Bool) : RangeSet :=
  f.negate negated
    (if f.unicode then kind.unicodeSet else RangeSet.ofRanges kind.asciiClass.ranges)

def propertySet (f : Flags) (query : PropertyQuery) (negated : Bool) : Except Fault RangeSet :=
  if f.unicode then
    let found := match query with
      | .named name => Unicode.named? name
      | .valued name value => Unicode.valued? name value
    match found with
    | some set => .ok (f.negate negated (f.fold set))
    | none => .error .unknownProperty
  else .error .unicodeOff

def classMember (f : Flags) (c : Literal) : Except Fault Nat :=
  if f.unicode || decide (c.char.toNat < 128) || (c.asByte && decide (c.char.toNat < 256)) then
    .ok c.char.toNat
  else .error .notAByte

def combine (op : ClassOperator) (left right : RangeSet) : RangeSet :=
  match op with
  | .intersection => left.inter right
  | .difference => left.difference right
  | .symmetricDifference => left.symmetricDifference right

mutual

/-- The members of a bracketed class, its own negation apart. -/
def classSet (f : Flags) : ClassSet → Except Fault RangeSet
  | .empty => .ok ⟨[]⟩
  | .literal c => do
    let n ← f.classMember c
    return RangeSet.interval n n
  | .range first last => do
    let low ← f.classMember first
    let high ← f.classMember last
    return (RangeSet.interval low high).inter f.everything
  | .ascii kind negated => .ok (f.negate negated (f.fold (RangeSet.ofRanges kind.ranges)))
  | .property query negated => f.propertySet query negated
  | .shorthand kind negated => .ok (f.shorthandSet kind negated)
  | .bracketed set negated => do
    let inside ← classSet f set
    return f.negate negated (f.fold inside)
  | .union items => classUnion f items
  | .combined op left right => do
    let l ← classSet f left
    let r ← classSet f right
    return combine op (f.fold l) (f.fold r)

def classUnion (f : Flags) : List ClassSet → Except Fault RangeSet
  | [] => .ok ⟨[]⟩
  | item :: rest => do
    let first ← classSet f item
    let others ← classUnion f rest
    return first.union others

end

def memberOf (f : Flags) (s : RangeSet) : Term := if f.unicode then .scalar s else .byte s

/-- The expression that matches a literal. With Unicode off only ASCII letters have a case, and two
hexadecimal digits denote a byte. -/
def literal (f : Flags) (c : Literal) : Term :=
  let n := c.char.toNat
  let single := RangeSet.interval n n
  if f.unicode then .scalar (f.fold single)
  else if n < 128 then .byte (f.fold single)
  else if c.asByte && decide (n < 256) then .byte single
  else .scalar single

def dot (f : Flags) : Term :=
  let excluded := if f.dotMatchesAll then []
    else if f.carriageReturn then [10, 13] else [10]
  f.memberOf (f.everything.difference (RangeSet.ofList excluded))

/-- The condition that an assertion stands for, unless it asks for Unicode words. -/
def condition? (f : Flags) (kind : Assertion) : Option Look :=
  let words (l : Look) : Option Look := if f.unicode then none else some l
  match kind with
  | .lineStart =>
    some (if f.multiLine then if f.carriageReturn then .anyLineStart else .lineStart else .textStart)
  | .lineEnd =>
    some (if f.multiLine then if f.carriageReturn then .anyLineEnd else .lineEnd else .textEnd)
  | .textStart => some .textStart
  | .textEnd => some .textEnd
  | .wordBoundary => words .wordBoundary
  | .notWordBoundary => words .notWordBoundary
  | .wordStart => words .wordStart
  | .wordEnd => words .wordEnd
  | .wordStartHalf => words .wordStartHalf
  | .wordEndHalf => words .wordEndHalf

end Flags

/-- The meaning of a pattern. `unicodeWords` tells that it asks for boundaries of Unicode words,
which no byte can decide; such a condition is left out of the expression. -/
structure Meaning where
  term : Term
  unicodeWords : Bool := false
deriving Repr, Inhabited

namespace Meaning

/-- The repetition of a pattern. A pattern that is repeated no times asks for nothing. -/
def counted (body : Meaning) (least : Nat) (most : Option Nat) : Meaning :=
  if most = some 0 then ⟨.empty, false⟩
  else ⟨Term.counted body.term least most, body.unicodeWords⟩

mutual

def ofPattern (f : Flags) : Pattern → Except Fault (Meaning × Flags)
  | .empty => .ok (⟨.empty, false⟩, f)
  | .flags change => .ok (⟨.empty, false⟩, f.apply change)
  | .literal c => .ok (⟨f.literal c, false⟩, f)
  | .dot => .ok (⟨f.dot, false⟩, f)
  | .assertion kind =>
    match f.condition? kind with
    | some l => .ok (⟨.look l, false⟩, f)
    | none => .ok (⟨.empty, true⟩, f)
  | .property query negated => do
    let set ← f.propertySet query negated
    return (⟨f.memberOf set, false⟩, f)
  | .shorthand kind negated => .ok (⟨f.memberOf (f.shorthandSet kind negated), false⟩, f)
  | .bracketed set negated => do
    let inside ← f.classSet set
    return (⟨f.memberOf (f.negate negated (f.fold inside)), false⟩, f)
  | .counted body least most => do
    let (inner, after) ← ofPattern f body
    return (counted inner least most, after)
  | .group change body => do
    let (inner, _) ← ofPattern (f.apply change) body
    return (inner, f)
  | .alternation branches => do
    let (inner, after) ← ofPatterns f branches
    return (⟨Term.choice (inner.map term), inner.any unicodeWords⟩, after)
  | .concatenation parts => do
    let (inner, after) ← ofPatterns f parts
    return (⟨Term.sequence (inner.map term), inner.any unicodeWords⟩, after)

def ofPatterns (f : Flags) : List Pattern → Except Fault (List Meaning × Flags)
  | [] => .ok ([], f)
  | pattern :: rest => do
    let (first, between) ← ofPattern f pattern
    let (others, after) ← ofPatterns between rest
    return (first :: others, after)

end

def ofPatternText (pattern : Pattern) : Except Fault Meaning := do
  let (meaning, _) ← ofPattern {} pattern
  return meaning

end Meaning

end ParserSplice.Regex
