import ParserSplice.Ordered.RangeSet

set_option autoImplicit false

namespace ParserSplice.Regex

/-- What stands on one side of a position, as far as a condition can tell. -/
inductive Side where
  | edge
  | lineFeed
  | carriageReturn
  | word
  | other
deriving DecidableEq, Repr, Hashable, Inhabited

namespace Side

def ofByte (b : UInt8) : Side :=
  if b = 10 then lineFeed
  else if b = 13 then carriageReturn
  else if (48 ≤ b ∧ b ≤ 57) ∨ (65 ≤ b ∧ b ≤ 90) ∨ b = 95 ∨ (97 ≤ b ∧ b ≤ 122) then word
  else other

def isWord (s : Side) : Bool := s == word

end Side

/-- A condition on the position between two bytes. -/
inductive Look where
  | textStart
  | textEnd
  | lineStart
  | lineEnd
  | anyLineStart
  | anyLineEnd
  | wordBoundary
  | notWordBoundary
  | wordStart
  | wordEnd
  | wordStartHalf
  | wordEndHalf
deriving DecidableEq, Repr, Hashable, Inhabited

/-- Whether a condition holds between two sides. A line feed ends a line; for `anyLineStart` and
`anyLineEnd` so does a carriage return, and the two together end one line. -/
def Look.holds (l : Look) (before after : Side) : Bool :=
  match l with
  | textStart => before == .edge
  | textEnd => after == .edge
  | lineStart => before == .edge || before == .lineFeed
  | lineEnd => after == .edge || after == .lineFeed
  | anyLineStart =>
    before == .edge || before == .lineFeed || (before == .carriageReturn && after != .lineFeed)
  | anyLineEnd =>
    after == .edge || after == .carriageReturn || (after == .lineFeed && before != .carriageReturn)
  | wordBoundary => before.isWord != after.isWord
  | notWordBoundary => before.isWord == after.isWord
  | wordStart => !before.isWord && after.isWord
  | wordEnd => before.isWord && !after.isWord
  | wordStartHalf => !before.isWord
  | wordEndHalf => !after.isWord

/-- A regular expression over bytes. `scalar` matches the UTF-8 form of a code point of a set;
`tail k` matches `k` continuation bytes whose bits form a number of a set. -/
inductive Term where
  | never
  | empty
  | byte (set : RangeSet)
  | scalar (set : RangeSet)
  | tail (count : Nat) (set : RangeSet)
  | look (condition : Look)
  | cat (first second : Term)
  | alt (left right : Term)
  | star (body : Term)
deriving DecidableEq, Repr, Hashable, Inhabited

namespace Term

/-- Whether an expression matches the empty text between two sides. -/
def nullable (before after : Side) : Term → Bool
  | never | byte _ | scalar _ | tail _ _ => false
  | empty | star _ => true
  | look condition => condition.holds before after
  | cat first second => first.nullable before after && second.nullable before after
  | alt left right => left.nullable before after || right.nullable before after

/-- Concatenation, where an empty first part is left out. -/
def append (first second : Term) : Term :=
  match first with
  | empty => second
  | first => cat first second

/-- The rest of a character after some of its bits: `count` continuation bytes are to come. -/
def tailOf (count : Nat) (set : RangeSet) : List Term :=
  if set.isEmpty then [] else [tail count set]

/-- What may follow the first byte of the UTF-8 form of a code point of a set. The shortest form
counts only. -/
def scalarStep (b : Nat) (set : RangeSet) : List Term :=
  if b < 0x80 then if set.contains b then [empty] else []
  else if b < 0xC2 then []
  else if b < 0xE0 then tailOf 1 (set.window ((b - 0xC0) * 0x40) 0x40)
  else if b < 0xF0 then
    tailOf 2 ((set.inter (RangeSet.interval 0x800 0xFFFF)).window ((b - 0xE0) * 0x1000) 0x1000)
  else if b < 0xF5 then
    tailOf 3
      ((set.inter (RangeSet.interval 0x10000 0x10FFFF)).window ((b - 0xF0) * 0x40000) 0x40000)
  else []

def tailStep (b count : Nat) (set : RangeSet) : List Term :=
  if b < 0x80 || 0xC0 ≤ b then []
  else match count with
    | 0 => []
    | 1 => if set.contains (b - 0x80) then [empty] else []
    | count + 1 => tailOf count (set.window ((b - 0x80) * Nat.pow 0x40 count) (Nat.pow 0x40 count))

/-- The expressions one of which has to match what follows, once a byte has been read after a
side. -/
def step (before : Side) (b : UInt8) : Term → List Term
  | never | empty | look _ => []
  | byte set => if set.contains b.toNat then [empty] else []
  | scalar set => scalarStep b.toNat set
  | tail count set => tailStep b.toNat count set
  | cat first second =>
    (first.step before b).map (fun rest => rest.append second) ++
      (if first.nullable before (Side.ofByte b) then second.step before b else [])
  | alt left right => left.step before b ++ right.step before b
  | star body => (body.step before b).map (fun rest => rest.append (star body))

def hasLook : Term → Bool
  | look _ => true
  | cat first second => first.hasLook || second.hasLook
  | alt left right => left.hasLook || right.hasLook
  | star body => body.hasLook
  | never | empty | byte _ | scalar _ | tail _ _ => false

/-- A number of copies of an expression in front of another one. -/
def copies (body : Term) : Nat → Term → Term
  | 0, after => after
  | n + 1, after => append body (copies body n after)

def atMost (body : Term) : Nat → Term
  | 0 => empty
  | n + 1 => alt empty (append body (atMost body n))

/-- Between two numbers of copies of an expression; no upper number means any number. -/
def counted (body : Term) (least : Nat) (most : Option Nat) : Term :=
  match most with
  | none => copies body least (star body)
  | some most => copies body least (atMost body (most - least))

def sequence : List Term → Term
  | [] => empty
  | [term] => term
  | term :: rest => append term (sequence rest)

def choice : List Term → Term
  | [] => never
  | [term] => term
  | term :: rest => alt term (choice rest)

end Term

end ParserSplice.Regex
