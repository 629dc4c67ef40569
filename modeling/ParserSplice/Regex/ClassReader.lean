import ParserSplice.Regex.Escape

set_option autoImplicit false

namespace ParserSplice.Regex.ClassReader

/-- What waits for the rest of a class: an outer class with the items before the inner one, in
reverse, and whether the inner one is negated; or an operator with its left operand. -/
inductive Frame where
  | opened (outer : List ClassSet) (negated : Bool)
  | operand (op : ClassOperator) (left : ClassSet)

/-- A class that is being read: its items in reverse, what waits for it, and the place. -/
structure State where
  items : List ClassSet
  stack : List Frame
  cursor : Cursor

def asciiClassNames : List (String × AsciiClass) :=
  [("alnum", .alnum), ("alpha", .alpha), ("ascii", .ascii), ("blank", .blank), ("cntrl", .cntrl),
    ("digit", .digit), ("graph", .graph), ("lower", .lower), ("print", .print), ("punct", .punct),
    ("space", .space), ("upper", .upper), ("word", .word), ("xdigit", .xdigit)]

/-- Reads a class in brackets and colons, if there is one. -/
def readAscii (c : Cursor) : Option (ClassSet × Cursor) :=
  match c.rest with
  | '[' :: ':' :: text =>
    let (negated, text) := match text with
      | '^' :: rest => (true, rest)
      | text => (false, text)
    let name := text.takeWhile (· != ':')
    match text.dropWhile (· != ':') with
    | ':' :: ']' :: rest =>
      (asciiClassNames.lookup (String.ofList name)).map
        (fun kind => (.ascii kind negated, { c with rest := rest }))
    | _ => none
  | _ => none

/-- Reads the minus signs that start a class, each of which stands for itself. -/
def readDashes (steps : Nat) (c : Cursor) : List ClassSet × Cursor :=
  match steps with
  | 0 => ([], c)
  | steps + 1 =>
    if c.char? = some '-' then
      let (others, after) := readDashes steps c.advance
      (.literal ⟨'-', false⟩ :: others, after)
    else ([], c)

/-- Reads the start of a class: its bracket, its negation, and minus signs or a closing bracket that
stand for themselves. -/
def openClass (outer : List ClassSet) (stack : List Frame) (c : Cursor) : Except Fault State := do
  let inside := c.advance
  let negated := inside.char? == some '^'
  let start := if negated then inside.advance else inside
  let (dashes, after) := readDashes start.rest.length start
  if after.atEnd then .error .unclosedClass
  else if dashes.isEmpty && after.char? == some ']' then
    let past := after.advance
    if past.atEnd then .error .unclosedClass
    else return ⟨[.literal ⟨']', false⟩], .opened outer negated :: stack, past⟩
  else return ⟨dashes, .opened outer negated :: stack, after⟩

/-- Combines a right operand with the left one that waits for it, if any. -/
def joinOperand (right : ClassSet) : List Frame → ClassSet × List Frame
  | .operand op left :: rest => (.combined op left right, rest)
  | stack => (right, stack)

def startOperand (s : State) (op : ClassOperator) : State :=
  let (left, stack) := joinOperand (.ofItems s.items.reverse) s.stack
  ⟨[], .operand op left :: stack, s.cursor.drop 2⟩

/-- Closes the innermost class: the class that is read, or a state inside an outer one. -/
def closeClass (s : State) : Except Fault ((ClassSet × Bool × Cursor) ⊕ State) :=
  let (set, stack) := joinOperand (.ofItems s.items.reverse) s.stack
  match stack with
  | [.opened _ negated] => .ok (.inl (set, negated, s.cursor.next))
  | .opened outer negated :: rest =>
    .ok (.inr ⟨.bracketed set negated :: outer, rest, s.cursor.next⟩)
  | _ => .error .unclosedClass

def readItem (c : Cursor) : Except Fault (Primitive × Cursor) :=
  match c.char? with
  | none => .error .unclosedClass
  | some '\\' => readEscape c
  | some char => .ok (.literal ⟨char, false⟩, c.next)

def itemOf : Primitive → Except Fault ClassSet
  | .literal c => .ok (.literal c)
  | .property query negated => .ok (.property query negated)
  | .shorthand kind negated => .ok (.shorthand kind negated)
  | .dot | .assertion _ => .error .badClassEscape

def endOf : Primitive → Except Fault Literal
  | .literal c => .ok c
  | _ => .error .badRangeEnd

/-- Reads one item or a range. A minus sign before a closing bracket or before another minus sign
does not form a range. -/
def readRange (c : Cursor) : Except Fault (ClassSet × Cursor) := do
  let (first, after) ← readItem c
  let next := after.skip
  match next.char? with
  | none => .error .unclosedClass
  | some char =>
    let past := next.peekPast
    if char != '-' || past == some ']' || past == some '-' then return (← itemOf first, next)
    else
      let (last, rest) ← readItem next.advance
      let low ← endOf first
      let high ← endOf last
      if high.char < low.char then .error .badClassRange
      else return (.range low high, rest)

def step (s : State) : Except Fault ((ClassSet × Bool × Cursor) ⊕ State) := do
  let c := s.cursor.skip
  let here := { s with cursor := c }
  match c.rest with
  | [] => .error .unclosedClass
  | '[' :: _ =>
    match readAscii c with
    | some (item, after) => return .inr { here with items := item :: s.items, cursor := after }
    | none => return .inr (← openClass s.items s.stack c)
  | ']' :: _ => closeClass here
  | '&' :: '&' :: _ => return .inr (startOperand here .intersection)
  | '-' :: '-' :: _ => return .inr (startOperand here .difference)
  | '~' :: '~' :: _ => return .inr (startOperand here .symmetricDifference)
  | _ =>
    let (item, after) ← readRange c
    return .inr { here with items := item :: s.items, cursor := after }

/-- Reads up to the end of the outermost class. -/
def run : Nat → State → Except Fault (ClassSet × Bool × Cursor)
  | 0, _ => .error .unclosedClass
  | steps + 1, s => do
    match ← step s with
    | .inl result => return result
    | .inr next => run steps next

/-- Reads a bracketed class, from its bracket on. The result tells whether it is negated. -/
def read (c : Cursor) : Except Fault (ClassSet × Bool × Cursor) := do
  run (c.rest.length + 1) (← openClass [] [] c)

end ParserSplice.Regex.ClassReader
