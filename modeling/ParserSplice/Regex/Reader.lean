import ParserSplice.Regex.ClassReader
import ParserSplice.Unicode.Letter

set_option autoImplicit false

namespace ParserSplice.Regex

namespace Reader

/-- What waits for the parts that are being read: an open group with the parts before it, in
reverse, its flags and whether text was spaced before it; or an alternation with its branches so far,
in reverse. -/
inductive Frame where
  | opened (before : List Pattern) (change : FlagChange) (spaced : Bool)
  | branches (before : List Pattern)

/-- An expression that is being read: its parts in reverse, what waits for them, the names of groups
so far, and the place. -/
structure State where
  parts : List Pattern := []
  stack : List Frame := []
  names : List (List Char) := []
  cursor : Cursor

def depthLimit : Nat := 250

def flag? (c : Char) : Option Flag :=
  [('i', Flag.caseInsensitive), ('m', .multiLine), ('s', .dotMatchesAll), ('U', .swapGreed),
    ('u', .unicode), ('R', .carriageReturn), ('x', .spaced)].lookup c

/-- Reads flags up to a colon or a closing bracket. The result has that character too. -/
def readFlags (on : Bool) (dangling : Bool) (seen : FlagChange) :
    List Char → Except Fault (FlagChange × Char × List Char)
  | [] => .error .endOfText
  | c :: rest =>
    if c = ':' || c = ')' then
      if dangling then .error .danglingNegation else .ok (seen.reverse, c, rest)
    else if c = '-' then
      if on then readFlags false true seen rest else .error .repeatedNegation
    else match flag? c with
      | none => .error .unknownFlag
      | some flag =>
        if seen.any (fun s => s.1 == flag) then .error .duplicateFlag
        else readFlags on false ((flag, on) :: seen) rest

/-- Whether a character can be part of the name of a group. -/
def isNameChar (first : Bool) (c : Char) : Bool :=
  if first then c == '_' || Unicode.letters.contains c.toNat
  else c == '_' || c == '.' || c == '[' || c == ']' || Unicode.letters.contains c.toNat ||
    Unicode.numbers.contains c.toNat

def readName (text : List Char) : Except Fault (List Char × List Char) :=
  let name := text.takeWhile (· != '>')
  match text.dropWhile (· != '>') with
  | [] => .error .endOfText
  | _ :: rest =>
    match name with
    | [] => .error .badGroupName
    | first :: others =>
      if isNameChar true first && others.all (isNameChar false) then .ok (name, rest)
      else .error .badGroupName

/-- Whether text spaced so far stays spaced under flags. -/
def spacedAfter (spaced : Bool) (change : FlagChange) : Bool :=
  (change.lookup Flag.spaced).getD spaced

def openGroup (s : State) (change : FlagChange) (after : Cursor) : State :=
  { s with
    parts := []
    stack := .opened s.parts change s.cursor.spaced :: s.stack
    cursor := { after with spaced := spacedAfter after.spaced change } }

def readGroupStart (s : State) : Except Fault State := do
  let c := s.cursor.advance
  if ["?=", "?!", "?<=", "?<!"].any (fun mark => c.startsWith mark.toList) then .error .lookaround
  else
    let named := if c.startsWith ['?', 'P', '<'] then some 3
      else if c.startsWith ['?', '<'] then some 2 else none
    match named with
    | some count =>
      let (name, rest) ← readName (c.drop count).rest
      if s.names.contains name then .error .duplicateGroupName
      else return openGroup { s with names := name :: s.names } [] { c with rest := rest }
    | none =>
      if c.char? != some '?' then return openGroup s [] c
      else
        let (change, last, rest) ← readFlags true false [] c.next.rest
        let after := { c with rest := rest }
        if last = ':' then return openGroup s change after
        else if change.isEmpty then .error .missingOperand
        else return { s with
          parts := .flags change :: s.parts
          cursor := { after with spaced := spacedAfter after.spaced change } }

/-- The alternation that ends with the parts at hand, and what waits for it. -/
def joinBranches (parts : List Pattern) : List Frame → Pattern × List Frame
  | .branches before :: rest =>
    (.ofBranches (.ofParts parts.reverse :: before).reverse, rest)
  | stack => (.ofParts parts.reverse, stack)

def startBranch (s : State) : State :=
  let branch := Pattern.ofParts s.parts.reverse
  let stack := match s.stack with
    | .branches before :: rest => .branches (branch :: before) :: rest
    | stack => .branches [branch] :: stack
  { s with parts := [], stack := stack, cursor := s.cursor.next }

def closeGroup (s : State) : Except Fault State :=
  let (body, stack) := joinBranches s.parts s.stack
  match stack with
  | .opened before change spaced :: rest =>
    .ok { s with
      parts := .group change body :: before
      stack := rest
      cursor := { s.cursor.next with spaced := spaced } }
  | _ => .error .unopenedGroup

/-- Takes the part that an operator repeats. -/
def takeOperand : List Pattern → Except Fault (Pattern × List Pattern)
  | [] => .error .missingOperand
  | .flags _ :: _ => .error .missingOperand
  | .empty :: _ => .error .missingOperand
  | part :: rest => .ok (part, rest)

/-- Passes over the mark of a reluctant repetition. -/
def passReluctant (c : Cursor) : Cursor := if c.char? = some '?' then c.next else c

def readRepetition (s : State) (least : Nat) (most : Option Nat) : Except Fault State := do
  let (body, rest) ← takeOperand s.parts
  return { s with
    parts := .counted body least most :: rest
    cursor := passReluctant s.cursor.next }

/-- Reads a number of 32 bits with blanks around it; the first part of the result is absent if there
are no digits. -/
def readNumber (c : Cursor) : Except Fault (Option Nat × Cursor) :=
  let start := { c with rest := c.rest.dropWhile isWhiteSpace }
  let (digits, after) := start.takeWhile Char.isDigit
  let (_, next) := after.takeWhile isWhiteSpace
  if digits.isEmpty then .ok (none, next)
  else
    let n := digits.foldl (fun total d => total * 10 + (d.toNat - '0'.toNat)) 0
    if n < UInt32.size then .ok (some n, next) else .error .badCount

def need (n : Option Nat) : Except Fault Nat :=
  match n with
  | some n => .ok n
  | none => .error .missingDigits

def readCount (s : State) : Except Fault State := do
  let (body, rest) ← takeOperand s.parts
  let inside := s.cursor.advance
  let (first, c) ← readNumber inside
  let least ← need first
  let (most, last) ←
    if c.char? = some ',' then
      let past := c.advance
      if past.char? = some '\x7d' then pure (none, past)
      else
        let (second, after) ← readNumber past
        pure (some (← need second), after)
    else pure (some least, c)
  if last.char? != some '\x7d' then .error .unclosedCount
  else if (most.getD least) < least then .error .badCount
  else return { s with
    parts := .counted body least most :: rest
    cursor := passReluctant last.advance }

def patternOf : Primitive → Pattern
  | .literal c => .literal c
  | .dot => .dot
  | .assertion kind => .assertion kind
  | .property query negated => .property query negated
  | .shorthand kind negated => .shorthand kind negated

def append (s : State) (part : Pattern) (after : Cursor) : State :=
  { s with parts := part :: s.parts, cursor := after }

/-- Reads what starts with the next character. -/
def step (s : State) (first : Char) : Except Fault State := do
  let c := s.cursor
  match first with
  | '(' => readGroupStart s
  | ')' => closeGroup s
  | '|' => return startBranch s
  | '[' =>
    let (set, negated, after) ← ClassReader.read c
    return append s (.bracketed set negated) after
  | '?' => readRepetition s 0 (some 1)
  | '*' => readRepetition s 0 none
  | '+' => readRepetition s 1 none
  | '\x7b' => readCount s
  | '\\' =>
    let (primitive, after) ← readEscape c
    return append s (patternOf primitive) after
  | '.' => return append s .dot c.next
  | '^' => return append s (.assertion .lineStart) c.next
  | '$' => return append s (.assertion .lineEnd) c.next
  | char => return append s (.literal ⟨char, false⟩) c.next

def finish (s : State) : Except Fault Pattern :=
  match joinBranches s.parts s.stack with
  | (pattern, []) => .ok pattern
  | _ => .error .unclosedGroup

/-- Reads up to the end of the text. Each step passes over at least one character. -/
def run : Nat → State → Except Fault Pattern
  | steps, s =>
    let here := { s with cursor := s.cursor.skip }
    match here.cursor.char?, steps with
    | none, _ => finish here
    | some _, 0 => .error .endOfText
    | some first, steps + 1 => do run steps (← step here first)

end Reader

def Pattern.read (text : String) : Except Fault Pattern := do
  let pattern ← Reader.run text.toList.length { cursor := ⟨text.toList, false⟩ }
  if Reader.depthLimit < pattern.depth then .error .nestedTooDeeply else return pattern

end ParserSplice.Regex
