set_option autoImplicit false

namespace ParserSplice

/-- What stands at a path. -/
inductive Stored where
  | file (content : List UInt8)
  | directory
deriving DecidableEq, Repr

abbrev Path := List String

namespace Path

def splitFrom (current : List Char) : List Char → List (List Char)
  | [] => [current.reverse]
  | c :: rest => if c = '/' then current.reverse :: splitFrom [] rest
    else splitFrom (c :: current) rest

/-- The names on a written path. Empty names and single dots lead nowhere else. -/
def ofText (text : String) : Path :=
  ((splitFrom [] text.toList).map String.ofList).filter (fun name => name != "" && name != ".")

/-- A path written below another one. An absolute path stands for itself. -/
def join (base text : String) : String :=
  if base.isEmpty || text.toList.head? == some '/' then text
  else if base.toList.getLast? == some '/' then base ++ text
  else base ++ "/" ++ text

end Path

/-- The files and directories below a root. -/
structure Storage where
  entries : List (Path × Stored)

namespace Storage

def longestName : Nat := 255

def longestPath : Nat := 4095

/-- What stands at a path; the root is a directory. -/
def at? (s : Storage) (path : Path) : Option Stored :=
  if path.isEmpty then some .directory else s.entries.lookup path

def read (s : Storage) (path : Path) : Option (List UInt8) :=
  match s.at? path with
  | some (.file content) => some content
  | _ => none

/-- Follows names from a directory whose path is given backwards. Two dots lead one step back, and
the root is its own parent. -/
def follow (s : Storage) (back : Path) : Path → Option Path
  | [] => some back.reverse
  | name :: rest =>
    if name = ".." then
      if s.at? back.reverse = some .directory then s.follow back.tail rest else none
    else s.follow (name :: back) rest

def find (s : Storage) (text : String) : Option Path :=
  if text.utf8ByteSize ≤ longestPath then s.follow [] (Path.ofText text) else none

def canOpen (s : Storage) (path : Path) : Bool :=
  match path.getLast? with
  | none => false
  | some name =>
    decide (name.utf8ByteSize ≤ longestName) && s.at? path.dropLast == some .directory &&
      s.at? path != some .directory

/-- Writes a whole file, if it can be opened. -/
def save (s : Storage) (path : Path) (content : List UInt8) : Option Storage :=
  if s.canOpen path then some ⟨(path, .file content) :: s.entries⟩ else none

theorem at?_save (s t : Storage) (path other : Path) (content : List UInt8)
    (saved : s.save path content = some t) :
    t.at? other = if other = path then some (.file content) else s.at? other := by
  unfold save at saved
  split at saved
  · next opened =>
    cases saved
    have nonempty : path ≠ [] := by
      intro isNil
      simp [canOpen, isNil] at opened
    by_cases same : other = path
    · subst same
      simp [at?, nonempty, List.isEmpty_iff]
    · simp only [at?, List.lookup_cons, same, ↓reduceIte]
      split
      · rfl
      · simp [beq_false_of_ne same]
  · cases saved

end Storage

end ParserSplice
