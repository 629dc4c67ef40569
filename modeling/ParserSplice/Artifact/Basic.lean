import ParserSplice.Artifact.Content
import ParserSplice.Artifact.Digest
import ParserSplice.Json.Reader

set_option autoImplicit false

namespace ParserSplice

/-- The tables that an emitted driver carries, in the order in which it carries them. -/
inductive ArtifactKind where
  | parseTable
  | hostUses
  | extensionUses
  | markingLayouts
  | layouts
  | transitions
  | accepts
  | rejects
  | possible
  | productionLengths
deriving DecidableEq, Repr

namespace ArtifactKind

def all : List ArtifactKind :=
  [parseTable, hostUses, extensionUses, markingLayouts, layouts, transitions, accepts, rejects,
    possible, productionLengths]

theorem mem_all (k : ArtifactKind) : k ∈ all := by cases k <;> decide

def shape : ArtifactKind → TableShape
  | parseTable => .cells
  | hostUses => .uses
  | extensionUses => .usesPerFragment
  | markingLayouts | layouts => .sets
  | transitions => .transitions
  | accepts | rejects | possible => .setsPerFragment
  | productionLengths => .lengths

def fieldName : ArtifactKind → String
  | parseTable => "parse_table"
  | hostUses => "host_terminal_uses"
  | extensionUses => "ext_terminal_uses"
  | markingLayouts => "marking_terminal_layout_sets"
  | layouts => "layout_sets"
  | transitions => "deltas"
  | accepts => "accept_sets"
  | rejects => "reject_sets"
  | possible => "possible_sets"
  | productionLengths => "production_lengths"

/-- The start of the names of the constants that hold the table in an emitted driver. -/
def constantName (k : ArtifactKind) : String := k.fieldName.map Char.toUpper

end ArtifactKind

/-- Why an artifact does not give a table. -/
inductive ArtifactError where
  | hashMismatch (name expected found : String)
  | undecodable (name : String)
deriving DecidableEq, Repr

/-- The error in words. -/
def ArtifactError.message : ArtifactError → String
  | hashMismatch name expected found =>
    "artifact `" ++ name ++ "` failed verification: expected hash " ++ expected ++ ", found " ++
      found
  | undecodable name =>
    "artifact `" ++ name ++ "` could not be decoded: it does not hold a table of its type"

/-- A table with the bytes of its text and their digest. -/
structure Artifact where
  content : TableContent
  bytes : List UInt8
  hash : String
deriving DecidableEq

namespace Artifact

def bytesOf (content : TableContent) : List UInt8 := content.encode.render.toUTF8.data.toList

def ofContent (content : TableContent) : Artifact :=
  let bytes := bytesOf content
  ⟨content, bytes, Digest.text bytes⟩

/-- Whether two texts are equal up to the case of ASCII letters. -/
def sameHash (found expected : String) : Bool :=
  found.toList.map Char.toLower == expected.toList.map Char.toLower

/-- Reads a table of a shape from bytes that have the expected digest. -/
def load (shape : TableShape) (name : String) (bytes : List UInt8) (expected : String) :
    Except ArtifactError TableContent :=
  let found := Digest.text bytes
  if sameHash found expected then
    match (Json.readBytes ⟨bytes.toArray⟩).bind shape.decode with
    | some content => .ok content
    | none => .error (.undecodable name)
  else .error (.hashMismatch name expected found)

end Artifact

end ParserSplice
