import ParserSplice.Document.Composition
import ParserSplice.Emission.Driver
import ParserSplice.Generation.Storage

set_option autoImplicit false

namespace ParserSplice

/-- Why a generation run fails. -/
inductive GenerationError where
  | unreadableInput (path : String)
  | malformedInput
  | composition (error : CompositionError)
  | unwritableOutput (path : String)
deriving DecidableEq, Repr

namespace GenerationError

/-- The error in words, up to the reason that the system or a reader gives. -/
def headline : GenerationError → String
  | unreadableInput path => "cannot read composition input " ++ path ++ ": "
  | malformedInput => "malformed composition input: "
  | composition error => error.headline
  | unwritableOutput path => "cannot open output file " ++ path ++ " for writing: "

/-- The reason for the error, where the composition gives one. -/
def reason : GenerationError → String
  | composition error => error.reason
  | unreadableInput _ => "no such file"
  | malformedInput => "not the text of a composition"
  | unwritableOutput _ => "no such directory, or not a file"

/-- The error in words. -/
def message (e : GenerationError) : String := e.headline ++ e.reason

/-- The status with which a program ends after the error. -/
def exitCode : GenerationError → Nat
  | unwritableOutput _ => 2
  | unreadableInput _ | malformedInput | composition _ => 1

end GenerationError

namespace Generation

/-- Turns an error of the composition into one of the run. -/
def lift {α : Type} (result : Except CompositionError α) : Except GenerationError α :=
  result.mapError .composition

def outputPath (directory name : String) : String := Path.join directory (name ++ ".rs")

section By

variable (scan : OrderedMap String → Except CompositionError (ScannerTable × ScannerSets))

/-- The text of the driver for the bytes of a composition, by some way to make scanners. The parser
is named after the output. -/
def driverTextBy (input : List UInt8) (name : String) : Except GenerationError String := do
  match Composition.readBytes input with
  | none => .error .malformedInput
  | some composition =>
    let options ← lift (EmitOptions.named (camelCase name))
    let (host, extensions) ← lift composition.fragments
    let engine ← lift (Engine.buildBy scan host extensions)
    return engine.driver host extensions options

/-- Runs a generation on stored files. Returns the path of the output and the files after the
run. -/
def runBy (inputPath directory name : String) (s : Storage) :
    Except GenerationError String × Storage :=
  match (s.find inputPath).bind s.read with
  | none => (.error (.unreadableInput inputPath), s)
  | some input =>
    match driverTextBy scan input name with
    | .error e => (.error e, s)
    | .ok text =>
      let path := outputPath directory name
      match (s.find path).bind (fun place => s.save place text.toUTF8.data.toList) with
      | none => (.error (.unwritableOutput path), s)
      | some saved => (.ok path, saved)

end By

def driverText (input : List UInt8) (name : String) : Except GenerationError String :=
  driverTextBy Scanner.build input name

def run (inputPath directory name : String) (s : Storage) :
    Except GenerationError String × Storage :=
  runBy Scanner.build inputPath directory name s

end Generation

end ParserSplice
