import ParserSplice.CommandLine
import ParserSplice.Generation.Basic

set_option autoImplicit false

namespace ParserSplice.Program

/-- Reports an error and gives the status to end with. -/
def fail (input : String) (error : GenerationError) (reason : String) : IO UInt32 := do
  IO.eprintln ("composing " ++ input ++ ": " ++ error.headline ++ reason)
  return UInt32.ofNat error.exitCode

def writeOutput (request : CommandLine) (text : String) : IO UInt32 := do
  let path := Generation.outputPath request.outputDirectory request.name
  let opened ← (IO.FS.Handle.mk path .write).toBaseIO
  match opened with
  | .error reason => fail request.input (.unwritableOutput path) (toString reason)
  | .ok output =>
    output.write text.toUTF8
    output.flush
    IO.eprintln ("generated " ++ path)
    return 0

def carryOut (request : CommandLine) : IO UInt32 := do
  let found ← (IO.FS.readBinFile request.input).toBaseIO
  match found with
  | .error reason => fail request.input (.unreadableInput request.input) (toString reason)
  | .ok bytes =>
    if request.debug then
      IO.eprintln ("read " ++ toString bytes.size ++ " bytes from " ++ request.input)
    match Generation.driverText bytes.data.toList request.name with
    | .error error => fail request.input error error.reason
    | .ok text => writeOutput request text

end ParserSplice.Program

/-- Composes the fragments of one input file into a driver. -/
def main (arguments : List String) : IO UInt32 := do
  match ParserSplice.CommandLine.ofArguments arguments with
  | .error problem =>
    IO.eprintln ("error: " ++ problem)
    return 2
  | .ok request => ParserSplice.Program.carryOut request
