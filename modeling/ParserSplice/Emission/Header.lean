import ParserSplice.Emission.Options
import ParserSplice.Engine.Basic
import ParserSplice.Unicode.WhiteSpace

set_option autoImplicit false

namespace ParserSplice.Emission

def fragmentLine (layout : Layout) (entry : ExtensionFragment × Nat) : String :=
  "  " ++ toString (entry.2 + 1) ++ ": " ++ entry.1.name ++ ", " ++
    toString (layout.counts[entry.2]?.getD 0) ++ " states from " ++
    toString (layout.offset entry.2)

def markingLine (host : HostFragment) (extensions : List ExtensionFragment) (m : PlacedMarking) :
    String :=
  "  column " ++ toString m.column ++ ": " ++
    ((extensions[m.extension]?).map ExtensionFragment.name).getD "" ++ " terminal " ++
    toString m.terminal ++ " on " ++ (host.symbolTable.name? m.hook).getD "?" ++
    ", enters state " ++ toString m.target

/-- A list with a title, left out if it is empty. -/
def titled (title : String) (lines : List String) : List String :=
  if lines.isEmpty then [] else title :: lines

/-- What stands in the comment after its fixed first lines. -/
def summary (engine : Engine) (host : HostFragment) (extensions : List ExtensionFragment) :
    List String :=
  ["Fragments:",
    "  0: host, " ++ toString engine.layout.hostStates ++ " states, marking scanner"] ++
    extensions.zipIdx.map (fragmentLine engine.layout) ++
    titled "Marking terminals:" (engine.layout.markings.map (markingLine host extensions)) ++
    titled "Conflicts:" (engine.conflicts.map (fun c => "  " ++ c.text))

def header (engine : Engine) (host : HostFragment) (extensions : List ExtensionFragment) :
    List String :=
  ["/*", "Produced by fragment composer GRAFTER",
    "Copyright (c) 2005-2025 IKH Software, Inc. <support@ikhsoftware.com>", ""] ++
    summary engine host extensions ++ ["*/", ""]

def trimEnd (text : String) : String :=
  String.ofList
    (text.toList.reverse.dropWhile (fun c => Unicode.whiteSpace.contains c.toNat)).reverse

/-- The preamble, if there is one. -/
def preamble (o : EmitOptions) : List String :=
  match o.preamble with
  | none => []
  | some text => [trimEnd text, ""]

def imports : List String :=
  ["use grafter::once_cell::sync::OnceCell;",
    "use grafter::\x7bArtifactError, FragmentTables, TerminalName, conjoined_terminal_uses, " ++
      "load_artifact\x7d;",
    "use std::collections::BTreeSet;", ""]

end ParserSplice.Emission
