import ParserSplice.Engine.Names
import ParserSplice.Text.Chunk
import ParserSplice.Text.Quoted

set_option autoImplicit false

namespace ParserSplice.Emission

def bracketed (numbers : List Nat) : String :=
  "[" ++ ", ".intercalate (numbers.map toString) ++ "]"

def numberConstant (name : String) (value : Nat) : String :=
  "pub const " ++ name ++ ": usize = " ++ toString value ++ ";"

def numbersConstant (name : String) (values : List Nat) : String :=
  "pub const " ++ name ++ ": &[usize] = &" ++ bracketed values ++ ";"

def constants (layout : Layout) (host : HostFragment) (names : NameTables) : List String :=
  [numberConstant "FRAGMENT_COUNT" layout.fragmentCount,
    numberConstant "HOST_STATE_COUNT" layout.hostStates,
    numberConstant "TOTAL_STATE_COUNT" layout.totalStates,
    numbersConstant "EXT_STATE_OFFSETS" layout.offsets,
    numbersConstant "EXT_SYMBOL_TABLE_OFFSETS" names.extensionColumns,
    numberConstant "MARKING_TERMINAL_OFFSET" names.markingColumn,
    numberConstant "EOF_TERMINAL" host.grammar.endOfInput, ""]

/-- The names of a terminal, if it has any. -/
def nameLiteral : Option TerminalName → String
  | none => "None"
  | some n =>
    "Some(TerminalName::new(" ++ Quoted.encode n.real ++ ", " ++ Quoted.encode n.display ++ "))"

/-- A line of a table of names, with the number that the entry stands for. -/
def numberedName (index : Nat) (name : Option TerminalName) : String :=
  "    /* " ++ toString index ++ " */ " ++ nameLiteral name ++ ","

def extensionNames (extension : String) (names : List (Option TerminalName)) : List String :=
  ("    /* " ++ extension ++ " */ &[") ::
    names.map (fun n => "        " ++ nameLiteral n ++ ",") ++ ["    ],"]

/-- The tables of names. `labels` are the names of the extensions and `columns` those of the
marking terminals. -/
def nameTables (labels : List String) (columns : List Nat) (names : NameTables) : List String :=
  ["pub static HOST_TERMINAL_NAMES: &[Option<TerminalName>] = &["] ++
    names.host.zipIdx.map (fun entry => numberedName entry.2 entry.1) ++
    ["];", "", "pub static EXT_TERMINAL_NAMES: &[&[Option<TerminalName>]] = &["] ++
    (List.zipWith extensionNames labels names.extensions).flatten ++
    ["];", "", "pub static MARKING_TERMINAL_NAMES: &[Option<TerminalName>] = &["] ++
    List.zipWith numberedName columns names.markings ++
    ["];", ""]

def byteLiteral (b : UInt8) : String := "0x" ++ String.ofList (Hex.ofByte b)

def byteLines (bytes : List UInt8) : List String :=
  (chunks 16 bytes).map (fun line => "    " ++ ", ".intercalate (line.map byteLiteral) ++ ",")

def artifactLines (entry : ArtifactKind × Artifact) : List String :=
  let name := entry.1.constantName
  ("pub static " ++ name ++ "_BYTES: &[u8] = &[") :: byteLines entry.2.bytes ++
    ["];", "pub const " ++ name ++ "_HASH: &str = " ++ Quoted.encode entry.2.hash ++ ";", ""]

def artifacts (engine : Engine) : List String := engine.artifacts.flatMap artifactLines

end ParserSplice.Emission
