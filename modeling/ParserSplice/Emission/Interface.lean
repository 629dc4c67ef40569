import ParserSplice.Emission.Constants
import ParserSplice.Emission.Dispatch

set_option autoImplicit false

namespace ParserSplice.Emission

def arrays (name : String) : List String :=
  ["pub struct " ++ name ++ "Arrays \x7b"] ++
    ArtifactKind.all.map (fun k => "    pub " ++ k.fieldName ++ ": " ++ k.shape.typeName ++ ",") ++
    ["\x7d", ""]

def loadLine (k : ArtifactKind) : String :=
  "        " ++ k.fieldName ++ ": load_artifact(" ++ Quoted.encode k.fieldName ++ ", " ++
    k.constantName ++ "_BYTES, " ++ k.constantName ++ "_HASH)?,"

def loader (name : String) : List String :=
  ["fn init_arrays() -> Result<" ++ name ++ "Arrays, ArtifactError> \x7b",
    "    Ok(" ++ name ++ "Arrays \x7b"] ++
    ArtifactKind.all.map loadLine ++
    ["    \x7d)", "\x7d", "",
      "static ARRAYS: OnceCell<" ++ name ++ "Arrays> = OnceCell::new();", ""]

def parser (name : String) : List String :=
  ["pub struct " ++ name ++ " \x7b",
    "    arrays: &'static " ++ name ++ "Arrays,",
    "\x7d", "",
    "impl " ++ name ++ " \x7b",
    "    /// Verifies and decodes the tables on first use.",
    "    pub fn try_new() -> Result<Self, ArtifactError> \x7b",
    "        let arrays = ARRAYS.get_or_try_init(init_arrays)?;",
    "        Ok(Self \x7b arrays \x7d)",
    "    \x7d", "",
    "    pub fn arrays(&self) -> &'static " ++ name ++ "Arrays \x7b",
    "        self.arrays",
    "    \x7d",
    "\x7d", ""]

def method (signature : String) (body : List String) : List String :=
  ("    fn " ++ signature ++ " \x7b") :: body ++ ["    \x7d"]

def partOf (name field item : String) : List String :=
  method (name ++ "(&self, fragment_id: usize) -> &[" ++ item ++ "]")
    ["        self.arrays." ++ field ++
      ".get(fragment_id).map(Vec::as_slice).unwrap_or_default()"]

def perFragment (cases : List String) (otherwise : String) : List String :=
  ["        match fragment_id \x7b"] ++
    cases.zipIdx.map (fun entry => "            " ++ toString entry.2 ++ " => " ++ entry.1 ++ ",") ++
    ["            _ => " ++ otherwise ++ ",", "        \x7d"]

def nameBody : List String :=
  ["        if let Some(marking) = terminal.checked_sub(MARKING_TERMINAL_OFFSET) \x7b",
    "            return MARKING_TERMINAL_NAMES.get(marking).copied().flatten();",
    "        \x7d",
    "        if let Some(ext) = fragment_id.checked_sub(1) \x7b",
    "            let offset = *EXT_SYMBOL_TABLE_OFFSETS.get(ext)?;",
    "            if let Some(local) = terminal.checked_sub(offset) \x7b",
    "                return EXT_TERMINAL_NAMES.get(ext)?.get(local).copied().flatten();",
    "            \x7d",
    "        \x7d",
    "        HOST_TERMINAL_NAMES.get(terminal).copied().flatten()"]

/-- The lookups that a parse loop makes. -/
def methods (engine : Engine) (extensions : List ExtensionFragment) : List (List String) :=
  [method "fragment_count(&self) -> usize" ["        FRAGMENT_COUNT"],
    method "state_to_fragment_id(&self, state: usize) -> usize"
      (Dispatch.ofLayout engine.layout).lines,
    method "parse_table(&self) -> &[Vec<u32>]" ["        &self.arrays.parse_table"],
    partOf "production_lengths" "production_lengths" "usize",
    partOf "fragment_transition_table" "deltas" "Vec<usize>",
    partOf "fragment_accept_sets" "accept_sets" "BTreeSet<usize>",
    partOf "fragment_reject_sets" "reject_sets" "BTreeSet<usize>",
    partOf "fragment_possible_sets" "possible_sets" "BTreeSet<usize>",
    method "fragment_terminal_count(&self, fragment_id: usize) -> usize"
      (perFragment (toString engine.layout.width ::
        extensions.map (fun e => toString e.partition.terminalCount)) "0"),
    method "fragment_start_state(&self, fragment_id: usize) -> Option<usize>"
      (perFragment ((engine.scanner.table.start :: extensions.map (fun e => e.scanner.start)).map
        (fun start => "Some(" ++ toString start ++ ")")) "None"),
    method "fragment_eof_terminal(&self, _fragment_id: usize) -> usize" ["        EOF_TERMINAL"],
    method "fragment_layout_sets(&self, fragment_id: usize) -> &[BTreeSet<usize>]"
      ["        if fragment_id == 0 \x7b",
        "            &self.arrays.marking_terminal_layout_sets",
        "        \x7d else \x7b",
        "            &self.arrays.layout_sets",
        "        \x7d"],
    method "fragment_terminal_uses(&self, fragment_id: usize, terminal: usize) -> u8"
      ["        conjoined_terminal_uses(",
        "            &self.arrays.host_terminal_uses,",
        "            &self.arrays.ext_terminal_uses,",
        "            fragment_id,",
        "            terminal,",
        "        )"],
    method "terminal_name(&self, fragment_id: usize, terminal: usize) -> Option<TerminalName>"
      nameBody]

/-- The implementation of the lookups, with an empty line between two of them. -/
def interface (name : String) (engine : Engine) (extensions : List ExtensionFragment) :
    List String :=
  ["impl FragmentTables for " ++ name ++ " \x7b"] ++
    [""].intercalate (methods engine extensions) ++ ["\x7d"]

end ParserSplice.Emission
