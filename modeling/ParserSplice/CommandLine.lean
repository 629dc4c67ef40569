set_option autoImplicit false

namespace ParserSplice

/-- What the command line asks for. -/
structure CommandLine where
  input : String
  outputDirectory : String
  name : String
  debug : Bool
deriving DecidableEq, Repr

namespace CommandLine

/-- The options that take a value. -/
inductive Key where
  | input
  | outputDirectory
  | name
deriving DecidableEq, Repr

def Key.all : List Key := [.input, .outputDirectory, .name]

def Key.long : Key → String
  | input => "--input"
  | outputDirectory => "--output-dir"
  | name => "--name"

def Key.short : Key → String
  | input => "-i"
  | outputDirectory => "-o"
  | name => "-n"

/-- Options with their values, and whether debugging is asked for. -/
structure Given where
  values : List (Key × String) := []
  debug : Bool := false

def after? (leading text : String) : Option String :=
  if leading.toList.isPrefixOf text.toList then
    some (String.ofList (text.toList.drop leading.length))
  else none

def attached? (argument : String) (key : Key) : Option (Key × String) :=
  match after? (key.long ++ "=") argument with
  | some value => some (key, value)
  | none =>
    match after? key.short argument with
    | some value =>
      if value.isEmpty then none else some (key, (after? "=" value).getD value)
    | none => none

def Given.add (given : Given) (key : Key) (value : String) : Except String Given :=
  if (given.values.lookup key).isSome then
    .error ("the argument '" ++ key.long ++ "' cannot be used multiple times")
  else .ok { given with values := (key, value) :: given.values }

def read (given : Given) : List String → Except String Given
  | [] => .ok given
  | argument :: rest =>
    if argument == "-d" || argument == "--debug" then read { given with debug := true } rest
    else match Key.all.find? (fun k => argument == k.long || argument == k.short), rest with
      | some key, value :: others => do
        let next ← given.add key value
        read next others
      | some key, [] => .error ("a value is required for '" ++ key.long ++ "'")
      | none, rest =>
        match Key.all.findSome? (attached? argument) with
        | some (key, value) => do
          let next ← given.add key value
          read next rest
        | none => .error ("unexpected argument '" ++ argument ++ "' found")

def required (given : Given) (key : Key) : Except String String :=
  match given.values.lookup key with
  | some value => .ok value
  | none => .error ("the required argument '" ++ key.long ++ "' was not provided")

def ofArguments (arguments : List String) : Except String CommandLine := do
  let given ← read {} arguments
  let input ← required given .input
  let outputDirectory ← required given .outputDirectory
  let name ← required given .name
  return ⟨input, outputDirectory, name, given.debug⟩

end CommandLine

end ParserSplice
