import ParserSplice.Emission.Header
import ParserSplice.Emission.Interface

set_option autoImplicit false

namespace ParserSplice

namespace Emission

def lines (engine : Engine) (host : HostFragment) (extensions : List ExtensionFragment)
    (options : EmitOptions) : List String :=
  let names := NameTables.ofEngine engine host extensions
  header engine host extensions ++ preamble options ++ imports ++
    constants engine.layout host names ++
    nameTables (extensions.map ExtensionFragment.name)
      (engine.scanner.terminals.map PlacedMarking.column) names ++
    artifacts engine ++
    arrays options.parserName ++ loader options.parserName ++ parser options.parserName ++
    interface options.parserName engine extensions

end Emission

/-- The text of the driver of an engine; every line ends with a line feed. -/
def Engine.driver (engine : Engine) (host : HostFragment) (extensions : List ExtensionFragment)
    (options : EmitOptions) : String :=
  String.join ((Emission.lines engine host extensions options).map (fun line => line ++ "\n"))

end ParserSplice
