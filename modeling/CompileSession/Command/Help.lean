import CompileSession.Command.Line

/-!
# Help on the command line

The text that is written when help is asked for.
-/

namespace CompileSession

/-- The lines of the help text. -/
def helpLines : List String :=
  [about,
   "",
   "Usage: wylab [OPTIONS] <COMMAND>",
   "",
   "Commands:",
   "  compile [FILE]  Compile a source file, or the saved session when no file is given",
   "  session         Print the saved session",
   "  help            Print this message",
   "",
   "Options:",
   "      --server <SERVER>  Compiler service base URL (overrides WYLAB_SERVER_URL)",
   "      --db <DB>          Session database path, or \":memory:\" (overrides WYLAB_DB_PATH)",
   "  -h, --help             Print help",
   "",
   "Options of compile:",
   "      --verify           Enable verification",
   "      --no-verify        Disable verification (default: as in the saved session)",
   "      --counterexamples  Search for counterexamples when verification fails",
   "      --run              Run the generated program after a successful compile"]

/-- The help text. -/
def helpText : String := String.join (helpLines.map (· ++ "\n"))

end CompileSession
