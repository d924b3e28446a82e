import Componentry.CommandLine.Invocation
import Componentry.Text.Layout

/-
  The text that explains the command line.

  Key definitions:
    * `CommandLine.helpText`
    * `CommandLine.versionText`
-/

------------------------------------------------------------
-- Help
------------------------------------------------------------

namespace Componentry

namespace CommandLine

/- The name of the program. -/
def programName : String := "componentry"

/- The version of the program. -/
def versionText : String := programName ++ " 0.1.0\n"

/- What the options of every command are for. -/
def switchLines : List String :=
  ["  -v, --verbose             Name the directories searched",
   "      --format text|json    Choose how answers are written",
   "      --config FILE         Read a configuration file",
   "      --target NAME         Choose the target platform",
   "      --search-path PATH    Search a directory, in order",
   "  -h, --help                Print help",
   "  -V, --version             Print version"]

/- A text with blanks up to a width. -/
def padded
    (width : Nat)
    (text : String) :
    String :=
  text ++ String.ofList (List.replicate (width - text.length) ' ')

/- The commands and options of the program. -/
def helpText : String :=
  Text.unlines
    (["Inspect installed components and code generation"
        ++ " extensions",
      "",
      "Usage: " ++ programName ++ " [OPTIONS] <COMMAND>",
      "",
      "Commands:"]
      ++ Verb.all.map (fun verb =>
        "  " ++ padded 20 verb.name ++ verb.summary)
      ++ ["", "Options:"]
      ++ switchLines)

end CommandLine

end Componentry
