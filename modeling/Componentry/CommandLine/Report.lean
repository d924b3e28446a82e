import Componentry.CommandLine.Style
import Componentry.Composition.Initializer
import Componentry.Registry.Basic
import Componentry.Text.Layout

/-
  Answers of commands as text and as documents.

  The text form is meant for people and may be coloured, the
  document form has its fields in a fixed order.

  Key definitions:
    * `CommandLine.Report`
    * `CommandLine.Report.text`
    * `CommandLine.Report.document`
-/

------------------------------------------------------------
-- Answers
------------------------------------------------------------

namespace Componentry

namespace CommandLine

/- What a command has found out. -/
inductive Report where
  | rebuilt (target : String) (report : RebuildReport)
  | typekit (name : String) (installed : Bool)
  | projectModel (name : String) (path : Path) (text : String)
  | typekitModel (name : String) (types : String)
      (typeList : String)
  -- Who owns something; `label` tells what the owner is.
  | ownership (label : String) (name : String)
      (owner : Option String)
  | deployments (task : String) (names : List String)
  | nameList (heading : String) (names : List String)
  | composition (composed : ComposedInitializers)

end CommandLine

end Componentry

------------------------------------------------------------
-- Texts
------------------------------------------------------------

namespace Componentry

namespace CommandLine

namespace Report

/- The counts of a rebuild, each behind its name. -/
def counts (report : RebuildReport) : List (String × Nat) :=
  [("  Projects:       ", report.projects),
   ("  Task libraries: ", report.taskLibraries),
   ("  Deployments:    ", report.deployments),
   ("  Typekits:       ", report.typekits),
   ("  Types:          ", report.types)]

/- The lines on what a rebuild complains about. -/
def diagnosticLines
    (colored : Bool)
    (diagnostics : List Diagnostic) :
    List String :=
  if diagnostics.isEmpty then []
  else
    ["",
      Style.yellow.paint colored (toString diagnostics.length)
        ++ " diagnostic(s):"]
      ++ diagnostics.map fun diagnostic =>
        "  " ++ Style.yellow.paint colored "!" ++ " "
          ++ diagnostic.line

/- The text on a rebuild that took some time. -/
def rebuiltText
    (colored : Bool)
    (elapsed : String)
    (target : String)
    (report : RebuildReport) :
    String :=
  Text.unlines
    ([Style.boldGreen.paint colored "✓"
        ++ " Registry rebuilt for "
        ++ Style.yellow.paint colored target
        ++ " in " ++ elapsed]
      ++ (counts report).map (fun (label, count) =>
        label ++ Style.bold.paint colored (toString count))
      ++ ["  Fingerprint:    "
        ++ Style.cyan.paint colored report.fingerprint.shortHex]
      ++ diagnosticLines colored report.diagnostics)

/- The text on whether a typekit is installed. -/
def typekitText
    (colored : Bool)
    (name : String)
    (installed : Bool) :
    String :=
  let shown := Style.yellow.paint colored name
  Text.unlines
    [if installed then
      Style.green.paint colored "✓" ++ " typekit " ++ shown
        ++ " is installed"
    else
      Style.red.paint colored "✗" ++ " typekit " ++ shown
        ++ " is not installed"]

/- The text on who owns something. -/
def ownerText
    (colored : Bool)
    (name : String)
    (owner : Option String) :
    String :=
  let shown :=
    match owner with
    | some owner => Style.boldGreen.paint colored owner
    | none => Style.dimmed.paint colored "(none)"
  Text.unlines
    [Style.yellow.paint colored name ++ " -> " ++ shown]

/- The text on the deployments that run a task. -/
def deploymentsText
    (colored : Bool)
    (task : String)
    (names : List String) :
    String :=
  if names.isEmpty then
    Text.unlines
      ["No deployment instantiates "
        ++ Style.yellow.paint colored task ++ "."]
  else Text.unlines (names.map ("  " ++ ·))

/- A numbered list of names under a heading. -/
def namesText
    (colored : Bool)
    (heading : String)
    (names : List String) :
    String :=
  Text.unlines
    (Style.bold.paint colored heading
      :: names.zipIdx.map fun (name, place) =>
        "  " ++ toString (place + 1) ++ ". "
          ++ Style.cyan.paint colored name)

/- A text under a title; nothing if there is no text. -/
def sectionText
    (colored : Bool)
    (title : String)
    (text : String) :
    String :=
  if text = "" then ""
  else
    Text.unlines
      ["", Style.bold.paint colored ("== " ++ title ++ " ==")]
      ++ Text.closed text

/- The text on composed initializers. -/
def composedText
    (colored : Bool)
    (composed : ComposedInitializers) :
    String :=
  if composed.initializers.isEmpty then
    Text.unlines ["No initializers selected."]
  else
    Text.unlines
      ["Initializers: "
        ++ Style.cyan.paint colored
          (", ".intercalate composed.initializers)]
      ++ sectionText colored "global scope" composed.globalScope
      ++ sectionText colored "init" composed.init
      ++ sectionText colored "exit" composed.exit
      ++ String.join
        (composed.buildTexts.map fun (target, text) =>
          sectionText colored ("build: " ++ target.key) text)

/- An answer as text. -/
def text
    (colored : Bool)
    (elapsed : String) :
    Report → String
  | .rebuilt target report =>
      rebuiltText colored elapsed target report
  | .typekit name installed =>
      typekitText colored name installed
  | .projectModel _ path text =>
      Text.unlines
        [Style.dimmed.paint colored "#" ++ " "
          ++ Style.dimmed.paint colored path.text]
        ++ text
  | .typekitModel _ types typeList =>
      Text.unlines [Style.bold.paint colored "Type registry:"]
        ++ types
        ++ Text.unlines [Style.bold.paint colored "Type list:"]
        ++ typeList
  | .ownership _ name owner => ownerText colored name owner
  | .deployments task names =>
      deploymentsText colored task names
  | .nameList heading names => namesText colored heading names
  | .composition composed => composedText colored composed

end Report

end CommandLine

end Componentry

------------------------------------------------------------
-- Documents
------------------------------------------------------------

namespace Componentry

namespace CommandLine

namespace Report

/- Composed initializers as a document. -/
def composedDocument (composed : ComposedInitializers) : Json :=
  .object
    [("initializers", .ofStrings composed.initializers),
     ("global_scope", .string composed.globalScope),
     ("init", .string composed.init),
     ("exit", .string composed.exit),
     ("build",
       .object
         (composed.buildTexts.map fun (target, text) =>
           (target.key, .string text)))]

/- An answer as a document. -/
def document : Report → Json
  | .rebuilt _ report => report.toJson
  | .typekit name installed =>
      .object
        [("installed", .bool installed),
         ("typekit", .string name)]
  | .projectModel name path text =>
      .object
        [("path", .string path.text),
         ("project", .string name),
         ("text", .string text)]
  | .typekitModel name types typeList =>
      .object
        [("registry", .string types),
         ("typekit", .string name),
         ("typelist", .string typeList)]
  | .ownership label name owner =>
      .object
        [("name", .string name), (label, .ofOption owner)]
  | .deployments task names =>
      .object
        [("deployments", .ofStrings names),
         ("task", .string task)]
  | .nameList _ names => .ofStrings names
  | .composition composed => composedDocument composed

end Report

end CommandLine

end Componentry
