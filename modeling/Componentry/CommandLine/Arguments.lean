import Componentry.CommandLine.Invocation

/-
  Reading command lines.

  An option is settled, that is checked and counted, only when
  something follows that cannot be its value.  So a mistake in
  an option is reported before one in a later option, but a
  word or an option that is not known at all is reported
  first.  What stands behind the name of a command is read and
  checked before the options in front of it are settled.

  Key definitions:
    * `CommandLine.UsageError`
    * `CommandLine.Argument`
    * `CommandLine.Progress`, `CommandLine.Progress.settle`
    * `CommandLine.readCommand`
    * `CommandLine.read`
-/

------------------------------------------------------------
-- Errors
------------------------------------------------------------

namespace Componentry

namespace CommandLine

/- Why a command line asks for no command. -/
inductive UsageError where
  -- Help, or the version, is asked for.
  | help
  | version
  -- Nothing at all is given.
  | nothingGiven
  | missingCommand
  | unknownCommand
  | unknownArgument
  | missingArgument
  -- A value that is missing or not admitted.
  | invalidValue
  -- A value for an option that has none.
  | unwantedValue
  -- An option that is given twice.
  | conflict
deriving DecidableEq, Repr

/- The text of an error. -/
def UsageError.message : UsageError → String
  | .help => "help is asked for"
  | .version => "the version is asked for"
  | .nothingGiven => "no command is given"
  | .missingCommand => "a command is required"
  | .unknownCommand => "unrecognized command"
  | .unknownArgument => "unexpected argument"
  | .missingArgument => "a required argument is missing"
  | .invalidValue => "the value of an option is invalid"
  | .unwantedValue => "an option takes no value"
  | .conflict => "an option cannot be used multiple times"

end CommandLine

end Componentry

------------------------------------------------------------
-- Arguments
------------------------------------------------------------

namespace Componentry

namespace CommandLine

/- What an argument is by its dashes. -/
inductive Argument where
  | word (text : String)
  -- An option, perhaps with a value behind an equals sign.
  | long (name : String) (attached : Option String)
  -- Options of one letter each.
  | letters (letters : List Char)
  -- Two dashes: nothing but words follow.
  | divider
deriving DecidableEq, Repr

/- The argument of a text; a single dash is a word. -/
def Argument.ofText (text : String) : Argument :=
  match text.toList with
  | ['-', '-'] => .divider
  | '-' :: '-' :: cs =>
      match Text.cutFirst (· == '=') cs with
      | none => .long (String.ofList cs) none
      | some (name, _, value) =>
          .long (String.ofList name) (some (String.ofList value))
  | '-' :: c :: cs => .letters (c :: cs)
  | _ => .word text

end CommandLine

end Componentry

------------------------------------------------------------
-- Progress
------------------------------------------------------------

namespace Componentry

namespace CommandLine

/- The option that was read last. -/
inductive Pending where
  | nothing
  -- Its value has to come next.
  | awaiting (switch : Switch)
  -- Its value has come.
  | unsettled (switch : Switch) (value : String)
deriving DecidableEq, Repr

/- What has been read before a command, or behind it. -/
structure Progress where
  -- The options that are settled, in order.
  given : List (Switch × String)
  words : List String
  pending : Pending

namespace Progress

/- Nothing has been read. -/
def start : Progress :=
  ⟨[], [], .nothing⟩

/- Is an option settled already? -/
def has
    (progress : Progress)
    (switch : Switch) :
    Bool :=
  progress.given.any (·.1 == switch)

/- Check an option and its value, and count it. -/
def give
    (progress : Progress)
    (switch : Switch)
    (value : String) :
    Except UsageError Progress :=
  if !switch.repeats && progress.has switch then
    .error .conflict
  else if !switch.admits value then .error .invalidValue
  else
    .ok
      { progress with
        given := progress.given ++ [(switch, value)] }

/- Settle the option that was read last. -/
def settle
    (progress : Progress) :
    Except UsageError Progress :=
  match progress.pending with
  | .nothing => .ok progress
  | .awaiting _ => .error .invalidValue
  | .unsettled switch value =>
      { progress with pending := .nothing }.give switch value

/- An option without a value. -/
def takeFlag
    (progress : Progress)
    (switch : Switch) :
    Except UsageError Progress := do
  let progress ← progress.settle
  match switch with
  | .help => .error .help
  | .version => .error .version
  | switch => progress.give switch ""

/- An option with a long name. -/
def takeLong
    (progress : Progress)
    (switches : List Switch)
    (name : String)
    (attached : Option String) :
    Except UsageError Progress :=
  match switches.find? (·.long = name) with
  | none => .error .unknownArgument
  | some switch =>
      if switch.takesValue then do
        let progress ← progress.settle
        match attached with
        | some value => progress.give switch value
        | none => .ok { progress with pending := .awaiting switch }
      else if attached.isSome then .error .unwantedValue
      else progress.takeFlag switch

/- An option of one letter. -/
def takeLetter
    (switches : List Switch)
    (progress : Progress)
    (letter : Char) :
    Except UsageError Progress :=
  match switches.find? (·.letter? = some letter) with
  | none => .error .unknownArgument
  | some switch => progress.takeFlag switch

/- A word that a command is about, if there is room for it. -/
def takeWord
    (room : Option Nat)
    (progress : Progress)
    (word : String) :
    Except UsageError Progress :=
  if room.all (progress.words.length < ·) then do
    let progress ← progress.settle
    .ok { progress with words := progress.words ++ [word] }
  else .error .unknownArgument

/- The values of an option, in order. -/
def values
    (progress : Progress)
    (switch : Switch) :
    List String :=
  (progress.given.filter (·.1 == switch)).map (·.2)

end Progress

end CommandLine

end Componentry

------------------------------------------------------------
-- Behind a Command
------------------------------------------------------------

namespace Componentry

namespace CommandLine

/- Read what stands behind a command. -/
def readBehind
    (verb : Verb)
    (progress : Progress) :
    List String → Except UsageError Progress
  | [] => progress.settle
  | text :: rest => do
      match Argument.ofText text with
      | .divider =>
          let progress ←
            rest.foldlM (Progress.takeWord verb.room) progress
          progress.settle
      | .long name attached =>
          let progress ←
            progress.takeLong verb.switches name attached
          readBehind verb progress rest
      | .letters letters =>
          let progress ←
            letters.foldlM (Progress.takeLetter verb.switches)
              progress
          readBehind verb progress rest
      | .word word =>
          match progress.pending with
          | .awaiting switch =>
              readBehind verb
                { progress with
                  pending := .unsettled switch word }
                rest
          | _ =>
              let progress ← progress.takeWord verb.room word
              readBehind verb progress rest

/- Read a command and what stands behind it. -/
def readCommand
    (verb : Verb)
    (rest : List String) :
    Except UsageError (Command × Progress) := do
  let progress ← readBehind verb .start rest
  match
    verb.command? (fun switch => (progress.values switch).head?)
      progress.words
  with
  | none => .error .missingArgument
  | some command => .ok (command, progress)

end CommandLine

end Componentry

------------------------------------------------------------
-- Whole Command Lines
------------------------------------------------------------

namespace Componentry

namespace CommandLine

/- The name of the command that explains the others. -/
def helpName : String := "help"

/- Does a word name a command? -/
def isCommandName (word : String) : Bool :=
  word == helpName || (Verb.ofName? word).isSome

/-
  Ask for help on a command; commands have none below them.
-/
def askHelp : List String → UsageError
  | [] => .help
  | [word] =>
      if isCommandName word then .help else .unknownCommand
  | _ => .unknownCommand

/- Nothing follows that could be a command. -/
def endWithout (progress : Progress) : UsageError :=
  match progress.settle with
  | .error error => error
  | .ok progress =>
      if progress.given.isEmpty then .nothingGiven
      else .missingCommand

/-
  The values of an option of every command.  Those behind the
  command win over those before it.
-/
def commonValues
    (before behind : Progress)
    (switch : Switch) :
    List String :=
  let values := behind.values switch
  if values.isEmpty then before.values switch else values

/- The command and the options of every command. -/
def invocation
    (command : Command)
    (before behind : Progress) :
    Invocation :=
  let values := commonValues before behind
  { command
    verbose := !(values .verbose).isEmpty
    format :=
      ((values .format).head?.bind Format.ofName?).getD .text
    config := (values .config).head?.map Path.mk
    target := (values .target).head?
    searchPaths := (values .searchPath).map Path.mk }

/- Read a command line from its options on. -/
def readFrom
    (progress : Progress) :
    List String → Except UsageError Invocation
  | [] => .error (endWithout progress)
  | text :: rest => do
      match Argument.ofText text with
      | .divider =>
          match rest with
          | [] => .error (endWithout progress)
          | word :: _ =>
              if isCommandName word then .error .unknownArgument
              else .error .unknownCommand
      | .long name attached =>
          let progress ←
            progress.takeLong Switch.leading name attached
          readFrom progress rest
      | .letters letters =>
          let progress ←
            letters.foldlM (Progress.takeLetter Switch.leading)
              progress
          readFrom progress rest
      | .word word =>
          match progress.pending with
          | .awaiting switch =>
              readFrom
                { progress with
                  pending := .unsettled switch word }
                rest
          | _ =>
              if word = helpName then .error (askHelp rest)
              else
                match Verb.ofName? word with
                | none => .error .unknownCommand
                | some verb =>
                    let (command, behind) ←
                      readCommand verb rest
                    let before ← progress.settle
                    .ok (invocation command before behind)

/- The command that a command line asks for. -/
def read
    (arguments : List String) :
    Except UsageError Invocation :=
  readFrom .start arguments

end CommandLine

end Componentry
