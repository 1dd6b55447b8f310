import ClassSharing.Command.Dump
import ClassSharing.Command.Validate
import ClassSharing.Text.LetterCase

/-!
# The group of commands

The options in front of a command's name set the level of the log and switch colours off. Options
are checked in the order in which they are given; the options of a command are looked at only when
the level of the log has been set.
-/

namespace ClassSharing

/-- The commands. -/
inductive Subcommand where
  | validate
  | dump
  deriving DecidableEq, Repr

/-- The name that a command has by itself. -/
def Subcommand.name : Subcommand → String
  | validate => "validate"
  | dump => "dump"

/-- The commands of a group, each under the name it is called by. -/
structure CommandGroup where
  commands : List (String × Subcommand)
  deriving DecidableEq, Repr

namespace CommandGroup

/-- The usual commands, each under its own name. -/
def usual : CommandGroup := ⟨[Subcommand.validate, .dump].map fun c => (c.name, c)⟩

/-- The names of the commands in ascending order. -/
def list (g : CommandGroup) : List String :=
  (g.commands.map Prod.fst).mergeSort fun a b => decide (¬ b < a)

/-- The command of a name. -/
def find? (g : CommandGroup) (name : String) : Option Subcommand := g.commands.lookup name

end CommandGroup

namespace CommandLine

/-- The version of the program. -/
def version : String := "0.1.0"

/-! ### Options of the group -/

/-- The options in front of a command. -/
def groupSpecs : List OptionSpec :=
  [⟨"version", none, false⟩, ⟨"no-color", none, false⟩, ⟨"log-level", none, true⟩]

/-- The levels of the log that can be chosen. -/
def logLevels : List String := ["DEBUG", "INFO", "WARNING", "ERROR"]

/-- The level of the log if none is chosen. -/
def usualLogLevel : String := "WARNING"

/-- The level of a text, whose letters may have either case. -/
def logLevel? (text : String) : Option String :=
  logLevels.find? fun l => Text.lower l == Text.lower text

/-- The text that tells the version. -/
def versionText (version : String) : String := "cds, version " ++ version

/-! ### Checks of values -/

/-- What a file of a path option may not be, if it exists. -/
inductive PathRule where
  | any
  | noFile
  | noDirectory
  deriving DecidableEq, Repr

/-- The end of a command whose option has an unfit value. -/
def unfit (option value : String) : Exit := .usage (.unfitValue option value)

/-- The end of a command whose path option has an unfit value, if it has. -/
def pathFault? (files : FileTree) (rule : PathRule) (option address : String) : Option Exit :=
  if address.toList.contains '\x00' then some (.escaped (.failure .embeddedNull))
  else match rule, files.find address with
    | .noFile, .ok (.file _) => some (unfit option address)
    | .noDirectory, .ok .directory => some (unfit option address)
    | _, _ => none

/-- A check of the value of an option. -/
structure ValueCheck where
  name : String
  fault? : String → String → Option Exit

/-- The first fault in the values of the given options, in the order in which they are given. Of an
option that is given several times the last value counts. -/
def firstFault? (checks : List ValueCheck) (a : Arguments) : Option Exit :=
  a.given.findSome? fun g =>
    (checks.find? fun c => c.name == g.name).bind fun c =>
      (a.value? g.name).bind (c.fault? g.name)

/-! ### Options of the commands -/

/-- The options of `validate`. -/
def validateSpecs : List OptionSpec :=
  [⟨"file", some 'f', true⟩, ⟨"classlist", none, false⟩, ⟨"format", none, true⟩]

/-- The form of report of a name. -/
def format? : String → Option ReportFormat
  | "table" => some .table
  | "json" => some .json
  | _ => none

/-- The checks of the options of `validate`. -/
def validateChecks (files : FileTree) : List ValueCheck :=
  [⟨"file", pathFault? files .any⟩,
    ⟨"format", fun option v => if (format? v).isSome then none else some (unfit option v)⟩]

/-- The options of `validate`. -/
def validateOptions (files : FileTree) (args : List String) : Except Exit ValidateOptions :=
  match Arguments.cut validateSpecs true args with
  | .error e => .error (.usage e)
  | .ok a =>
    match firstFault? (validateChecks files) a, a.value? "file", a.rest with
    | some e, _, _ => .error e
    | none, none, _ => .error (.usage (.missingOption "file"))
    | none, some _, extra :: _ => .error (.usage (.unexpectedArgument extra))
    | none, some file, [] =>
      .ok ⟨file, a.has "classlist", ((a.value? "format").bind format?).getD .table⟩

/-- The options of `dump`. -/
def dumpSpecs : List OptionSpec :=
  [⟨"static", none, false⟩, ⟨"dynamic", none, false⟩, ⟨"output", some 'o', true⟩,
    ⟨"config", some 'c', true⟩, ⟨"java-home", none, true⟩, ⟨"class-list", none, true⟩,
    ⟨"vm-arg", none, true⟩, ⟨"debug", none, false⟩, ⟨"dry-run", none, false⟩]

/-- The checks of the options of `dump`. -/
def dumpChecks (files : FileTree) : List ValueCheck :=
  [⟨"config", pathFault? files .any⟩, ⟨"java-home", pathFault? files .noFile⟩,
    ⟨"class-list", pathFault? files .noDirectory⟩]

/-- Whether a static archive is asked for: the last of the two options counts. -/
def asksStatic (a : Arguments) : Bool :=
  match a.given.reverse.find? fun g => g.name == "static" || g.name == "dynamic" with
  | some g => g.name == "static"
  | none => true

/-- The options of `dump`. -/
def dumpOptions (files : FileTree) (args : List String) : Except Exit DumpOptions :=
  match Arguments.cut dumpSpecs true args with
  | .error e => .error (.usage e)
  | .ok a =>
    match firstFault? (dumpChecks files) a, a.rest with
    | some e, _ => .error e
    | none, extra :: _ => .error (.usage (.unexpectedArgument extra))
    | none, [] =>
      .ok ⟨asksStatic a, a.value? "output", a.value? "config", a.value? "java-home",
        a.value? "class-list", a.values "vm-arg", a.has "debug", a.has "dry-run"⟩

/-! ### Running a command line -/

/-- How a command line has ended: the level that the log was set to, if it was, and whether colours
were switched off. -/
structure Finished where
  exit : Exit
  logLevel : Option String
  noColor : Bool
  deriving DecidableEq, Repr

/-- Runs a command with its arguments. -/
def runCommand (ctx : CommandContext) (command : Subcommand) (args : List String) :
    Run LocalWorld Exit := fun w =>
  match command with
  | .validate =>
    match validateOptions w.files args with
    | .ok o => Validate.run ctx.unreadable o w
    | .error e => ⟨.ok e, [], w⟩
  | .dump =>
    match dumpOptions w.files args with
    | .ok o => DumpCommand.run ctx o w
    | .error e => ⟨.ok e, [], w⟩

/-- Whether the version is asked for, and whether colours are switched off before that. -/
def eager (given : List GivenOption) : Bool × Bool :=
  let before := given.takeWhile fun g => g.name != "version"
  (before.length != given.length, before.any fun g => g.name == "no-color")

/-- The level of the log that the options of the group ask for. -/
def chosenLevel (a : Arguments) : Except UsageError String :=
  match a.value? "log-level" with
  | none => .ok usualLogLevel
  | some text =>
    match logLevel? text with
    | some level => .ok level
    | none => .error (.unfitValue "log-level" text)

/-- The command that the arguments behind the options of the group ask for, and its own
arguments. -/
def chosenCommand (group : CommandGroup) : List String →
    Except UsageError (Subcommand × List String)
  | [] => .error .missingCommand
  | name :: rest =>
    match group.find? name with
    | some command => .ok (command, rest)
    | none => .error (.unknownCommand name)

/-- Runs a command line. -/
def run (ctx : CommandContext) (group : CommandGroup) (args : List String) :
    Run LocalWorld Finished := do
  match Arguments.cut groupSpecs false args with
  | .error e => return ⟨.usage e, none, false⟩
  | .ok a =>
    let (version, noColor) := eager a.given
    if version then
      Run.say (.plain (versionText ctx.version))
      return ⟨.status 0, none, noColor⟩
    else
      match chosenLevel a, chosenCommand group a.rest with
      | .ok level, .ok (command, rest) =>
        return ⟨← runCommand ctx command rest, some level, noColor⟩
      | .error e, _ | _, .error e => return ⟨.usage e, none, noColor⟩

end CommandLine

end ClassSharing
