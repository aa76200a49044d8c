import NodeProbe.CommandLine.Reading
import NodeProbe.CommandLine.Suggestion
import NodeProbe.Server

/-!
# The command line

The arguments ask for the version, for help, or for the server, or they are in error. The program
reads them first, and hands what it does not know to the command that the first operand names. What
is printed goes to the standard output and the standard error, and a number tells how it ended. How
arguments are read and what is printed about them is as `commander` has it in the version 12.
-/

namespace NodeProbe.CommandLine

/-- What is wrong with the arguments. -/
inductive UsageFault where
  | missingParameter (flag : Flag)
  /-- A flag that is not known, and those that are. -/
  | unknownFlag (arg : String) (known : List Flag)
  | unknownCommand (name : String)

/-- The flags that are suggested for one that is not known. Only long names are like each other. -/
def similarFlags (arg : String) (known : List Flag) : List String :=
  if arg.startsWith "--" then similar arg (known.map (·.long)) else []

/-- The names of the commands below the program. -/
def commandNames : List String :=
  ["serve", "help"]

/-- The wording of a fault. -/
def UsageFault.message : UsageFault → String
  | missingParameter flag => "error: option '" ++ flag.term ++ "' argument missing"
  | unknownFlag arg known =>
    "error: unknown option '" ++ arg ++ "'" ++ suggestion (similarFlags arg known)
  | unknownCommand name =>
    "error: unknown command '" ++ name ++ "'" ++ suggestion (similar name commandNames)

/-- What the arguments ask for. -/
inductive Request where
  | version
  | help (command : Command)
  /-- Nothing was asked for, so that the help is shown as an error. -/
  | lost
  | serve (configFile : Option String)
  | faulty (fault : UsageFault)

namespace Request

/-- An early end of a reading. -/
def ofHalt : Halt → Request
  | .met _ => version
  | .missing flag => faulty (.missingParameter flag)

/-- Help is asked for. -/
def wantsHelp (args : List String) : Bool :=
  args.any fun arg => arg = helpFlag.short || arg = helpFlag.long

/-- What is asked of the server. -/
def ofServe (args : List String) : Request :=
  match Arguments.read serveCommand.flags false args with
  | .error halt => ofHalt halt
  | .ok a =>
    if wantsHelp a.rest then help serveCommand
    else
      match a.rest with
      | arg :: _ => faulty (.unknownFlag arg (serveCommand.allFlags ++ program.allFlags))
      | [] => serve (a.value? configFlag)

/-- Help for a command. -/
def ofHelp : List String → Request
  | [] | "" :: _ => help program
  | "serve" :: _ => help serveCommand
  | _ => lost

/-- What is asked of the program, if no command is named. -/
def ofProgram (a : Arguments) : Request :=
  match a.operands, a.rest with
  | [], [] => lost
  | operands, rest =>
    if wantsHelp rest then help program
    else
      match operands, rest with
      | name :: _, _ => faulty (.unknownCommand name)
      | [], arg :: _ => faulty (.unknownFlag arg program.allFlags)
      | [], [] => lost

/-- What the arguments ask for. -/
def ofArguments (args : List String) : Request :=
  match Arguments.read program.flags false args with
  | .error halt => ofHalt halt
  | .ok a =>
    match a.operands with
    | "serve" :: _ => ofServe a.rest
    | "help" :: names => ofHelp names
    | _ => ofProgram a

end Request

/-! ## Answering -/

/-- What the program leaves behind. -/
structure Output where
  code : Nat
  stdout : String
  stderr : String
  deriving DecidableEq, Repr

namespace Output

/-- A text, and a good end. -/
def good (text : String) : Output :=
  ⟨0, text, ""⟩

/-- An error. -/
def bad (text : String) : Output :=
  ⟨1, "", text⟩

/-- Lines that go to one of the two outputs. -/
def joined (lines : List Line) (toStdout : Bool) : String :=
  let chosen := lines.filter fun l => (l.level = .log) = toStdout
  String.join (chosen.map fun l => l.text.toString ++ "\n")

/-- The last words about a fault that ends the program. -/
def lastWords : Fault → Text
  | .config fault => "Fatal configuration error: " ++ fault.message ++ "\n"
  | fault => "Fatal error: " ++ fault.logText ++ "\n"

/-- What a server leaves behind. -/
def ofServer (s : Server) : Output :=
  let stdout := joined s.lines true
  let stderr := joined s.lines false
  match s.status with
  | .rejected fault => ⟨1, stdout, stderr ++ (lastWords fault).toString⟩
  | _ => ⟨0, stdout, stderr⟩

end Output

/-- Answers a request. -/
def answer (around : Surroundings) (files : Files) (environment : Environment) :
    Request → Output
  | .version => .good (around.identity.version ++ "\n")
  | .help command => .good command.help
  | .lost => .bad program.help
  | .serve configFile =>
    .ofServer (Server.start around ⟨files, environment, configFile.map Text.ofString⟩)
  | .faulty fault => .bad (fault.message ++ "\n")

/-- Runs the program with arguments. -/
def run (around : Surroundings) (files : Files) (environment : Environment)
    (args : List String) : Output :=
  answer around files environment (.ofArguments args)

end NodeProbe.CommandLine
