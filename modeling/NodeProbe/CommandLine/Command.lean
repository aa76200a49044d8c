import NodeProbe.Config.Load

/-!
# Commands

A command has a usage, a summary, flags, and perhaps commands below it. Its help shows all of them
in columns. The program has one command that does something.
-/

namespace NodeProbe.CommandLine

/-- A flag, perhaps with a parameter. -/
structure Flag where
  short : String
  long : String
  parameter : Option String
  summary : String
  deriving DecidableEq

/-- How a flag is written in the help. -/
def Flag.term (f : Flag) : String :=
  f.short ++ ", " ++ f.long ++
    match f.parameter with
    | some parameter => " " ++ parameter
    | none => ""

/-- A command. -/
structure Command where
  /-- How it is called. -/
  usage : String
  summary : String
  /-- Its flags, in front of the one for help. -/
  flags : List Flag
  /-- The commands below it: how each is called, and its summary. -/
  commands : List (String × String)

/-! ## Help -/

/-- The flag that every command has. -/
def helpFlag : Flag :=
  ⟨"-h", "--help", none, "display help for command"⟩

/-- Breaks words into lines that are shorter than a width. -/
def wrap (width : Nat) (words : List String) : List String :=
  words.foldl
    (fun lines word =>
      match lines.getLast? with
      | some line =>
        if line.length + 1 + word.length < width then lines.dropLast ++ [line ++ " " ++ word]
        else lines ++ [word]
      | none => [word])
    []

/-- The words of a text between its blanks. -/
def wordsOf (s : String) : List String :=
  (s.toList.splitOn ' ').map String.ofList

/-- The width of the help. -/
def helpWidth : Nat := 80

/-- Fills a text up with blanks. -/
def padded (width : Nat) (s : String) : String :=
  s ++ String.ofList (List.replicate (width - s.length) ' ')

namespace Command

/-- All flags of a command. -/
def allFlags (c : Command) : List Flag :=
  c.flags ++ [helpFlag]

/-- The width of the left column. -/
def termWidth (c : Command) : Nat :=
  ((c.allFlags.map Flag.term ++ c.commands.map (·.1)).map String.length).foldl max 0

/-- A part of the help: a title, and a line for each item. -/
def part (c : Command) (title : String) (entries : List (String × String)) : List String :=
  if entries.isEmpty then []
  else
    (title :: entries.map fun (term, summary) =>
      "  " ++ padded (c.termWidth + 2) term ++ summary) ++ [""]

/-- The help for a command. -/
def help (c : Command) : String :=
  "\n".intercalate
    (["Usage: " ++ c.usage, ""] ++ wrap helpWidth (wordsOf c.summary) ++ [""] ++
      c.part "Options:" (c.allFlags.map fun f => (f.term, f.summary)) ++
      c.part "Commands:" c.commands)

end Command

/-! ## The commands of the program -/

/-- Shows the version. -/
def versionFlag : Flag :=
  ⟨"-V", "--version", none, "output the version number"⟩

/-- Names the environment file. -/
def configFlag : Flag :=
  ⟨"-c", "--config", some "<file>", "Path to an env file with the configuration"⟩

/-- The command that runs the server. -/
def serveCommand : Command where
  usage := "rpc-extractor serve [options]"
  summary := "Start the metrics server and the extraction loop"
  flags := [configFlag]
  commands := []

/-- The program itself. -/
def program : Command where
  usage := "rpc-extractor [options] [command]"
  summary :=
    "Queries Bitcoin Core RPC diagnostics, publishes them to NATS and exports Prometheus metrics"
  flags := [versionFlag]
  commands :=
    [("serve [options]", serveCommand.summary), ("help [command]", helpFlag.summary)]

end NodeProbe.CommandLine
