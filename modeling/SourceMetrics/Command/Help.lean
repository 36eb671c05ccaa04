import SourceMetrics.Command.Arguments

/-!
# Help

What is told when a command line does not lead to a command: how the program is used, its version,
or what is wrong with the line.
-/

namespace SourceMetrics

/-- The commands with their words, and what they do. -/
def Command.summaries : List (String × String) := [
  ("analyze [-f FORMAT] [-c CONFIG] [PATHS]...",
    "Analyze Python files, directories, or standard input"),
  ("call [-c CONFIG] TOOL [ARGUMENTS]", "Invoke a tool by name with JSON arguments"),
  ("tools", "Print the available tool descriptors as JSON"),
  ("init [-o OUTPUT]", "Create a default config file"),
  ("help [COMMAND]", "Print this message")]

namespace Usage

def versionText : String := programName ++ " " ++ programVersion ++ "\n"

/-- How the program is used. -/
def helpText : String :=
  "Structural analyzer for Python source.\n\n" ++
    s!"Usage: {programName} [-v] COMMAND\n\nCommands:\n" ++
    String.join (Command.summaries.map fun (words, purpose) =>
      "  " ++ words ++ "\n      " ++ purpose ++ "\n")

/-- What is wrong with a line, if the user did not ask for information. -/
def complaint? : Usage → Option String
  | .help | .version | .nothing => none
  | missingCommand => some "no command is given"
  | unknownCommand => some "there is no such command"
  | unknownArgument => some "an argument is not expected here"
  | missingArgument => some "a required argument is missing"
  | invalidValue => some "an option has a value that it cannot have, or none"
  | surplusValue => some "a flag does not take a value"
  | repeatedArgument => some "an option is given twice"

/-- The text for a line that leads to no command. -/
def text (u : Usage) : String :=
  match u, u.complaint? with
  | .version, _ => versionText
  | _, some complaint => "error: " ++ complaint ++ "\n\n" ++ helpText
  | _, none => helpText

end Usage

end SourceMetrics
