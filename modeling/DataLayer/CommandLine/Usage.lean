import DataLayer.CommandLine.Arguments

/-! What the program says about its own use. -/

namespace DataLayer.CommandLine

def programName : String := "dacgen"

def versionText : String := programName ++ " 0.3.0\n"

def CommandName.purpose : CommandName → String
  | generate => "Generate entity and data-access files from a schema package"
  | check => "Validate dacgen.toml and resolve the schema without writing files"
  | explain => "Show the resolved entities, accessors and routines"
  | init => "Create a default dacgen.toml"
  | completions => "Generate shell completions"

/-- Pads a text with blanks to a width. -/
def pad (width : Nat) (s : String) : String :=
  s ++ String.ofList (List.replicate (width - s.length) ' ')

/-- Terms with what they mean, in two columns. -/
def columns (entries : List (String × String)) : String :=
  let width := entries.foldl (fun w e => max w e.1.length) 0
  String.join (entries.map fun e => "  " ++ pad (width + 2) e.1 ++ e.2 ++ "\n")

def commonOptions : List (String × String) := [
  ("-v, --verbose...", "Increase log verbosity"),
  ("-h, --help", "Print help")]

def runOptions : List (String × String) := [
  ("-c, --config <CONFIG>", "Path to dacgen.toml [default: dacgen.toml]"),
  ("--configuration <CONFIGURATION>", "Active build configuration [default: Debug]"),
  ("--dacpac <DACPAC>", "Schema package to read, overriding the configured path")]

def optionsOf (name : CommandName) : List (String × String) :=
  (if name.isRun then runOptions else []) ++
    (if name == .generate then
      [("--dry-run", "Preview generated code without writing to disk")] else []) ++
    commonOptions

def operandsOf : CommandName → String
  | .init => " [DIR]"
  | .completions => " <SHELL>"
  | _ => ""

def usageLine : Place → String
  | none => "Usage: " ++ programName ++ " [OPTIONS] <COMMAND>\n"
  | some name =>
    "Usage: " ++ programName ++ " " ++ name.text ++ " [OPTIONS]" ++ operandsOf name ++ "\n"

def helpText : Place → String
  | none =>
    "Generate C# data-access code from SQL Server schema packages\n\n" ++ usageLine none ++
      "\nCommands:\n" ++ columns (CommandName.all.map fun name => (name.text, name.purpose)) ++
      "\nOptions:\n" ++ columns (commonOptions ++ [("-V, --version", "Print version")])
  | some name =>
    name.purpose ++ "\n\n" ++ usageLine (some name) ++ "\nOptions:\n" ++ columns (optionsOf name)

/-- A script that completes the names of commands. -/
def completionScript (shell : Shell) : String :=
  let names := CommandName.all.map CommandName.text ++ ["help"]
  let words := " ".intercalate names
  match shell with
  | .bash => "complete -W '" ++ words ++ "' " ++ programName ++ "\n"
  | .zsh => "#compdef " ++ programName ++ "\n_arguments '1:command:(" ++ words ++ ")'\n"
  | .fish =>
    "complete -c " ++ programName ++ " -n __fish_use_subcommand -f -a '" ++ words ++ "'\n"
  | .elvish =>
    "set edit:completion:arg-completer[" ++ programName ++ "] = \x7b|@words|\n  put " ++ words ++
      "\n\x7d\n"
  | .powershell =>
    "Register-ArgumentCompleter -Native -CommandName '" ++ programName ++
      "' -ScriptBlock \x7b\n  param($word)\n  @(" ++
      ", ".intercalate (names.map fun n => "'" ++ n ++ "'") ++
      ") | Where-Object \x7b $_ -like \"$word*\" \x7d\n\x7d\n"

end DataLayer.CommandLine
