import DataLayer.Config.Basic

/-!
The arguments of the program: options before the command, the command, and then options and
operands. Arguments are read from left to right, and the first that does not fit ends the reading.
-/

namespace DataLayer.CommandLine

/-- Shells that completions can be written for. -/
inductive Shell where
  | bash | elvish | fish | powershell | zsh
  deriving DecidableEq, Repr

def Shell.all : List Shell := [.bash, .elvish, .fish, .powershell, .zsh]

def Shell.name : Shell → String
  | bash => "bash"
  | elvish => "elvish"
  | fish => "fish"
  | powershell => "powershell"
  | zsh => "zsh"

inductive CommandName where
  | generate | check | explain | init | completions
  deriving DecidableEq, Repr

namespace CommandName

def all : List CommandName := [generate, check, explain, init, completions]

def text : CommandName → String
  | generate => "generate"
  | check => "check"
  | explain => "explain"
  | init => "init"
  | completions => "completions"

def ofText? (s : String) : Option CommandName := all.find? (·.text == s)

/-- Whether the command reads a schema package. -/
def isRun : CommandName → Bool
  | generate | check | explain => true
  | init | completions => false

end CommandName

/-- Options without a value. -/
inductive Flag where
  | verbose | help | version | dryRun
  deriving DecidableEq, Repr

/-- Options with a value. -/
inductive Setting where
  | config | configuration | package
  deriving DecidableEq, Repr

inductive Switch where
  | flag (f : Flag)
  | setting (s : Setting)
  deriving DecidableEq, Repr

/-- Where an option stands: before the command, or behind it. -/
abbrev Place := Option CommandName

namespace Switch

/-- The option of a long name. -/
def ofLong? (place : Place) (name : String) : Option Switch :=
  let isRun := place.any CommandName.isRun
  match name with
  | "verbose" => some (.flag .verbose)
  | "help" => some (.flag .help)
  | "version" => if place.isNone then some (.flag .version) else none
  | "dry-run" => if place == some .generate then some (.flag .dryRun) else none
  | "config" => if isRun then some (.setting .config) else none
  | "configuration" => if isRun then some (.setting .configuration) else none
  | "dacpac" => if isRun then some (.setting .package) else none
  | _ => none

/-- The option of a letter. -/
def ofLetter? (place : Place) (c : Char) : Option Switch :=
  if c == 'v' then some (.flag .verbose)
  else if c == 'h' then some (.flag .help)
  else if c == 'V' && place.isNone then some (.flag .version)
  else if c == 'c' && place.any CommandName.isRun then some (.setting .config)
  else none

end Switch

/-- What an argument looks like. -/
inductive Word where
  /-- `--`, after which there are only operands. -/
  | separator
  /-- `--name` or `--name=value`. -/
  | long (name : String) (value : Option String)
  /-- `-xyz`. -/
  | letters (cs : List Char)
  | operand (text : String)
  deriving DecidableEq, Repr

def Word.ofText (s : String) : Word :=
  match s.toList with
  | ['-', '-'] => separator
  | '-' :: '-' :: rest =>
    match Text.cutAtFirst '=' rest with
    | none => long (String.ofList rest) none
    | some (name, value) => long (String.ofList name) (some (String.ofList value))
  | '-' :: c :: rest => letters (c :: rest)
  | _ => operand s

/-- Why no command is read. -/
inductive Stop where
  | help (place : Place)
  | version
  | usage
  deriving DecidableEq, Repr

/-- What options and operands have given so far. -/
structure Given where
  dryRun : Bool
  settings : List (Setting × String)
  operands : List String
  deriving DecidableEq, Repr

namespace Given

def empty : Given := ⟨false, [], []⟩

def setting? (g : Given) (s : Setting) : Option String := g.settings.lookup s

/-- Only `verbose` may be repeated. -/
def raise (place : Place) (f : Flag) (g : Given) : Except Stop Given :=
  match f with
  | .verbose => .ok g
  | .help => .error (.help place)
  | .version => .error .version
  | .dryRun => if g.dryRun then .error .usage else .ok { g with dryRun := true }

/-- A setting is made once, and a path is not empty. -/
def set (s : Setting) (value : String) (g : Given) : Except Stop Given :=
  if (g.setting? s).isSome || (value.isEmpty && s != .configuration) then .error .usage
  else .ok { g with settings := g.settings ++ [(s, value)] }

/-- Whether a command takes an operand. -/
def takes (place : Place) (operand : String) : Bool :=
  match place with
  | some .init => !operand.isEmpty
  | some .completions => Shell.all.any (·.name == operand)
  | _ => false

/-- No command takes more than one operand. -/
def addOperand (place : Place) (g : Given) (operand : String) : Except Stop Given :=
  if takes place operand && g.operands.isEmpty then .ok { g with operands := [operand] }
  else .error .usage

end Given

/-- Reads a cluster of letters. A setting takes the rest of the cluster as its value; at the end of
the cluster it waits for one. -/
def readLetters (place : Place) : List Char → Given → Except Stop (Given × Option Setting)
  | [], g => .ok (g, none)
  | c :: cs, g =>
    match Switch.ofLetter? place c with
    | none => .error .usage
    | some (.flag f) => (g.raise place f).bind (readLetters place cs)
    | some (.setting s) =>
      match cs with
      | [] => .ok (g, some s)
      | '=' :: value => (g.set s (String.ofList value)).map (·, none)
      | value => (g.set s (String.ofList value)).map (·, none)

/-- Reads a long option. -/
def readLong (place : Place) (name : String) (value : Option String) (g : Given) :
    Except Stop (Given × Option Setting) :=
  match Switch.ofLong? place name, value with
  | some (.flag f), none => (g.raise place f).map (·, none)
  | some (.setting s), some value => (g.set s value).map (·, none)
  | some (.setting s), none => .ok (g, some s)
  | _, _ => .error .usage

/-- Reads what follows a command. `waiting` is a setting whose value comes next. -/
def readRest (place : Place) : (waiting : Option Setting) → List String → Given → Except Stop Given
  | none, [], g => .ok g
  | some _, [], _ => .error .usage
  | none, s :: rest, g =>
    match Word.ofText s with
    | .separator => rest.foldlM (Given.addOperand place) g
    | .long name value => (readLong place name value g).bind fun (g, w) => readRest place w rest g
    | .letters cs => (readLetters place cs g).bind fun (g, w) => readRest place w rest g
    | .operand text => (g.addOperand place text).bind (readRest place none rest)
  | some setting, s :: rest, g =>
    match Word.ofText s with
    | .operand value => (g.set setting value).bind (readRest place none rest)
    | _ => .error .usage

/-- What the commands on schema packages have in common. -/
structure RunArguments where
  configPath : String
  configuration : String
  package : Option String
  deriving DecidableEq, Repr

inductive Command where
  | generate (run : RunArguments) (dryRun : Bool)
  | check (run : RunArguments)
  | explain (run : RunArguments)
  | init (directory : String)
  | completions (shell : Shell)
  deriving DecidableEq, Repr

namespace Command

def runArguments (g : Given) : RunArguments :=
  ⟨(g.setting? .config).getD Config.fileName, (g.setting? .configuration).getD "Debug",
    g.setting? .package⟩

/-- The command that a name and what is given behind it make. -/
def ofGiven (name : CommandName) (g : Given) : Except Stop Command :=
  match name with
  | .generate => .ok (.generate (runArguments g) g.dryRun)
  | .check => .ok (.check (runArguments g))
  | .explain => .ok (.explain (runArguments g))
  | .init => .ok (.init (g.operands.headD "."))
  | .completions =>
    match g.operands.head?.bind fun o => Shell.all.find? (·.name == o) with
    | some shell => .ok (.completions shell)
    | none => .error .usage

/-- The names behind `help`: none, or that of a command. -/
def helpOn : List String → Stop
  | [] => .help none
  | [name] =>
    if name == "help" then .help none
    else match CommandName.ofText? name with
      | some name => .help (some name)
      | none => .usage
  | _ => .usage

/-- Reads all arguments of the program. -/
def ofArguments : List String → Except Stop Command
  | [] => .error .usage
  | s :: rest =>
    match Word.ofText s with
    | .separator => .error .usage
    | .long name value => (readLong none name value .empty).bind fun _ => ofArguments rest
    | .letters cs => (readLetters none cs .empty).bind fun _ => ofArguments rest
    | .operand text =>
      if text == "help" then .error (helpOn rest)
      else match CommandName.ofText? text with
        | none => .error .usage
        | some name => (readRest (some name) none rest .empty).bind (ofGiven name)

end Command

end DataLayer.CommandLine
