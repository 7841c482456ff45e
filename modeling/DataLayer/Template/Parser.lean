import DataLayer.Template.Error
import DataLayer.Template.Lines
import DataLayer.Template.Syntax
import DataLayer.Template.Token
import DataLayer.Text.Alphabetic
import DataLayer.Text.Split

/-!
Reading templates. The tokens of a source are classified one by one, and openers and closers are
matched with a stack of open sections; the first token that does not fit is the error.
-/

namespace DataLayer.Template

open Text

/-- What a tag means. -/
inductive Mark where
  | comment
  | opener (path : String) (inverted : Bool)
  | closer (path : String)
  | value (path : Option String) (pipes : List Pipe)
  deriving DecidableEq, Repr

def isKeywordChar (c : Char) : Bool := isAlphanumeric c || c == '_'

/-- The text between double or else single quotes. -/
def unquote? (cs : List Char) : Option (List Char) := between? '"' cs <|> between? '\'' cs

def Pipe.ofKeyword? (keyword : List Char) (argument : Option String) : Option Pipe :=
  if keyword.isEmpty || !keyword.all isKeywordChar then none
  else some ⟨String.ofList keyword, argument⟩

/-- Reads a keyword, alone or with one quoted argument in parentheses. -/
def Pipe.ofChars? (segment : List Char) : Option Pipe :=
  let segment := trimChars segment
  match cutAtFirst '(' segment with
  | none => ofKeyword? segment none
  | some (keyword, rest) =>
    if rest.getLast? == some ')' then
      (unquote? (trimChars rest.dropLast)).bind fun argument =>
        ofKeyword? (trimChars keyword) (some (String.ofList argument))
    else none

def pipes? : List (List Char) → Option (List Pipe)
  | [] => some []
  | s :: rest => (Pipe.ofChars? s).bind fun p => (pipes? rest).map (p :: ·)

/-- Reads a path and its keywords. A first segment with a parenthesis is a keyword already. -/
def Mark.valueOf? (content : List Char) : Option Mark :=
  match splitOutsideQuotes '|' content with
  | [] => none
  | first :: rest =>
    let first := trimChars first
    if first.isEmpty then none
    else if first.contains '(' then (pipes? (first :: rest)).map (.value none)
    else (pipes? rest).map (.value (some (String.ofList first)))

/-- Reads the content of a tag, without white space at its ends. -/
def Mark.ofContent? : List Char → Option Mark
  | [] => none
  | c :: cs =>
    let path := trimChars cs
    if c == '!' then some .comment
    else if c == '#' || c == '^' then
      if path.isEmpty then none else some (.opener (String.ofList path) (c == '^'))
    else if c == '/' then some (.closer (String.ofList path))
    else valueOf? (c :: cs)

/-- A section that is open, with the nodes before it in reverse order. -/
structure OpenSection where
  path : String
  inverted : Bool
  before : List Node

/-- Adds a text unless it is empty. -/
def pushText (cs : List Char) (nodes : List Node) : List Node :=
  if cs.isEmpty then nodes else .text (String.ofList cs) :: nodes

/-- Builds the nodes of a token sequence. `nodes` holds those of the innermost open section so far,
in reverse order. -/
def build : List OpenSection → List Node → List Token → Except TemplateError (List Node)
  | [], nodes, [] => .ok nodes.reverse
  | s :: _, _, [] => .error (.unclosedSection s.path)
  | stack, nodes, .text cs :: rest => build stack (pushText cs nodes) rest
  | _, _, .unclosed offset :: _ => .error (.unclosedTag offset)
  | stack, nodes, .tag content offset :: rest =>
    match Mark.ofContent? (trimChars content) with
    | none => .error (.invalidTag (String.ofList (trimChars content)))
    | some .comment => build stack nodes rest
    | some (.value path pipes) => build stack (.tag ⟨offset, path, pipes⟩ :: nodes) rest
    | some (.opener path inverted) => build (⟨path, inverted, nodes⟩ :: stack) [] rest
    | some (.closer found) =>
      match stack with
      | [] => .error (.mismatchedSection "" found)
      | s :: outer =>
        if s.path = found then
          build outer (.block s.path s.inverted nodes.reverse :: s.before) rest
        else .error (.mismatchedSection s.path found)

/-- Reads a source whose standalone lines are reduced already. -/
def parseStripped (source : List Char) : Except TemplateError (List Node) :=
  build [] [] (tokens 0 source)

def parse (source : String) : Except TemplateError (List Node) :=
  parseStripped (stripStandalone source.toList)

end DataLayer.Template
