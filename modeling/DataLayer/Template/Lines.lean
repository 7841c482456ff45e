import DataLayer.Text.Blank
import DataLayer.Text.Utf8

/-!
Standalone lines. A line that holds nothing but one tag that prints nothing itself loses the white
space around the tag and its line end.
-/

namespace DataLayer.Template

open Text

/-- The lines of a text, each with its line end. -/
def lines : List Char → List (List Char)
  | [] => []
  | c :: cs =>
    if c == '\n' then [c] :: lines cs
    else match lines cs with
      | [] => [[c]]
      | l :: ls => (c :: l) :: ls

/-- Whether a character stands twice in a row. -/
def hasPair (c : Char) : List Char → Bool
  | a :: b :: rest => (a == c && b == c) || hasPair c (b :: rest)
  | _ => false

/-- The content of a line between two opening braces in front and two closing ones behind. -/
def tagContent? : List Char → Option (List Char)
  | '{' :: '{' :: rest =>
    match rest.reverse with
    | '}' :: '}' :: content => some content.reverse
    | _ => none
  | _ => none

/-- The marks of tags that print nothing. -/
def isSilentMark (c : Char) : Bool := c == '#' || c == '^' || c == '/' || c == '!'

def isStandalone (line : List Char) : Bool :=
  match tagContent? line with
  | some (c :: rest) => isSilentMark c && !hasPair '{' (c :: rest) && !hasPair '}' (c :: rest)
  | _ => false

def stripLine (line : List Char) : List Char :=
  if isStandalone (trimChars line) then trimChars line else line

/-- Reduces every standalone line to its tag. -/
def stripStandalone (source : List Char) : List Char := (lines source).flatMap stripLine

end DataLayer.Template
