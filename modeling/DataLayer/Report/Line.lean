/-! The lines of reports, and how a terminal shows them. -/

namespace DataLayer

/-- What a report says, one item at a time. -/
inductive Line where
  | title (text : String)
  | heading (name : String)
  | keyValue (key value : String)
  | keyValueIndented (key value : String)
  | numberedItem (number : Nat) (text : String)
  | listItem (text : String)
  | nestedItem (text : String)
  | addedItem (text : String)
  | warning (text : String)
  | error (text : String)
  | divider (label : String)
  | preformatted (text : String)
  | newline
  deriving DecidableEq, Repr

namespace Line

/-- Whether a line goes to the error output. -/
def isRemark : Line → Bool
  | warning _ | error _ => true
  | _ => false

/-- The text of a line on a terminal, without its last line end. A title is underlined with one
mark for every octet. -/
def text : Line → String
  | title t => t ++ "\n" ++ String.ofList (List.replicate t.utf8ByteSize '=')
  | heading name => name ++ ":"
  | keyValue key value => key ++ ": " ++ value
  | keyValueIndented key value => "  " ++ key ++ ": " ++ value
  | numberedItem number t => "  " ++ toString number ++ ". " ++ t
  | listItem t => "  - " ++ t
  | nestedItem t => "      " ++ t
  | addedItem t => "  + " ++ t
  | warning t => "warning: " ++ t
  | error t => "error: " ++ t
  | divider label => "── " ++ label ++ " ──"
  | preformatted t => t
  | newline => ""

/-- The texts of lines, each with a line end. -/
def texts (lines : List Line) : String := String.join (lines.map fun l => l.text ++ "\n")

/-- What lines write to the standard output. -/
def output (lines : List Line) : String := texts (lines.filter (!·.isRemark))

/-- What lines write to the error output. -/
def remarks (lines : List Line) : String := texts (lines.filter isRemark)

end Line

end DataLayer
