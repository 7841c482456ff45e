import DataLayer.Decimal.Binary64
import DataLayer.Text.Split

/-!
The data that templates are filled from: texts, numbers and flags, lists of them, and records with
named fields.
-/

namespace DataLayer

open Decimal

/-- A whole number of 64 bits, or any other number as the nearest binary64. -/
inductive DataNumber where
  | integer (n : Int)
  | real (negative : Bool) (value : Binary64)
  deriving DecidableEq, Repr

namespace DataNumber

/-- Numbers from `0.00001` up to sixteen digits before the point are written positionally. -/
def layout : Layout := ⟨-5, 15⟩

def text : DataNumber → String
  | integer n => toString n
  | real negative value =>
    let digits := value.shortest
    (if negative then "-" else "") ++
      (if value.mantissa = 0 then "0.0" else layout.write digits.1 digits.2)

def isZero : DataNumber → Bool
  | integer n => n == 0
  | real _ value => value.mantissa == 0

/-- The value of decimal digits. -/
def natOfDigits (cs : List Char) : Nat :=
  cs.foldl (fun n c => 10 * n + (c.toNat - '0'.toNat)) 0

/-- The number that a decimal literal names: whole, fraction and exponent digits after a sign. A
literal without fraction and exponent is a whole number while it fits 64 bits; a negative zero is
none. -/
def ofParts? (negative : Bool) (whole fraction : List Char) (exponent : Option Int) :
    Option DataNumber :=
  let n := natOfDigits whole
  if fraction.isEmpty && exponent.isNone &&
    (if negative then n ≠ 0 && n ≤ Nat.pow 2 63 else n < Nat.pow 2 64)
  then some (.integer (if negative then -n else n))
  else (Binary64.nearest? (natOfDigits (whole ++ fraction)) (exponent.getD 0 - fraction.length)).map
    (.real negative)

/-- Reads a decimal literal such as `-12.5e3`. -/
def ofLiteral? (literal : String) : Option DataNumber :=
  let (negative, cs) := match literal.toList with
    | '-' :: cs => (true, cs)
    | cs => (false, cs)
  let whole := cs.takeWhile Char.isDigit
  let rest := cs.dropWhile Char.isDigit
  let (fraction, rest) := match rest with
    | '.' :: r => (r.takeWhile Char.isDigit, r.dropWhile Char.isDigit)
    | r => ([], r)
  let exponent? : Option (Option Int) := match rest with
    | [] => some none
    | e :: r =>
      if e == 'e' || e == 'E' then
        let (down, ds) := match r with
          | '-' :: ds => (true, ds)
          | '+' :: ds => (false, ds)
          | ds => (false, ds)
        if ds.isEmpty || !ds.all Char.isDigit then none
        else some (some (if down then -natOfDigits ds else natOfDigits ds))
      else none
  if whole.isEmpty then none
  else exponent?.bind (ofParts? negative whole fraction)

end DataNumber

/-- A value in template data. -/
inductive Data where
  | null
  | flag (b : Bool)
  | number (n : DataNumber)
  | text (s : String)
  | list (items : List Data)
  | record (fields : List (String × Data))
  deriving Inhabited

namespace Data

def texts (ss : List String) : Data := list (ss.map text)

def optionalText : Option String → Data
  | none => null
  | some s => text s

/-- Sets a field, in place of an earlier one of its name. -/
def setField (name : String) (value : Data) : List (String × Data) → List (String × Data)
  | [] => [(name, value)]
  | (n, v) :: rest => if n = name then (n, value) :: rest else (n, v) :: setField name value rest

/-- A record of fields in order; of several fields of one name the last counts. -/
def ofFields (fields : List (String × Data)) : Data :=
  record (fields.foldl (fun acc f => setField f.1 f.2 acc) [])

def field? (name : String) : Data → Option Data
  | record fields => fields.lookup name
  | _ => none

/-- What lets a section appear: anything but nothing, `false`, zero, an empty text or an empty
list. -/
def isTruthy : Data → Bool
  | null => false
  | flag b => b
  | number n => !n.isZero
  | text s => !s.isEmpty
  | list items => !items.isEmpty
  | record _ => true

/-- The text of a value that is neither a list nor a record. -/
def scalarText? : Data → Option String
  | null => some ""
  | flag b => some (if b then "true" else "false")
  | number n => some n.text
  | text s => some s
  | list _ => none
  | record _ => none

def text? : Data → Option String
  | text s => some s
  | _ => none

def flag? : Data → Option Bool
  | flag b => some b
  | _ => none

/-- Follows field names from a value. -/
def follow : Data → List String → Option Data
  | value, [] => some value
  | value, name :: rest => (value.field? name).bind fun v => v.follow rest

end Data

/-- The values in whose fields names are looked up, the innermost first. -/
abbrev Scope := List Data

/-- `.` is the innermost value. Any other path starts at the innermost value that has its first
name as a field. -/
def Scope.lookup (scope : Scope) (path : String) : Option Data :=
  if path == "." then scope.head?
  else match (Text.splitAt '.' path.toList).map String.ofList with
    | [] => none
    | first :: rest => (scope.findSome? (·.field? first)).bind fun v => v.follow rest

end DataLayer
