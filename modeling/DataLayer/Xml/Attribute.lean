import DataLayer.Xml.Markup
import DataLayer.Xml.Tree

/-!
The attributes of a start tag. They are written `key = value` with the value in quotes; names lose
the word before their first colon, and declarations of such words are dropped.
-/

namespace DataLayer.Xml

open Text

/-- How far an attribute has been read. -/
inductive AttributeMode where
  | between
  | key (read : Octets)
  | beforeEquals (key : Octets)
  | beforeValue (key : Octets)
  | value (key : Octets) (quote : UInt8) (read : Octets)

/-- The keys and values in a tag after its name. -/
def scanAttributes : AttributeMode → Octets → Option (List (Octets × Octets))
  | .between, [] => some []
  | _, [] => none
  | .between, b :: rest =>
    if isSpace b then scanAttributes .between rest
    else if b == octet '=' then none
    else scanAttributes (.key [b]) rest
  | .key read, b :: rest =>
    if b == octet '=' then scanAttributes (.beforeValue read.reverse) rest
    else if isSpace b then scanAttributes (.beforeEquals read.reverse) rest
    else scanAttributes (.key (b :: read)) rest
  | .beforeEquals key, b :: rest =>
    if b == octet '=' then scanAttributes (.beforeValue key) rest
    else if isSpace b then scanAttributes (.beforeEquals key) rest
    else none
  | .beforeValue key, b :: rest =>
    if isSpace b then scanAttributes (.beforeValue key) rest
    else if isQuote b then scanAttributes (.value key b []) rest
    else none
  | .value key quote read, b :: rest =>
    if b == quote then (scanAttributes .between rest).map ((key, read.reverse) :: ·)
    else scanAttributes (.value key quote (b :: read)) rest

/-- The part of a name after its first colon. -/
def localPart (name : Octets) : Octets :=
  match name.dropWhile (· != octet ':') with
  | [] => name
  | _ :: rest => rest

/-- Whether a key declares a word that may stand before a colon, or the default for names without
one. -/
def isDeclaration (key : Octets) : Bool :=
  key == octetsOf "xmlns" || (octetsOf "xmlns:").isPrefixOf key

/-- The digits of a number in a base, if all characters are digits of it. -/
def digits? (base : Nat) (cs : List Char) : Option Nat :=
  if cs.isEmpty then none
  else cs.foldlM (fun n c =>
    let d := if c.isDigit then some (c.toNat - '0'.toNat)
      else if 'a' ≤ c && c ≤ 'f' then some (c.toNat - 'a'.toNat + 10)
      else if 'A' ≤ c && c ≤ 'F' then some (c.toNat - 'A'.toNat + 10)
      else none
    d.bind fun d => if d < base then some (n * base + d) else none) 0

/-- The character that an entity name stands for. -/
def entity? : List Char → Option Char
  | ['l', 't'] => some '<'
  | ['g', 't'] => some '>'
  | ['a', 'm', 'p'] => some '&'
  | ['a', 'p', 'o', 's'] => some '\''
  | ['q', 'u', 'o', 't'] => some '"'
  | '#' :: cs =>
    let code := match cs with
      | 'x' :: cs => digits? 16 cs
      | cs => digits? 10 cs
    code.bind fun n =>
      if n = 0 then none else if h : n.isValidChar then some (Char.ofNatAux n h) else none
  | _ => none

/-- Replaces entities. `name` holds the name after an open `&` in reverse order. -/
def unescape : Option (List Char) → List Char → Option (List Char)
  | none, [] => some []
  | some _, [] => none
  | none, c :: rest =>
    if c == '&' then unescape (some []) rest else (unescape none rest).map (c :: ·)
  | some name, c :: rest =>
    if c == ';' then (entity? name.reverse).bind fun e => (unescape none rest).map (e :: ·)
    else if c == '&' then none
    else unescape (some (c :: name)) rest

def attributeOf? (key value : Octets) : Option Attribute :=
  (ofOctets? value).bind fun text =>
  (unescape none text.toList).map fun cs => ⟨lossy (localPart key), String.ofList cs⟩

/-- The attributes that the octets after the name of a tag declare. -/
def attributes? (bytes : Octets) : Option (List Attribute) :=
  (scanAttributes .between bytes).bind fun pairs =>
    if (pairs.map (·.1)).Nodup then
      (pairs.filter fun p => !isDeclaration p.1).mapM fun p => attributeOf? p.1 p.2
    else none

end DataLayer.Xml
