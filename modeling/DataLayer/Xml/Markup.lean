import DataLayer.Text.Utf8

/-!
Documents cut into tags. Texts, comments, character data, processing instructions and the document
type are passed over; where one of these or a tag never ends, its first octet is reported.
-/

namespace DataLayer.Xml

abbrev Octets := List UInt8

/-- The octet of an ASCII character. -/
def octet (c : Char) : UInt8 := c.toUInt8

def octetsOf (s : String) : Octets := s.toList.map octet

/-- What a document holds besides what is passed over. -/
inductive Markup where
  /-- A start tag or an empty element, as written between `<` and `>`. -/
  | opening (content : Octets)
  /-- An end tag, as written between `</` and `>`, and where it starts. -/
  | closing (content : Octets) (position : Nat)
  | fault (position : Nat)
  deriving DecidableEq, Repr

/-- Inside which construct an octet stands. Each but `text` starts at some octet. -/
inductive Mode where
  | text
  /-- After `&`. -/
  | reference (start : Nat)
  /-- After `<`. -/
  | angle (start : Nat)
  /-- In a tag; its octets so far are in reverse order. -/
  | tag (start : Nat) (closing : Bool) (quote : Option UInt8) (content : Octets)
  /-- After `<?`; `before` is the last octet, if there is one already. -/
  | instruction (start : Nat) (before : Option UInt8)
  /-- After `<!`. -/
  | bang (start : Nat)
  /-- After `<!-`. -/
  | dash (start : Nat)
  /-- In a comment, after two octets. -/
  | comment (start : Nat) (before : UInt8 × UInt8)
  /-- After `<![`, as long as more of `CDATA[` is due. -/
  | dataOpening (start : Nat) (due : Octets)
  | data (start : Nat) (before : UInt8 × UInt8)
  /-- After `<!D`, as long as more of `OCTYPE` is due. -/
  | typeOpening (start : Nat) (due : Octets)
  /-- In a document type within `depth` more angle brackets; `named` says that it has a name. -/
  | type (start : Nat) (depth : Nat) (named : Bool)
  deriving DecidableEq, Repr

def isSpace (b : UInt8) : Bool :=
  b == octet ' ' || b == octet '\t' || b == octet '\r' || b == octet '\n'

def isQuote (b : UInt8) : Bool := b == octet '"' || b == octet '\''

/-- What a `<` starts, from the octet after it. -/
def Mode.afterAngle (start : Nat) (b : UInt8) : Mode :=
  if b == octet '!' then .bang start
  else if b == octet '?' then .instruction start none
  else if b == octet '/' then .tag start true none []
  else .tag start false (if isQuote b then some b else none) [b]

/-- What a `<!` starts, from the octet after it. -/
def Mode.afterBang? (start : Nat) (b : UInt8) : Option Mode :=
  if b == octet '-' then some (.dash start)
  else if b == octet '[' then some (.dataOpening start (octetsOf "CDATA["))
  else if b == octet 'D' || b == octet 'd' then some (.typeOpening start (octetsOf "OCTYPE"))
  else none

def lowerOctet (b : UInt8) : UInt8 := if octet 'A' ≤ b && b ≤ octet 'Z' then b + 32 else b

def closedTag (closing : Bool) (start : Nat) (content : Octets) : Markup :=
  if closing then .closing content.reverse start else .opening content.reverse

/-- The next mode after an octet at a position, and what ends there; no mode after a fault. -/
def Mode.step (position : Nat) (b : UInt8) : Mode → Option Mode × Option Markup
  | .text =>
    (some (if b == octet '<' then .angle position
      else if b == octet '&' then .reference position else .text), none)
  | .reference start =>
    if b == octet ';' then (some .text, none)
    else if b == octet '<' || b == octet '&' then (none, some (.fault start))
    else (some (.reference start), none)
  | .angle start =>
    if b == octet '>' then (some .text, some (.opening [])) else (some (afterAngle start b), none)
  | .tag start closing none content =>
    if b == octet '>' then (some .text, some (closedTag closing start content))
    else (some (.tag start closing (if isQuote b then some b else none) (b :: content)), none)
  | .tag start closing (some q) content =>
    (some (.tag start closing (if b == q then none else some q) (b :: content)), none)
  | .instruction start none =>
    if b == octet '>' then (none, some (.fault start))
    else (some (.instruction start (some b)), none)
  | .instruction start (some before) =>
    if b == octet '>' && before == octet '?' then (some .text, none)
    else (some (.instruction start (some b)), none)
  | .bang start =>
    match afterBang? start b with
    | some mode => (some mode, none)
    | none => (none, some (.fault start))
  | .dash start =>
    if b == octet '-' then (some (.comment start (0, 0)), none) else (none, some (.fault start))
  | .comment start (a, a') =>
    (some (if b == octet '>' && a == octet '-' && a' == octet '-' then .text
      else .comment start (a', b)), none)
  | .dataOpening start due =>
    match due with
    | [] => (none, some (.fault start))
    | d :: due =>
      if b != d then (none, some (.fault start))
      else (some (if due.isEmpty then .data start (0, 0) else .dataOpening start due), none)
  | .data start (a, a') =>
    (some (if b == octet '>' && a == octet ']' && a' == octet ']' then .text
      else .data start (a', b)), none)
  | .typeOpening start due =>
    match due with
    | [] => (none, some (.fault start))
    | d :: due =>
      if lowerOctet b != lowerOctet d then (none, some (.fault start))
      else (some (if due.isEmpty then .type start 0 false else .typeOpening start due), none)
  | .type start depth named =>
    if b == octet '<' then (some (.type start (depth + 1) true), none)
    else if b == octet '>' then
      match depth with
      | depth + 1 => (some (.type start depth true), none)
      | 0 => if named then (some .text, none) else (none, some (.fault position))
    else (some (.type start depth (named || !isSpace b)), none)

/-- Where the construct starts that an octet stands in. -/
def Mode.start? : Mode → Option Nat
  | .text => none
  | .reference start | .angle start | .tag start _ _ _ | .instruction start _ | .bang start
  | .dash start | .comment start _ | .dataOpening start _ | .data start _ | .typeOpening start _
  | .type start _ _ => some start

/-- The tags of octets that follow in a mode, from a position on. A fault is the last of them. -/
def scan (mode : Mode) (position : Nat) : Octets → List Markup
  | [] => mode.start?.toList.map .fault
  | b :: rest =>
    match mode.step position b with
    | (some next, none) => scan next (position + 1) rest
    | (some next, some found) => found :: scan next (position + 1) rest
    | (none, found) => found.toList

/-- Drops a byte order mark at the start. -/
def dropMark : Octets → Octets
  | 0xEF :: 0xBB :: 0xBF :: rest => rest
  | bytes => bytes

def markups (bytes : Octets) : List Markup := scan .text 0 (dropMark bytes)

end DataLayer.Xml
