import DataLayer.Config.Document

/-!
Reading configuration documents.

The notation is TOML 1.1, as far as settings need it: texts in four quotings, `true` and `false`,
lists, inline tables, and `[[table]]` headers. No setting is a number, a date, or a nested table,
so these are refused here, with the dotted names and `[table]` headers that make nested tables.
-/

namespace DataLayer.Config

/-- Characters that texts and comments may hold: all but the control characters other than tab. -/
def isTextChar (c : Char) : Bool := c == '\t' || (0x20 ≤ c.toNat && c.toNat != 0x7f)

def isSpace (c : Char) : Bool := c == ' ' || c == '\t'

def isBareChar (c : Char) : Bool := c.isAlphanum || c == '_' || c == '-'

def hexDigit? (c : Char) : Option Nat :=
  if c.isDigit then some (c.toNat - '0'.toNat)
  else if 'a' ≤ c && c ≤ 'f' then some (c.toNat - 'a'.toNat + 10)
  else if 'A' ≤ c && c ≤ 'F' then some (c.toNat - 'A'.toNat + 10)
  else none

/-- The character with a hexadecimal code point. -/
def ofHex? (digits : List Char) : Option Char :=
  (digits.foldlM (fun n c => (hexDigit? c).map (n * 16 + ·)) 0).bind fun n =>
    if h : n.isValidChar then some (Char.ofNatAux n h) else none

def escaped? : Char → Option Char
  | 'b' => some '\x08'
  | 't' => some '\t'
  | 'n' => some '\n'
  | 'f' => some '\x0c'
  | 'r' => some '\r'
  | 'e' => some '\x1b'
  | '"' => some '"'
  | '\\' => some '\\'
  | _ => none

/-- A text and what follows it. -/
abbrev Read (α : Type) := Option (α × List Char)

def Read.push (c : Option Char) (r : Read (List Char)) : Read (List Char) :=
  c.bind fun c => r.map fun (cs, rest) => (c :: cs, rest)

/-- The rest of a text in double quotes. -/
def readBasic : List Char → Read (List Char)
  | [] => none
  | '"' :: rest => some ([], rest)
  | '\\' :: 'x' :: a :: b :: rest => Read.push (ofHex? [a, b]) (readBasic rest)
  | '\\' :: 'u' :: a :: b :: c :: d :: rest => Read.push (ofHex? [a, b, c, d]) (readBasic rest)
  | '\\' :: 'U' :: a :: b :: c :: d :: e :: f :: g :: h :: rest =>
    Read.push (ofHex? [a, b, c, d, e, f, g, h]) (readBasic rest)
  | '\\' :: c :: rest => Read.push (escaped? c) (readBasic rest)
  | c :: rest => if isTextChar c then Read.push (some c) (readBasic rest) else none

/-- The rest of a text in single quotes. -/
def readLiteral : List Char → Read (List Char)
  | [] => none
  | c :: rest =>
    if c == '\'' then some ([], rest)
    else if isTextChar c then Read.push (some c) (readLiteral rest)
    else none

/-- What follows three closing quotes: up to two more belong to the text. -/
def closingQuotes (q : Char) : List Char → List Char × List Char
  | a :: b :: rest =>
    if a == q && b == q then ([q, q], rest)
    else if a == q then ([q], b :: rest)
    else ([], a :: b :: rest)
  | [a] => if a == q then ([q], []) else ([], [a])
  | [] => ([], [])

/-- How the reader of a text of several lines stands to a backslash at a line end. -/
inductive Folding where
  | none
  /-- Only white space may come before the line end. -/
  | toLineEnd
  /-- White space and line ends are dropped. -/
  | dropping
  deriving DecidableEq

/-- Whether a carriage return is followed by a line feed. -/
def returnsLine (c : Char) (rest : List Char) : Bool := c == '\r' && rest.head? == some '\n'

/-- The rest of a text between three double quotes. -/
def readMultiline (mode : Folding) : List Char → Read (List Char)
  | [] => none
  | c :: rest =>
    if mode = .toLineEnd then
      if isSpace c then readMultiline .toLineEnd rest
      else if c == '\n' then readMultiline .dropping rest
      else if returnsLine c rest then readMultiline .toLineEnd rest
      else none
    else if mode = .dropping && (isSpace c || c == '\n' || returnsLine c rest) then
      readMultiline .dropping rest
    else match c, rest with
      | '"', '"' :: '"' :: rest => some (closingQuotes '"' rest)
      | '\\', 'x' :: a :: b :: rest => Read.push (ofHex? [a, b]) (readMultiline .none rest)
      | '\\', 'u' :: a :: b :: c :: d :: rest =>
        Read.push (ofHex? [a, b, c, d]) (readMultiline .none rest)
      | '\\', 'U' :: a :: b :: c :: d :: e :: f :: g :: h :: rest =>
        Read.push (ofHex? [a, b, c, d, e, f, g, h]) (readMultiline .none rest)
      | '\\', c :: rest =>
        if isSpace c then readMultiline .toLineEnd rest
        else if c == '\n' then readMultiline .dropping rest
        else if returnsLine c rest then readMultiline .toLineEnd rest
        else Read.push (escaped? c) (readMultiline .none rest)
      | c, rest =>
        if isTextChar c || c == '\n' || returnsLine c rest then
          Read.push (some c) (readMultiline .none rest)
        else none

/-- The rest of a text between three single quotes. -/
def readMultilineLiteral : List Char → Read (List Char)
  | [] => none
  | '\'' :: '\'' :: '\'' :: rest => some (closingQuotes '\'' rest)
  | c :: rest =>
    if isTextChar c || c == '\n' || returnsLine c rest then
      Read.push (some c) (readMultilineLiteral rest)
    else none

/-- Drops a line end at the start. -/
def dropLineEnd : List Char → List Char
  | '\n' :: rest => rest
  | '\r' :: '\n' :: rest => rest
  | cs => cs

def skipSpaces (cs : List Char) : List Char := cs.dropWhile isSpace

/-- Drops white space, line ends and comments between the items of a list. -/
def skipFill (inComment : Bool) : List Char → Option (List Char)
  | [] => some []
  | c :: rest =>
    if c == '\n' || returnsLine c rest then skipFill false rest
    else if inComment then (if isTextChar c then skipFill true rest else none)
    else if isSpace c then skipFill false rest
    else if c == '#' then skipFill true rest
    else some (c :: rest)

/-- A name, bare or in quotes. -/
def readName : List Char → Read String
  | '"' :: rest => (readBasic rest).map fun (cs, r) => (String.ofList cs, r)
  | '\'' :: rest => (readLiteral rest).map fun (cs, r) => (String.ofList cs, r)
  | cs =>
    let name := cs.takeWhile isBareChar
    if name.isEmpty then none else some (String.ofList name, cs.dropWhile isBareChar)

/-- A name and the `=` after it. -/
def readSettingName (cs : List Char) : Read String :=
  (readName cs).bind fun (name, rest) =>
    match skipSpaces rest with
    | '=' :: rest => some (name, skipSpaces rest)
    | _ => none

/-- A text in one of the four quotings. -/
def readText : List Char → Read (List Char)
  | '"' :: '"' :: '"' :: rest => readMultiline .none (dropLineEnd rest)
  | '"' :: rest => readBasic rest
  | '\'' :: '\'' :: '\'' :: rest => readMultilineLiteral (dropLineEnd rest)
  | '\'' :: rest => readLiteral rest
  | _ => none

/-- What is made of a text that is a value, from what the document holds from its quote on and from
what the text says. -/
abbrev TextView := List Char → List Char → String

/-- Takes a text for what it says. -/
def whatIsSaid : TextView := fun _ said => String.ofList said

mutual

/-- A value, nested at most `depth` deep. -/
def readValue (view : TextView) : Nat → List Char → Read Value
  | 0, _ => none
  | depth + 1, cs =>
    match cs with
    | '[' :: rest => (readItems view depth rest).map fun (items, r) => (.list items, r)
    | '{' :: rest => (readFields view depth rest).bind fun (fields, r) =>
        (Fields.ofList? fields).map fun fs => (.table fs, r)
    | cs =>
      let word := String.ofList (cs.takeWhile isBareChar)
      if word = "true" then some (.flag true, cs.drop 4)
      else if word = "false" then some (.flag false, cs.drop 5)
      else (readText cs).map fun (said, rest) => (.text (view cs said), rest)

/-- The rest of a list. -/
def readItems (view : TextView) : Nat → List Char → Read (List Value)
  | 0, _ => none
  | depth + 1, cs =>
    (skipFill false cs).bind fun cs =>
    match cs with
    | ']' :: rest => some ([], rest)
    | cs =>
      (readValue view depth cs).bind fun (v, rest) =>
      (skipFill false rest).bind fun rest =>
      match rest with
      | ',' :: rest => (readItems view depth rest).map fun (vs, r) => (v :: vs, r)
      | ']' :: rest => some ([v], rest)
      | _ => none

/-- The rest of an inline table. -/
def readFields (view : TextView) : Nat → List Char → Read (List (String × Value))
  | 0, _ => none
  | depth + 1, cs =>
    (skipFill false cs).bind fun cs =>
    match cs with
    | '}' :: rest => some ([], rest)
    | cs =>
      (readSettingName cs).bind fun (name, rest) =>
      (readValue view depth rest).bind fun (v, rest) =>
      (skipFill false rest).bind fun rest =>
      match rest with
      | ',' :: rest => (readFields view depth rest).map fun (fs, r) => ((name, v) :: fs, r)
      | '}' :: rest => some ([(name, v)], rest)
      | _ => none

end

/-- The rest of a `[[table]]` header. -/
def readHeader (cs : List Char) : Read String :=
  (readName (skipSpaces cs)).bind fun (name, rest) =>
    match skipSpaces rest with
    | ']' :: ']' :: rest => some (name, rest)
    | _ => none

def readStatement (view : TextView) (cs : List Char) : Read Statement :=
  match cs with
  | '[' :: '[' :: rest => (readHeader rest).map fun (table, r) => (.entry table, r)
  | cs =>
    (readSettingName cs).bind fun (name, rest) =>
      (readValue view cs.length rest).map fun (v, r) => (.setting name v, r)

/-- Whether only a comment stands before the end of the line, and what follows the line. -/
def readLineEnd (inComment : Bool) : List Char → Option (List Char)
  | [] => some []
  | c :: rest =>
    if c == '\n' then some rest
    else if returnsLine c rest then some (rest.drop 1)
    else if inComment then (if isTextChar c then readLineEnd true rest else none)
    else if isSpace c then readLineEnd false rest
    else if c == '#' then readLineEnd true rest
    else none

/-- At most `count` statements, each on a line of its own. -/
def readStatements (view : TextView) : Nat → List Char → Option (List Statement)
  | 0, _ => none
  | count + 1, cs =>
    match skipFill false cs with
    | none => none
    | some [] => some []
    | some cs =>
      (readStatement view cs).bind fun (s, rest) =>
      (readLineEnd false rest).bind fun rest =>
      (readStatements view count rest).map (s :: ·)

/-- The text of a document. A byte order mark at its start is passed over. -/
def dropByteOrderMark : List Char → List Char
  | '\uFEFF' :: cs => cs
  | cs => cs

/-- The fields of a document. -/
def fieldsAs? (view : TextView) (source : String) : Option Fields :=
  let cs := dropByteOrderMark source.toList
  (readStatements view (cs.length + 1) cs).bind fieldsOfStatements?

def fieldsOfText? (source : String) : Option Fields := fieldsAs? whatIsSaid source

end DataLayer.Config
