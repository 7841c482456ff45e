import DataLayer.Proofs.Template.TagGrammar
import DataLayer.Proofs.Template.TagOffsets
import DataLayer.Proofs.Template.Tokens
import DataLayer.Proofs.Text.Offsets

/-!
Sources of templates. A tree is printed with its arguments between double quotes, and its tags have
the offsets at which they are printed for their numbers. Trees in normal form are those whose
sources do not run together.
-/

namespace DataLayer.Template

open Text

/-! Sources of trees. -/

/-- An argument between double quotes. -/
def quoted (argument : String) : List Char := '"' :: (argument.toList ++ ['"'])

def Pipe.chars (p : Pipe) : List Char :=
  p.keyword.toList ++
    match p.argument with
    | none => []
    | some argument => '(' :: (quoted argument ++ [')'])

def Tag.segments (t : Tag) : List (List Char) :=
  t.path.toList.map String.toList ++ t.pipes.map Pipe.chars

/-- The content of a tag. -/
def Tag.chars (t : Tag) : List Char := ['|'].intercalate t.segments

def openerChars (path : String) (inverted : Bool) : List Char :=
  (if inverted then '^' else '#') :: path.toList

def closerChars (path : String) : List Char := '/' :: path.toList

mutual

def Node.chars : Node → List Char
  | .text s => s.toList
  | .tag t => braced t.chars
  | .block path inverted children =>
    braced (openerChars path inverted) ++ (print children ++ braced (closerChars path))

/-- The source of a tree. -/
def print : List Node → List Char
  | [] => []
  | node :: rest => node.chars ++ print rest

end

/-! Normal forms. -/

/-- A keyword call whose argument ends neither its quote nor its tag. -/
structure Pipe.IsNormal (p : Pipe) : Prop where
  keyword : IsKeyword p.keyword.toList
  argument : ∀ argument ∈ p.argument, '"' ∉ argument.toList ∧ hasPair '}' argument.toList = false

/-- A path that a tag starts with. -/
structure IsTagPath (path : List Char) : Prop where
  nonempty : path ≠ []
  trimmed : trimChars path = path
  plain : ∀ c ∈ path, c ≠ '|' ∧ c ≠ '(' ∧ ¬IsQuote c ∧ c ≠ '}'
  mark : ∀ c ∈ path.head?, c ∉ ['!', '#', '^', '/']

/-- A tag without a path starts with a keyword that has an argument. -/
structure Tag.IsNormal (t : Tag) : Prop where
  path : ∀ path ∈ t.path, IsTagPath path.toList
  call : t.path = none → ∃ p ∈ t.pipes.head?, p.argument.isSome = true
  pipes : ∀ p ∈ t.pipes, p.IsNormal

/-- A path that stands behind the mark of a section. -/
structure IsSectionPath (path : List Char) : Prop where
  nonempty : path ≠ []
  trimmed : trimChars path = path
  plain : '}' ∉ path

/-- Trees in normal form. Texts are not empty and no two are neighbours. Only a text behind which
nothing is printed may end in an opening brace; `last` tells that nothing is printed behind the
tree. -/
inductive IsNormal : Bool → List Node → Prop where
  | nil {last : Bool} : IsNormal last []
  | text {last : Bool} {s : String} {rest : List Node} : s.toList ≠ [] →
      hasPair '{' s.toList = false →
      (¬(last = true ∧ rest = []) → s.toList.getLast? ≠ some '{') →
      (∀ s', rest.head? ≠ some (.text s')) → IsNormal last rest → IsNormal last (.text s :: rest)
  | tag {last : Bool} {t : Tag} {rest : List Node} : t.IsNormal → IsNormal last rest →
      IsNormal last (.tag t :: rest)
  | block {last : Bool} {path : String} {inverted : Bool} {children rest : List Node} :
      IsSectionPath path.toList → IsNormal false children → IsNormal last rest →
      IsNormal last (.block path inverted children :: rest)

/-! Numbers of tags. -/

mutual

def Node.place (offset : Nat) : Node → Node
  | .text s => .text s
  | .tag t => .tag { t with id := offset }
  | .block path inverted children =>
    .block path inverted (place (offset + octetCount (braced (openerChars path inverted))) children)

/-- A tree whose tags have the octets at which they are printed for their numbers, where the source
of the tree starts at an octet offset. -/
def place (offset : Nat) : List Node → List Node
  | [] => []
  | node :: rest => node.place offset :: place (offset + octetCount node.chars) rest

end

mutual

def Node.unnumbered : Node → Node
  | .text s => .text s
  | .tag t => .tag { t with id := 0 }
  | .block path inverted children => .block path inverted (unnumbered children)

/-- A tree without the numbers of its tags. -/
def unnumbered : List Node → List Node
  | [] => []
  | node :: rest => node.unnumbered :: unnumbered rest

end

mutual

def Node.tags : Node → List Tag
  | .text _ => []
  | .tag t => [t]
  | .block _ _ children => tags children

/-- All tags of a tree, those in sections included. -/
def tags : List Node → List Tag
  | [] => []
  | node :: rest => node.tags ++ tags rest

end

theorem unnumbered_place (offset : Nat) (nodes : List Node) :
    unnumbered (place offset nodes) = unnumbered nodes := by
  induction nodes using forest_induction generalizing offset with
  | nil => rfl
  | text s rest ih => simp [place, unnumbered, Node.place, Node.unnumbered, ih]
  | tag t rest ih => simp [place, unnumbered, Node.place, Node.unnumbered, ih]
  | block path inverted children rest ihchildren ihrest =>
    simp [place, unnumbered, Node.place, Node.unnumbered, ihchildren, ihrest]

/-- A tag stands in a source that starts at an octet offset, at the octet that is its number. -/
def Tag.StandsIn (t : Tag) (offset : Nat) (cs : List Char) : Prop :=
  ∃ before after, cs = before ++ (braced t.chars ++ after) ∧ t.id = offset + octetCount before

namespace Tag.StandsIn

variable {t : Tag} {offset : Nat} {cs : List Char}

theorem append (h : t.StandsIn offset cs) (cs' : List Char) : t.StandsIn offset (cs ++ cs') := by
  obtain ⟨before, after, rfl, hid⟩ := h
  exact ⟨before, after ++ cs', by simp only [List.append_assoc], hid⟩

theorem behind {cs' : List Char} (h : t.StandsIn (offset + octetCount cs') cs) :
    t.StandsIn offset (cs' ++ cs) := by
  obtain ⟨before, after, rfl, hid⟩ := h
  exact ⟨cs' ++ before, after, by rw [List.append_assoc],
    by rw [octetCount_append, hid, Nat.add_assoc]⟩

end Tag.StandsIn

theorem standsIn_of_mem_tags {offset : Nat} {nodes : List Node} {t : Tag}
    (ht : t ∈ tags (place offset nodes)) : t.StandsIn offset (print nodes) := by
  induction nodes using forest_induction generalizing offset with
  | nil => cases ht
  | text s rest ih => exact (ih ht).behind
  | tag t' rest ih =>
    rcases List.mem_cons.mp ht with rfl | ht
    · exact ⟨[], print rest, rfl, rfl⟩
    · exact (ih ht).behind
  | block path inverted children rest ihchildren ihrest =>
    rcases List.mem_append.mp ht with ht | ht
    · exact (((ihchildren ht).append _).behind).append _
    · exact (ihrest ht).behind

end DataLayer.Template
