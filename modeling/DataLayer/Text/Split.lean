/-!
Splitting a character sequence at some of its characters. Whether a character cuts depends on a
state that the characters before it have set, such as an open bracket or quote.

Main statements: every split has a first part, and a cut at the first occurrence of a character
gives what stands around it.
-/

namespace DataLayer.Text

/-- Puts a character in front of the first part. -/
def consFirst (c : Char) : List (List Char) → List (List Char)
  | [] => [[c]]
  | p :: ps => (c :: p) :: ps

/-- The parts between the characters that `cut` selects. -/
def splitScan {σ : Type} (cut : σ → Char → Bool) (step : σ → Char → σ) :
    σ → List Char → List (List Char)
  | _, [] => [[]]
  | s, c :: cs =>
    if cut s c then [] :: splitScan cut step (step s c) cs
    else consFirst c (splitScan cut step (step s c) cs)

theorem consFirst_ne_nil (c : Char) (ps : List (List Char)) : consFirst c ps ≠ [] := by
  cases ps <;> simp [consFirst]

theorem splitScan_ne_nil {σ : Type} (cut : σ → Char → Bool) (step : σ → Char → σ) (s : σ)
    (cs : List Char) : splitScan cut step s cs ≠ [] := by
  cases cs with
  | nil => simp [splitScan]
  | cons c cs =>
    simp only [splitScan]
    split
    · simp
    · exact consFirst_ne_nil _ _

/-- The parts between all occurrences of one character. -/
def splitAt (separator : Char) (cs : List Char) : List (List Char) :=
  splitScan (fun _ c => c == separator) (fun _ _ => ()) () cs

/-- The quote that is open after a character, of the two quote characters. -/
def openQuote : Option Char → Char → Option Char
  | none, c => if c == '"' || c == '\'' then some c else none
  | some q, c => if q == c then none else some q

/-- The parts between the occurrences of one character that stand outside quotes. -/
def splitOutsideQuotes (separator : Char) (cs : List Char) : List (List Char) :=
  splitScan (fun q c => q.isNone && c == separator) openQuote none cs

/-- What stands before the first occurrence of a character, and what stands after it. -/
def cutAtFirst (separator : Char) : List Char → Option (List Char × List Char)
  | [] => none
  | c :: cs =>
    if c == separator then some ([], cs)
    else (cutAtFirst separator cs).map fun r => (c :: r.1, r.2)

theorem cutAtFirst_eq_some {separator : Char} {cs before after : List Char}
    (h : cutAtFirst separator cs = some (before, after)) :
    cs = before ++ separator :: after ∧ separator ∉ before := by
  induction cs generalizing before with
  | nil => simp [cutAtFirst] at h
  | cons c cs ih =>
    simp only [cutAtFirst] at h
    split at h
    · rename_i hc
      simp only [Option.some.injEq, Prod.mk.injEq] at h
      obtain ⟨rfl, rfl⟩ := h
      simp_all
    · rename_i hc
      simp only [Option.map_eq_some_iff, Prod.mk.injEq, Prod.exists] at h
      obtain ⟨b, a, hr, rfl, rfl⟩ := h
      obtain ⟨rfl, hb⟩ := ih hr
      simp only [beq_iff_eq] at hc
      simp [hb, Ne.symm hc]

/-- The text between a pair of equal quotes. -/
def between? (quote : Char) : List Char → Option (List Char)
  | [] => none
  | c :: cs => if c == quote && cs.getLast? == some quote then some cs.dropLast else none

end DataLayer.Text
