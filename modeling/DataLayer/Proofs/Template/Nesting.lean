import DataLayer.Proofs.Template.TagGrammar
import DataLayer.Proofs.Template.Tokens
import Mathlib.Data.List.Induction

/-!
Which templates are accepted. The openers and closers of a template are brackets, and a template is
accepted if all its tags are sound and its brackets are nested. Otherwise the error is that of the
first tag that is wrong, or of the section that is left open.
-/

namespace DataLayer.Template

open Text

/-! Brackets. -/

inductive Bracket where
  | opener (name : String)
  | closer (name : String)
  deriving DecidableEq, Repr

/-- The bracket that a tag is, going by the mark in front of its trimmed content. -/
def bracketOf? : List Char → Option Bracket
  | '#' :: cs | '^' :: cs => some (.opener (String.ofList (trimChars cs)))
  | '/' :: cs => some (.closer (String.ofList (trimChars cs)))
  | _ => none

def Token.bracket? : Token → Option Bracket
  | .text _ | .unclosed _ => none
  | .tag content _ => bracketOf? (trimChars content)

def brackets (ts : List Token) : List Bracket := ts.filterMap Token.bracket?

theorem brackets_cons (t : Token) (ts : List Token) :
    brackets (t :: ts) = t.bracket?.toList ++ brackets ts := by
  unfold brackets
  cases h : t.bracket? <;> simp [h]

/-- Sections one behind another, each closed under the name that opened it. -/
inductive Nested : List Bracket → Prop where
  | nil : Nested []
  | block {name : String} {inner rest : List Bracket} : Nested inner → Nested rest →
      Nested (.opener name :: (inner ++ .closer name :: rest))

/-- Brackets that are nested but for some openers, with the names of these from the innermost on. -/
inductive Opens : List Bracket → List String → Prop where
  | nested {bs : List Bracket} : Nested bs → Opens bs []
  | opener {before inner : List Bracket} {name : String} {outer : List String} :
      Opens before outer → Nested inner → Opens (before ++ .opener name :: inner) (name :: outer)

theorem Nested.append {bs bs' : List Bracket} (h : Nested bs) (h' : Nested bs') :
    Nested (bs ++ bs') := by
  induction h with
  | nil => exact h'
  | block hinner _ _ ih =>
    rw [List.cons_append, List.append_assoc]
    exact .block hinner ih

theorem Opens.append_nested {bs bs' : List Bracket} {opened : List String} (h : Opens bs opened)
    (h' : Nested bs') : Opens (bs ++ bs') opened := by
  cases h with
  | nested h => exact .nested (h.append h')
  | opener hbefore hinner =>
    rw [List.append_assoc, List.cons_append]
    exact .opener hbefore (hinner.append h')

/-! A stack of open sections. -/

/-- What is open behind a bracket. A closer must name the innermost section. -/
def Bracket.step? : Bracket → List String → Option (List String)
  | .opener name, opened => some (name :: opened)
  | .closer _, [] => none
  | .closer found, name :: outer => if name = found then some outer else none

def openAfter? (opened : List String) : List Bracket → Option (List String)
  | [] => some opened
  | b :: bs => (b.step? opened).bind fun opened' => openAfter? opened' bs

theorem openAfter?_append (opened : List String) (bs bs' : List Bracket) :
    openAfter? opened (bs ++ bs') =
      (openAfter? opened bs).bind fun opened' => openAfter? opened' bs' := by
  induction bs generalizing opened with
  | nil => rfl
  | cons b bs ih =>
    rw [List.cons_append, openAfter?, openAfter?, Option.bind_assoc]
    exact congrArg _ (funext ih)

theorem Nested.openAfter? {bs : List Bracket} (h : Nested bs) (opened : List String) :
    openAfter? opened bs = some opened := by
  induction h generalizing opened with
  | nil => rfl
  | block _ _ ihinner ihrest =>
    simp [Template.openAfter?, Bracket.step?, openAfter?_append, ihinner, ihrest]

theorem Opens.openAfter? {bs : List Bracket} {opened : List String} (h : Opens bs opened) :
    openAfter? [] bs = some opened := by
  induction h with
  | nested h => exact h.openAfter? []
  | opener _ hinner ih =>
    simp [Template.openAfter?, Bracket.step?, openAfter?_append, ih, hinner.openAfter?]

/-- A closer takes away the innermost opener with what is nested behind it. -/
theorem Opens.close {bs : List Bracket} {name : String} {outer : List String}
    (h : Opens bs (name :: outer)) : Opens (bs ++ [.closer name]) outer := by
  cases h with
  | @opener before inner _ _ hbefore hinner =>
    rw [List.append_assoc, List.cons_append]
    exact hbefore.append_nested (.block hinner .nil)

/-- The stack holds the sections that are open. -/
theorem opens_iff {bs : List Bracket} {opened : List String} :
    Opens bs opened ↔ openAfter? [] bs = some opened := by
  constructor
  · exact Opens.openAfter?
  · intro h
    -- The last bracket acts on what the others leave open, so the induction is from the right.
    induction bs using List.reverseRecOn generalizing opened with
    | nil =>
      obtain rfl := Option.some.inj h
      exact .nested .nil
    | append_singleton bs b ih =>
      rw [openAfter?_append] at h
      obtain ⟨before, hbefore, hstep⟩ := Option.bind_eq_some_iff.mp h
      have hopens := ih hbefore
      obtain ⟨after, hafter, hlast⟩ := Option.bind_eq_some_iff.mp hstep
      obtain rfl : after = opened := Option.some.inj hlast
      cases b with
      | opener name =>
        obtain rfl := Option.some.inj hafter
        exact .opener hopens .nil
      | closer found =>
        cases before with
        | nil => cases hafter
        | cons name outer =>
          rw [Bracket.step?] at hafter
          split at hafter
          · next heq =>
            subst heq
            obtain rfl := Option.some.inj hafter
            exact hopens.close
          · cases hafter

theorem nested_iff {bs : List Bracket} : Nested bs ↔ openAfter? [] bs = some [] := by
  rw [← opens_iff]
  constructor
  · exact .nested
  · intro h
    cases h with
    | nested h => exact h

/-! Tokens. -/

/-- A text, or a tag that has an end and that the grammar of tags gives a meaning. -/
def Token.Sound : Token → Prop
  | .text _ => True
  | .unclosed _ => False
  | .tag content _ => ∃ mark, TagText (trimChars content) mark

/-- What is wrong with a token where some sections are open. -/
inductive Offends (opened : List String) : Token → TemplateError → Prop where
  | unclosed {offset : Nat} : Offends opened (.unclosed offset) (.unclosedTag offset)
  | invalid {content : List Char} {offset : Nat} : (∀ mark, ¬TagText (trimChars content) mark) →
      Offends opened (.tag content offset) (.invalidTag (String.ofList (trimChars content)))
  | mismatched {content : List Char} {offset : Nat} {found : String} :
      bracketOf? (trimChars content) = some (.closer found) → opened.head? ≠ some found →
      Offends opened (.tag content offset) (.mismatchedSection (opened.headD "") found)

def Mark.bracket? : Mark → Option Bracket
  | .comment | .value _ _ => none
  | .opener path _ => some (.opener path)
  | .closer path => some (.closer path)

/-- Openers and closers are known by their first character. -/
theorem TagText.bracketOf? {content : List Char} {mark : Mark} (h : TagText content mark) :
    bracketOf? content = mark.bracket? := by
  cases h with
  | comment | opener | inverted | closer => rfl
  | @value c cs _ _ hmark _ =>
    simp only [List.mem_cons, List.not_mem_nil, or_false, not_or] at hmark
    obtain ⟨-, hopener, hinverted, hcloser⟩ := hmark
    unfold Template.bracketOf?
    split
    · next heq => exact absurd (List.cons.inj heq).1 hopener
    · next heq => exact absurd (List.cons.inj heq).1 hinverted
    · next heq => exact absurd (List.cons.inj heq).1 hcloser
    · rfl

theorem exists_closer {content : List Char} {found : String}
    (h : bracketOf? content = some (.closer found)) : TagText content (.closer found) := by
  unfold bracketOf? at h
  split at h
  · cases h
  · cases h
  · cases h
    exact .closer
  · cases h

/-! The reader. -/

/-- The reader passes over a sound token whose bracket, if it is one, fits the open sections. -/
theorem exists_build_cons {t : Token} (ht : t.Sound) {stack : List OpenSection}
    {opened : List String}
    (hopened : openAfter? (stack.map (·.path)) t.bracket?.toList = some opened)
    (nodes : List Node) (rest : List Token) :
    ∃ stack' nodes', stack'.map (·.path) = opened ∧
      build stack nodes (t :: rest) = build stack' nodes' rest := by
  cases t with
  | text cs => exact ⟨stack, pushText cs nodes, Option.some.inj hopened, by rw [build]⟩
  | unclosed offset => cases ht
  | tag content offset =>
    obtain ⟨mark, hmark⟩ := ht
    have hread := tagText_iff.mp hmark
    rw [Token.bracket?, hmark.bracketOf?] at hopened
    cases mark with
    | comment => exact ⟨stack, nodes, Option.some.inj hopened, by simp [build, hread]⟩
    | value path pipes =>
      exact ⟨stack, .tag ⟨offset, path, pipes⟩ :: nodes, Option.some.inj hopened,
        by simp [build, hread]⟩
    | opener path inverted =>
      exact ⟨⟨path, inverted, nodes⟩ :: stack, [], Option.some.inj hopened, by simp [build, hread]⟩
    | closer found =>
      cases stack with
      | nil => cases hopened
      | cons s outer =>
        obtain ⟨opened', hstep, hlast⟩ := Option.bind_eq_some_iff.mp hopened
        obtain rfl := Option.some.inj hlast
        rw [List.map_cons, Bracket.step?] at hstep
        split at hstep
        · next heq =>
          exact ⟨outer, .block s.path s.inverted nodes.reverse :: s.before, Option.some.inj hstep,
            by simp [build, hread, heq]⟩
        · cases hstep

theorem exists_build_append {before : List Token} (hbefore : ∀ t ∈ before, t.Sound)
    (stack : List OpenSection) {opened : List String}
    (hopened : openAfter? (stack.map (·.path)) (brackets before) = some opened)
    (nodes : List Node) (rest : List Token) :
    ∃ stack' nodes', stack'.map (·.path) = opened ∧
      build stack nodes (before ++ rest) = build stack' nodes' rest := by
  induction before generalizing stack nodes with
  | nil => exact ⟨stack, nodes, Option.some.inj hopened, rfl⟩
  | cons t before ih =>
    rw [brackets_cons, openAfter?_append] at hopened
    obtain ⟨between, hfirst, hrest⟩ := Option.bind_eq_some_iff.mp hopened
    obtain ⟨stack', nodes', rfl, hbuild⟩ :=
      exists_build_cons (hbefore t List.mem_cons_self) hfirst nodes (before ++ rest)
    obtain ⟨stack'', nodes'', hstack, hbuild'⟩ :=
      ih (fun s hs => hbefore s (List.mem_cons_of_mem t hs)) stack' hrest nodes'
    exact ⟨stack'', nodes'', hstack, hbuild.trans hbuild'⟩

/-- The reader stops at a token that offends. -/
theorem build_of_offends {stack : List OpenSection} {t : Token} {e : TemplateError}
    (h : Offends (stack.map (·.path)) t e) (nodes : List Node) (rest : List Token) :
    build stack nodes (t :: rest) = .error e := by
  cases h with
  | unclosed => rw [build]
  | @invalid content offset hinvalid =>
    have hread : Mark.ofContent? (trimChars content) = none :=
      Option.eq_none_iff_forall_ne_some.mpr fun mark hmark =>
        hinvalid mark (tagText_iff.mpr hmark)
    simp [build, hread]
  | @mismatched content offset found hcloser hhead =>
    have hread := tagText_iff.mp (exists_closer hcloser)
    cases stack with
    | nil => simp [build, hread]
    | cons s outer =>
      have hpath : s.path ≠ found := by simpa using hhead
      simp [build, hread, hpath]

/-- A token that does not offend is sound, and its bracket fits. -/
theorem sound_or_offends (opened : List String) (t : Token) :
    (t.Sound ∧ ∃ opened', openAfter? opened t.bracket?.toList = some opened') ∨
      ∃ e, Offends opened t e := by
  cases t with
  | text cs => exact Or.inl ⟨trivial, opened, rfl⟩
  | unclosed offset => exact Or.inr ⟨_, .unclosed⟩
  | tag content offset =>
    by_cases hsound : ∃ mark, TagText (trimChars content) mark
    · obtain ⟨mark, hmark⟩ := hsound
      have hbracket := hmark.bracketOf?
      rw [Token.bracket?]
      cases mark with
      | comment | value | opener => exact Or.inl ⟨⟨_, hmark⟩, by rw [hbracket]; exact ⟨_, rfl⟩⟩
      | closer found =>
        by_cases hhead : opened.head? = some found
        · obtain ⟨outer, rfl⟩ := List.head?_eq_some_iff.mp hhead
          refine Or.inl ⟨⟨_, hmark⟩, outer, ?_⟩
          rw [hbracket]
          simp [Mark.bracket?, openAfter?, Bracket.step?]
        · exact Or.inr ⟨_, .mismatched hbracket hhead⟩
    · exact Or.inr ⟨_, .invalid (not_exists.mp hsound)⟩

/-- A cut without a token that offends, or the first token of it that does. -/
theorem sound_or_exists_offends (opened : List String) (ts : List Token) :
    ((∀ t ∈ ts, t.Sound) ∧ ∃ opened', openAfter? opened (brackets ts) = some opened') ∨
      ∃ before t after opened' e, ts = before ++ t :: after ∧ (∀ s ∈ before, s.Sound) ∧
        openAfter? opened (brackets before) = some opened' ∧ Offends opened' t e := by
  induction ts generalizing opened with
  | nil => exact Or.inl ⟨by simp, opened, rfl⟩
  | cons t ts ih =>
    rcases sound_or_offends opened t with ⟨ht, between, hfirst⟩ | ⟨e, he⟩
    · have hopened (bs : List Token) : openAfter? opened (brackets (t :: bs)) =
          openAfter? between (brackets bs) := by
        rw [brackets_cons, openAfter?_append, hfirst, Option.bind_some]
      rcases ih between with ⟨hsound, hrest⟩ |
        ⟨before, t', after, opened', e, rfl, hbefore, hrest, he⟩
      · refine Or.inl ⟨List.forall_mem_cons.mpr ⟨ht, hsound⟩, ?_⟩
        rwa [hopened]
      · refine Or.inr ⟨t :: before, t', after, opened', e, rfl,
          List.forall_mem_cons.mpr ⟨ht, hbefore⟩, ?_, he⟩
        rwa [hopened]
    · exact Or.inr ⟨[], t, ts, opened, e, rfl, by simp, rfl, he⟩

/-- The first fault of a cut: a token that offends behind sound ones that fit, or else the innermost
section that is left open. -/
inductive FirstFault : List Token → TemplateError → Prop where
  | token {before after : List Token} {t : Token} {opened : List String} {e : TemplateError} :
      (∀ s ∈ before, s.Sound) → Opens (brackets before) opened → Offends opened t e →
      FirstFault (before ++ t :: after) e
  | unclosed {ts : List Token} {name : String} {outer : List String} : (∀ t ∈ ts, t.Sound) →
      Opens (brackets ts) (name :: outer) → FirstFault ts (.unclosedSection name)

theorem nested_or_firstFault (ts : List Token) :
    ((∀ t ∈ ts, t.Sound) ∧ Nested (brackets ts)) ∨ ∃ e, FirstFault ts e := by
  rcases sound_or_exists_offends [] ts with ⟨hsound, opened, hopened⟩ |
    ⟨before, t, after, opened, e, rfl, hbefore, hopened, he⟩
  · cases opened with
    | nil => exact Or.inl ⟨hsound, nested_iff.mpr hopened⟩
    | cons name outer => exact Or.inr ⟨_, .unclosed hsound (opens_iff.mpr hopened)⟩
  · exact Or.inr ⟨e, .token hbefore (opens_iff.mpr hopened) he⟩

theorem exists_build_of_nested {ts : List Token} (hts : ∀ t ∈ ts, t.Sound)
    (h : Nested (brackets ts)) : ∃ nodes, build [] [] ts = .ok nodes := by
  obtain ⟨stack, nodes, hstack, hbuild⟩ := exists_build_append hts [] (h.openAfter? []) [] []
  obtain rfl := List.map_eq_nil_iff.mp hstack
  rw [List.append_nil] at hbuild
  exact ⟨nodes.reverse, hbuild⟩

theorem FirstFault.build {ts : List Token} {e : TemplateError} (h : FirstFault ts e) :
    build [] [] ts = .error e := by
  cases h with
  | @token before after t opened _ hbefore hopened he =>
    obtain ⟨stack, nodes, rfl, hbuild⟩ :=
      exists_build_append hbefore [] hopened.openAfter? [] (t :: after)
    rw [hbuild, build_of_offends he]
  | @unclosed ts name outer hts hopened =>
    obtain ⟨stack, nodes, hstack, hbuild⟩ := exists_build_append hts [] hopened.openAfter? [] []
    obtain ⟨s, rest, rfl, rfl, -⟩ := List.map_eq_cons_iff.mp hstack
    rw [List.append_nil] at hbuild
    exact hbuild

/-- A template is accepted exactly if every tag of its cut is sound and the openers and closers are
nested, and otherwise the error is the first fault of the cut. A fault of a tag comes before a
section that is left open. -/
theorem parse_accepts_nested (source : String) :
    ∃ ts, (∀ ts', Cut 0 (stripStandalone source.toList) ts' ↔ ts' = ts) ∧
      ((∃ nodes, parse source = .ok nodes) ↔ (∀ t ∈ ts, t.Sound) ∧ Nested (brackets ts)) ∧
      ∀ e, parse source = .error e ↔ FirstFault ts e := by
  refine ⟨tokens 0 (stripStandalone source.toList), fun ts' => cut_iff, ?_⟩
  unfold parse parseStripped
  generalize tokens 0 (stripStandalone source.toList) = ts
  rcases nested_or_firstFault ts with ⟨hsound, hnested⟩ | ⟨e, he⟩
  · obtain ⟨nodes, hnodes⟩ := exists_build_of_nested hsound hnested
    refine ⟨iff_of_true ⟨nodes, hnodes⟩ ⟨hsound, hnested⟩, fun e => ?_⟩
    rw [hnodes]
    refine iff_of_false (by simp) fun hfault => ?_
    rw [hfault.build] at hnodes
    cases hnodes
  · have hbuild := he.build
    refine ⟨iff_of_false ?_ ?_, fun e' => ⟨fun h => ?_, FirstFault.build⟩⟩
    · rintro ⟨nodes, hnodes⟩
      rw [hbuild] at hnodes
      cases hnodes
    · rintro ⟨hsound, hnested⟩
      obtain ⟨nodes, hnodes⟩ := exists_build_of_nested hsound hnested
      rw [hbuild] at hnodes
      cases hnodes
    · rw [hbuild] at h
      obtain rfl := Except.error.inj h
      exact he

end DataLayer.Template
