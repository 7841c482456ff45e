import DataLayer.Proofs.Config.Declarations
import DataLayer.Proofs.Config.Quotings
import Mathlib.Data.List.Count

/-!
Where duplicate keys are reported. A key that is reported has been declared twice in its table, but
the place that the report points at is that where the key stands between quotes for the second time.
That is the second declaration if both have the key between the same quotes, and it does not stand
between quotes anywhere else before.
-/

namespace DataLayer.Config

open Text

/-! Declarations of keys. -/

/-- Where the keys of a table are written: what the document holds from each of them on. -/
def KeyedTable.places (t : KeyedTable) (source : String) : List String :=
  ((fieldsAs? whereItStands source).bind t.writtenKeys?).getD []

/-- What stands behind the text that a rest of a document starts with. -/
def behindText (cs : List Char) : List Char :=
  match readText cs with
  | some (_, after) => after
  | none => cs

/-- The stretch of a document that the text takes up which a rest of it starts with. -/
def textSpan (source place : String) : Span where
  offset := octetCount source.toList - octetCount place.toList
  length := octetCount place.toList - octetCount (behindText place.toList)

/-- Where a key is declared in a table, in the order of the entries. -/
def declarations (source table key : String) : List Span :=
  match KeyedTable.all.find? (·.name == table) with
  | none => []
  | some t => ((t.places source).filter fun place => t.key (saidAt place) == key).map
      (textSpan source)

/-- A stretch of a document is a text that says something. -/
def Says (source : String) (span : Span) (said : String) : Prop :=
  ∃ before token after, source.toList = before ++ (token ++ after) ∧
    octetCount before = span.offset ∧ octetCount token = span.length ∧
    readText (token ++ after) = some (said.toList, after)

theorem octetCount_le_of_suffix {cs cs' : List Char} (h : cs <:+ cs') :
    octetCount cs ≤ octetCount cs' := by
  obtain ⟨before, rfl⟩ := h
  rw [octetCount_append]
  omega

theorem says_textSpan {source place : String} (h : place.toList <:+ source.toList)
    (hreads : (readText place.toList).isSome) :
    Says source (textSpan source place) (saidAt place) := by
  obtain ⟨⟨said, after⟩, hread⟩ := Option.isSome_iff_exists.mp hreads
  obtain ⟨before, hsource⟩ := h
  obtain ⟨token, hplace⟩ := readText_suffix hread
  have hbefore := congrArg octetCount hsource
  have htoken := congrArg octetCount hplace
  rw [octetCount_append] at hbefore htoken
  refine ⟨before, token, after, by rw [hplace, hsource], ?_, ?_, ?_⟩
  · simp only [textSpan]
    omega
  · simp only [textSpan, behindText, hread]
    omega
  · rw [hplace, hread]
    simp [saidAt, hread]

/-- Texts that stand one behind the other take up stretches one behind the other. -/
theorem textSpan_le_of_endsBefore {source place place' : String}
    (h : place.toList <:+ source.toList) (hends : EndsBefore place place') :
    (textSpan source place).offset + (textSpan source place).length ≤
      (textSpan source place').offset := by
  obtain ⟨said, after, hread, hplace'⟩ := hends
  have hsource := octetCount_le_of_suffix h
  have hafter := octetCount_le_of_suffix (readText_suffix hread)
  have hle := octetCount_le_of_suffix hplace'
  simp only [textSpan, behindText, hread]
  omega

section Declared

variable {source table key : String}

/-- The keys of a table are what the texts say where they are written. -/
theorem writtenKeys?_eq_places {t : KeyedTable} (ht : t ∈ KeyedTable.all) {fields : Fields}
    (hfields : fieldsOfText? source = some fields) {keys : List String}
    (hkeys : t.writtenKeys? fields = some keys) : keys = (t.places source).map saidAt := by
  unfold fieldsOfText? at hfields
  rw [whereItStands_gives.fieldsAs?] at hfields
  obtain ⟨placed, hplaced, rfl⟩ := Option.map_eq_some_iff.mp hfields
  rw [writtenKeys?_mapFields saidAt ht] at hkeys
  obtain ⟨places, hplaces, rfl⟩ := Option.map_eq_some_iff.mp hkeys
  rw [KeyedTable.places, hplaced, Option.bind_some, hplaces, Option.getD_some]

/-- The keys of a table are written one behind the other. -/
theorem places_pairwise {t : KeyedTable} (ht : t ∈ KeyedTable.all) (source : String) :
    (t.places source).Pairwise EndsBefore ∧
      ∀ place ∈ t.places source, place.toList <:+ source.toList ∧
        (readText place.toList).isSome := by
  unfold KeyedTable.places
  cases hfields : fieldsAs? whereItStands source with
  | none => simp
  | some fields =>
    rw [Option.bind_some]
    cases hkeys : t.writtenKeys? fields with
    | none => simp
    | some places =>
      rw [Option.getD_some]
      rcases writtenKeys?_sublist ht hkeys with rfl | ⟨field, hfield, hsublist⟩
      · simp
      · obtain ⟨hpairwise, hall⟩ := fieldsAs?_pairwise hfields field hfield
        exact ⟨hpairwise.sublist hsublist, fun place hplace => hall place (hsublist.subset hplace)⟩

theorem declarations_eq {t : KeyedTable} (ht : t ∈ KeyedTable.all) (source key : String) :
    declarations source t.name key =
      ((t.places source).filter fun place => t.key (saidAt place) == key).map
        (textSpan source) := by
  have hfind : KeyedTable.all.find? (·.name == t.name) = some t := by
    revert t
    apply KeyedTable.forall_mem_all <;> rfl
  rw [declarations, hfind]

/-- A duplicate key has a table in which it has been declared before. -/
theorem exists_declared_twice {span : Option Span}
    (h : ofText source = .error (.duplicateKey table key span)) :
    span = quotedSpan? source key 1 ∧ ∃ t ∈ KeyedTable.all, t.name = table ∧
      ∃ first second more,
        ((t.places source).filter fun place => t.key (saidAt place) == key) =
          first :: second :: more := by
  unfold ofText at h
  split at h
  · cases h
  · next s hs =>
    obtain ⟨before, check, after, hchecks, -, -, herror⟩ := ofSettings_eq_error_iff.mp h
    obtain ⟨earlier, rfl, hmem, hspan⟩ := Check.eq_newKey_of_error? herror
    obtain ⟨fields, hfields, hsettings⟩ := Option.bind_eq_some_iff.mp hs
    have hcheck : .newKey table earlier key ∈ s.checks := by simp [hchecks]
    obtain ⟨t, ht, hname, keys, hkeys, rest, hrest⟩ :=
      exists_keyedTable_of_newKey_mem (hasEntries_of_ofFields? hsettings) hcheck
    obtain rfl := writtenKeys?_eq_places ht hfields hkeys
    refine ⟨hspan, t, ht, hname, ?_⟩
    have hcount : 2 ≤ (((t.places source).map saidAt).map t.key).count key := by
      have hearlier := List.count_pos_iff.mpr hmem
      rw [hrest, List.count_append, List.count_cons_self]
      omega
    rw [List.map_map, List.count, List.countP_map, List.countP_eq_length_filter] at hcount
    have hlength :
        2 ≤ ((t.places source).filter fun place => t.key (saidAt place) == key).length := hcount
    generalize (t.places source).filter (fun place => t.key (saidAt place) == key) = declared
      at hlength
    rcases declared with _ | ⟨first, _ | ⟨second, more⟩⟩
    · simp at hlength
    · simp at hlength
    · exact ⟨first, second, more, rfl⟩

/-- A stretch of a document is a name between quotes. -/
structure IsQuoted (source : String) (quote : Char) (name : String) (span : Span) : Prop where
  stands : StandsAt (inQuotes quote name) source.toList span.offset
  length : span.length = octetCount (inQuotes quote name)

/-- What stands between the quotes that a stretch of a document starts and ends with. -/
def betweenQuotes (span : Span) : Span := ⟨span.offset + 1, span.length - 2⟩

theorem IsQuoted.betweenQuotes_eq {quote : Char} (hquote : quote ∈ ['"', '\'']) {span : Span}
    (h : IsQuoted source quote key span) :
    betweenQuotes span = ⟨span.offset + 1, key.utf8ByteSize⟩ := by
  have hlength := h.length
  rw [inQuotes, octetCount_cons, octetCount_append, octetCount_cons, octetCount_nil,
    octetCount_toList] at hlength
  have hone : quote.utf8Size = 1 := by
    simp only [List.mem_cons, List.not_mem_nil, or_false] at hquote
    rcases hquote with rfl | rfl <;> rfl
  rw [betweenQuotes, Span.mk.injEq]
  exact ⟨rfl, by omega⟩

/-- What stands between the quotes of a stretch of a document is found if that stretch is the
second. -/
theorem IsQuoted.found_iff {quote : Char} (hquote : quote ∈ ['"', '\'']) {span : Span}
    (h : IsQuoted source quote key span) :
    quotedSpan? source key 1 = some (betweenQuotes span) ↔
      LooksBetween source key quote ∧ IsSecond (inQuotes quote key) source.toList span.offset := by
  rw [quotedSpan?_second_iff, h.betweenQuotes_eq hquote]
  constructor
  · rintro ⟨quote', offset, hlooks, hsecond, heq⟩
    obtain rfl : offset = span.offset := by
      have hoffset := congrArg Span.offset heq
      exact (Nat.succ.inj hoffset).symm
    obtain rfl := standsAt_quote_eq hsecond.stands h.stands
    exact ⟨hlooks, hsecond⟩
  · rintro ⟨hlooks, hsecond⟩
    exact ⟨quote, span.offset, hlooks, hsecond, rfl⟩

end Declared

/-- A duplicate key has been declared twice in its table, in texts that say it. The report points at
the place where the key stands between quotes for the second time, in whatever part of the document,
and has no place if it does not stand there twice. So the report points at what stands between the
quotes of the second declaration if the key stands between such quotes there for the second time,
and not twice between double quotes if these quotes are single ones. -/
theorem duplicates_reported_at_second {source table key : String} {span : Option Span}
    (h : ofText source = .error (.duplicateKey table key span)) :
    ∃ t ∈ KeyedTable.all, t.name = table ∧
    ∃ first second more, declarations source table key = first :: second :: more ∧
      (∀ declaration ∈ declarations source table key,
        ∃ written, Says source declaration written ∧ t.key written = key) ∧
      first.offset + first.length ≤ second.offset ∧
      (∀ label, span = some label ↔ ∃ quote offset, LooksBetween source key quote ∧
        IsSecond (inQuotes quote key) source.toList offset ∧
        label = ⟨offset + 1, key.utf8ByteSize⟩) ∧
      ∀ quote ∈ ['"', '\''], IsQuoted source quote key second →
        (span = some (betweenQuotes second) ↔
          LooksBetween source key quote ∧
            IsSecond (inQuotes quote key) source.toList second.offset) := by
  obtain ⟨rfl, t, ht, rfl, first, second, more, hdeclared⟩ := exists_declared_twice h
  obtain ⟨hpairwise, hall⟩ := places_pairwise ht source
  have hmem {place : String} (hplace : place ∈ first :: second :: more) :
      place ∈ t.places source ∧ t.key (saidAt place) = key := by
    rw [← hdeclared, List.mem_filter, beq_iff_eq] at hplace
    exact hplace
  have hfirst := (hall first (hmem (by simp)).1).1
  have horder : (textSpan source first).offset + (textSpan source first).length ≤
      (textSpan source second).offset := by
    have hfilter := hpairwise.filter fun place => t.key (saidAt place) == key
    rw [hdeclared] at hfilter
    exact textSpan_le_of_endsBefore hfirst
      (List.rel_of_pairwise_cons hfilter (List.mem_cons_self ..))
  rw [declarations_eq ht, hdeclared]
  refine ⟨t, ht, rfl, _, _, _, rfl, fun declaration hdeclaration => ?_, horder,
    fun label => quotedSpan?_second_iff, fun quote hquote hsecond => hsecond.found_iff hquote⟩
  obtain ⟨place, hplace, rfl⟩ := List.mem_map.mp hdeclaration
  obtain ⟨hsuffix, hreads⟩ := hall place (hmem hplace).1
  exact ⟨saidAt place, says_textSpan hsuffix hreads, (hmem hplace).2⟩

/-- A document with two declarations of entities, behind some other text. -/
def entitiesText (before first second : String) : String :=
  before ++ "[[entity_overrides]]\ntable_name = " ++ first ++
    "\n[[entity_overrides]]\ntable_name = " ++ second ++ "\n"

/-- The same declaration twice. -/
theorem duplicates_reported_at_second_entity :
    ofText (entitiesText "" "\"T\"" "\"T\"") =
      .error (.duplicateKey "entity_overrides" "T" (some ⟨73, 1⟩)) ∧
    declarations (entitiesText "" "\"T\"" "\"T\"") "entity_overrides" "T" =
      [⟨34, 3⟩, ⟨72, 3⟩] ∧
    betweenQuotes ⟨72, 3⟩ = ⟨73, 1⟩ ∧
    IsSecond (inQuotes '"' "T") (entitiesText "" "\"T\"" "\"T\"").toList 72 := by
  have herror : ofText (entitiesText "" "\"T\"" "\"T\"") =
      .error (.duplicateKey "entity_overrides" "T" (some ⟨73, 1⟩)) := by
    decide +kernel
  have hdeclarations : declarations (entitiesText "" "\"T\"" "\"T\"") "entity_overrides" "T" =
      [⟨34, 3⟩, ⟨72, 3⟩] := by
    decide +kernel
  have hquoted : IsQuoted (entitiesText "" "\"T\"" "\"T\"") '"' "T" ⟨72, 3⟩ :=
    ⟨⟨(entitiesText "" "\"T\"" "\"T\"").toList.take 72, ['\n'], by decide +kernel,
      by decide +kernel⟩, by decide +kernel⟩
  obtain ⟨t, -, -, first, second, more, hall, -, -, -, hpoints⟩ :=
    duplicates_reported_at_second herror
  rw [hdeclarations] at hall
  obtain ⟨rfl, rfl, rfl⟩ : ⟨34, 3⟩ = first ∧ ⟨72, 3⟩ = second ∧ [] = more := by
    simpa using hall
  exact ⟨herror, hdeclarations, rfl, ((hpoints '"' (by simp) hquoted).mp rfl).2⟩

/-- A comment that mentions the key makes the report point at the first declaration, and with
different quotes there is no place to point at. -/
theorem duplicates_reported_elsewhere :
    (∃ label first second,
      ofText (entitiesText "# \"T\"\n" "\"T\"" "\"T\"") =
        .error (.duplicateKey "entity_overrides" "T" (some label)) ∧
      declarations (entitiesText "# \"T\"\n" "\"T\"" "\"T\"") "entity_overrides" "T" =
        [first, second] ∧
      label = betweenQuotes first ∧ label.offset + label.length ≤ second.offset) ∧
    ∃ first second,
      ofText (entitiesText "" "\"T\"" "'T'") =
        .error (.duplicateKey "entity_overrides" "T" none) ∧
      declarations (entitiesText "" "\"T\"" "'T'") "entity_overrides" "T" = [first, second] := by
  refine ⟨⟨⟨41, 1⟩, ⟨40, 3⟩, ⟨78, 3⟩, ?_, ?_, rfl, ?_⟩, ⟨34, 3⟩, ⟨72, 3⟩, ?_, ?_⟩ <;> decide +kernel

end DataLayer.Config
