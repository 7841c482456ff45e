import DataLayer.Config.Load
import DataLayer.Proofs.Config.Identifiers
import Mathlib.Data.List.Nodup
import Mathlib.Tactic.Tauto

/-!
Which settings become a configuration, and which one. The checks of a document stand in a list, in
the order in which they are made. Settings that pass all of them are valid, and then every entry of
the document has its place in the configuration. Otherwise the first check that is not passed gives
the error.
-/

namespace DataLayer.Config

open Text

/-! Checks. -/

/-- A condition on the names of a document. -/
inductive Check where
  | identifier (role name : String)
  | dottedName (name : String)
  | access (modifier : String)
  /-- The key of an entry differs from those of the entries before it. -/
  | newKey (table : String) (earlier : List String) (key : String)

namespace Check

def Passes : Check → Prop
  | identifier _ name => Identifier.WellFormed name
  | dottedName name => name = "" ∨ Identifier.IsNamespace name
  | access modifier => modifier ∈ accessModifiers
  | newKey _ earlier key => key ∉ earlier

section Passes

variable {role name modifier table key : String} {earlier : List String}

@[simp] theorem passes_identifier :
    (identifier role name).Passes ↔ Identifier.WellFormed name := Iff.rfl

@[simp] theorem passes_dottedName :
    (dottedName name).Passes ↔ name = "" ∨ Identifier.IsNamespace name := Iff.rfl

@[simp] theorem passes_access : (access modifier).Passes ↔ modifier ∈ accessModifiers := Iff.rfl

@[simp] theorem passes_newKey : (newKey table earlier key).Passes ↔ key ∉ earlier := Iff.rfl

end Passes

/-- What is reported about a name that does not pass. -/
def error? (source : String) : Check → Option ConfigError
  | identifier role name =>
    (Identifier.fault? name).map fun fault =>
      .invalidIdentifier name role fault (quotedSpan? source name 0)
  | dottedName name =>
    if name = "" then none
    else (Identifier.dottedFault? name).map fun fault =>
      .invalidIdentifier name "namespace" fault (quotedSpan? source name 0)
  | access modifier =>
    if modifier ∈ accessModifiers then none
    else some (.invalidAccess modifier (quotedSpan? source modifier 0))
  | newKey table earlier key =>
    if key ∈ earlier then some (.duplicateKey table key (quotedSpan? source key 1)) else none

theorem error?_eq_none_iff (source : String) (check : Check) :
    check.error? source = none ↔ check.Passes := by
  cases check with
  | identifier role name =>
    rw [error?, Option.map_eq_none_iff]
    exact Identifier.isValid_iff
  | dottedName name =>
    by_cases hname : name = ""
    · simp [error?, Passes, hname]
    · simpa [error?, Passes, hname] using Identifier.dottedFault?_eq_none_iff
  | access modifier => simp [error?, Passes]
  | newKey table earlier key => simp [error?, Passes]

theorem eq_newKey_of_error? {source table key : String} {span : Option Span} {check : Check}
    (h : check.error? source = some (.duplicateKey table key span)) :
    ∃ earlier, check = .newKey table earlier key ∧ key ∈ earlier ∧
      span = quotedSpan? source key 1 := by
  cases check with
  | identifier role name =>
    obtain ⟨fault, -, heq⟩ := Option.map_eq_some_iff.mp h
    cases heq
  | dottedName name =>
    obtain ⟨-, h⟩ := Option.ite_none_left_eq_some.mp h
    obtain ⟨fault, -, heq⟩ := Option.map_eq_some_iff.mp h
    cases heq
  | access modifier =>
    obtain ⟨-, heq⟩ := Option.ite_none_left_eq_some.mp h
    cases heq
  | newKey table' earlier key' =>
    obtain ⟨hmem, heq⟩ := Option.ite_none_right_eq_some.mp h
    cases heq
    exact ⟨earlier, rfl, hmem, rfl⟩

end Check

/-- Makes checks in order, up to the first one that is not passed. -/
def verdict (source : String) (checks : List Check) : Except ConfigError Unit :=
  match checks.findSome? (·.error? source) with
  | some e => .error e
  | none => .ok ()

section Verdict

variable {source : String}

theorem verdict_append (checks checks' : List Check) :
    verdict source (checks ++ checks') =
      verdict source checks >>= fun _ => verdict source checks' := by
  unfold verdict
  rw [List.findSome?_append]
  cases checks.findSome? (·.error? source) <;> rfl

theorem verdict_cons_cons (check next : Check) (checks : List Check) :
    verdict source (check :: next :: checks) =
      verdict source [check] >>= fun _ => verdict source (next :: checks) :=
  verdict_append [check] (next :: checks)

theorem verdict_eq_ok_iff {checks : List Check} :
    verdict source checks = .ok () ↔ ∀ check ∈ checks, check.Passes := by
  have hnone : checks.findSome? (·.error? source) = none ↔ ∀ check ∈ checks, check.Passes := by
    simp only [List.findSome?_eq_none_iff, Check.error?_eq_none_iff]
  rw [← hnone, verdict]
  cases checks.findSome? (·.error? source) <;> simp

theorem verdict_eq_error_iff {checks : List Check} {e : ConfigError} :
    verdict source checks = .error e ↔
      ∃ before check after, checks = before ++ check :: after ∧
        (∀ earlier ∈ before, earlier.Passes) ∧ ¬check.Passes ∧ check.error? source = some e := by
  have hsome : verdict source checks = .error e ↔
      checks.findSome? (·.error? source) = some e := by
    unfold verdict
    cases checks.findSome? (·.error? source) <;> simp
  rw [hsome, List.findSome?_eq_some_iff]
  constructor
  · rintro ⟨before, check, after, hchecks, herror, hbefore⟩
    refine ⟨before, check, after, hchecks, fun earlier hearlier => ?_, fun hpasses => ?_, herror⟩
    · exact (earlier.error?_eq_none_iff source).mp (hbefore earlier hearlier)
    · rw [(check.error?_eq_none_iff source).mpr hpasses] at herror
      contradiction
  · rintro ⟨before, check, after, hchecks, hbefore, -, herror⟩
    refine ⟨before, check, after, hchecks, herror, fun earlier hearlier => ?_⟩
    exact (earlier.error?_eq_none_iff source).mpr (hbefore earlier hearlier)

theorem checkIdentifier_eq (role name : String) :
    checkIdentifier source role name = verdict source [.identifier role name] := by
  unfold checkIdentifier verdict
  cases hfault : Identifier.fault? name <;> simp [Check.error?, hfault]

theorem checkNamespace_eq (name : String) :
    checkNamespace source name = verdict source [.dottedName name] := by
  unfold checkNamespace verdict
  by_cases hname : name = ""
  · simp [Check.error?, hname]
  · cases hfault : Identifier.dottedFault? name <;> simp [Check.error?, hname, hfault]

theorem checkAccess_eq (modifier : String) :
    checkAccess source modifier = verdict source [.access modifier] := by
  unfold checkAccess verdict
  by_cases hmodifier : modifier ∈ accessModifiers <;> simp [Check.error?, hmodifier]

end Verdict

/-! Tables of entries. -/

section Tables

variable {α β : Type} (table : String) (own : α → List Check) (key : α → String)

/-- The checks of the entries behind those with the keys `earlier`: what is checked of an entry on
its own, then its key. -/
def entryChecks : List String → List α → List Check
  | _, [] => []
  | earlier, entry :: rest =>
    own entry ++ .newKey table earlier (key entry) :: entryChecks (earlier ++ [key entry]) rest

variable {table own key}

theorem passes_entryChecks {earlier : List String} {entries : List α} :
    (∀ check ∈ entryChecks table own key earlier entries, check.Passes) ↔
      (∀ entry ∈ entries, ∀ check ∈ own entry, check.Passes) ∧
        (entries.map key).Nodup ∧ ∀ entry ∈ entries, key entry ∉ earlier := by
  induction entries generalizing earlier with
  | nil => simp [entryChecks]
  | cons entry rest ih =>
    have hnew : (∀ later ∈ rest, key later ∉ earlier ++ [key entry]) ↔
        (∀ later ∈ rest, key later ∉ earlier) ∧ key entry ∉ rest.map key := by
      simp only [List.mem_append, List.mem_singleton, not_or, List.mem_map, not_exists, not_and]
      constructor
      · intro h
        exact ⟨fun later hlater => (h later hlater).1, fun later hlater => (h later hlater).2⟩
      · intro h later hlater
        exact ⟨h.1 later hlater, h.2 later hlater⟩
    rw [entryChecks, List.forall_mem_append, List.forall_mem_cons, ih, hnew,
      Check.passes_newKey, List.forall_mem_cons, List.map_cons, List.nodup_cons,
      List.forall_mem_cons]
    tauto

/-- Entries are keyed if all checks are passed, and keep their order. -/
theorem keyed_eq {source : String} {check : α → Except ConfigError Unit}
    (hcheck : ∀ entry, check entry = verdict source (own entry)) (value : α → β)
    (done : List (String × β)) (entries : List α) :
    keyed source table check key value done entries =
      verdict source (entryChecks table own key (done.map (·.1)) entries) >>= fun _ =>
        pure (done ++ entries.map fun entry => (key entry, value entry)) := by
  induction entries generalizing done with
  | nil =>
    rw [List.map_nil, List.append_nil]
    rfl
  | cons entry rest ih =>
    have hkey : verdict source [.newKey table (done.map (·.1)) (key entry)] =
        if (done.lookup (key entry)).isSome then
          .error (.duplicateKey table (key entry) (quotedSpan? source (key entry) 1))
        else .ok () := by
      unfold verdict
      by_cases hmem : key entry ∈ done.map (·.1)
      · rw [if_pos (isSome_lookup_iff.mpr hmem)]
        simp [Check.error?, hmem]
      · rw [if_neg (isSome_lookup_iff.not.mpr hmem)]
        simp [Check.error?, hmem]
    have hrest : verdict source (.newKey table (done.map (·.1)) (key entry) ::
        entryChecks table own key (done.map (·.1) ++ [key entry]) rest) =
          verdict source [.newKey table (done.map (·.1)) (key entry)] >>= fun _ =>
            verdict source (entryChecks table own key (done.map (·.1) ++ [key entry]) rest) :=
      verdict_append [_] _
    rw [keyed, entryChecks, verdict_append, hrest, hcheck, hkey, bind_assoc]
    congr 1
    funext _
    split
    · rfl
    · rw [ih, List.map_append, List.map_singleton, List.append_assoc]
      rfl

end Tables

/-- What is checked of an entity on its own. -/
def entityChecks (e : EntityOverride) : List Check :=
  (e.name.map (.identifier "entity name")).toList ++ (e.access.map .access).toList

theorem checkEntity_eq (source : String) (e : EntityOverride) :
    checkEntity source e = verdict source (entityChecks e) := by
  unfold checkEntity entityChecks
  rw [verdict_append]
  cases e.name with
  | none =>
    cases e.access with
    | none => rfl
    | some access => exact checkAccess_eq access
  | some name =>
    change checkIdentifier source "entity name" name >>= _ = _
    rw [checkIdentifier_eq]
    cases e.access with
    | none => rfl
    | some access =>
      change _ >>= (fun _ => checkAccess source access) = _
      rw [checkAccess_eq]
      rfl

/-- The names in order of their first occurrence, without those that have come before. -/
theorem withoutRepeats_eq (names : List String) : withoutRepeats names = names.eraseDups := by
  have hfold (acc : List String) :
      names.foldl (fun acc n => if acc.contains n then acc else acc ++ [n]) acc =
        acc ++ (names.filter (!acc.contains ·)).eraseDups := by
    induction names generalizing acc with
    | nil => simp
    | cons name rest ih =>
      rw [List.foldl_cons, ih]
      by_cases hmem : name ∈ acc
      · simp [hmem]
      · have hfilter : rest.filter (fun n => !(acc ++ [name]).contains n) =
            (rest.filter (!acc.contains ·)).filter (fun n => !n == name) := by
          rw [List.filter_filter]
          apply List.filter_congr
          intro n _
          rw [Bool.and_comm]
          simp [Bool.beq_eq_decide_eq]
        simp only [List.contains_iff_mem, hmem, if_false]
        rw [hfilter, List.filter_cons_of_pos (by simp [hmem]), List.eraseDups_cons,
          List.append_assoc, List.singleton_append]
  unfold withoutRepeats
  rw [hfold, List.nil_append]
  simp

namespace Settings

/-- The checks of a document, in order. -/
def checks (s : Settings) : List Check :=
  [.identifier "data access class name" s.className, .dottedName s.modelNamespace,
    .dottedName s.accessNamespace, .access s.classAccess] ++
  (entryChecks "column_overrides" (fun _ => []) (trim ·.name) [] s.columns ++
  (entryChecks "entity_overrides" entityChecks (trim ·.tableName) [] s.entities ++
  (entryChecks "plural_mappings" (fun _ => []) (·.entityName) [] s.plurals ++
  (entryChecks "enum_mappings" (fun _ => []) (trim ·.column) [] s.enums ++
  entryChecks "async_mappings" (fun _ => []) (·.keyName) [] s.asyncs))))

/-- Settings whose names can be used, and in which no table has two entries of one key. -/
structure Valid (s : Settings) : Prop where
  className : Identifier.WellFormed s.className
  modelNamespace : s.modelNamespace = "" ∨ Identifier.IsNamespace s.modelNamespace
  accessNamespace : s.accessNamespace = "" ∨ Identifier.IsNamespace s.accessNamespace
  classAccess : s.classAccess ∈ accessModifiers
  entityNames : ∀ e ∈ s.entities, ∀ name, e.name = some name → Identifier.WellFormed name
  entityAccess : ∀ e ∈ s.entities, ∀ access, e.access = some access → access ∈ accessModifiers
  columns : (s.columns.map (trim ·.name)).Nodup
  entities : (s.entities.map (trim ·.tableName)).Nodup
  plurals : (s.plurals.map (·.entityName)).Nodup
  enums : (s.enums.map (trim ·.column)).Nodup
  asyncs : (s.asyncs.map (·.keyName)).Nodup

/-- The configuration that holds the settings: an entry for each of those of the document, in the
same order. -/
def config (s : Settings) : Config where
  enabled := s.enabled
  features := s.features
  asyncDefaults := s.asyncDefaults
  requirePackage := s.requirePackage
  classAccess := s.classAccess
  sourceProject := s.sourceProject
  package := s.package
  modelNamespace := s.modelNamespace
  accessNamespace := s.accessNamespace
  modelDirectory := s.modelDirectory
  accessDirectory := s.accessDirectory
  className := s.className
  fileNameInfix := s.fileNameInfix
  usings := s.usings
  enabledConfigurations := s.enabledConfigurations
  overrides := {
    ignored := s.ignored.eraseDups
    columns := s.columns.map fun o => (trim o.name, o)
    entities := s.entities.map fun o => (trim o.tableName, o)
    plurals := s.plurals.map fun o => (o.entityName, o.pluralForm)
    enums := s.enums.map fun o => (trim o.column, o.typeName)
    asyncs := s.asyncs.map fun o => (o.keyName, o.policy) }

theorem passes_checks_iff (s : Settings) : (∀ check ∈ s.checks, check.Passes) ↔ s.Valid := by
  have hentity : (∀ e ∈ s.entities, ∀ check ∈ entityChecks e, check.Passes) ↔
      (∀ e ∈ s.entities, ∀ name, e.name = some name → Identifier.WellFormed name) ∧
      ∀ e ∈ s.entities, ∀ access, e.access = some access → access ∈ accessModifiers := by
    rw [← forall₂_and]
    refine forall₂_congr fun e _ => ?_
    simp [entityChecks, or_imp, forall_and]
  unfold checks
  simp only [List.forall_mem_append, passes_entryChecks, hentity, List.forall_mem_cons,
    List.not_mem_nil, false_imp_iff, implies_true, and_true, true_and, not_false_eq_true,
    Check.passes_identifier, Check.passes_dottedName, Check.passes_access]
  constructor
  · rintro ⟨⟨hclass, hmodel, haccess, hmodifier⟩, hcolumns, ⟨⟨hnames, hmodifiers⟩, hentities⟩,
      hplurals, henums, hasyncs⟩
    exact ⟨hclass, hmodel, haccess, hmodifier, hnames, hmodifiers, hcolumns, hentities, hplurals,
      henums, hasyncs⟩
  · intro h
    exact ⟨⟨h.className, h.modelNamespace, h.accessNamespace, h.classAccess⟩, h.columns,
      ⟨⟨h.entityNames, h.entityAccess⟩, h.entities⟩, h.plurals, h.enums, h.asyncs⟩

end Settings

/-- The checks are made in order, and then nothing can fail. -/
theorem ofSettings_eq (source : String) (s : Settings) :
    ofSettings source s = verdict source s.checks >>= fun _ => pure s.config := by
  have halways {α : Type} (entry : α) :
      (fun _ => .ok () : α → Except ConfigError Unit) entry = verdict source [] := rfl
  unfold ofSettings Settings.checks Settings.config
  simp only [checkIdentifier_eq, checkNamespace_eq, checkAccess_eq, keyed_eq halways,
    keyed_eq (checkEntity_eq source), verdict_append, verdict_cons_cons, bind_assoc,
    pure_bind, withoutRepeats_eq, List.map_nil, List.nil_append, id]

/-- Only valid settings become a configuration. -/
theorem ofSettings_eq_ok_iff {source : String} {s : Settings} {c : Config} :
    ofSettings source s = .ok c ↔ s.Valid ∧ c = s.config := by
  rw [ofSettings_eq, ← s.passes_checks_iff, ← @verdict_eq_ok_iff source]
  cases verdict source s.checks <;> simp [bind, Except.bind, pure, Except.pure, eq_comm]

/-- The error is that of the first check that is not passed. -/
theorem ofSettings_eq_error_iff {source : String} {s : Settings} {e : ConfigError} :
    ofSettings source s = .error e ↔
      ∃ before check after, s.checks = before ++ check :: after ∧
        (∀ earlier ∈ before, earlier.Passes) ∧ ¬check.Passes ∧ check.error? source = some e := by
  rw [← verdict_eq_error_iff, ofSettings_eq]
  cases verdict source s.checks <;> simp [bind, Except.bind, pure, Except.pure]

/-- Settings are accepted exactly if they are valid, and give the configuration that holds them.
The error is that of the first check that is not passed. -/
theorem settings_accepted_iff_valid (source : String) (s : Settings) :
    (∀ c, ofSettings source s = .ok c ↔ s.Valid ∧ c = s.config) ∧
    ∀ e, ofSettings source s = .error e ↔
      ∃ before check after, s.checks = before ++ check :: after ∧
        (∀ earlier ∈ before, earlier.Passes) ∧ ¬check.Passes ∧ check.error? source = some e :=
  ⟨fun _ => ofSettings_eq_ok_iff, fun _ => ofSettings_eq_error_iff⟩

end DataLayer.Config
