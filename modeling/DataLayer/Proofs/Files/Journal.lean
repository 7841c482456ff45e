import DataLayer.OutputFiles

/-!
What output files ask of a file system, and how far they get where requests fail. A journal notes
every request for a change with its answer. Directories are asked for first; then each file asks for
its directory once more and for itself. The first request that is refused is the last one, so what
has been done is what stands before it in this order.
-/

namespace DataLayer

/-- A request for a change to files. -/
inductive Request where
  | createDirectories (path : String)
  | writeFile (path content : String)
  deriving DecidableEq, Repr

/-- Requests in order, each with whether it succeeded. -/
abbrev Journal := List (Request × Bool)

/-- A state with the requests that have been made on it. -/
structure Journaled (σ : Type) where
  state : σ
  journal : Journal

variable {σ : Type} [FileSystem (StateM σ)]

def Request.perform : Request → StateM σ Bool
  | createDirectories path => FileSystem.createDirectories path
  | writeFile path content => FileSystem.writeFile path content

namespace Journaled

/-- Carries out what changes no file, and notes nothing. -/
def unnoted {α : Type} (x : StateM σ α) : StateM (Journaled σ) α := fun j =>
  let (a, s) := x.run j.state
  (a, { j with state := s })

/-- Carries out a request, and notes it with its answer. -/
def noted (request : Request) : StateM (Journaled σ) Bool := fun j =>
  let (done, s) := (request.perform : StateM σ Bool).run j.state
  (done, ⟨s, j.journal ++ [(request, done)]⟩)

instance : FileSystem (StateM (Journaled σ)) where
  isFile path := unnoted (isFile path)
  pathExists path := unnoted (pathExists path)
  readFile path := unnoted (readFile path)
  createDirectories path := noted (.createDirectories path)
  writeFile path content := noted (.writeFile path content)

end Journaled

/-- The requests of a journal, made in order, get these answers and lead from one state to
another. -/
inductive Journal.Leads : Journal → σ → σ → Prop where
  | nil (s : σ) : Leads [] s s
  | cons {request : Request} {done : Bool} {rest : Journal} {s s₁ s₂ : σ}
      (h : (request.perform : StateM σ Bool).run s = (done, s₁)) (hrest : Leads rest s₁ s₂) :
      Leads ((request, done) :: rest) s s₂

theorem Journal.Leads.append {k l : Journal} {s s₁ s₂ : σ} (h : k.Leads s s₁)
    (h' : l.Leads s₁ s₂) : Journal.Leads (k ++ l) s s₂ := by
  induction h with
  | nil => exact h'
  | cons hrequest _ ih => exact .cons hrequest (ih h')

/-- A program on files gives this result, and asks for these changes on its way. The program is
given twice, since it runs with a journal and without one. -/
structure Asks {α : Type} (x : StateM (Journaled σ) α) (y : StateM σ α) (s : σ) (a : α)
    (k : Journal) (s' : σ) : Prop where
  journaled : ∀ before, x.run ⟨s, before⟩ = (a, ⟨s', before ++ k⟩)
  run : y.run s = (a, s')
  leads : k.Leads s s'

namespace Asks

variable {α β : Type} {x : StateM (Journaled σ) α} {y : StateM σ α} {s s₁ s₂ : σ} {a : α} {b : β}
  {k l : Journal}

theorem pure (a : α) (s : σ) : Asks (Pure.pure a) (Pure.pure a) s a [] s :=
  ⟨fun before => by rw [List.append_nil]; rfl, rfl, .nil s⟩

theorem bind {f : α → StateM (Journaled σ) β} {g : α → StateM σ β} (h : Asks x y s a k s₁)
    (h' : Asks (f a) (g a) s₁ b l s₂) : Asks (x >>= f) (y >>= g) s b (k ++ l) s₂ := by
  refine ⟨fun before => ?_, ?_, h.leads.append h'.leads⟩
  · rw [StateT.run_bind, h.journaled]
    exact (h'.journaled _).trans (by rw [List.append_assoc])
  · rw [StateT.run_bind, h.run]
    exact h'.run

theorem noted {request : Request} {done : Bool}
    (h : (request.perform : StateM σ Bool).run s = (done, s₁)) :
    Asks (Journaled.noted request) request.perform s done [(request, done)] s₁ := by
  refine ⟨fun before => ?_, h, .cons h (.nil s₁)⟩
  show (match (request.perform : StateM σ Bool).run s with
    | (done, s') => (done, Journaled.mk s' (before ++ [(request, done)]))) = _
  rw [h]

end Asks

namespace OutputFile

/-- The requests that create the directory of a file. -/
def creation (file : OutputFile) : Journal :=
  (Path.parent? file.path).toList.map fun parent => (.createDirectories parent, true)

/-- The requests that write a file. -/
def writing (file : OutputFile) : Journal :=
  file.creation ++ [(.writeFile file.path file.content, true)]

/-- The directory of a file cannot be created. -/
def RefusesParent (file : OutputFile) (parent : String) (k : Journal) : Prop :=
  Path.parent? file.path = some parent ∧ k = [(.createDirectories parent, false)]

/-- A file cannot be written: its directory cannot be created, or it is refused itself. -/
def RefusesWriting (file : OutputFile) (k : Journal) : Prop :=
  (∃ parent, file.RefusesParent parent k) ∨
    k = file.creation ++ [(.writeFile file.path file.content, false)]

/-! The requests of each operation. -/

theorem createParent_asks (file : OutputFile) (s : σ) :
    ∃ result k s', Asks (createParent file) (createParent file) s result k s' ∧
      (result = .ok () ∧ k = file.creation ∨
        ∃ parent, file.RefusesParent parent k ∧ result = .error parent) := by
  unfold createParent creation RefusesParent
  cases Path.parent? file.path with
  | none => exact ⟨_, _, _, .pure _ _, .inl ⟨rfl, rfl⟩⟩
  | some parent =>
    cases hdone : ((Request.createDirectories parent).perform : StateM σ Bool).run s with
    | mk done s₁ =>
      have hrequest := Asks.noted hdone
      cases done with
      | true => exact ⟨_, _, _, hrequest.bind (.pure _ _), .inl ⟨rfl, rfl⟩⟩
      | false => exact ⟨_, _, _, hrequest.bind (.pure _ _), .inr ⟨parent, ⟨rfl, rfl⟩, rfl⟩⟩

/-- Directories are created file by file, up to the first that is refused. -/
theorem createParents_asks (files : List OutputFile) (s : σ) :
    ∃ result k s', Asks (createParents files) (createParents files) s result k s' ∧
      (result = .ok () ∧ k = files.flatMap creation ∨
        ∃ before file after parent attempt, files = before ++ file :: after ∧
          file.RefusesParent parent attempt ∧ result = .error parent ∧
          k = before.flatMap creation ++ attempt) := by
  induction files generalizing s with
  | nil => exact ⟨_, _, _, .pure _ _, .inl ⟨rfl, rfl⟩⟩
  | cons first rest ih =>
    obtain ⟨_, k, s₁, hfirst, ⟨rfl, rfl⟩ | ⟨parent, hrefused, rfl⟩⟩ := createParent_asks first s
    · obtain ⟨_, l, s₂, hrest, hends⟩ := ih s₁
      refine ⟨_, _, _, hfirst.bind hrest, ?_⟩
      rcases hends with ⟨rfl, rfl⟩ | ⟨before, file, after, parent, attempt, rfl, hrefused, rfl, rfl⟩
      · exact .inl ⟨rfl, rfl⟩
      · refine .inr ⟨first :: before, file, after, parent, attempt, rfl, hrefused, rfl, ?_⟩
        rw [List.flatMap_cons, List.append_assoc]
    · refine ⟨_, _, _, hfirst.bind (.pure _ _), ?_⟩
      exact .inr ⟨[], first, rest, parent, k, rfl, hrefused, rfl, by simp⟩

theorem write_asks (file : OutputFile) (s : σ) :
    ∃ done k s', Asks (write file) (write file) s done k s' ∧
      (done = true ∧ k = file.writing ∨ done = false ∧ file.RefusesWriting k) := by
  obtain ⟨_, k, s₁, hparent, ⟨rfl, rfl⟩ | ⟨parent, hrefused, rfl⟩⟩ := createParent_asks file s
  · cases hdone : ((Request.writeFile file.path file.content).perform : StateM σ Bool).run s₁ with
    | mk done s₂ =>
      refine ⟨_, _, _, hparent.bind (Asks.noted hdone), ?_⟩
      cases done with
      | true => exact .inl ⟨rfl, rfl⟩
      | false => exact .inr ⟨rfl, .inr rfl⟩
  · refine ⟨_, _, _, hparent.bind (.pure _ _), .inr ⟨rfl, .inl ⟨parent, ?_⟩⟩⟩
    rwa [List.append_nil]

/-- Files are written in order, up to the first that is refused. -/
theorem writeAll_asks (files : List OutputFile) (s : σ) :
    ∃ result k s', Asks (writeAll files) (writeAll files) s result k s' ∧
      (result = .ok (files.map (·.path)) ∧ k = files.flatMap writing ∨
        ∃ before file after attempt, files = before ++ file :: after ∧
          file.RefusesWriting attempt ∧ result = .error file.path ∧
          k = before.flatMap writing ++ attempt) := by
  induction files generalizing s with
  | nil => exact ⟨_, _, _, .pure _ _, .inl ⟨rfl, rfl⟩⟩
  | cons first rest ih =>
    obtain ⟨_, k, s₁, hfirst, ⟨rfl, rfl⟩ | ⟨rfl, hrefused⟩⟩ := write_asks first s
    · obtain ⟨_, l, s₂, hrest, hends⟩ := ih s₁
      rcases hends with ⟨rfl, rfl⟩ | ⟨before, file, after, attempt, rfl, hrefused, rfl, rfl⟩
      · refine ⟨_, _, _, hfirst.bind (hrest.bind (.pure _ _)), .inl ⟨rfl, ?_⟩⟩
        rw [List.append_nil, List.flatMap_cons]
      · refine ⟨_, _, _, hfirst.bind (hrest.bind (.pure _ _)), .inr ⟨first :: before, file, after,
          attempt, rfl, hrefused, rfl, ?_⟩⟩
        rw [List.append_nil, List.flatMap_cons, List.append_assoc]
    · refine ⟨_, _, _, hfirst.bind (.pure _ _), ?_⟩
      exact .inr ⟨[], first, rest, k, rfl, hrefused, rfl, by simp⟩

/-- How flushing files ends, with the requests that it has made. -/
def FlushEnds (files : List OutputFile) (result : Except String (List String)) (k : Journal) :
    Prop :=
  (result = .ok (files.map (·.path)) ∧ k = files.flatMap creation ++ files.flatMap writing) ∨
  (∃ before file after parent attempt, files = before ++ file :: after ∧
    file.RefusesParent parent attempt ∧ result = .error parent ∧
    k = before.flatMap creation ++ attempt) ∨
  ∃ before file after attempt, files = before ++ file :: after ∧ file.RefusesWriting attempt ∧
    result = .error file.path ∧ k = files.flatMap creation ++ before.flatMap writing ++ attempt

theorem flush_asks (files : List OutputFile) (s : σ) :
    ∃ result k s', Asks (flush files) (flush files) s result k s' ∧ FlushEnds files result k := by
  obtain ⟨result, k, s₁, hparents, hends⟩ := createParents_asks files s
  rcases hends with ⟨rfl, rfl⟩ | ⟨before, file, after, parent, attempt, hsplit, hrefused, rfl, rfl⟩
  · obtain ⟨_, l, s₂, hfiles, hends⟩ := writeAll_asks files s₁
    refine ⟨_, _, _, hparents.bind hfiles, ?_⟩
    rcases hends with ⟨rfl, rfl⟩ | ⟨before, file, after, attempt, hsplit, hrefused, rfl, rfl⟩
    · exact .inl ⟨rfl, rfl⟩
    · refine .inr (.inr ⟨before, file, after, attempt, hsplit, hrefused, rfl, ?_⟩)
      rw [List.append_assoc]
  · refine ⟨_, _, _, hparents.bind (.pure _ _), .inr (.inl ⟨before, file, after, parent, attempt,
      hsplit, hrefused, rfl, ?_⟩)⟩
    rw [List.append_nil]

/-- A flush writes all files in order and reports their paths, or it ends with the first request
that is refused. If that is for a directory, before any file has been written, this directory is
the failure, and no file is asked for. Otherwise all directories have been created, the failure is
the path of a file, all files before it have been written with their contents, and nothing is asked
for behind its own requests. The journal holds all requests, whatever the file system answers, and
keeping it makes no difference. -/
theorem flush_stops_at_first_refusal (files : List OutputFile) (s : σ) :
    ∃ result journal s',
      (flush files : StateM (Journaled σ) (Except String (List String))).run ⟨s, []⟩ =
        (result, ⟨s', journal⟩) ∧
      (flush files : StateM σ (Except String (List String))).run s = (result, s') ∧
      journal.Leads s s' ∧
      ((result = .ok (files.map (·.path)) ∧
          journal = files.flatMap creation ++ files.flatMap writing) ∨
        (∃ before file after parent, files = before ++ file :: after ∧
          Path.parent? file.path = some parent ∧ result = .error parent ∧
          journal = before.flatMap creation ++ [(.createDirectories parent, false)]) ∨
        ∃ before file after attempt, files = before ++ file :: after ∧ result = .error file.path ∧
          journal = files.flatMap creation ++ before.flatMap writing ++ attempt ∧
          ((∃ parent, Path.parent? file.path = some parent ∧
              attempt = [(.createDirectories parent, false)]) ∨
            attempt = file.creation ++ [(.writeFile file.path file.content, false)])) := by
  obtain ⟨result, k, s', hflush, hends⟩ := flush_asks files s
  refine ⟨result, k, s', hflush.journaled [], hflush.run, hflush.leads, ?_⟩
  rcases hends with hok | ⟨before, file, after, parent, attempt, hsplit, ⟨hparent, rfl⟩, hresult,
    hk⟩ | ⟨before, file, after, attempt, hsplit, hrefused, hresult, hk⟩
  · exact .inl hok
  · exact .inr (.inl ⟨before, file, after, parent, hsplit, hparent, hresult, hk⟩)
  · exact .inr (.inr ⟨before, file, after, attempt, hsplit, hresult, hk, hrefused⟩)

end OutputFile

end DataLayer
