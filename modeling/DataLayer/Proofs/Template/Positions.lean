import DataLayer.Template.Keyword

/-!
What the operations on positions do to the count of every tag at every level, and how the result
of a rendering and the positions that it leaves behind are put together from those of its steps.
-/

namespace DataLayer.Template

namespace Positions

@[simp] theorem count_empty (level tag : Nat) : empty.count level tag = 0 := rfl

theorem lookup_bump (key k : Nat × Nat) (counts : List ((Nat × Nat) × Nat)) :
    ((bump key counts).lookup k).getD 0 =
      (counts.lookup k).getD 0 + if k = key then 1 else 0 := by
  induction counts with
  | nil => by_cases h : k = key <;> simp [bump, List.lookup_cons, h, beq_false_of_ne]
  | cons e rest ih =>
    obtain ⟨k', n⟩ := e
    unfold bump
    split
    · next he =>
      subst he
      by_cases h : k = k' <;> simp [List.lookup_cons, h, beq_false_of_ne]
    · next he =>
      by_cases h : k = k'
      · subst h
        simp [he]
      · simp only [List.lookup_cons, beq_false_of_ne h, ih]

/-- Asking for a position adds one to the count that it is asked for and to no other. -/
theorem count_next (p : Positions) (level tag l t : Nat) :
    (p.next level tag).2.count l t =
      p.count l t + if (l, t) = (level, tag) then 1 else 0 :=
  lookup_bump (level, tag) (l, t) p.counts

/-- Entering a block clears the counts at its level and below, and no others. -/
theorem count_enterBlock (p : Positions) (level l t : Nat) :
    (p.enterBlock level).count l t = if l < level then p.count l t else 0 := by
  obtain ⟨counts⟩ := p
  simp only [count, enterBlock]
  induction counts with
  | nil => simp
  | cons e rest ih =>
    obtain ⟨⟨l', t'⟩, n⟩ := e
    rw [List.filter_cons]
    by_cases hl : l' < level <;> by_cases h : (l, t) = (l', t')
    · obtain ⟨rfl, rfl⟩ := Prod.mk.inj h
      simp [hl]
    · simp [hl, List.lookup_cons, beq_false_of_ne h, ih]
    · obtain ⟨rfl, rfl⟩ := Prod.mk.inj h
      simp [hl, ih]
    · simp [hl, List.lookup_cons, beq_false_of_ne h, ih]

end Positions

/-- From positions `p` a rendering has the result `r`, and unless it fails it leaves positions that
satisfy `after`. -/
def Gives {α : Type} (x : RenderM α) (p : Positions) (r : Except TemplateError α)
    (after : Positions → Prop) : Prop :=
  ∃ q, x.run.run p = (r, q) ∧ ((∃ a, r = .ok a) → after q)

namespace Gives

variable {α β : Type} {p : Positions} {after : Positions → Prop}

theorem pure (a : α) (h : after p) : Gives (Pure.pure a) p (.ok a) after := ⟨p, rfl, fun _ => h⟩

theorem throw (e : TemplateError) : Gives (throw e : RenderM α) p (.error e) after :=
  ⟨p, rfl, fun h => by simp at h⟩

theorem modify {f : Positions → Positions} (h : after (f p)) :
    Gives (modify f) p (.ok ()) after := ⟨f p, rfl, fun _ => h⟩

theorem except (r : Except TemplateError α) (h : after p) :
    Gives (ExceptT.mk (Pure.pure r)) p r after := ⟨p, rfl, fun _ => h⟩

theorem bind {x : RenderM α} {r : Except TemplateError α} {between : Positions → Prop}
    {f : α → RenderM β} {g : α → Except TemplateError β} (hx : Gives x p r between)
    (hf : ∀ a q, r = .ok a → between q → Gives (f a) q (g a) after) :
    Gives (x >>= f) p (r >>= g) after := by
  obtain ⟨q, hq, hbetween⟩ := hx
  cases r with
  | error e =>
    refine ⟨q, ?_, fun h => ?_⟩
    · show (ExceptT.bindCont f (x.run.run p).1).run (x.run.run p).2 = _
      rw [hq]
      rfl
    · obtain ⟨_, ha⟩ := h
      contradiction
  | ok a =>
    obtain ⟨q', hq', hafter⟩ := hf a q rfl (hbetween ⟨a, rfl⟩)
    refine ⟨q', ?_, hafter⟩
    show (ExceptT.bindCont f (x.run.run p).1).run (x.run.run p).2 = _
    rw [hq]
    exact hq'

/-- A step that only changes positions comes first. -/
theorem after_step {x : RenderM Unit} {r : Except TemplateError β} {between : Positions → Prop}
    {f : Unit → RenderM β} (hx : Gives x p (.ok ()) between)
    (hf : ∀ q, between q → Gives (f ()) q r after) : Gives (x >>= f) p r after :=
  show Gives (x >>= f) p ((Except.ok () : Except TemplateError Unit) >>= fun _ => r) after from
    hx.bind fun _ q _ hq => hf q hq

theorem imp {x : RenderM α} {r : Except TemplateError α} {after' : Positions → Prop}
    (h : Gives x p r after) (hq : ∀ q, after q → after' q) : Gives x p r after' := by
  obtain ⟨q, hr, hafter⟩ := h
  exact ⟨q, hr, fun ha => hq q (hafter ha)⟩

end Gives

end DataLayer.Template
