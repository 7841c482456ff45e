import DataLayer.Proofs.Template.Positions
import Mathlib.Data.List.DropRight

/-!
Positions over time. Blocks are entered and positions are asked for in any order and at any depth,
and every answer can be read off the history: a position is the number of requests for it since a
block was last entered at its level or further out, and no position is kept once every request for
one has been followed by such an entering.
-/

namespace DataLayer.Template.Positions

/-- What can be asked of positions. -/
inductive Request where
  | enter (level : Nat)
  | next (level tag : Nat)
  | isEmpty
  deriving DecidableEq, Repr

inductive Answer where
  | entered
  | position (n : Nat)
  | emptiness (b : Bool)
  deriving DecidableEq, Repr

/-- The answer to a request, and the positions that it leaves. -/
def ask (p : Positions) : Request → Answer × Positions
  | .enter level => (.entered, p.enterBlock level)
  | .next level tag => (.position (p.next level tag).1, (p.next level tag).2)
  | .isEmpty => (.emptiness p.isEmpty, p)

/-- The answers to requests that are made one after the other. -/
def answers (p : Positions) : List Request → List Answer
  | [] => []
  | request :: rest => (p.ask request).1 :: (p.ask request).2.answers rest

/-- The positions that a history of requests leaves. -/
def run (p : Positions) (history : List Request) : Positions :=
  history.foldl (fun q request => (q.ask request).2) p

/-- The request enters a block at a level or further out. -/
def Request.clears (level : Nat) : Request → Bool
  | enter l => l ≤ level
  | next _ _ => false
  | isEmpty => false

/-- The requests since a block was last entered at a level or further out, which are all requests
if none was. -/
def since (level : Nat) (history : List Request) : List Request :=
  history.rtakeWhile fun request => !request.clears level

theorem run_concat (p : Positions) (history : List Request) (request : Request) :
    p.run (history ++ [request]) = ((p.run history).ask request).2 :=
  List.foldl_concat ..

/-- A request is answered from the positions that those before it leave. -/
theorem getElem?_answers (p : Positions) (earlier : List Request) (request : Request)
    (later : List Request) :
    (p.answers (earlier ++ request :: later))[earlier.length]? =
      some ((p.run earlier).ask request).1 := by
  induction earlier generalizing p with
  | nil => rfl
  | cons first rest ih => exact ih (p.ask first).2

/-! What was asked since a block was entered. -/

theorem since_concat (level : Nat) (history : List Request) (request : Request) :
    since level (history ++ [request]) =
      if request.clears level then [] else since level history ++ [request] := by
  unfold since
  rw [List.rtakeWhile_concat]
  cases request.clears level <;> rfl

theorem since_append (level : Nat) (before : List Request) {after : List Request}
    (h : ∀ r ∈ after, r.clears level = false) :
    since level (before ++ after) = since level before ++ after := by
  have hkept : ∀ r ∈ after.reverse, (!r.clears level) = true := by
    intro r hr
    simp [h r (List.mem_reverse.mp hr)]
  unfold since List.rtakeWhile
  rw [List.reverse_append, List.takeWhile_append_of_pos hkept, List.reverse_append,
    List.reverse_reverse]

/-- A request stays among those since a block was entered until one is entered. -/
theorem mem_since_iff {level : Nat} {history : List Request} {request : Request} :
    request ∈ since level history ↔
      ∃ before after, history = before ++ request :: after ∧
        ∀ r ∈ request :: after, r.clears level = false := by
  constructor
  · intro hmem
    obtain ⟨start, after, hsince⟩ := List.append_of_mem hmem
    refine ⟨history.rdropWhile (fun r => !r.clears level) ++ start, after, ?_, ?_⟩
    · rw [List.append_assoc, ← hsince]
      exact List.rdropWhile_append_rtakeWhile.symm
    · intro r hr
      have hr' : r ∈ since level history := by
        rw [hsince]
        exact List.mem_append_right start hr
      simpa using List.mem_rtakeWhile_imp hr'
  · rintro ⟨before, after, rfl, hkept⟩
    rw [since_append level before hkept]
    exact List.mem_append_right _ (List.mem_cons_self ..)

theorem forall_clears_eq_false_iff {level : Nat} {history : List Request} :
    (∀ r ∈ history, r.clears level = false) ↔ ∀ l ≤ level, .enter l ∉ history := by
  constructor
  · intro hkept l hl hmem
    have hfalse : decide (l ≤ level) = false := hkept (.enter l) hmem
    exact of_decide_eq_false hfalse hl
  · intro hkept r hr
    cases r with
    | enter l => exact decide_eq_false fun hl => hkept l hl hr
    | next _ _ => rfl
    | isEmpty => rfl

theorem next_mem_since_iff {level tag : Nat} {history : List Request} :
    .next level tag ∈ since level history ↔
      ∃ before after, history = before ++ .next level tag :: after ∧
        ∀ l ≤ level, .enter l ∉ after := by
  rw [mem_since_iff]
  refine exists_congr fun before => exists_congr fun after => and_congr_right fun _ => ?_
  rw [forall_clears_eq_false_iff]
  simp

/-! What is kept. -/

/-- A request clears a count, adds one to it or leaves it alone. -/
theorem count_ask (p : Positions) (request : Request) (level tag : Nat) :
    (p.ask request).2.count level tag =
      if request.clears level then 0
      else p.count level tag + if request = .next level tag then 1 else 0 := by
  cases request with
  | enter l =>
    show (p.enterBlock l).count level tag = _
    rw [count_enterBlock]
    by_cases h : l ≤ level
    · simp [Request.clears, h, Nat.not_lt_of_le h]
    · simp [Request.clears, h, Nat.lt_of_not_le h]
  | next l t =>
    show (p.next l t).2.count level tag = _
    rw [count_next]
    simp [Request.clears, Prod.ext_iff, eq_comm]
  | isEmpty => simp [ask, Request.clears]

/-- A count is the number of requests for it since a block was entered at its level or further
out. -/
theorem count_run (history : List Request) (level tag : Nat) :
    (empty.run history).count level tag = (since level history).count (.next level tag) := by
  -- By the latest request: the blocks that clear the count are those that start `since` anew.
  induction history using List.reverseRecOn with
  | nil => rfl
  | append_singleton history request ih =>
    rw [run_concat, count_ask, since_concat, ih]
    split
    · rfl
    · rw [List.count_append, List.count_singleton]
      simp

/-- A count is kept only once it has been asked for. -/
def Positive (p : Positions) : Prop := ∀ e ∈ p.counts, 0 < e.2

theorem Positive.bump {counts : List ((Nat × Nat) × Nat)} (h : Positive ⟨counts⟩)
    (key : Nat × Nat) : Positive ⟨bump key counts⟩ := by
  induction counts with
  | nil => simp [Positive, Positions.bump]
  | cons e rest ih =>
    obtain ⟨hfirst, hrest⟩ := List.forall_mem_cons.mp h
    unfold Positions.bump
    split
    · exact List.forall_mem_cons.mpr ⟨Nat.succ_pos _, hrest⟩
    · exact List.forall_mem_cons.mpr ⟨hfirst, ih hrest⟩

theorem Positive.ask {p : Positions} (h : p.Positive) (request : Request) :
    (p.ask request).2.Positive := by
  cases request with
  | enter level => exact fun e he => h e (List.mem_of_mem_filter he)
  | next level tag => exact Positive.bump h (level, tag)
  | isEmpty => exact h

theorem positive_run (history : List Request) : (empty.run history).Positive := by
  induction history using List.reverseRecOn with
  | nil => simp [Positive, run, empty]
  | append_singleton history request ih =>
    rw [run_concat]
    exact ih.ask request

theorem Positive.isEmpty_iff {p : Positions} (h : p.Positive) :
    p.isEmpty = true ↔ ∀ level tag, p.count level tag = 0 := by
  obtain ⟨counts⟩ := p
  cases counts with
  | nil => exact iff_of_true rfl fun _ _ => rfl
  | cons e rest =>
    obtain ⟨⟨level, tag⟩, n⟩ := e
    have hpos : 0 < n := h ((level, tag), n) (List.mem_cons_self ..)
    have hcount : count ⟨((level, tag), n) :: rest⟩ level tag = n := by simp [count]
    refine iff_of_false (by simp [isEmpty]) fun hzero => ?_
    rw [hzero level tag] at hcount
    omega

/-- Positions are empty exactly if a block has cleared each request for one. -/
theorem isEmpty_run (history : List Request) :
    (empty.run history).isEmpty = true ↔
      ∀ before level tag after, history = before ++ .next level tag :: after →
        ∃ l ≤ level, .enter l ∈ after := by
  rw [(positive_run history).isEmpty_iff]
  simp only [count_run, List.count_eq_zero, next_mem_since_iff]
  constructor
  · intro hnone before level tag after hhistory
    by_contra hkept
    push Not at hkept
    exact hnone level tag ⟨before, after, hhistory, hkept⟩
  · rintro hall level tag ⟨before, after, hhistory, hkept⟩
    obtain ⟨l, hl, hmem⟩ := hall before level tag after hhistory
    exact hkept l hl hmem

/-- Whatever is asked before and after, from fresh positions a request for a position is answered
with the number of equal requests since a block was last entered at its level or further out, and
positions are said to be empty exactly if such a block was entered after each request for one. -/
theorem answers_follow_history (earlier later : List Request) :
    (∀ level tag,
      (empty.answers (earlier ++ .next level tag :: later))[earlier.length]? =
        some (.position ((since level earlier).count (.next level tag)))) ∧
    ∃ cleared,
      (empty.answers (earlier ++ .isEmpty :: later))[earlier.length]? =
        some (.emptiness cleared) ∧
      (cleared = true ↔
        ∀ before level tag after, earlier = before ++ .next level tag :: after →
          ∃ l ≤ level, .enter l ∈ after) := by
  refine ⟨fun level tag => ?_, (empty.run earlier).isEmpty, ?_, isEmpty_run earlier⟩
  · rw [getElem?_answers, ← count_run]
    rfl
  · exact getElem?_answers ..

/-- A block at level 1 clears two of three positions, and one at level 0 all of them. -/
example :
    empty.answers [.next 0 1, .next 1 1, .next 2 1, .enter 1, .next 0 1, .next 1 1, .enter 2,
      .next 1 1, .isEmpty, .enter 0, .isEmpty] =
    [.position 0, .position 0, .position 0, .entered, .position 1, .position 0, .entered,
      .position 1, .emptiness false, .entered, .emptiness true] := by
  decide

end DataLayer.Template.Positions
