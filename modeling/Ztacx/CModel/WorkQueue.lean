import Ztacx.CModel.Run

/-!
# A work queue

Items of work wait in a queue and run one at a time.  An item is in the queue at most
once: to submit one that is waiting changes nothing, and while an item runs it is not
waiting.  A system is what its items do, and what the rest of the world does between
two of them; both may submit items (`System`).

What some items are there for is a property of the state.  The rule of this file is
about such a property: where everything that may break it submits one of the items, and
each of them establishes it or submits one again, the property holds or one of the items
is waiting, at any time (`Keeps.run`).  So it holds once the queue is empty
(`Keeps.of_idle`): no submission is lost, however many became one.
-/

namespace Ztacx.CModel.WorkQueue

variable {σ ι ε : Type*}

/-! ## The queue -/

section Queue

variable [DecidableEq ι]

/-- An item that is waiting already stays where it is. -/
def submit (queue : List ι) (work : ι) : List ι :=
  if work ∈ queue then queue else queue ++ [work]

/-- Some items are submitted, one after another. -/
def submitAll (queue works : List ι) : List ι := works.foldl submit queue

variable {queue works : List ι} {w : ι}

@[simp] theorem submitAll_nil (queue : List ι) : submitAll queue [] = queue := rfl

@[simp] theorem submitAll_cons (queue : List ι) (w : ι) (works : List ι) :
    submitAll queue (w :: works) = submitAll (submit queue w) works := rfl

@[simp] theorem mem_submit {v : ι} : w ∈ submit queue v ↔ w ∈ queue ∨ w = v := by
  unfold submit
  split
  · rename_i waiting
    constructor
    · exact Or.inl
    · rintro (mem | rfl)
      · exact mem
      · exact waiting
  · simp

@[simp] theorem mem_submitAll : w ∈ submitAll queue works ↔ w ∈ queue ∨ w ∈ works := by
  induction works generalizing queue with
  | nil => simp
  | cons v works ih => rw [submitAll_cons, ih, mem_submit, List.mem_cons, or_assoc]

end Queue

/-! ## Systems -/

/-- What the items do and what else happens: the next state, and the items that are
submitted, in order. -/
structure System (σ ι ε : Type*) where
  handle : ι → σ → Option (σ × List ι)
  act : ε → σ → Option (σ × List ι)

/-- A state with the items that are waiting. -/
structure Queued (σ ι : Type*) where
  state : σ
  queue : List ι
deriving DecidableEq, Repr

/-- Something happens, or the queue gets a turn. -/
inductive Event (ε : Type*)
  | act (e : ε)
  | turn
deriving DecidableEq, Repr

namespace System

variable [DecidableEq ι] (sys : System σ ι ε)

/-- The item at the front leaves the queue and runs. -/
def turn (q : Queued σ ι) : Option (Queued σ ι) :=
  match q.queue with
  | [] => some q
  | w :: queue => (sys.handle w q.state).map fun r => ⟨r.1, submitAll queue r.2⟩

def step (q : Queued σ ι) : Event ε → Option (Queued σ ι)
  | .act e => (sys.act e q.state).map fun r => ⟨r.1, submitAll q.queue r.2⟩
  | .turn => sys.turn q

variable {sys} {q q' : Queued σ ι} {w : ι} {queue : List ι} {e : ε}

theorem step_act_eq_some :
    sys.step q (.act e) = some q' ↔
      ∃ s works, sys.act e q.state = some (s, works) ∧ ⟨s, submitAll q.queue works⟩ = q' := by
  rw [step, Option.map_eq_some_iff, Prod.exists]

theorem step_turn_cons (front : q.queue = w :: queue) :
    sys.step q .turn = some q' ↔
      ∃ s works, sys.handle w q.state = some (s, works) ∧ ⟨s, submitAll queue works⟩ = q' := by
  rw [step, turn, front]
  exact Option.map_eq_some_iff.trans Prod.exists

theorem step_turn_nil (idle : q.queue = []) : sys.step q .turn = some q := by
  rw [step, turn, idle]

end System

/-- A side condition on what happens in a state. -/
def Meets (C : σ → ε → Prop) (q : Queued σ ι) : Event ε → Prop
  | .act e => C q.state e
  | .turn => True

/-! ## Nothing is lost -/

/-- The items `R` are there for the property `P`: what breaks it submits one of them, and
each of them establishes it or submits one.  `W` holds of all items that are ever
submitted, and `I` of all states. -/
structure Keeps (sys : System σ ι ε) (C : σ → ε → Prop) (W : ι → Prop) (I : σ → Prop)
    (R : ι → Prop) (P : σ → Prop) : Prop where
  act : ∀ {s e s' works}, I s → C s e → sys.act e s = some (s', works) →
    I s' ∧ (∀ w ∈ works, W w) ∧ (P s → P s' ∨ ∃ w ∈ works, R w)
  handle : ∀ {s v s' works}, I s → W v → sys.handle v s = some (s', works) →
    I s' ∧ (∀ w ∈ works, W w) ∧ (R v ∨ P s → P s' ∨ ∃ w ∈ works, R w)

/-- The property holds, or an item that is there for it is waiting. -/
structure Owed (W : ι → Prop) (I : σ → Prop) (R : ι → Prop) (P : σ → Prop) (q : Queued σ ι) :
    Prop where
  inv : I q.state
  items : ∀ w ∈ q.queue, W w
  owed : P q.state ∨ ∃ w ∈ q.queue, R w

section Keeps

variable [DecidableEq ι] {sys : System σ ι ε} {C : σ → ε → Prop} {W : ι → Prop} {I : σ → Prop}
  {R : ι → Prop} {P : σ → Prop} {q q' : Queued σ ι} {e : Event ε} {es : List (Event ε)}

theorem Owed.step (keeps : Keeps sys C W I R P) (h : Owed W I R P q) (meets : Meets C q e)
    (taken : sys.step q e = some q') : Owed W I R P q' := by
  cases e with
  | act e =>
      obtain ⟨s, works, acted, rfl⟩ := System.step_act_eq_some.mp taken
      obtain ⟨inv, items, kept⟩ := keeps.act h.inv meets acted
      refine ⟨inv, fun w mem => (mem_submitAll.mp mem).elim (h.items w) (items w), ?_⟩
      obtain before | ⟨w, waiting, there⟩ := h.owed
      · refine (kept before).imp_right ?_
        rintro ⟨w, submitted, there⟩
        exact ⟨w, mem_submitAll.mpr (.inr submitted), there⟩
      · exact .inr ⟨w, mem_submitAll.mpr (.inl waiting), there⟩
  | turn =>
      cases front : q.queue with
      | nil =>
          cases (System.step_turn_nil front).symm.trans taken
          exact h
      | cons v queue =>
          obtain ⟨s, works, handled, rfl⟩ := (System.step_turn_cons front).mp taken
          have items := front ▸ h.items
          obtain ⟨inv, submits, kept⟩ := keeps.handle h.inv (items v List.mem_cons_self) handled
          refine ⟨inv, fun w mem => (mem_submitAll.mp mem).elim
            (fun old => items w (List.mem_cons_of_mem v old)) (submits w), ?_⟩
          have established : R v ∨ P q.state →
              P s ∨ ∃ w ∈ submitAll queue works, R w := by
            refine fun reason => (kept reason).imp_right ?_
            rintro ⟨w, submitted, there⟩
            exact ⟨w, mem_submitAll.mpr (.inr submitted), there⟩
          -- the item that ran is the only one that has left the queue
          obtain before | ⟨w, waiting, there⟩ := h.owed
          · exact established (.inr before)
          · obtain rfl | later := List.mem_cons.mp (front ▸ waiting)
            · exact established (.inl there)
            · exact .inr ⟨w, mem_submitAll.mpr (.inl later), there⟩

/-- **Nothing is lost**: the property holds, or an item that is there for it is waiting,
at any time. -/
theorem Keeps.run (keeps : Keeps sys C W I R P) (h : Owed W I R P q)
    (meets : StepsMeet sys.step (Meets C) q es) (ran : run sys.step q es = some q') :
    Owed W I R P q' :=
  run_invariant (fun inv cond taken => inv.step keeps cond taken) h meets ran

/-- With an empty queue, the property holds. -/
theorem Keeps.of_idle (keeps : Keeps sys C W I R P) (h : Owed W I R P q)
    (meets : StepsMeet sys.step (Meets C) q es) (ran : CModel.run sys.step q es = some q')
    (idle : q'.queue = []) : P q'.state := by
  refine (keeps.run h meets ran).owed.resolve_right ?_
  rintro ⟨w, waiting, -⟩
  rw [idle] at waiting
  exact List.not_mem_nil waiting

end Keeps

end Ztacx.CModel.WorkQueue
