import Mathlib.Data.List.Basic
import Mathlib.Data.List.Induction

/-!
# Runs of a partial step function

A system is a function `step : σ → ε → Option σ`: `none` is an event that is not
enabled, or one after which there is no state any more.  A *run* feeds a list of
events to it.  What a verification wants from a run is always one of these rules,
proved here once:

* `run_invariant` — a predicate that holds initially and that every step keeps
  holds in the state a run reaches, where a step only has to keep it when it
  meets a side condition `C` (`StepsMeet`).
* `progress_throughout` — the same, for a system that no event of the domain
  can stop.
* `run_simulates` — a run of a system whose steps follow a function of an abstract
  state follows the fold of that function; `run_follows` says so of the runs that go
  through, where not every step is enabled.
* `run_since` — what comes to hold in a run was brought about by one step and has held
  ever since.
* `throughout_iff_stepsMeet` — when a step that does *not* meet `C` breaks the
  property at once, the property holds in every state along the run exactly
  when all its steps meet `C`.
* `safe_iff_meets` — the same where the property also asks that the run goes
  through, so that a step may break it by not being enabled (`Safe`, `Meets`).
* `Meets.of_part` — a side condition on a part of the state can be checked on the
  part; `run_forward_of_part` is the rule of forward simulation beside such a part, where
  the abstract system may stop itself.

`Throughout P` is the property at every state along the run, stated over the
prefixes of the event list.
-/

namespace Ztacx.CModel

universe u v

variable {σ : Type u} {ε : Type v} (step : σ → ε → Option σ)

/-- Feed the events to the system, one after another. -/
def run : σ → List ε → Option σ
  | s, [] => some s
  | s, e :: es => (step s e).bind fun s' => run s' es

/-- Every step the run takes meets the side condition. -/
def StepsMeet (C : σ → ε → Prop) : σ → List ε → Prop
  | _, [] => True
  | s, e :: es => ∀ s', step s e = some s' → C s e ∧ StepsMeet C s' es

/-- The property holds in every state along the run. -/
def Throughout (P : σ → Prop) (s : σ) (es : List ε) : Prop :=
  ∀ pre, pre <+: es → ∀ s', run step s pre = some s' → P s'

@[simp] theorem run_nil (s : σ) : run step s [] = some s := rfl

theorem run_cons (s : σ) (e : ε) (es : List ε) :
    run step s (e :: es) = (step s e).bind fun s' => run step s' es := rfl

variable {step} in
theorem run_cons_eq_some {s t : σ} {e : ε} {es : List ε} :
    run step s (e :: es) = some t ↔ ∃ s', step s e = some s' ∧ run step s' es = some t := by
  rw [run_cons]
  exact Option.bind_eq_some_iff

/-- A run comes to an end after its first part, or goes on from there. -/
theorem run_append (s : σ) (es es' : List ε) :
    run step s (es ++ es') = (run step s es).bind fun t => run step t es' := by
  induction es generalizing s with
  | nil => rfl
  | cons e es ih =>
      rw [List.cons_append, run_cons, run_cons, Option.bind_assoc]
      congr 1
      funext s'
      exact ih s'

variable {step} in
/-- A run that goes on. -/
theorem run_append_eq_some {s t u : σ} {es es' : List ε} (first : run step s es = some t)
    (second : run step t es' = some u) : run step s (es ++ es') = some u := by
  rw [run_append, first]
  exact second

variable {step} in
/-- A run and one more step. -/
theorem run_concat_eq_some {s u : σ} {es : List ε} {e : ε} :
    run step s (es ++ [e]) = some u ↔ ∃ t, run step s es = some t ∧ step t e = some u := by
  rw [run_append, Option.bind_eq_some_iff]
  simp only [run_cons, run_nil, Option.bind_fun_some]

@[simp] theorem stepsMeet_nil (C : σ → ε → Prop) (s : σ) : StepsMeet step C s [] := trivial

theorem stepsMeet_of_forall {C : σ → ε → Prop} (all : ∀ s e, C s e) (s : σ) (es : List ε) :
    StepsMeet step C s es := by
  induction es generalizing s with
  | nil => trivial
  | cons e es ih => exact fun s' _ => ⟨all s e, ih s'⟩

variable {step}

/-- A condition on the events alone. -/
theorem stepsMeet_of_events {D : ε → Prop} {es : List ε} (all : ∀ e ∈ es, D e) (s : σ) :
    StepsMeet step (fun _ => D) s es := by
  induction es generalizing s with
  | nil => trivial
  | cons e es ih =>
      obtain ⟨here, later⟩ := List.forall_mem_cons.mp all
      exact fun s' _ => ⟨here, ih later s'⟩

/-- **The invariant rule**, with a side condition on the steps. -/
theorem run_invariant {I : σ → Prop} {C : σ → ε → Prop}
    (keeps : ∀ {s e s'}, I s → C s e → step s e = some s' → I s') :
    ∀ {s : σ} {es : List ε} {t : σ},
      I s → StepsMeet step C s es → run step s es = some t → I t := by
  intro s es
  induction es generalizing s with
  | nil =>
      intro t init _ reached
      cases reached
      exact init
  | cons e es ih =>
      intro t init meets reached
      obtain ⟨s', taken, rest⟩ := run_cons_eq_some.mp reached
      obtain ⟨cond, meets'⟩ := meets s' taken
      exact ih (keeps init cond taken) meets' rest

/-- The invariant rule for a predicate that every step keeps. -/
theorem run_invariant_of_step {I : σ → Prop}
    (keeps : ∀ {s e s'}, I s → step s e = some s' → I s') {s t : σ} {es : List ε}
    (init : I s) (reached : run step s es = some t) : I t :=
  run_invariant (C := fun _ _ => True) (fun inv _ taken => keeps inv taken) init
    (stepsMeet_of_forall step (fun _ _ => trivial) s es) reached

/-- **The following rule.**  When every step that is taken on an event of the domain `D`
follows a function `f` of an abstract state, up to `R`, a run follows the fold of `f`. -/
theorem run_follows_within {α : Type*} {R : σ → α → Prop} {D : ε → Prop} {f : α → ε → α}
    (follows : ∀ {s a e s'}, R s a → D e → step s e = some s' → R s' (f a e)) {s t : σ} {a : α}
    {es : List ε} (related : R s a) (within : ∀ e ∈ es, D e) (reached : run step s es = some t) :
    R t (es.foldl f a) := by
  induction es generalizing s a with
  | nil =>
      cases reached
      exact related
  | cons e es ih =>
      obtain ⟨here, later⟩ := List.forall_mem_cons.mp within
      obtain ⟨s', taken, rest⟩ := run_cons_eq_some.mp reached
      exact ih (follows related here taken) later rest

/-- The following rule for a function that every step follows. -/
theorem run_follows {α : Type*} {R : σ → α → Prop} {f : α → ε → α}
    (follows : ∀ {s a e s'}, R s a → step s e = some s' → R s' (f a e)) {s t : σ} {a : α}
    {es : List ε} (related : R s a) (reached : run step s es = some t) :
    R t (es.foldl f a) :=
  run_follows_within (D := fun _ => True) (f := f) (fun related _ taken => follows related taken)
    related (fun _ _ => trivial) reached

/-- The invariant rule for the events of a domain. -/
theorem run_invariant_within {I : σ → Prop} {D : ε → Prop}
    (keeps : ∀ {s e s'}, I s → D e → step s e = some s' → I s') {s t : σ} {es : List ε}
    (init : I s) (within : ∀ e ∈ es, D e) (reached : run step s es = some t) : I t :=
  run_follows_within (R := fun s (_ : Unit) => I s) (D := D) (f := fun u _ => u) (a := ())
    (fun inv here taken => keeps inv here taken) init within reached

theorem throughout_cons {P : σ → Prop} {s : σ} {e : ε} {es : List ε} :
    Throughout step P s (e :: es) ↔
      P s ∧ ∀ s', step s e = some s' → Throughout step P s' es := by
  constructor
  · intro all
    refine ⟨all [] (List.nil_prefix) s rfl, fun s' taken pre hpre t reached => ?_⟩
    refine all (e :: pre) ((List.prefix_cons_inj e).mpr hpre) t ?_
    rw [run_cons, taken]
    exact reached
  · rintro ⟨here, later⟩ pre hpre t reached
    cases pre with
    | nil => cases reached; exact here
    | cons f pre =>
        obtain ⟨rfl, hpre'⟩ := List.cons_prefix_cons.mp hpre
        obtain ⟨s', taken, rest⟩ := run_cons_eq_some.mp reached
        exact later s' taken pre hpre' t rest

theorem Throughout.mono {P Q : σ → Prop} {s : σ} {es : List ε}
    (all : Throughout step P s es) (weaker : ∀ {t}, P t → Q t) : Throughout step Q s es :=
  fun pre hpre t reached => weaker (all pre hpre t reached)

theorem throughout_nil {P : σ → Prop} {s : σ} (here : P s) : Throughout step P s [] := by
  intro pre hpre t reached
  cases List.prefix_nil.mp hpre
  cases reached
  exact here

/-- One more step at the end. -/
theorem Throughout.concat {P : σ → Prop} {s u : σ} {es : List ε} {e : ε}
    (all : Throughout step P s es) (ran : run step s (es ++ [e]) = some u) (now : P u) :
    Throughout step P s (es ++ [e]) := by
  intro pre hpre t reached
  obtain rfl | shorter := List.prefix_concat_iff.mp hpre
  · cases ran.symm.trans reached
    exact now
  · exact all pre shorter t reached

/-- **The last change.**  What does not hold at the start of a run and holds at its end was
brought about by one of its steps, and has held ever since. -/
theorem run_since {P : σ → Prop} {s t : σ} {es : List ε} (start : ¬ P s)
    (ran : run step s es = some t) (now : P t) :
    ∃ before e after r r', es = before ++ e :: after ∧ run step s before = some r ∧ ¬ P r ∧
      step r e = some r' ∧ Throughout step P r' after := by
  induction es using List.reverseRecOn generalizing t with
  | nil =>
      cases ran
      exact absurd now start
  | append_singleton es e ih =>
      obtain ⟨q, ran', taken⟩ := run_concat_eq_some.mp ran
      by_cases held : P q
      · obtain ⟨before, e', after, r, r', rfl, first, not, change, since⟩ := ih ran' held
        refine ⟨before, e', after ++ [e], r, r', ?_, first, not, change, ?_⟩
        · rw [List.append_assoc, List.cons_append]
        · refine since.concat ?_ now
          rw [List.append_assoc, List.cons_append, run_append, first, Option.bind_some, run_cons,
            change, Option.bind_some] at ran
          exact ran
      · exact ⟨es, e, [], q, t, rfl, ran', held, taken, throughout_nil now⟩

/-- **The progress rule.**  When every step is enabled on the events of a domain
`D`, and keeps the invariant if it meets `C`, a run whose steps meet `C` goes
through, and the invariant holds all along it. -/
theorem progress_throughout {I : σ → Prop} {C : σ → ε → Prop} {D : ε → Prop}
    (moves : ∀ {s e}, I s → D e → ∃ s', step s e = some s' ∧ (C s e → I s')) :
    ∀ {s : σ} {es : List ε}, I s → (∀ e ∈ es, D e) → StepsMeet step C s es →
      (∃ t, run step s es = some t) ∧ Throughout step I s es := by
  intro s es
  induction es generalizing s with
  | nil =>
      intro init _ _
      exact ⟨⟨s, rfl⟩, throughout_nil init⟩
  | cons e es ih =>
      intro init within meets
      obtain ⟨here, later⟩ := List.forall_mem_cons.mp within
      obtain ⟨s', taken, keeps⟩ := moves init here
      -- the side condition is only known once the step is taken
      obtain ⟨cond, meets'⟩ := meets s' taken
      obtain ⟨⟨t, reached⟩, all⟩ := ih (keeps cond) later meets'
      refine ⟨⟨t, ?_⟩, throughout_cons.mpr ⟨init, fun u taken' => ?_⟩⟩
      · rw [run_cons, taken]
        exact reached
      · cases taken.symm.trans taken'
        exact all

/-- **The simulation rule.**  When every step on an event of the domain `D` is enabled and
follows a function `f` of an abstract state, up to `R`, a run follows the fold of `f`. -/
theorem run_simulates {α : Type*} {R : σ → α → Prop} {D : ε → Prop} {f : α → ε → α}
    (moves : ∀ {s a e}, R s a → D e → ∃ s', step s e = some s' ∧ R s' (f a e)) :
    ∀ {s : σ} {a : α} {es : List ε}, R s a → (∀ e ∈ es, D e) →
      ∃ t, run step s es = some t ∧ R t (es.foldl f a) := by
  intro s a es
  induction es generalizing s a with
  | nil =>
      intro related _
      exact ⟨s, rfl, related⟩
  | cons e es ih =>
      intro related within
      obtain ⟨here, later⟩ := List.forall_mem_cons.mp within
      obtain ⟨s', taken, related'⟩ := moves related here
      obtain ⟨t, reached, final⟩ := ih related' later
      exact ⟨t, run_cons_eq_some.mpr ⟨s', taken, reached⟩, final⟩

/-- `StepsMeet` and `Throughout` can be evaluated on a concrete run. -/
instance decidableStepsMeet {C : σ → ε → Prop} [∀ s e, Decidable (C s e)] :
    (s : σ) → (es : List ε) → Decidable (StepsMeet step C s es)
  | _, [] => isTrue trivial
  | s, e :: es =>
    match taken : step s e with
    | none => isTrue fun s' taken' => by cases taken.symm.trans taken'
    | some s' =>
      have := decidableStepsMeet (C := C) s' es
      decidable_of_iff (C s e ∧ StepsMeet step C s' es)
        ⟨fun both t taken' => by
          cases taken.symm.trans taken'
          exact both, fun meets => meets s' taken⟩

instance decidableThroughout {P : σ → Prop} [DecidablePred P] :
    (s : σ) → (es : List ε) → Decidable (Throughout step P s es)
  | s, [] => decidable_of_iff (P s) ⟨throughout_nil, fun all => all [] List.nil_prefix s rfl⟩
  | s, e :: es =>
    match taken : step s e with
    | none => decidable_of_iff (P s)
        ⟨fun holds => throughout_cons.mpr
          ⟨holds, fun s' taken' => by cases taken.symm.trans taken'⟩,
          fun all => (throughout_cons.mp all).1⟩
    | some s' =>
      have := decidableThroughout (P := P) s' es
      decidable_of_iff (P s ∧ Throughout step P s' es)
        ⟨fun both => throughout_cons.mpr ⟨both.1, fun t taken' => by
          cases taken.symm.trans taken'
          exact both.2⟩,
          fun all => ⟨(throughout_cons.mp all).1, (throughout_cons.mp all).2 s' taken⟩⟩

/-- The invariant rule along a run, for runs that stay inside a domain `D`: the
invariant holds in every state reached, and so does what follows from it. -/
theorem throughout_of_stepsMeet {I D P : σ → Prop} {C : σ → ε → Prop}
    (enough : ∀ {s}, I s → P s)
    (keeps : ∀ {s e s'}, I s → D s → C s e → step s e = some s' → D s' → I s') :
    ∀ {s : σ} {es : List ε}, I s → Throughout step D s es → StepsMeet step C s es →
      Throughout step P s es := by
  intro s es
  induction es generalizing s with
  | nil =>
      intro init _ _
      exact throughout_nil (enough init)
  | cons e es ih =>
      intro init within meets
      obtain ⟨here, later⟩ := throughout_cons.mp within
      refine throughout_cons.mpr ⟨enough init, fun s' taken => ?_⟩
      obtain ⟨cond, meets'⟩ := meets s' taken
      have within' := later s' taken
      have here' : D s' := within' [] List.nil_prefix s' rfl
      exact ih (keeps init here cond taken here') within' meets'

/-- **The exact side condition of a safety property.**  `I` is the invariant
that carries the induction; a step outside `C` loses the property on the spot,
so no later step can hide it from `Throughout`. -/
theorem throughout_iff_stepsMeet {P I : σ → Prop} {C : σ → ε → Prop}
    (enough : ∀ {s}, I s → P s)
    (keeps : ∀ {s e s'}, I s → C s e → step s e = some s' → I s')
    (breaks : ∀ {s e s'}, I s → ¬ C s e → step s e = some s' → ¬ P s') :
    ∀ {s : σ} {es : List ε}, I s → (Throughout step P s es ↔ StepsMeet step C s es) := by
  intro s es
  induction es generalizing s with
  | nil =>
      intro init
      exact iff_of_true (throughout_nil (enough init)) trivial
  | cons e es ih =>
      intro init
      rw [throughout_cons]
      constructor
      · rintro ⟨-, later⟩ s' taken
        have holds : P s' := later s' taken [] List.nil_prefix s' rfl
        have cond : C s e := by
          by_contra bad
          exact breaks init bad taken holds
        exact ⟨cond, (ih (keeps init cond taken)).mp (later s' taken)⟩
      · intro meets
        refine ⟨enough init, fun s' taken => ?_⟩
        obtain ⟨cond, meets'⟩ := meets s' taken
        exact (ih (keeps init cond taken)).mpr meets'

/-! ## Runs that must not stop -/

/-- Every event of the run meets the side condition in the state it comes to, also one
that is not enabled there. -/
def Meets (step : σ → ε → Option σ) (C : σ → ε → Prop) : σ → List ε → Prop
  | _, [] => True
  | s, e :: es => C s e ∧ ∀ s', step s e = some s' → Meets step C s' es

/-- The run goes through, and the property holds in every state along it. -/
def Safe (step : σ → ε → Option σ) (P : σ → Prop) (s : σ) (es : List ε) : Prop :=
  (∃ t, run step s es = some t) ∧ Throughout step P s es

theorem safe_nil {P : σ → Prop} {s : σ} (holds : P s) : Safe step P s [] :=
  ⟨⟨s, rfl⟩, throughout_nil holds⟩

theorem safe_cons {P : σ → Prop} {s : σ} {e : ε} {es : List ε} :
    Safe step P s (e :: es) ↔ P s ∧ ∃ s', step s e = some s' ∧ Safe step P s' es := by
  unfold Safe
  rw [run_cons, throughout_cons]
  cases taken : step s e with
  | none => simp
  | some s' => simp [and_left_comm]

/-- **A run whose events all meet the side condition** goes through, on the events of a
domain `D`. -/
theorem safe_of_meets {P I : σ → Prop} {C : σ → ε → Prop} {D : ε → Prop}
    (enough : ∀ {s}, I s → P s)
    (moves : ∀ {s e}, I s → D e → C s e → ∃ s', step s e = some s' ∧ I s') :
    ∀ {s : σ} {es : List ε}, I s → (∀ e ∈ es, D e) → Meets step C s es →
      Safe step P s es := by
  intro s es
  induction es generalizing s with
  | nil => exact fun init _ _ => safe_nil (enough init)
  | cons e es ih =>
      rintro init within ⟨cond, meets⟩
      obtain ⟨here, later⟩ := List.forall_mem_cons.mp within
      obtain ⟨s', taken, inv⟩ := moves init here cond
      exact safe_cons.mpr ⟨enough init, s', taken, ih inv later (meets s' taken)⟩

/-- **The exact side condition of a run that must go through**: a step outside `C` is not
enabled, or it loses the property on the spot. -/
theorem safe_iff_meets {P I : σ → Prop} {C : σ → ε → Prop} {D : ε → Prop}
    (enough : ∀ {s}, I s → P s)
    (moves : ∀ {s e}, I s → D e → C s e → ∃ s', step s e = some s' ∧ I s')
    (breaks : ∀ {s e s'}, I s → D e → ¬ C s e → step s e = some s' → ¬ P s')
    {s : σ} {es : List ε} (init : I s) (within : ∀ e ∈ es, D e) :
    Safe step P s es ↔ Meets step C s es := by
  refine ⟨fun safe => ?_, safe_of_meets enough moves init within⟩
  induction es generalizing s with
  | nil => trivial
  | cons e es ih =>
      obtain ⟨here, later⟩ := List.forall_mem_cons.mp within
      obtain ⟨-, s', taken, safe⟩ := safe_cons.mp safe
      have cond : C s e := by
        by_contra bad
        exact breaks init here bad taken (safe.2 [] List.nil_prefix s' rfl)
      obtain ⟨t, taken', inv⟩ := moves init here cond
      cases taken.symm.trans taken'
      refine ⟨cond, fun u taken' => ?_⟩
      cases taken.symm.trans taken'
      exact ih inv later safe

/-- **The projection rule.**  A side condition on the part of the state that `part` projects to
is met along a run of the whole when it is met along the run of the part. -/
theorem Meets.of_part {σ' : Type*} {ε' : Type*} {step' : σ' → ε' → Option σ'}
    {C : σ' → ε' → Prop} {part : σ → σ'} {event : ε → ε'}
    (projects : ∀ {s e t}, step s e = some t → step' (part s) (event e) = some (part t)) :
    ∀ {s : σ} {es : List ε}, Meets step' C (part s) (es.map event) →
      Meets step (fun s e => C (part s) (event e)) s es := by
  intro s es
  induction es generalizing s with
  | nil => exact fun _ => trivial
  | cons e es ih =>
      rintro ⟨cond, meets⟩
      exact ⟨cond, fun s' taken => ih (meets (part s') (projects taken))⟩

/-- **The forward simulation rule beside a part.**  The abstract system knows nothing of a part
of the state; on the events that reach the part, the side condition is about the part's own run. -/
theorem run_forward_of_part {α π ε' : Type*} {R : σ → α → Prop} {step' : α → ε → Option α}
    {partStep : π → ε' → Option π} {C : π → ε' → Prop} {part : σ → π} {event : ε → Option ε'}
    (moves : ∀ {s a e a'}, R s a → step' a e = some a' → (∀ e' ∈ event e, C (part s) e') →
      ∃ s', step s e = some s' ∧ R s' a' ∧
        run partStep (part s) (event e).toList = some (part s'))
    {s : σ} {a a' : α} {es : List ε} (related : R s a) (ran : run step' a es = some a')
    (meets : Meets partStep C (part s) (es.filterMap event)) :
    ∃ s', run step s es = some s' ∧ R s' a' := by
  induction es generalizing s a with
  | nil =>
      cases ran
      exact ⟨s, rfl, related⟩
  | cons e es ih =>
      obtain ⟨b, taken, rest⟩ := run_cons_eq_some.mp ran
      cases which : event e with
      | none =>
          rw [List.filterMap_cons_none which] at meets
          obtain ⟨t, moved, related', same⟩ := moves related taken
            (by rw [which]; exact fun _ none => absurd none (Option.not_mem_none _))
          rw [which] at same
          obtain ⟨s', reached, final⟩ := ih related' rest (Option.some.inj same ▸ meets)
          exact ⟨s', run_cons_eq_some.mpr ⟨t, moved, reached⟩, final⟩
      | some e' =>
          rw [List.filterMap_cons_some which] at meets
          obtain ⟨cond, later⟩ := meets
          obtain ⟨t, moved, related', parts⟩ := moves related taken
            (by rw [which]; rintro _ ⟨⟩; exact cond)
          rw [which] at parts
          obtain ⟨p, stepped, same⟩ := run_cons_eq_some.mp parts
          cases same
          obtain ⟨s', reached, final⟩ := ih related' rest (later _ stepped)
          exact ⟨s', run_cons_eq_some.mpr ⟨t, moved, reached⟩, final⟩

instance decidableMeets {C : σ → ε → Prop} [∀ s e, Decidable (C s e)] :
    (s : σ) → (es : List ε) → Decidable (Meets step C s es)
  | _, [] => isTrue trivial
  | s, e :: es =>
    match taken : step s e with
    | none => decidable_of_iff (C s e)
        ⟨fun cond => ⟨cond, fun s' taken' => by cases taken.symm.trans taken'⟩,
          fun meets => meets.1⟩
    | some s' =>
      have := decidableMeets (C := C) s' es
      decidable_of_iff (C s e ∧ Meets step C s' es)
        ⟨fun both => ⟨both.1, fun t taken' => by
          cases taken.symm.trans taken'
          exact both.2⟩, fun meets => ⟨meets.1, meets.2 s' taken⟩⟩

end Ztacx.CModel
