import Ztacx.CModel.Run
import Ztacx.Registry

/-!
# The life of a leaf

The operations that move a leaf through its life are `ztacx_leaf_sys_init` and
`ztacx_leaf_sys_start`, which the boot sequence issues for each leaf, and
`ztacx_leaf_start` and `ztacx_leaf_stop`, which look a leaf up by name for the
shell.  A run is any sequence of them, with any results of the callbacks.

What a driver relies on is `LeafLifecycle`: a running leaf is ready, and a start
callback runs only on a leaf whose latest initialisation succeeded.
`ztacx_leaf_sys_start` checks `ready` first; `ztacx_leaf_start` does not, and
`leafLifecycle_throughout_iff` says that this is the only hole: the property
holds along a run exactly when every leaf started by name is ready at the time.

The invariant behind it is `ReadyIffInited`: the flag `ready` is the outcome of
the latest initialisation, and nothing else.
-/

namespace Ztacx

open CModel

/-- One lifecycle operation, with the results of the callbacks it invokes. -/
inductive LifecycleOp
  | sysInit (leaf : LeafPtr) (call : InitCall)
  | sysStart (leaf : LeafPtr) (rc : ℤ)
  | start (name : Option CString) (rc : ℤ)
  | stop (name : Option CString) (rc : ℤ)

/-- A lifecycle operation on the registry; there is no next state after a
fault, such as the null leaf of an unknown name. -/
def lifecycleStep (fuel : ℕ) (s : Registry) : LifecycleOp → Option Registry
  | .sysInit leaf call => some (ztacxLeafSysInit s leaf call).1
  | .sysStart leaf rc => some (ztacxLeafSysStart s leaf rc).1
  | .start name rc => (ztacxLeafStart fuel s name rc).toOption.map Prod.fst
  | .stop name rc => (ztacxLeafStop fuel s name rc).toOption.map Prod.fst

/-- The result of the latest initialisation of a leaf, if there was one. -/
def lastInit (leaf : LeafPtr) : List LeafEvent → Option ℤ
  | [] => none
  | .inited l rc :: es => if l = leaf then some rc else lastInit leaf es
  | .startCb _ :: es => lastInit leaf es

/-- **The lifecycle property.** -/
structure LeafLifecycle (s : Registry) : Prop where
  running_ready : ∀ l, (s.leaf l).running = true → (s.leaf l).ready = true
  started_inited : ∀ l newer older, s.events = newer ++ .startCb l :: older →
    lastInit l older = some 0

/-- A start by name finds its leaf ready; every other operation is free. -/
def StartsReady (fuel : ℕ) (s : Registry) : LifecycleOp → Prop
  | .start (some name) _ => ∀ leaf, ztacxLeafGet fuel s (some name) = .ok (some leaf) →
      (s.leaf leaf).ready = true
  | _ => True

/-- The inductive invariant: the lifecycle property, and `ready` is the outcome
of the latest initialisation. -/
structure ReadyIffInited (s : Registry) : Prop extends LeafLifecycle s where
  ready_iff : ∀ l, (s.leaf l).ready = true ↔ lastInit l s.events = some 0

/-! ## Steps on one leaf -/

section Leaf

variable {s : Registry} {leaf : LeafPtr}

/-- Recording an outcome does not invoke a start callback. -/
theorem started_inited_inited {events : List LeafEvent} {k : LeafPtr} {rc : ℤ}
    (h : ∀ l newer older, events = newer ++ .startCb l :: older → lastInit l older = some 0) :
    ∀ l newer older, LeafEvent.inited k rc :: events = newer ++ .startCb l :: older →
      lastInit l older = some 0 := by
  intro l newer older split
  cases newer with
  | nil => cases split
  | cons e newer =>
      rw [List.cons_append, List.cons.injEq] at split
      exact h l newer older split.2

/-- Invoking a start callback on a leaf whose latest initialisation succeeded. -/
theorem started_inited_startCb {events : List LeafEvent} {k : LeafPtr}
    (h : ∀ l newer older, events = newer ++ .startCb l :: older → lastInit l older = some 0)
    (inited : lastInit k events = some 0) :
    ∀ l newer older, LeafEvent.startCb k :: events = newer ++ .startCb l :: older →
      lastInit l older = some 0 := by
  intro l newer older split
  cases newer with
  | nil =>
      rw [List.nil_append, List.cons.injEq] at split
      obtain ⟨same, rfl⟩ := split
      cases same
      exact inited
  | cons e newer =>
      rw [List.cons_append, List.cons.injEq] at split
      exact h l newer older split.2

/-- Setting or clearing `running`; setting it asks for `ready`. -/
theorem ReadyIffInited.setRunning (inv : ReadyIffInited s) {running : Bool}
    (ready : running = true → (s.leaf leaf).ready = true) :
    ReadyIffInited (s.modifyLeaf leaf fun l => { l with running := running }) where
  running_ready := by
    intro l run
    by_cases same : l = leaf
    · subst same
      rw [modifyLeaf_self] at run ⊢
      exact ready run
    · rw [modifyLeaf_of_ne _ _ _ same] at run ⊢
      exact inv.running_ready l run
  started_inited := inv.started_inited
  ready_iff := by
    intro l
    by_cases same : l = leaf
    · subst same
      rw [modifyLeaf_self]
      exact inv.ready_iff l
    · rw [modifyLeaf_of_ne _ _ _ same]
      exact inv.ready_iff l

/-- Invoking the start callback of a ready leaf. -/
theorem ReadyIffInited.recordStart (inv : ReadyIffInited s)
    (ready : (s.leaf leaf).ready = true) : ReadyIffInited (s.record (.startCb leaf)) where
  running_ready := inv.running_ready
  started_inited := started_inited_startCb inv.started_inited ((inv.ready_iff leaf).mp ready)
  ready_iff := inv.ready_iff

/-- Both flags of a leaf after an initialisation that returned `rc`. -/
theorem ReadyIffInited.inited (inv : ReadyIffInited s) {t : Registry} (rc : ℤ)
    (self : (t.leaf leaf).ready = decide (rc = 0) ∧ (t.leaf leaf).running = false)
    (others : ∀ l, l ≠ leaf → t.leaf l = s.leaf l)
    (events : t.events = .inited leaf rc :: s.events) : ReadyIffInited t where
  running_ready := by
    intro l run
    by_cases same : l = leaf
    · subst same
      rw [self.2] at run
      cases run
    · rw [others l same] at run ⊢
      exact inv.running_ready l run
  started_inited := events ▸ started_inited_inited inv.started_inited
  ready_iff := by
    intro l
    rw [events]
    by_cases same : l = leaf
    · subst same
      simp [lastInit, self.1]
    · rw [others l same, inv.ready_iff l]
      simp [lastInit, Ne.symm same]

/-- What `ztacx_leaf_sys_init` does to the flags and the history. -/
theorem ztacxLeafSysInit_flags (s : Registry) (leaf : LeafPtr) (call : InitCall) :
    ∃ rc, (((ztacxLeafSysInit s leaf call).1.leaf leaf).ready = decide (rc = 0) ∧
        ((ztacxLeafSysInit s leaf call).1.leaf leaf).running = false) ∧
      (∀ l, l ≠ leaf → (ztacxLeafSysInit s leaf call).1.leaf l = s.leaf l) ∧
      (ztacxLeafSysInit s leaf call).1.events = .inited leaf rc :: s.events := by
  have same := registerAll_sameLeaves
    ((s.appendLeaf leaf).modifyLeaf leaf fun l => { l with ready := false, running := false })
    call.registers
  unfold ztacxLeafSysInit
  by_cases hinit : (s.leaf leaf).cls.cb.init = true
  · simp only [modifyLeaf_self, appendLeaf_leaf, hinit, if_true]
    refine ⟨call.rc, ?_⟩
    by_cases hrc : call.rc = 0
    · rw [if_pos hrc]
      refine ⟨?_, fun l ne => ?_, ?_⟩
      · simp [same.leaf, hrc]
      · rw [modifyLeaf_of_ne _ _ _ ne, record_leaf, same.leaf, modifyLeaf_of_ne _ _ _ ne,
          appendLeaf_leaf]
      · simp [same.events]
    · rw [if_neg hrc]
      refine ⟨?_, fun l ne => ?_, ?_⟩
      · simp [same.leaf, hrc]
      · rw [record_leaf, same.leaf, modifyLeaf_of_ne _ _ _ ne, appendLeaf_leaf]
      · simp [same.events]
  · simp only [modifyLeaf_self, appendLeaf_leaf, hinit, Bool.false_eq_true, if_false]
    refine ⟨0, ?_, fun l ne => ?_, ?_⟩
    · simp
    · rw [modifyLeaf_of_ne _ _ _ ne, record_leaf, modifyLeaf_of_ne _ _ _ ne, appendLeaf_leaf]
    · simp

end Leaf

/-! ## One operation -/

section Step

variable {fuel : ℕ} {s s' : Registry}

/-- What `ztacx_leaf_start` does once it has found a leaf. -/
def startFound (s : Registry) (leaf : LeafPtr) (rc : ℤ) : Registry :=
  let called := (s.leaf leaf).cls.cb.start
  let s := if called then s.record (.startCb leaf) else s
  if (if called then rc else 0) = 0 then
    s.modifyLeaf leaf fun l => { l with running := true }
  else s

theorem ztacxLeafStart_none {rc : ℤ} {t : Registry × ℤ}
    (ran : ztacxLeafStart fuel s none rc = .ok t) : t.1 = s := by
  unfold ztacxLeafStart at ran
  cases found : ztacxLeafGet fuel s none with
  | error fault => simp [found, Except.bind] at ran
  | ok leaf =>
      simp only [found, Except.bind, if_true, Except.ok.injEq] at ran
      rw [← ran]

theorem ztacxLeafStart_some {name : CString} {rc : ℤ} {t : Registry × ℤ}
    (ran : ztacxLeafStart fuel s (some name) rc = .ok t) :
    ∃ leaf, ztacxLeafGet fuel s (some name) = .ok (some leaf) ∧ t.1 = startFound s leaf rc := by
  unfold ztacxLeafStart at ran
  rcases found : ztacxLeafGet fuel s (some name) with fault | none | leaf
  · simp [found, Except.bind] at ran
  · simp [found, Except.bind] at ran
  · refine ⟨leaf, rfl, ?_⟩
    simp only [found, Except.bind, reduceCtorEq, if_false] at ran
    unfold startFound
    by_cases succeeded : (if (s.leaf leaf).cls.cb.start = true then rc else 0) = 0
    · rw [if_pos succeeded] at ran ⊢
      cases ran
      rfl
    · rw [if_neg succeeded] at ran ⊢
      cases ran
      rfl

/-- A start by name either gets no name and does nothing, or finds a leaf. -/
theorem lifecycleStep_start {name : Option CString} {rc : ℤ}
    (taken : lifecycleStep fuel s (.start name rc) = some s') :
    s' = s ∨ ∃ n leaf, name = some n ∧ ztacxLeafGet fuel s (some n) = .ok (some leaf) ∧
      s' = startFound s leaf rc := by
  obtain ⟨t, ran, rfl⟩ := Option.map_eq_some_iff.mp taken
  have ran := toOption_eq_some_iff.mp ran
  cases name with
  | none => exact .inl (ztacxLeafStart_none ran)
  | some n =>
      obtain ⟨leaf, found, after⟩ := ztacxLeafStart_some ran
      exact .inr ⟨n, leaf, rfl, found, after⟩

/-- A stop by name at most clears `running`. -/
theorem lifecycleStep_stop {name : Option CString} {rc : ℤ}
    (taken : lifecycleStep fuel s (.stop name rc) = some s') :
    s' = s ∨ ∃ leaf, s' = s.modifyLeaf leaf fun l => { l with running := false } := by
  obtain ⟨t, ran, rfl⟩ := Option.map_eq_some_iff.mp taken
  have ran := toOption_eq_some_iff.mp ran
  unfold ztacxLeafStop at ran
  cases found : ztacxLeafGet fuel s name with
  | error fault => simp [found, Except.bind] at ran
  | ok got =>
      simp only [found, Except.bind] at ran
      split at ran
      · cases ran
        exact .inl rfl
      · cases got with
        | none => cases ran
        | some leaf =>
            dsimp only at ran
            by_cases stopped : (if (s.leaf leaf).cls.cb.stop = true then rc else 0) = 0
            · rw [if_pos stopped] at ran
              cases ran
              exact .inr ⟨leaf, rfl⟩
            · rw [if_neg stopped] at ran
              cases ran
              exact .inl rfl

theorem ReadyIffInited.sysStart (inv : ReadyIffInited s) (leaf : LeafPtr) (rc : ℤ) :
    ReadyIffInited (ztacxLeafSysStart s leaf rc).1 := by
  unfold ztacxLeafSysStart
  by_cases ready : (s.leaf leaf).ready = true
  · simp only [ready, Bool.not_true, Bool.false_eq_true, if_false]
    by_cases called : (s.leaf leaf).cls.cb.start = true
    · have recorded := inv.recordStart ready
      rw [if_pos called]
      by_cases succeeded : rc = 0
      · rw [if_pos succeeded]
        exact recorded.setRunning fun _ => ready
      · rw [if_neg succeeded]
        exact recorded
    · rw [if_neg called]
      exact inv.setRunning fun _ => ready
  · simp only [ready, Bool.not_false, if_true]
    exact inv

theorem ReadyIffInited.startFound (inv : ReadyIffInited s) {leaf : LeafPtr} (rc : ℤ)
    (ready : (s.leaf leaf).ready = true) : ReadyIffInited (Ztacx.startFound s leaf rc) := by
  unfold Ztacx.startFound
  by_cases called : (s.leaf leaf).cls.cb.start = true
  · have recorded := inv.recordStart ready
    simp only [called, if_true]
    split
    · exact recorded.setRunning fun _ => ready
    · exact recorded
  · simp only [called, Bool.false_eq_true, if_false]
    exact inv.setRunning fun _ => ready

/-- **Starting a leaf that is not ready loses the property on the spot**: with a
start callback in the history, without one in the flags. -/
theorem ReadyIffInited.not_leafLifecycle_startFound (inv : ReadyIffInited s) {leaf : LeafPtr}
    (rc : ℤ) (notReady : ¬ (s.leaf leaf).ready = true) :
    ¬ LeafLifecycle (Ztacx.startFound s leaf rc) := by
  intro lifecycle
  by_cases called : (s.leaf leaf).cls.cb.start = true
  · have events : (Ztacx.startFound s leaf rc).events = .startCb leaf :: s.events := by
      unfold Ztacx.startFound
      simp only [called, if_true]
      split <;> rfl
    have inited := lifecycle.started_inited leaf [] s.events (by rw [events, List.nil_append])
    exact notReady ((inv.ready_iff leaf).mpr inited)
  · have running : (Ztacx.startFound s leaf rc).leaf leaf =
        { s.leaf leaf with running := true } := by
      unfold Ztacx.startFound
      simp [called]
    have ready := lifecycle.running_ready leaf (by rw [running])
    rw [running] at ready
    exact notReady ready

/-- **The step lemma.** -/
theorem ReadyIffInited.lifecycleStep {op : LifecycleOp} (inv : ReadyIffInited s)
    (cond : StartsReady fuel s op) (taken : Ztacx.lifecycleStep fuel s op = some s') :
    ReadyIffInited s' := by
  cases op with
  | sysInit leaf call =>
      cases taken
      obtain ⟨rc, self, others, events⟩ := ztacxLeafSysInit_flags s leaf call
      exact inv.inited rc self others events
  | sysStart leaf rc =>
      cases taken
      exact inv.sysStart leaf rc
  | start name rc =>
      rcases lifecycleStep_start taken with rfl | ⟨n, leaf, rfl, found, rfl⟩
      · exact inv
      · exact inv.startFound rc (cond leaf found)
  | stop name rc =>
      rcases lifecycleStep_stop taken with rfl | ⟨leaf, rfl⟩
      · exact inv
      · exact inv.setRunning fun set => absurd set Bool.false_ne_true

/-- A start by name that finds a leaf which is not ready breaks the property. -/
theorem ReadyIffInited.not_leafLifecycle {op : LifecycleOp} (inv : ReadyIffInited s)
    (bad : ¬ StartsReady fuel s op) (taken : Ztacx.lifecycleStep fuel s op = some s') :
    ¬ LeafLifecycle s' := by
  cases op with
  | start name rc =>
      cases name with
      | none => exact absurd trivial bad
      | some name =>
          obtain ⟨t, ran, rfl⟩ := Option.map_eq_some_iff.mp taken
          obtain ⟨leaf, found, after⟩ := ztacxLeafStart_some (toOption_eq_some_iff.mp ran)
          have notReady : ¬ (s.leaf leaf).ready = true := fun ready =>
            bad fun l lookup => by
              cases found.symm.trans lookup
              exact ready
          rw [after]
          exact inv.not_leafLifecycle_startFound rc notReady
  | _ => exact absurd trivial bad

end Step

/-! ## Runs -/

theorem readyIffInited_boot (defines : LeafPtr → LeafDefine) (names : VariablePtr → CString) :
    ReadyIffInited (Registry.boot defines names) where
  running_ready := fun _ run => run
  started_inited := fun l newer older split => by
    cases newer <;> cases split
  ready_iff := fun l => iff_of_false Bool.false_ne_true (by simp [Registry.boot, lastInit])

/-- **The lifecycle property holds throughout a run exactly when every leaf that
is started by name is ready at the time.** -/
theorem leafLifecycle_throughout_iff (fuel : ℕ) (defines : LeafPtr → LeafDefine)
    (names : VariablePtr → CString) (ops : List LifecycleOp) :
    Throughout (lifecycleStep fuel) LeafLifecycle (Registry.boot defines names) ops ↔
      StepsMeet (lifecycleStep fuel) (StartsReady fuel) (Registry.boot defines names) ops :=
  throughout_iff_stepsMeet (I := ReadyIffInited) (fun inv => inv.toLeafLifecycle)
    (fun inv cond taken => inv.lifecycleStep cond taken)
    (fun inv bad taken => inv.not_leafLifecycle bad taken)
    (readyIffInited_boot defines names)

/-! ### A leaf whose initialisation failed -/

/-- A leaf of a class with an init callback and no other. -/
def initOnlyLeaf : LeafDefine where
  name := .ofString "i2c0"
  cls := ⟨.ofString "i2c", ⟨true, false, false⟩⟩

/-- The device is missing at boot, and the shell starts the leaf all the same. -/
def startAfterFailedInit : List LifecycleOp :=
  [.sysInit 0 ⟨[], - EIO⟩, .start (some (.ofString "i2c0")) 0]

/-- The leaf runs although its initialisation failed. -/
theorem failed_leaf_started_not_leafLifecycle :
    ¬ Throughout (lifecycleStep 2) LeafLifecycle
      (Registry.boot (fun _ => initOnlyLeaf) fun _ => CString.empty) startAfterFailedInit := by
  intro lifecycle
  have reached : ∃ s, run (lifecycleStep 2)
      (Registry.boot (fun _ => initOnlyLeaf) fun _ => CString.empty)
      startAfterFailedInit = some s ∧
      (s.leaf 0).running = true ∧ (s.leaf 0).ready = false := ⟨_, rfl, rfl, rfl⟩
  obtain ⟨s, ran, running, notReady⟩ := reached
  have ready := (lifecycle _ (List.prefix_refl _) s ran).running_ready 0 running
  cases notReady.symm.trans ready

end Ztacx
