import Mathlib.Data.List.Induction
import Ztacx.RegistryLists

/-!
# Walks over the leaves

The functions of `src/ztacx.c` that go through all leaves: `ztacx_pre_sleep` and
`ztacx_post_sleep`, which call a callback of each, and `ztacx_leaf_find`, with which the
handler of a work item finds the leaf that the item belongs to.

Both are exact on the registry that any run of first initialisations leaves behind.  The
sleep functions call every leaf that has the callback once, in the order of initialisation,
whether its initialisation succeeded or not; an error does not keep them from going on, and
the last one is returned (`sleepWalk_run`).  A handler finds its own leaf
(`leafFind_run`).
-/

namespace Ztacx

open CModel

/-! ## The code -/

/-- The leaves that were called, and the local `rc`. -/
structure SleepWalk where
  called : List LeafPtr
  rc : ℤ
deriving DecidableEq, Repr

/-- The body of the loop.  A class has the callback or not; if it has, `cb` is what the
callback returns for the leaf. -/
def sleepOne (cb : LeafPtr → Option ℤ) (s : SleepWalk) (leaf : LeafPtr) : SleepWalk :=
  match cb leaf with
  | none => s
  | some err => ⟨s.called ++ [leaf], if err ≠ 0 then err else s.rc⟩

/-- The walk that `ztacx_pre_sleep` and `ztacx_post_sleep` have in common. -/
def sleepWalk (fuel : ℕ) (s : Registry) (cb : LeafPtr → Option ℤ) : Except Fault SleepWalk :=
  Slist.walkFrom s.leafNext (fun w leaf => .ok (sleepOne cb w leaf)) fuel ⟨[], 0⟩
    s.ztacxLeaves.head

/-- `ztacx_pre_sleep` -/
def ztacxPreSleep (fuel : ℕ) (s : Registry) (preSleep : LeafPtr → Option ℤ) :=
  sleepWalk fuel s preSleep

/-- `ztacx_post_sleep` -/
def ztacxPostSleep (fuel : ℕ) (s : Registry) (postSleep : LeafPtr → Option ℤ) :=
  sleepWalk fuel s postSleep

/-- The class filter of `ztacx_leaf_find`; without a name every leaf passes. -/
def inClass (s : Registry) (cls : Option CString) (leaf : LeafPtr) : Bool :=
  match cls with
  | none => true
  | some name => (s.leaf leaf).cls.name = name

/-- `ztacx_leaf_find`: `cb` says for which leaves the callback returns 0. -/
def ztacxLeafFind (fuel : ℕ) (s : Registry) (cls : Option CString) (cb : LeafPtr → Bool) :
    Except Fault (Option LeafPtr) :=
  Slist.findFrom s.leafNext (fun l => .ok (inClass s cls l && cb l)) fuel s.ztacxLeaves.head

/-- `kp_leaf_compare_scan`, `led_leaf_compare_ledon` and `led_leaf_compare_ledoff`: the item
of the leaf's context, which there may not be, against the one the handler runs for. -/
def leafCompare (item : LeafPtr → Option KWorkPtr) (compare : KWorkPtr) (leaf : LeafPtr) : Bool :=
  item leaf = some compare

/-! ## The registry after a run -/

section Registered

variable {board : Board} {defines : LeafPtr → LeafDefine} {names : VariablePtr → CString}
  {calls : List board.Init} {t : Registry × InitHistory}

/-- An initialisation does not change what a leaf is. -/
theorem ztacxLeafSysInit_cls (s : Registry) (leaf : LeafPtr) (call : InitCall) (l : LeafPtr) :
    ((ztacxLeafSysInit s leaf call).1.leaf l).cls = (s.leaf l).cls := by
  have modified : ∀ (s : Registry) (ready running : ZtacxLeaf → Bool),
      ((s.modifyLeaf leaf fun x => { x with ready := ready x, running := running x }).leaf l).cls =
        (s.leaf l).cls := by
    intro s ready running
    by_cases same : l = leaf
    · rw [same, modifyLeaf_self]
    · rw [modifyLeaf_of_ne _ _ _ same]
  unfold ztacxLeafSysInit
  dsimp only
  split
  · have registered := registerAll_sameLeaves ((s.appendLeaf leaf).modifyLeaf leaf
      fun l => { l with ready := false, running := false }) call.registers
    have kept : ((registerAll ((s.appendLeaf leaf).modifyLeaf leaf
        fun l => { l with ready := false, running := false }) call.registers).leaf l).cls =
          (s.leaf l).cls := by
      rw [registered.leaf]
      exact modified _ (fun _ => false) fun _ => false
    split
    · exact (modified _ (fun _ => true) ZtacxLeaf.running).trans kept
    · exact kept
  · exact (modified _ (fun _ => true) ZtacxLeaf.running).trans
      (modified _ (fun _ => false) fun _ => false)

/-- Where a run of first initialisations gets to. -/
theorem spells_run (distinct : (calls.map Board.Init.leaf).Nodup)
    (ran : run (initStep board) (Registry.boot defines names, []) calls = some t) :
    Slist.Spells t.1.leafNext t.1.ztacxLeaves.head (calls.map Board.Init.leaf) ∧
      ∀ l, (t.1.leaf l).cls = (defines l).cls := by
  have inv : RegisteredSoFar board t :=
    run_invariant (fun inv first taken => inv.initStep first taken)
      (registeredSoFar_boot board defines names)
      ((stepsMeet_first_iff board (s := (Registry.boot defines names, [])) calls
        List.nodup_nil).mpr distinct) ran
  have history : t.2.map Prod.fst = calls.foldl (fun leaves c => leaves ++ [c.leaf]) [] :=
    run_follows (R := fun (s : Registry × InitHistory) (leaves : List LeafPtr) =>
      s.2.map Prod.fst = leaves) (fun related taken => by
        cases taken
        rw [List.map_append, related]
        rfl) rfl ran
  have cls : ∀ l, (t.1.leaf l).cls = (defines l).cls :=
    run_invariant_of_step (I := fun s => ∀ l, (s.1.leaf l).cls = (defines l).cls)
      (fun same taken l => by
        cases taken
        exact (ztacxLeafSysInit_cls ..).trans (same l)) (fun _ => rfl) ran
  have leaves : calls.foldl (fun leaves c => leaves ++ [c.leaf]) [] =
      calls.map Board.Init.leaf := by
    rw [List.foldl_append_eq_append, List.nil_append, ← List.flatMap_def, ← List.map_eq_flatMap]
  refine ⟨?_, cls⟩
  rw [← leaves, ← history]
  exact inv.leaves.spells

/-! ## Sleep -/

/-- The leaves that have the callback, and the last error. -/
def sleepResult (leaves : List LeafPtr) (cb : LeafPtr → Option ℤ) : SleepWalk where
  called := leaves.filter fun leaf => (cb leaf).isSome
  rc := ((leaves.filterMap cb).filter (· ≠ 0)).getLast?.getD 0

theorem foldl_sleepOne (cb : LeafPtr → Option ℤ) (leaves : List LeafPtr) :
    leaves.foldl (sleepOne cb) ⟨[], 0⟩ = sleepResult leaves cb := by
  induction leaves using List.reverseRecOn with
  | nil => rfl
  | append_singleton leaves leaf ih =>
      rw [List.foldl_append, ih, List.foldl_cons, List.foldl_nil, sleepOne]
      unfold sleepResult
      cases answer : cb leaf with
      | none => simp [answer]
      | some err =>
          by_cases failed : err = 0
          · simp [answer, failed]
          · simp [answer, failed]

theorem sleepWalk_run (distinct : (calls.map Board.Init.leaf).Nodup)
    (ran : run (initStep board) (Registry.boot defines names, []) calls = some t) {fuel : ℕ}
    (enough : calls.length < fuel) (cb : LeafPtr → Option ℤ) :
    sleepWalk fuel t.1 cb = .ok (sleepResult (calls.map Board.Init.leaf) cb) := by
  obtain ⟨spells, -⟩ := spells_run distinct ran
  rw [← foldl_sleepOne]
  exact Slist.walkFrom_of_spells spells (fun _ _ _ => rfl) (by rwa [List.length_map]) _

/-- **Going to sleep and waking up** reach every leaf that has been initialised, whatever came
of it, once and in order, and report the last error. -/
theorem ztacxSleep_run (distinct : (calls.map Board.Init.leaf).Nodup)
    (ran : run (initStep board) (Registry.boot defines names, []) calls = some t) {fuel : ℕ}
    (enough : calls.length < fuel) (preSleep postSleep : LeafPtr → Option ℤ) :
    ztacxPreSleep fuel t.1 preSleep = .ok (sleepResult (calls.map Board.Init.leaf) preSleep) ∧
      ztacxPostSleep fuel t.1 postSleep =
        .ok (sleepResult (calls.map Board.Init.leaf) postSleep) :=
  ⟨sleepWalk_run distinct ran enough preSleep, sleepWalk_run distinct ran enough postSleep⟩

/-! ## Finding the leaf of a work item -/

/-- **A handler finds its leaf**: the one whose context holds the item, provided that it has
been initialised and is of the class that the handler asks for. -/
theorem ztacxLeafFind_run (distinct : (calls.map Board.Init.leaf).Nodup)
    (ran : run (initStep board) (Registry.boot defines names, []) calls = some t) {fuel : ℕ}
    (enough : calls.length < fuel) {item : LeafPtr → Option KWorkPtr} {work : KWorkPtr}
    {leaf : LeafPtr} (owner : ∀ l, item l = some work ↔ l = leaf) (cls : CString) :
    ztacxLeafFind fuel t.1 (some cls) (leafCompare item work) =
      .ok (if leaf ∈ calls.map Board.Init.leaf ∧ (defines leaf).cls.name = cls then some leaf
        else none) := by
  obtain ⟨spells, same⟩ := spells_run distinct ran
  have total : ∀ l ∈ calls.map Board.Init.leaf,
      (.ok (inClass t.1 (some cls) l && leafCompare item work l) : Except Fault Bool) =
        .ok (decide (l = leaf ∧ (defines leaf).cls.name = cls)) := by
    intro l _
    have is : leafCompare item work l = decide (l = leaf) := decide_eq_decide.mpr (owner l)
    rw [is, inClass, same l, Bool.decide_and, Bool.and_comm]
    by_cases own : l = leaf
    · rw [own]
    · rw [decide_eq_false own, Bool.false_and, Bool.false_and]
  rw [ztacxLeafFind, Slist.findFrom_of_spells spells total (by rwa [List.length_map])]
  cases found : (calls.map Board.Init.leaf).find?
      (fun l => decide (l = leaf ∧ (defines leaf).cls.name = cls)) with
  | none =>
      rw [if_neg]
      rintro ⟨mem, name⟩
      exact List.find?_eq_none.mp found leaf mem (decide_eq_true ⟨rfl, name⟩)
  | some l =>
      have passes := List.find?_some
        (p := fun l => decide (l = leaf ∧ (defines leaf).cls.name = cls)) found
      obtain ⟨rfl, name⟩ := of_decide_eq_true passes
      rw [if_pos ⟨List.mem_of_find?_eq_some found, name⟩]

end Registered

/-! ### Two LEDs -/

/-- A second leaf of the class, whose initialisation fails. -/
def failedInit : bareBoard.Init where
  leaf := 1
  call := ⟨[], -ENODEV⟩
  own := List.nil_subperm

def twoInits : List bareBoard.Init := [bareInit, failedInit]

theorem twoInits_distinct : (twoInits.map Board.Init.leaf).Nodup := by decide

/-- The registry after the two initialisations. -/
def twoLeaves : Registry :=
  let boot := Registry.boot (fun _ => bareLeaf) fun _ => CString.empty
  (ztacxLeafSysInit (ztacxLeafSysInit boot 0 ⟨[], 0⟩).1 1 ⟨[], -ENODEV⟩).1

theorem run_twoInits : run (initStep bareBoard)
    (Registry.boot (fun _ => bareLeaf) (fun _ => CString.empty), []) twoInits =
      some (twoLeaves, [(0, []), (1, [])]) := rfl

/-- The error of the first leaf is reported, and the second leaf is called. -/
theorem twoLeaves_sleep :
    ztacxPreSleep 3 twoLeaves (fun leaf => some (if leaf = 0 then - EIO else 0)) =
        .ok ⟨[0, 1], - EIO⟩ ∧
      ztacxPostSleep 3 twoLeaves (fun _ => none) = .ok ⟨[], 0⟩ :=
  ztacxSleep_run twoInits_distinct run_twoInits (by decide) _ _

/-- The handler of the second leaf's item. -/
theorem twoLeaves_find :
    ztacxLeafFind 3 twoLeaves (some (.ofString "led")) (leafCompare some 1) = .ok (some 1) :=
  ztacxLeafFind_run twoInits_distinct run_twoInits (by decide) (fun _ => Option.some_inj)
    (.ofString "led")

end Ztacx
