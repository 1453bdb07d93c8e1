import Mathlib.Data.List.Flatten
import Mathlib.Data.List.Perm.Basic
import Mathlib.Data.List.Perm.Subperm
import Ztacx.CModel.Run
import Ztacx.Registry

/-!
# The registry lists over a run of initialisations

`ztacx_leaf_sys_init` appends the leaf to `ztacx_leaves`, and its class's init
callback appends the leaf's variables to `ztacx_variables` and `ztacx_settings`.
This file says for which histories of initialisations the three lists stay what
every traversal takes them for: finite, acyclic, and complete.

The answer is exact.  As long as no leaf is initialised twice the lists spell
the objects registered so far, in order (`RegisteredSoFar`); the first second
initialisation re-appends a node that is already on `ztacx_leaves`, and
`Slist.Represents.not_spells_append` says that the list is broken from then on.

A `Board` is the compiled-in firmware: each leaf's own tables, no variable in
two of them.  `Board.Init` is one initialisation a board allows, whose callback
registers some of the leaf's own tables in some order; a callback that gives up
early registers fewer.
-/

namespace Ztacx

open CModel

/-! ## Boards -/

/-- The tables of every leaf.  No variable sits in two places. -/
structure Board where
  tables : LeafPtr → List (ValueList × List VariablePtr)
  nodup : ∀ l, ((tables l).flatMap Prod.snd).Nodup
  disjoint : ∀ l l', l ≠ l' →
    List.Disjoint ((tables l).flatMap Prod.snd) ((tables l').flatMap Prod.snd)

/-- One call of `ztacx_leaf_sys_init` on a board. -/
structure Board.Init (board : Board) where
  leaf : LeafPtr
  call : InitCall
  own : call.registers.Subperm (board.tables leaf)

/-- What has been registered so far: each initialisation with the tables its
callback registered. -/
abbrev InitHistory := List (LeafPtr × List (ValueList × List VariablePtr))

/-- One initialisation, on the registry and on the record of what has been
registered. -/
def initStep (board : Board) (s : Registry × InitHistory) (c : board.Init) :
    Option (Registry × InitHistory) :=
  some ((ztacxLeafSysInit s.1 c.leaf c.call).1,
    s.2 ++ [(c.leaf, if (s.1.leaf c.leaf).cls.cb.init then c.call.registers else [])])

/-! ## The property -/

/-- The appends to the lists of variables that some registrations make. -/
def appendsOf (registers : List (ValueList × List VariablePtr)) :
    List (ValueList × VariablePtr) :=
  registers.flatMap fun r => r.2.map fun v => (r.1, v)

/-- The variables that a history of appends puts on one list. -/
def onList (list : ValueList) (appends : List (ValueList × VariablePtr)) :
    List VariablePtr :=
  (appends.filter fun a => a.1 = list).map Prod.snd

/-- All appends of a history of initialisations. -/
def InitHistory.appends (h : InitHistory) : List (ValueList × VariablePtr) :=
  h.flatMap fun e => appendsOf e.2

/-- **The lists are intact**: each of them is finite and acyclic and still
contains every object registered so far, and the lookups by name end. -/
structure ListsIntact (s : Registry × InitHistory) : Prop where
  leaves : ∃ ns, Slist.Spells s.1.leafNext s.1.ztacxLeaves.head ns ∧ ns.Nodup ∧
    ∀ e ∈ s.2, e.1 ∈ ns
  values : ∀ list, ∃ ns, Slist.Spells s.1.variableNext (s.1.valueList list).head ns ∧
    ns.Nodup ∧ ∀ v ∈ onList list (InitHistory.appends s.2), v ∈ ns
  leafGet : ∀ name, ∃ fuel found, ztacxLeafGet fuel s.1 (some name) = .ok found
  variableFind : ∀ name, ∃ fuel found, ztacxVariableFind fuel s.1 (some name) = .ok found
  settingFind : ∀ name, ∃ fuel found, ztacxSettingFind fuel s.1 (some name) = .ok found

/-! ## Appending to the lists of variables -/

/-- Each list of variables represents what was appended to it. -/
def RepresentsValues (s : Registry) (appends : List (ValueList × VariablePtr)) : Prop :=
  ∀ list, Slist.Represents s.variableNext (s.valueList list) (onList list appends)

theorem onList_subset (list : ValueList) (appends : List (ValueList × VariablePtr)) :
    ∀ v ∈ onList list appends, v ∈ appends.map Prod.snd := by
  intro v mem
  obtain ⟨a, ha, rfl⟩ := List.mem_map.mp mem
  exact List.mem_map_of_mem (List.mem_of_mem_filter ha)

/-- Two lists share no variable when no variable was appended twice. -/
theorem onList_apart {appends : List (ValueList × VariablePtr)}
    (nodup : (appends.map Prod.snd).Nodup) {k l : ValueList} (ne : k ≠ l) :
    ∀ v ∈ onList k appends, v ∉ onList l appends := by
  intro v memK memL
  obtain ⟨a, ha, rfl⟩ := List.mem_map.mp memK
  obtain ⟨b, hb, same⟩ := List.mem_map.mp memL
  have ha' := List.mem_filter.mp ha
  have hb' := List.mem_filter.mp hb
  have eq : b = a := List.inj_on_of_nodup_map nodup hb'.1 ha'.1 same
  subst eq
  exact ne ((of_decide_eq_true ha'.2).symm.trans (of_decide_eq_true hb'.2))

theorem appendValue_represents {s : Registry} {appends : List (ValueList × VariablePtr)}
    (h : RepresentsValues s appends) (nodup : (appends.map Prod.snd).Nodup)
    {list : ValueList} {v : VariablePtr} (fresh : v ∉ appends.map Prod.snd) :
    RepresentsValues (s.appendValue list v) (appends ++ [(list, v)]) := by
  have notOn : ∀ l, v ∉ onList l appends := fun l mem => fresh (onList_subset l appends v mem)
  have grown := (h list).append (notOn list)
  have kept : ∀ l, l ≠ list →
      Slist.Represents (Slist.append s.variableNext (s.valueList list) v).1
        (s.valueList l) (onList l appends) := fun l ne =>
    (h list).append_frame (h l) (notOn l) (onList_apart nodup ne.symm)
  intro l
  by_cases same : l = list
  · subst same
    have onto : onList l (appends ++ [(l, v)]) = onList l appends ++ [v] := by
      simp [onList]
    rw [onto]
    cases l <;> exact grown
  · have onto : onList l (appends ++ [(list, v)]) = onList l appends := by
      simp [onList, Ne.symm same]
    rw [onto]
    cases l <;> cases list <;>
      first
        | exact absurd rfl same
        | exact kept _ same

theorem foldl_appendValue_represents {s : Registry}
    {appends new : List (ValueList × VariablePtr)} (h : RepresentsValues s appends)
    (nodup : ((appends ++ new).map Prod.snd).Nodup) :
    RepresentsValues (new.foldl (fun s a => s.appendValue a.1 a.2) s) (appends ++ new) := by
  induction new generalizing s appends with
  | nil => simpa using h
  | cons a new ih =>
      have split : appends ++ a :: new = appends ++ [a] ++ new := by simp
      have nodup' := nodup
      rw [split] at nodup' ⊢
      rw [List.map_append, List.nodup_append] at nodup
      have fresh : a.2 ∉ appends.map Prod.snd := fun mem =>
        nodup.2.2 a.2 mem a.2 (by simp) rfl
      exact ih (appendValue_represents h nodup.1 fresh) nodup'

/-- `ztacx_values_register` over several tables, one append at a time. -/
theorem registerAll_eq_foldl (s : Registry)
    (registers : List (ValueList × List VariablePtr)) :
    registerAll s registers = (appendsOf registers).foldl (fun s a => s.appendValue a.1 a.2) s := by
  unfold registerAll appendsOf
  induction registers generalizing s with
  | nil => rfl
  | cons r registers ih =>
      rw [List.foldl_cons, ih, List.flatMap_cons, List.foldl_append, List.foldl_map]
      rfl

theorem map_snd_appendsOf (registers : List (ValueList × List VariablePtr)) :
    (appendsOf registers).map Prod.snd = registers.flatMap Prod.snd := by
  simp [appendsOf, List.map_flatMap, Function.comp_def]

/-! ## What an initialisation does to the lists -/

/-- The lists of variables, and the `next` fields they go through, of two
registries agree. -/
theorem RepresentsValues.congr {s t : Registry} {appends : List (ValueList × VariablePtr)}
    (h : RepresentsValues s appends) (next : t.variableNext = s.variableNext)
    (lists : ∀ l, t.valueList l = s.valueList l) : RepresentsValues t appends := by
  intro l
  rw [next, lists l]
  exact h l

/-- `ztacx_leaf_sys_init` leaves the list of leaves as its append made it. -/
theorem ztacxLeafSysInit_leaves (s : Registry) (leaf : LeafPtr) (call : InitCall) :
    (ztacxLeafSysInit s leaf call).1.leafNext = (s.appendLeaf leaf).leafNext ∧
      (ztacxLeafSysInit s leaf call).1.ztacxLeaves = (s.appendLeaf leaf).ztacxLeaves := by
  have same := registerAll_sameLeaves
    ((s.appendLeaf leaf).modifyLeaf leaf fun l => { l with ready := false, running := false })
    call.registers
  unfold ztacxLeafSysInit
  dsimp only
  split
  · split
    · exact ⟨same.leafNext, same.ztacxLeaves⟩
    · exact ⟨same.leafNext, same.ztacxLeaves⟩
  · exact ⟨rfl, rfl⟩

/-- `ztacx_leaf_sys_init` keeps what was appended to the lists of variables and
adds what the callback registers. -/
theorem ztacxLeafSysInit_values {s : Registry} {appends : List (ValueList × VariablePtr)}
    (h : RepresentsValues s appends) (leaf : LeafPtr) (call : InitCall)
    (nodup : ((appends ++ appendsOf
      (if (s.leaf leaf).cls.cb.init then call.registers else [])).map Prod.snd).Nodup) :
    RepresentsValues (ztacxLeafSysInit s leaf call).1
      (appends ++ appendsOf (if (s.leaf leaf).cls.cb.init then call.registers else [])) := by
  have start : RepresentsValues
      ((s.appendLeaf leaf).modifyLeaf leaf fun l => { l with ready := false, running := false })
      appends := h.congr rfl (by simp)
  unfold ztacxLeafSysInit
  by_cases hinit : (s.leaf leaf).cls.cb.init = true
  · rw [if_pos hinit] at nodup ⊢
    have registered := foldl_appendValue_represents start nodup
    rw [← registerAll_eq_foldl] at registered
    simp only [modifyLeaf_self, appendLeaf_leaf, hinit, if_true]
    split
    · exact registered.congr rfl (by simp)
    · exact registered.congr rfl (by simp)
  · rw [if_neg hinit] at nodup ⊢
    simp only [modifyLeaf_self, appendLeaf_leaf, hinit, Bool.false_eq_true, if_false]
    rw [show appendsOf [] = [] from rfl, List.append_nil]
    exact start.congr rfl (by simp)

/-! ## The invariant -/

/-- **What the lists hold** after a history in which no leaf came twice: the
leaves in the order of their initialisation, the variables in the order of
their registration. -/
structure RegisteredSoFar (board : Board) (s : Registry × InitHistory) : Prop where
  leaves : Slist.Represents s.1.leafNext s.1.ztacxLeaves (s.2.map Prod.fst)
  values : RepresentsValues s.1 (InitHistory.appends s.2)
  own : ∀ e ∈ s.2, e.2.Subperm (board.tables e.1)
  distinct : (s.2.map Prod.fst).Nodup

/-- Tables a leaf owns contain only its own variables, each once. -/
theorem Board.nodup_of_subperm (board : Board) {l : LeafPtr}
    {registers : List (ValueList × List VariablePtr)}
    (own : registers.Subperm (board.tables l)) :
    (registers.flatMap Prod.snd).Nodup ∧
      registers.flatMap Prod.snd ⊆ (board.tables l).flatMap Prod.snd := by
  obtain ⟨sub, perm, sublist⟩ := own
  have hperm : (sub.flatMap Prod.snd).Perm (registers.flatMap Prod.snd) :=
    perm.flatMap_right Prod.snd
  have hsub : (sub.flatMap Prod.snd).Sublist ((board.tables l).flatMap Prod.snd) :=
    sublist.flatMap Prod.snd
  exact ⟨hperm.nodup_iff.mp ((board.nodup l).sublist hsub),
    fun v mem => hsub.subset (hperm.mem_iff.mpr mem)⟩

/-- No variable was appended twice in a history without a repeated leaf. -/
theorem Board.nodup_appends (board : Board) {h : InitHistory}
    (own : ∀ e ∈ h, e.2.Subperm (board.tables e.1)) (distinct : (h.map Prod.fst).Nodup) :
    (h.appends.map Prod.snd).Nodup := by
  unfold InitHistory.appends
  rw [List.map_flatMap, List.nodup_flatMap]
  refine ⟨fun e mem => ?_, ?_⟩
  · rw [map_snd_appendsOf]
    exact (board.nodup_of_subperm (own e mem)).1
  · rw [List.Nodup, List.pairwise_map] at distinct
    refine distinct.imp_of_mem fun {d e} hd he ne => ?_
    change List.Disjoint ((appendsOf d.2).map Prod.snd) ((appendsOf e.2).map Prod.snd)
    rw [map_snd_appendsOf, map_snd_appendsOf]
    intro v memD memE
    exact board.disjoint d.1 e.1 ne ((board.nodup_of_subperm (own d hd)).2 memD)
      ((board.nodup_of_subperm (own e he)).2 memE)

/-- The history an initialisation adds. -/
theorem InitHistory.appends_concat (h : InitHistory)
    (e : LeafPtr × List (ValueList × List VariablePtr)) :
    InitHistory.appends (h ++ [e]) = h.appends ++ appendsOf e.2 := by
  simp [InitHistory.appends]

theorem registeredSoFar_boot (board : Board) (defines : LeafPtr → LeafDefine)
    (names : VariablePtr → CString) :
    RegisteredSoFar board (Registry.boot defines names, []) where
  leaves := Slist.represents_init _
  values := fun list => by cases list <;> exact Slist.represents_init _
  own := fun e mem => absurd mem List.not_mem_nil
  distinct := List.nodup_nil

/-- **The step lemma**: the first initialisation of a leaf keeps the invariant. -/
theorem RegisteredSoFar.initStep {board : Board} {s s' : Registry × InitHistory}
    (inv : RegisteredSoFar board s) {c : board.Init} (first : c.leaf ∉ s.2.map Prod.fst)
    (taken : Ztacx.initStep board s c = some s') : RegisteredSoFar board s' := by
  cases taken
  -- what is registered so far comes from the tables of distinct leaves, so it is distinct
  have own : ∀ e ∈ s.2 ++ [(c.leaf,
      if (s.1.leaf c.leaf).cls.cb.init then c.call.registers else [])],
      e.2.Subperm (board.tables e.1) := by
    intro e mem
    rcases List.mem_append.mp mem with old | new
    · exact inv.own e old
    · rw [List.mem_singleton.mp new]
      dsimp only
      split
      · exact c.own
      · exact List.nil_subperm
  have distinct : ((s.2 ++ [(c.leaf,
      if (s.1.leaf c.leaf).cls.cb.init then c.call.registers else [])]).map Prod.fst).Nodup := by
    rw [List.map_append, List.nodup_append]
    refine ⟨inv.distinct, List.nodup_singleton _, fun l mem l' mem' same => ?_⟩
    rw [List.map_singleton, List.mem_singleton] at mem'
    subst mem'
    cases same
    exact first mem
  have grown := inv.leaves.append first
  have nodup := board.nodup_appends own distinct
  rw [InitHistory.appends_concat] at nodup
  refine ⟨?_, ?_, own, distinct⟩
  · obtain ⟨next, list⟩ := ztacxLeafSysInit_leaves s.1 c.leaf c.call
    rw [List.map_append, next, list]
    exact grown
  · rw [InitHistory.appends_concat]
    exact ztacxLeafSysInit_values inv.values c.leaf c.call nodup

/-- A lookup by name on a spelled list ends. -/
theorem findFrom_sameName_ends {α : Type} {links : Links α} {p : Option α} {ns : List α}
    (h : Slist.Spells links p ns) (own : α → CString) (name : CString) :
    ∃ fuel found,
      Slist.findFrom links (fun n => sameName (own n) (some name)) fuel p = .ok found :=
  ⟨ns.length + 1, ns.find? fun n => own n = name,
    Slist.findFrom_of_spells h (fun _ _ => rfl) (by omega)⟩

theorem RegisteredSoFar.listsIntact {board : Board} {s : Registry × InitHistory}
    (inv : RegisteredSoFar board s) : ListsIntact s where
  leaves := ⟨_, inv.leaves.spells, inv.distinct,
    fun _ mem => List.mem_map_of_mem mem⟩
  values := fun list => ⟨_, (inv.values list).spells, (inv.values list).spells.nodup,
    fun _ mem => mem⟩
  leafGet := findFrom_sameName_ends inv.leaves.spells _
  variableFind := findFrom_sameName_ends (inv.values .variables).spells _
  settingFind := findFrom_sameName_ends (inv.values .settings).spells _

/-- **A second initialisation of a leaf breaks `ztacx_leaves`.** -/
theorem RegisteredSoFar.not_listsIntact {board : Board} {s s' : Registry × InitHistory}
    (inv : RegisteredSoFar board s) {c : board.Init} (again : ¬ c.leaf ∉ s.2.map Prod.fst)
    (taken : Ztacx.initStep board s c = some s') : ¬ ListsIntact s' := by
  cases taken
  intro intact
  obtain ⟨ns, spelled, -, all⟩ := intact.leaves
  obtain ⟨next, list⟩ := ztacxLeafSysInit_leaves s.1 c.leaf c.call
  rw [next, list] at spelled
  refine inv.leaves.not_spells_append (not_not.mp again) ⟨ns, spelled, fun l mem => ?_⟩
  obtain ⟨e, he, rfl⟩ := List.mem_map.mp mem
  exact all e (List.mem_append_left _ he)

/-! ## Runs -/

/-- No step of a run initialises a leaf again exactly when the leaves
initialised, together with those of the history before, are distinct. -/
theorem stepsMeet_first_iff (board : Board) {s : Registry × InitHistory}
    (calls : List board.Init) (distinct : (s.2.map Prod.fst).Nodup) :
    StepsMeet (initStep board) (fun s c => c.leaf ∉ s.2.map Prod.fst) s calls ↔
      (s.2.map Prod.fst ++ calls.map Board.Init.leaf).Nodup := by
  induction calls generalizing s with
  | nil => simpa using distinct
  | cons c calls ih =>
      have shift : s.2.map Prod.fst ++ (c :: calls).map Board.Init.leaf =
          (s.2.map Prod.fst ++ [c.leaf]) ++ calls.map Board.Init.leaf := by simp
      constructor
      · intro meets
        obtain ⟨first, rest⟩ := meets _ rfl
        have distinct' : (s.2.map Prod.fst ++ [c.leaf]).Nodup := by
          rw [List.nodup_append]
          refine ⟨distinct, List.nodup_singleton _, fun l mem l' mem' same => ?_⟩
          exact first (List.mem_singleton.mp mem' ▸ same ▸ mem)
        rw [shift]
        simpa using (ih (by simpa using distinct')).mp rest
      · intro nodup s' taken
        cases taken
        rw [shift] at nodup
        have distinct' := (List.nodup_append.mp nodup).1
        refine ⟨fun mem => ?_, (ih (by simpa using distinct')).mpr (by simpa using nodup)⟩
        exact (List.nodup_append.mp distinct').2.2 c.leaf mem c.leaf
          (List.mem_singleton_self _) rfl

/-- **The registry lists are intact throughout a run of initialisations exactly
when no leaf is initialised twice.** -/
theorem listsIntact_throughout_iff (board : Board) (defines : LeafPtr → LeafDefine)
    (names : VariablePtr → CString) (calls : List board.Init) :
    Throughout (initStep board) ListsIntact (Registry.boot defines names, []) calls ↔
      (calls.map Board.Init.leaf).Nodup := by
  rw [throughout_iff_stepsMeet (I := RegisteredSoFar board)
    (C := fun s c => c.leaf ∉ s.2.map Prod.fst) (fun inv => inv.listsIntact)
    (fun inv first taken => inv.initStep first taken)
    (fun inv again taken => inv.not_listsIntact again taken)
    (registeredSoFar_boot board defines names)]
  simpa using stepsMeet_first_iff board (s := (Registry.boot defines names, [])) calls
    List.nodup_nil

/-! ### A leaf initialised twice -/

/-- A board whose leaves have no tables. -/
def bareBoard : Board where
  tables := fun _ => []
  nodup := fun _ => List.nodup_nil
  disjoint := fun _ _ _ => List.disjoint_nil_left _

/-- A leaf of a class without callbacks. -/
def bareLeaf : LeafDefine where
  name := .ofString "led0"
  cls := ⟨.ofString "led", ⟨false, false, false⟩⟩

/-- The initialisation at boot, or the one the shell's `ztacx init` makes. -/
def bareInit : bareBoard.Init where
  leaf := 0
  call := ⟨[], 0⟩
  own := List.nil_subperm

/-- The registry after the only leaf has been initialised twice. -/
def bareTwice : Registry :=
  let boot := Registry.boot (fun _ => bareLeaf) fun _ => CString.empty
  (ztacxLeafSysInit (ztacxLeafSysInit boot 0 ⟨[], 0⟩).1 0 ⟨[], 0⟩).1

/-- A leaf that is initialised again while it is the last of the list becomes
its own successor: looking up any other name never ends. -/
theorem reinitialised_leaf_not_listsIntact :
    ¬ Throughout (initStep bareBoard) ListsIntact
      (Registry.boot (fun _ => bareLeaf) (fun _ => CString.empty), []) [bareInit, bareInit] := by
  intro intact
  obtain ⟨fuel, found, ends⟩ :=
    (intact [bareInit, bareInit] (List.prefix_refl _) _ rfl).leafGet (.ofString "led1")
  have loop : bareTwice.leafNext 0 = some 0 := rfl
  have other : sameName (bareTwice.leaf 0).name (some (.ofString "led1")) = .ok false := rfl
  have never : ztacxLeafGet fuel bareTwice (some (.ofString "led1")) = .error .diverged :=
    Slist.findFrom_self_loop loop other fuel
  cases never.symm.trans ends

end Ztacx
