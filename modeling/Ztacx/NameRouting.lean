import Ztacx.LeafTables

/-!
# Names lead to the leaf they were made for

A led or keypad leaf registers copies of its class's default entries under its
own name, so that `ztacx_setting_find` and `ztacx_variable_find` can be asked for
the entry `e` of the leaf `L` by the name `L_e`.  This file says that the answer
is right (`Routed`): for every set of led and keypad leaves with names of their
own, whatever order their init callbacks run in, `L_e` leads to `L`'s copy of `e`,
and no two entries of a list have the same name.

`LeafSet` is such a set of leaves.  A leaf's name is arbitrary; it may contain
underscores, and one leaf's name may be the beginning of another's.  What keeps
the joined names apart is that no entry of the two classes has an underscore in
its name (`TableClass.plain_of_mem`).

`TablesRegistered` is what holds after the init callbacks of some of the leaves:
the lists spell their tables, in the order of the calls, and every entry of these
tables is the copy it should be.
-/

namespace Ztacx

open CModel

/-! ## Leaves with tables -/

inductive TableClass
  | led
  | kp
deriving DecidableEq, Repr

/-- The default table of a class for a list. -/
def TableClass.defaults (config : LeafConfig) : TableClass → ValueList → List VariableRecord
  | .led, .settings => ledDefaultSettings config
  | .led, .variables => ledDefaultValues
  | .kp, .settings => kpDefaultSettings config
  | .kp, .variables => kpDefaultValues

/-- Whether the init callback of a class registers its table on a list at all.
Without `CONFIG_ZTACX_LEAF_SETTINGS` a build has no `ztacx_setting_find`, and a led
leaf keeps its settings to itself. -/
def TableClass.registersTable (config : LeafConfig) : TableClass → ValueList → Bool
  | .led, .settings => config.CONFIG_ZTACX_LEAF_SETTINGS
  | _, _ => true

/-- A leaf whose context asks for copies of the default tables: where the context
has them, the counts before they are set, and what the init callback finds of the
device. -/
structure TableLeaf where
  cls : TableClass
  name : CString
  settings : VariablePtr
  settingsCount : ℕ
  values : VariablePtr
  valuesCount : ℕ
  event : KEventPtr
  device : Option Bool
deriving DecidableEq, Repr

namespace TableLeaf

def context (l : TableLeaf) : LeafContext :=
  ⟨true, some l.settings, l.settingsCount, some l.values, l.valuesCount⟩

/-- Where the leaf has its table for a list. -/
def base (l : TableLeaf) : ValueList → VariablePtr
  | .settings => l.settings
  | .variables => l.values

/-- The init callback of the leaf's class. -/
def init (config : LeafConfig) (m : LeafMemory) (l : TableLeaf) : Except Fault LeafMemory :=
  match l.cls with
  | .led => (ztacxLedInit config m l.name l.context (l.device = some true)).map Prod.fst
  | .kp => (ztacxKpInit config m l.name l.context l.event l.device).map Prod.fst

/-- The addresses of the leaf's table for a list. -/
def ptrs (config : LeafConfig) (l : TableLeaf) (list : ValueList) : List VariablePtr :=
  tablePtrs (l.base list) (l.cls.defaults config list).length

/-- The addresses of both of its tables. -/
def allPtrs (config : LeafConfig) (l : TableLeaf) : List VariablePtr :=
  l.ptrs config .settings ++ l.ptrs config .variables

/-- The leaf's own copy of a default entry.  The keypad's event entry points to
the event object in the leaf's context. -/
def copy (l : TableLeaf) (e : VariableRecord) : VariableRecord :=
  let copy := e.prefixed l.name
  if l.cls = .kp ∧ e.kind = .event then
    { copy with value := { copy.value with valEvent := some l.event } }
  else copy

end TableLeaf

/-- A set of leaves with names and tables of their own, whose joined names fit. -/
structure LeafSet (config : LeafConfig) where
  leaves : List TableLeaf
  names : (leaves.map TableLeaf.name).Nodup
  tables : (leaves.flatMap (TableLeaf.allPtrs config)).Nodup
  fits : ∀ l ∈ leaves, ∀ list, ∀ e ∈ l.cls.defaults config list,
    l.name.strlen + 1 + e.name.text.strlen + 1 ≤ CONFIG_ZTACX_VALUE_NAME_MAX

/-- The memory before any leaf is initialised. -/
def LeafMemory.boot (defines : LeafPtr → LeafDefine) (record : VariablePtr → VariableRecord) :
    LeafMemory where
  registry := Registry.boot defines fun v => (record v).name.text
  record := record

/-- The init callbacks of the leaves, one after another. -/
def initLeaves (config : LeafConfig) (leaves : List TableLeaf) (m : LeafMemory) :
    Except Fault LeafMemory :=
  leaves.foldlM (TableLeaf.init config) m

/-! ## The property -/

/-- A search finds an entry, given steps enough to get to it. -/
def Finds (search : ℕ → Except Fault (Option VariablePtr)) (v : VariablePtr) : Prop :=
  ∃ bound, ∀ fuel, bound < fuel → search fuel = .ok (some v)

/-- **Names are routed**: for every entry that a leaf has registered, the leaf's
name joined with the entry's leads to the leaf's copy of the entry, and the names
on each list are distinct. -/
structure Routed (config : LeafConfig) (leaves : List TableLeaf) (m : LeafMemory) : Prop where
  setting : ∀ l ∈ leaves, l.cls.registersTable config .settings →
    ∀ i e, (l.cls.defaults config .settings)[i]? = some e →
      Finds (fun fuel => ztacxSettingFind fuel m.registry (some (joinName l.name e.name.text)))
        (l.settings + i) ∧ m.record (l.settings + i) = l.copy e
  value : ∀ l ∈ leaves, ∀ i e, (l.cls.defaults config .variables)[i]? = some e →
    Finds (fun fuel => ztacxVariableFind fuel m.registry (some (joinName l.name e.name.text)))
      (l.values + i) ∧ m.record (l.values + i) = l.copy e
  distinct : ∀ list, ∃ vs,
    Slist.Spells m.registry.variableNext (m.registry.valueList list).head vs ∧
      (vs.map m.registry.variableName).Nodup

/-! ## The entries' names -/

namespace TableClass

/-- The names in a default table. -/
def entryNames : TableClass → ValueList → List CString
  | .led, .settings => [.ofString "cycle", .ofString "duty"]
  | .led, .variables => [.ofString "ok", .ofString "blink", .ofString "lit"]
  | .kp, .settings => [.ofString "bus", .ofString "addr", .ofString "interval"]
  | .kp, .variables => [.ofString "ok", .ofString "pins", .ofString "event"]

theorem map_name_defaults (config : LeafConfig) (cls : TableClass) (list : ValueList) :
    (cls.defaults config list).map VariableRecord.name =
      (cls.entryNames list).map NameArray.ofText := by
  cases cls <;> cases list <;> rfl

theorem entryNames_nodup (cls : TableClass) (list : ValueList) :
    (cls.entryNames list).Nodup := by
  cases cls <;> cases list <;> decide

theorem entryNames_plain (cls : TableClass) (list : ValueList) :
    ∀ t ∈ cls.entryNames list, 95 ∉ t.bytes ∧ t.strlen ≤ CONFIG_ZTACX_VALUE_NAME_MAX := by
  cases cls <;> cases list <;> decide

theorem map_text_defaults (config : LeafConfig) (cls : TableClass) (list : ValueList) :
    (cls.defaults config list).map (fun e => e.name.text) = cls.entryNames list := by
  have texts := congrArg (List.map NameArray.text) (map_name_defaults config cls list)
  rw [List.map_map, List.map_map] at texts
  refine texts.trans ((List.map_congr_left fun t mem => ?_).trans (List.map_id _))
  exact NameArray.text_ofText (entryNames_plain cls list t mem).2

variable {config : LeafConfig} {cls : TableClass} {list : ValueList} {e : VariableRecord}

theorem initialised_defaults (config : LeafConfig) (cls : TableClass) (list : ValueList) :
    Initialised (cls.defaults config list) := by
  intro e mem
  obtain ⟨t, inNames, name⟩ : ∃ t ∈ cls.entryNames list, NameArray.ofText t = e.name := by
    rw [← List.mem_map, ← map_name_defaults config]
    exact List.mem_map_of_mem mem
  rw [← name, NameArray.text_ofText (entryNames_plain cls list t inNames).2]

/-- The kinds in a keypad's tables. -/
def kpKinds : ValueList → List ZtacxValueKind
  | .settings => [.string, .uint16, .int32]
  | .variables => [.bool, .byte, .event]

/-- The only event is the last value of a keypad. -/
theorem kind_event_iff {i : ℕ} (entry : (TableClass.kp.defaults config list)[i]? = some e) :
    e.kind = .event ↔ list = .variables ∧ i = 2 := by
  have kinds : (kpKinds list)[i]? = some e.kind := by
    have table : kpKinds list = (TableClass.kp.defaults config list).map VariableRecord.kind := by
      cases list <;> rfl
    rw [table, List.getElem?_map, entry]
    rfl
  match list, i, kinds with
  | .settings, 0, kinds | .settings, 1, kinds | .settings, 2, kinds =>
      simp [← Option.some.inj kinds]
  | .variables, 0, kinds | .variables, 1, kinds | .variables, 2, kinds =>
      simp [← Option.some.inj kinds]

end TableClass

/-! ## One init callback -/

namespace TableLeaf

/-- What the callback registers. -/
def registers (config : LeafConfig) (l : TableLeaf) : List (ValueList × List VariablePtr) :=
  (if l.cls.registersTable config .settings then [(.settings, l.ptrs config .settings)] else []) ++
    [(.variables, l.ptrs config .variables)]

/-- The copies of a default table under the leaf's name. -/
def prefixedTable (config : LeafConfig) (l : TableLeaf) (list : ValueList) : List VariableRecord :=
  (l.cls.defaults config list).map (VariableRecord.prefixed l.name)

/-- The memory once both tables have been copied. -/
def copied (config : LeafConfig) (m : LeafMemory) (l : TableLeaf) : LeafMemory :=
  (m.write l.settings (l.prefixedTable config .settings) unlisted).write l.values
    (l.prefixedTable config .variables) unlisted

/-- The memory the callback leaves behind. -/
def settled (config : LeafConfig) (m : LeafMemory) (l : TableLeaf) : LeafMemory :=
  match l.cls with
  | .led => (l.copied config m).register (l.registers config)
  | .kp => ((l.copied config m).setEvent (l.values + 2) l.event).register (l.registers config)

variable {config : LeafConfig} {m : LeafMemory} {l : TableLeaf}
  (fits : ∀ list, ∀ e ∈ l.cls.defaults config list,
    l.name.strlen + 1 + e.name.text.strlen + 1 ≤ CONFIG_ZTACX_VALUE_NAME_MAX)

include fits

theorem setUpContext_eq :
    setUpContext (l.cls.defaults config .settings) (l.cls.defaults config .variables) m l.name
      l.context = .ok (l.copied config m,
        { l.context with
          settingsCount := (l.cls.defaults config .settings).length
          valuesCount := (l.cls.defaults config .variables).length }) := by
  have table (list : ValueList) := copiedTable_eq
    (TableClass.initialised_defaults config l.cls list) (fits list)
  show ((copiedTable _ _ _).map fun table => m.write l.settings table unlisted).bind _ = _
  rw [table .settings]
  show ((copiedTable _ _ _).map _).map _ = _
  rw [table .variables]
  rfl

/-- **The callback goes through**, whatever it finds of its device. -/
theorem init_eq : l.init config m = .ok (l.settled config m) := by
  have setUp := setUpContext_eq (m := m) fits
  unfold init settled
  cases cls : l.cls with
  | led =>
      rw [cls] at setUp
      have both := LeafMemory.register_register (l.copied config m)
        (if config.CONFIG_ZTACX_LEAF_SETTINGS then [(.settings, l.ptrs config .settings)] else [])
        [(.variables, l.ptrs config .variables)]
      rw [registers, cls]
      refine Eq.trans ?_ (congrArg Except.ok both)
      show (Except.map _ (setUpContext _ _ _ _ _)).map _ = _
      rw [show setUpContext (ledDefaultSettings config) ledDefaultValues m l.name l.context = _
        from setUp]
      simp only [ptrs, cls]
      cases config.CONFIG_ZTACX_LEAF_SETTINGS <;> rfl
  | kp =>
      rw [cls] at setUp
      have both := LeafMemory.register_register
        ((l.copied config m).setEvent (l.values + 2) l.event)
        [(.settings, l.ptrs config .settings)] [(.variables, l.ptrs config .variables)]
      rw [registers, cls]
      refine Eq.trans ?_ (congrArg Except.ok both)
      show (Except.bind (setUpContext _ _ _ _ _) _).map _ = _
      rw [show setUpContext (kpDefaultSettings config) kpDefaultValues m l.name l.context = _
        from setUp]
      simp only [ptrs, cls]
      cases l.device <;> rfl

omit fits

/-! ### The records it leaves behind -/

theorem length_prefixedTable (list : ValueList) :
    (l.prefixedTable config list).length = (l.cls.defaults config list).length :=
  List.length_map _

/-- An entry is at an address of its table. -/
theorem mem_ptrs {list : ValueList} {i : ℕ} (inside : i < (l.cls.defaults config list).length) :
    l.base list + i ∈ l.ptrs config list :=
  List.mem_range'_1.mpr ⟨Nat.le_add_right _ _, Nat.add_lt_add_left inside _⟩

/-- A keypad's event entry. -/
theorem event_mem_ptrs (kp : l.cls = .kp) : l.values + 2 ∈ l.ptrs config .variables := by
  have inside : 2 < (l.cls.defaults config .variables).length := by
    rw [kp]
    exact (Nat.lt_succ_self 2 : 2 < 3)
  exact mem_ptrs inside

section Records

variable (own : (l.allPtrs config).Nodup)

include own

theorem copied_record {list : ValueList} {i : ℕ} {e : VariableRecord}
    (entry : (l.cls.defaults config list)[i]? = some e) :
    (l.copied config m).record (l.base list + i) = e.prefixed l.name := by
  have inside := (List.getElem?_eq_some_iff.mp entry).1
  have at_i : tableEntry (l.base list) (l.prefixedTable config list) (l.base list + i) =
      some (e.prefixed l.name) := by
    rw [LeafMemory.tableEntry_add, prefixedTable, List.getElem?_map, entry]
    rfl
  match list, entry, inside, at_i with
  | .variables, _, _, at_i => exact LeafMemory.write_record_of_mem _ at_i
  | .settings, _, inside, at_i =>
      -- the second table is somewhere else
      have outside : l.base .settings + i ∉
          tablePtrs l.values (l.prefixedTable config .variables).length := by
        rw [length_prefixedTable]
        exact fun mem => (List.nodup_append.mp own).2.2 _ (mem_ptrs inside) _ mem rfl
      exact (LeafMemory.write_record_of_notMem _ outside).trans
        (LeafMemory.write_record_of_mem _ at_i)

theorem settled_record {list : ValueList} {i : ℕ} {e : VariableRecord}
    (entry : (l.cls.defaults config list)[i]? = some e) :
    (l.settled config m).record (l.base list + i) = l.copy e := by
  have copied := copied_record (m := m) own entry
  unfold settled copy
  cases cls : l.cls with
  | led =>
      rw [if_neg fun both => TableClass.noConfusion both.1]
      exact copied
  | kp =>
      show ((l.copied config m).setEvent (l.values + 2) l.event).record _ = _
      by_cases event : e.kind = .event
      · rw [cls] at entry
        obtain ⟨rfl, rfl⟩ := (TableClass.kind_event_iff entry).mp event
        rw [if_pos ⟨rfl, event⟩]
        rw [show l.values + 2 = l.base .variables + 2 from rfl,
          LeafMemory.setEvent_record_self, copied]
      · rw [if_neg fun both => event both.2]
        have other : l.base list + i ≠ l.values + 2 := by
          intro same
          have inside := mem_ptrs (List.getElem?_eq_some_iff.mp entry).1
          rw [cls] at entry
          match list, entry, same, inside with
          | .variables, entry, same, _ =>
              exact event ((TableClass.kind_event_iff entry).mpr ⟨rfl, Nat.add_left_cancel same⟩)
          | .settings, _, same, inside =>
              have there : l.values + 2 ∈ l.ptrs config .variables := event_mem_ptrs cls
              exact (List.nodup_append.mp own).2.2 _ inside _ there same
        rw [LeafMemory.setEvent_record_of_ne _ other, copied]

end Records

/-- The callback writes to no address outside its tables. -/
theorem settled_record_of_notMem {v : VariablePtr}
    (outside : v ∉ l.allPtrs config) : (l.settled config m).record v = m.record v := by
  rw [allPtrs, List.mem_append, not_or] at outside
  have copied : (l.copied config m).record v = m.record v := by
    refine (LeafMemory.write_record_of_notMem _ ?_).trans
      (LeafMemory.write_record_of_notMem _ ?_)
    · rw [length_prefixedTable]
      exact outside.2
    · rw [length_prefixedTable]
      exact outside.1
  unfold settled
  cases cls : l.cls with
  | led => exact copied
  | kp =>
      have other : v ≠ l.values + 2 := fun same =>
        outside.2 (same ▸ event_mem_ptrs cls)
      exact (LeafMemory.setEvent_record_of_ne _ other _).trans copied

theorem settled_namesAgree (h : m.NamesAgree) : (l.settled config m).NamesAgree := by
  have copied : (l.copied config m).NamesAgree := h.write.write
  unfold settled
  cases l.cls with
  | led => exact copied.register _
  | kp => exact (copied.setEvent _ _).register _

theorem settled_registry :
    (l.settled config m).registry =
      registerAll (l.copied config m).registry (l.registers config) := by
  unfold settled
  cases l.cls <;> rfl

/-! ### The lists it leaves behind -/

/-- It registers its tables, or one of them. -/
theorem registers_sublist (config : LeafConfig) (l : TableLeaf) :
    ((appendsOf (l.registers config)).map Prod.snd).Sublist (l.allPtrs config) := by
  rw [map_snd_appendsOf, registers, List.flatMap_append, allPtrs]
  refine List.Sublist.append ?_ (by simp)
  split
  · simp
  · exact List.nil_sublist _

theorem settled_represents {appends : List (ValueList × VariablePtr)}
    (h : RepresentsValues m.registry appends)
    (nodup : (appends.map Prod.snd ++ l.allPtrs config).Nodup) :
    RepresentsValues (l.settled config m).registry
      (appends ++ appendsOf (l.registers config)) := by
  have apart : ∀ v ∈ appends.map Prod.snd, v ∉ l.allPtrs config := fun v mem mem' =>
    (List.nodup_append.mp nodup).2.2 v mem v mem' rfl
  have copied : RepresentsValues (l.copied config m).registry appends := by
    refine LeafMemory.write_represents (LeafMemory.write_represents h fun v mem => ?_)
      fun v mem => ?_
    · rw [length_prefixedTable]
      exact fun inside => apart v mem (List.mem_append_left _ inside)
    · rw [length_prefixedTable]
      exact fun inside => apart v mem (List.mem_append_right _ inside)
  rw [settled_registry, registerAll_eq_foldl]
  refine foldl_appendValue_represents copied ?_
  rw [List.map_append]
  exact nodup.sublist ((List.Sublist.refl _).append (registers_sublist config l))

end TableLeaf

/-! ## All init callbacks -/

/-- What the init callbacks of some leaves append to the lists. -/
def allAppends (config : LeafConfig) (leaves : List TableLeaf) : List (ValueList × VariablePtr) :=
  leaves.flatMap fun l => appendsOf (l.registers config)

/-- **After the init callbacks of some leaves** the lists spell their tables, and
the entries of their tables are the leaves' copies. -/
structure TablesRegistered (config : LeafConfig) (leaves : List TableLeaf) (m : LeafMemory) :
    Prop where
  lists : RepresentsValues m.registry (allAppends config leaves)
  copies : ∀ l ∈ leaves, ∀ list i e, (l.cls.defaults config list)[i]? = some e →
    m.record (l.base list + i) = l.copy e
  names : m.NamesAgree

section Run

variable {config : LeafConfig} {leaves : List TableLeaf} {m : LeafMemory}

theorem allAppends_sublist (config : LeafConfig) (leaves : List TableLeaf) :
    ((allAppends config leaves).map Prod.snd).Sublist
      (leaves.flatMap (TableLeaf.allPtrs config)) := by
  induction leaves with
  | nil => exact List.Sublist.refl _
  | cons l leaves ih =>
      rw [allAppends, List.flatMap_cons, List.map_append, List.flatMap_cons]
      exact (l.registers_sublist config).append ih

theorem tablesRegistered_boot (config : LeafConfig) (defines : LeafPtr → LeafDefine)
    (record : VariablePtr → VariableRecord) :
    TablesRegistered config [] (.boot defines record) where
  lists := fun list => by cases list <;> exact Slist.represents_init _
  copies := fun _ mem => absurd mem List.not_mem_nil
  names := fun _ => rfl

/-- **The step lemma**: one more init callback. -/
theorem TablesRegistered.settled (inv : TablesRegistered config leaves m) {l : TableLeaf}
    (nodup : ((leaves ++ [l]).flatMap (TableLeaf.allPtrs config)).Nodup) :
    TablesRegistered config (leaves ++ [l]) (l.settled config m) := by
  rw [List.flatMap_append, List.flatMap_singleton] at nodup
  obtain ⟨-, own, apart⟩ := List.nodup_append.mp nodup
  refine ⟨?_, ?_, TableLeaf.settled_namesAgree inv.names⟩
  · rw [allAppends, List.flatMap_append, List.flatMap_singleton]
    exact TableLeaf.settled_represents inv.lists
      (nodup.sublist ((allAppends_sublist config leaves).append (List.Sublist.refl _)))
  · intro k mem list i e entry
    rcases List.mem_append.mp mem with old | new
    · have inside := TableLeaf.mem_ptrs (List.getElem?_eq_some_iff.mp entry).1
      have inAll : k.base list + i ∈ k.allPtrs config := by
        cases list
        · exact List.mem_append_right _ inside
        · exact List.mem_append_left _ inside
      have outside : k.base list + i ∉ l.allPtrs config := fun mem' =>
        apart _ (List.mem_flatMap.mpr ⟨k, old, inAll⟩) _ mem' rfl
      rw [TableLeaf.settled_record_of_notMem outside]
      exact inv.copies k old list i e entry
    · cases List.mem_singleton.mp new
      exact TableLeaf.settled_record own entry

/-- **The run lemma**: the init callbacks of a set of leaves all go through. -/
theorem TablesRegistered.initLeaves {done : List TableLeaf} (inv : TablesRegistered config done m)
    (nodup : ((done ++ leaves).flatMap (TableLeaf.allPtrs config)).Nodup)
    (fits : ∀ l ∈ leaves, ∀ list, ∀ e ∈ l.cls.defaults config list,
      l.name.strlen + 1 + e.name.text.strlen + 1 ≤ CONFIG_ZTACX_VALUE_NAME_MAX) :
    ∃ m', Ztacx.initLeaves config leaves m = .ok m' ∧
      TablesRegistered config (done ++ leaves) m' := by
  induction leaves generalizing done m with
  | nil =>
      rw [List.append_nil]
      exact ⟨m, rfl, inv⟩
  | cons l leaves ih =>
      have split : done ++ l :: leaves = done ++ [l] ++ leaves := by simp
      rw [split] at nodup ⊢
      have before : ((done ++ [l]).flatMap (TableLeaf.allPtrs config)).Nodup := by
        rw [List.flatMap_append] at nodup
        exact (List.nodup_append.mp nodup).1
      obtain ⟨m', ran, after⟩ := ih (inv.settled before) nodup
        fun k mem => fits k (List.mem_cons_of_mem l mem)
      refine ⟨m', ?_, after⟩
      rw [Ztacx.initLeaves, List.foldlM_cons, TableLeaf.init_eq (fits l List.mem_cons_self)]
      exact ran

/-! ## Looking up -/

/-- A search by a name that no other node has. -/
theorem find_of_names {α : Type*} (name : α → CString) {ns : List α} (nodup : (ns.map name).Nodup)
    {v : α} (mem : v ∈ ns) : ns.find? (fun n => name n = name v) = some v := by
  induction ns with
  | nil => cases mem
  | cons n ns ih =>
      rw [List.map_cons, List.nodup_cons] at nodup
      rcases List.mem_cons.mp mem with rfl | later
      · rw [List.find?_cons_of_pos (by simp)]
      · have other : name n ≠ name v := fun same => nodup.1 (same ▸ List.mem_map_of_mem later)
        rw [List.find?_cons_of_neg (by simpa using other)]
        exact ih nodup.2 later

/-- The entries that some leaves have on a list. -/
def listed (config : LeafConfig) (leaves : List TableLeaf) (list : ValueList) :
    List VariablePtr :=
  leaves.flatMap fun l => if l.cls.registersTable config list then l.ptrs config list else []

theorem onList_appendsOf (list : ValueList) (registers : List (ValueList × List VariablePtr)) :
    onList list (appendsOf registers) =
      registers.flatMap fun r => if r.1 = list then r.2 else [] := by
  induction registers with
  | nil => rfl
  | cons r registers ih =>
      have first : onList list (r.2.map fun v => (r.1, v)) = if r.1 = list then r.2 else [] := by
        unfold onList
        rw [List.filter_map, List.map_map]
        split
        · rename_i same
          simp [Function.comp_def, same]
        · rename_i other
          simp [Function.comp_def, other]
      rw [List.flatMap_cons, ← ih, ← first]
      simp [appendsOf, onList]

theorem onList_allAppends (config : LeafConfig) (leaves : List TableLeaf) (list : ValueList) :
    onList list (allAppends config leaves) = listed config leaves list := by
  induction leaves with
  | nil => rfl
  | cons l leaves ih =>
      have first : onList list (appendsOf (l.registers config)) =
          if l.cls.registersTable config list then l.ptrs config list else [] := by
        have always : l.cls.registersTable config .variables = true := by cases l.cls <;> rfl
        rw [onList_appendsOf, TableLeaf.registers]
        cases list
        · cases l.cls.registersTable config .settings <;> simp [always]
        · cases l.cls.registersTable config .settings <;> simp
      rw [listed, List.flatMap_cons, ← first, ← listed, ← ih]
      simp [allAppends, onList]

namespace TablesRegistered

variable (inv : TablesRegistered config leaves m)
  (fits : ∀ l ∈ leaves, ∀ list, ∀ e ∈ l.cls.defaults config list,
    l.name.strlen + 1 + e.name.text.strlen + 1 ≤ CONFIG_ZTACX_VALUE_NAME_MAX)

include inv fits

/-- What the registry calls a leaf's entry. -/
theorem variableName_eq {l : TableLeaf} (mem : l ∈ leaves) {list : ValueList} {i : ℕ}
    {e : VariableRecord} (entry : (l.cls.defaults config list)[i]? = some e) :
    m.registry.variableName (l.base list + i) = joinName l.name e.name.text := by
  have room := fits l mem list e (List.mem_of_getElem? entry)
  have name : (l.copy e).name = .ofText (joinName l.name e.name.text) := by
    unfold TableLeaf.copy
    dsimp only
    split <;> rfl
  rw [inv.names, inv.copies l mem list i e entry, name, NameArray.text_ofText]
  rw [strlen_joinName]
  omega

theorem map_name_ptrs {l : TableLeaf} (mem : l ∈ leaves) (list : ValueList) :
    (l.ptrs config list).map m.registry.variableName =
      (l.cls.entryNames list).map (joinName l.name) := by
  rw [← TableClass.map_text_defaults config, List.map_map]
  refine List.ext_getElem (by simp [TableLeaf.ptrs, tablePtrs]) fun i low high => ?_
  have inside : i < (l.cls.defaults config list).length := by simpa using high
  have entry := List.getElem?_eq_getElem inside
  have here := variableName_eq inv fits mem entry
  simpa [TableLeaf.ptrs, tablePtrs] using here

/-- **The names on a list are distinct.** -/
theorem nodup_names (names : (leaves.map TableLeaf.name).Nodup) (list : ValueList) :
    ((listed config leaves list).map m.registry.variableName).Nodup := by
  rw [listed, List.map_flatMap, List.nodup_flatMap]
  constructor
  · intro l mem
    split
    · rw [map_name_ptrs inv fits mem]
      refine List.Nodup.map_on (fun t tMem u uMem same => ?_) (l.cls.entryNames_nodup list)
      exact (joinName_inj (l.cls.entryNames_plain list t tMem).1
        (l.cls.entryNames_plain list u uMem).1 same).2
    · exact List.nodup_nil
  · rw [List.Nodup, List.pairwise_map] at names
    refine names.imp_of_mem fun {l k} lMem kMem other => ?_
    have joined : ∀ j ∈ leaves, ∀ n ∈ (if j.cls.registersTable config list then
        j.ptrs config list else []).map m.registry.variableName,
          ∃ t ∈ j.cls.entryNames list, joinName j.name t = n := by
      intro j jMem n nMem
      rw [← List.mem_map, ← map_name_ptrs inv fits jMem]
      split at nMem
      · exact nMem
      · cases nMem
    intro n nMem nMem'
    obtain ⟨t, tMem, rfl⟩ := joined l lMem n nMem
    obtain ⟨u, uMem, same⟩ := joined k kMem _ nMem'
    exact other (joinName_inj (l.cls.entryNames_plain list t tMem).1
      (k.cls.entryNames_plain list u uMem).1 same.symm).1

theorem finds (names : (leaves.map TableLeaf.name).Nodup) {l : TableLeaf} (mem : l ∈ leaves)
    {list : ValueList} (registered : l.cls.registersTable config list) {i : ℕ}
    {e : VariableRecord} (entry : (l.cls.defaults config list)[i]? = some e) :
    Finds (fun fuel => valueFind fuel m.registry list (some (joinName l.name e.name.text)))
      (l.base list + i) := by
  have spells := (inv.lists list).spells
  rw [onList_allAppends] at spells
  have inside : l.base list + i ∈ listed config leaves list := by
    refine List.mem_flatMap.mpr ⟨l, mem, ?_⟩
    rw [if_pos registered]
    exact TableLeaf.mem_ptrs (List.getElem?_eq_some_iff.mp entry).1
  have found := find_of_names _ (nodup_names inv fits names list) inside
  rw [variableName_eq inv fits mem entry] at found
  refine ⟨(listed config leaves list).length, fun fuel enough => ?_⟩
  rw [← found]
  exact Slist.findFrom_of_spells spells (fun _ _ => rfl) enough

theorem routed (names : (leaves.map TableLeaf.name).Nodup) : Routed config leaves m where
  setting := fun l mem registered i e entry =>
    ⟨finds inv fits names mem registered entry, inv.copies l mem .settings i e entry⟩
  value := fun l mem i e entry =>
    have registered : l.cls.registersTable config .variables := by cases l.cls <;> rfl
    ⟨finds inv fits names mem registered entry, inv.copies l mem .variables i e entry⟩
  distinct := fun list =>
    ⟨_, (inv.lists list).spells, by
      rw [onList_allAppends]
      exact nodup_names inv fits names list⟩

end TablesRegistered

end Run

/-- **Names lead to the leaf they were made for**: when the init callbacks of a set
of led and keypad leaves have run, in any order, every entry a leaf has registered
is found by the leaf's name joined with the entry's, and no two entries of a list
share a name. -/
theorem initLeaves_routed (config : LeafConfig) (set : LeafSet config)
    (defines : LeafPtr → LeafDefine) (record : VariablePtr → VariableRecord) :
    ∃ m, initLeaves config set.leaves (.boot defines record) = .ok m ∧
      Routed config set.leaves m := by
  have start := tablesRegistered_boot config defines record
  obtain ⟨m, ran, after⟩ := start.initLeaves set.tables set.fits
  exact ⟨m, ran, TablesRegistered.routed after set.fits set.names⟩

/-! ### A name that begins another name -/

/-- A build with the default values of the Kconfig file. -/
def defaultConfig : LeafConfig := ⟨true, 1000, 50, .ofString "I2C_1", 32, 100⟩

/-- Two LEDs and a keypad, the first LED's name and its entry `lit` spelling the
second one's name. -/
def ledAndLedLit : LeafSet defaultConfig where
  leaves :=
    [⟨.led, .ofString "led", 0, 2, 2, 3, 0, some true⟩,
     ⟨.led, .ofString "led_lit", 5, 2, 7, 3, 0, some true⟩,
     ⟨.kp, .ofString "kp", 10, 3, 13, 3, 1, none⟩]
  names := by decide
  tables := by decide
  fits := by
    intro l mem list
    revert l
    cases list <;> decide

/-- `led_lit` is the first LED's value and `led_lit_lit` the second one's. -/
theorem ledAndLedLit_routed :
    ∃ m, initLeaves defaultConfig ledAndLedLit.leaves
        (.boot (fun _ => bareLeaf) fun _ => .ofEntry "" .bool .zero) = .ok m ∧
      Finds (fun fuel => ztacxVariableFind fuel m.registry (some (.ofString "led_lit"))) 4 ∧
      Finds (fun fuel => ztacxVariableFind fuel m.registry (some (.ofString "led_lit_lit"))) 9 := by
  obtain ⟨m, ran, routed⟩ := initLeaves_routed defaultConfig ledAndLedLit (fun _ => bareLeaf)
    fun _ => .ofEntry "" .bool .zero
  refine ⟨m, ran, ?_, ?_⟩
  · exact (routed.value _ List.mem_cons_self 2 _ rfl).1
  · exact (routed.value _ (List.mem_cons_of_mem _ List.mem_cons_self) 2 _ rfl).1

end Ztacx
