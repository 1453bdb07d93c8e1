import Ztacx.LeafTables

/-!
# Copies of a table in memory

A table is copied from one place in memory to another (`LeafMemory.listedTable`).
What a copied entry should look like is `CopiedUnder`: a terminated name, the
joined one if it fits, and all else as in the source, the list node included.  A
source that is registered has its copies point into the list it is on.

The capacity check of `ztacx_variables_copy` adds up the two lengths and forgets
either the underscore or the terminator.  It makes no difference except when the
joined name fills the array to the last byte: then it is accepted, and it is not
terminated (`copiedUnder_renamed_iff`).
-/

namespace Ztacx

open CModel

/-- `struct ztacx_variable`: the record and the list node. -/
structure TableEntry extends VariableRecord where
  node : Option VariablePtr
deriving DecidableEq, Repr

namespace LeafMemory

/-- The records of the table at an address. -/
def table (m : LeafMemory) (base : VariablePtr) (count : ℕ) : List VariableRecord :=
  (tablePtrs base count).map m.record

/-- The list nodes of the table at an address. -/
def nodes (m : LeafMemory) (base : VariablePtr) (i : ℕ) : Option VariablePtr :=
  m.registry.variableNext (base + i)

/-- The table at an address with its list nodes. -/
def listedTable (m : LeafMemory) (base : VariablePtr) (count : ℕ) : List TableEntry :=
  (tablePtrs base count).map fun v => ⟨m.record v, m.registry.variableNext v⟩

end LeafMemory

/-- **A copied entry.** -/
structure CopiedUnder (pre : CString) (v copy : TableEntry) : Prop where
  terminated : 0 ∈ copy.name.bytes
  name_eq : copy.name.text =
    if (joinName pre v.name.text).strlen + 1 ≤ CONFIG_ZTACX_VALUE_NAME_MAX then
      joinName pre v.name.text
    else v.name.text
  kind_eq : copy.kind = v.kind
  value_eq : copy.value = v.value
  onChange_eq : copy.onChange = v.onChange
  node_eq : copy.node = v.node

/-- **A table is copied under a prefix**: every entry is, and the source is as it was. -/
def CopiesUnderPrefix (m : LeafMemory) (src dst : VariablePtr) (count : ℕ) (pre : CString) :
    Prop :=
  ∃ m', ztacxVariablesCopy m (some dst) (m.table src count) (m.nodes src) count (some pre) =
      .ok m' ∧
    List.Forall₂ (CopiedUnder pre) (m.listedTable src count) (m'.listedTable dst count) ∧
    m'.listedTable src count = m.listedTable src count

/-- Names as an initialiser leaves them: terminated, with zeros up to the end. -/
structure NamesPadded (table : List VariableRecord) : Prop where
  initialised : Initialised table
  terminated : ∀ v ∈ table, v.name.text.strlen < CONFIG_ZTACX_VALUE_NAME_MAX

section Entry

variable {pre : CString} {v : TableEntry}

/-- The entry the copy makes of one with an initialised name. -/
def TableEntry.renamed (pre : CString) (v : TableEntry) : TableEntry :=
  ⟨v.toVariableRecord.renamed pre, v.node⟩

/-- An initialised name is terminated unless it fills the array. -/
theorem nul_mem_ofText_iff {text : CString} (fits : text.strlen ≤ CONFIG_ZTACX_VALUE_NAME_MAX) :
    0 ∈ (NameArray.ofText text).bytes ↔ text.strlen < CONFIG_ZTACX_VALUE_NAME_MAX := by
  rw [NameArray.ofText_bytes fits, CString.padded, List.mem_append, List.mem_replicate]
  constructor
  · rintro (inText | ⟨left, -⟩)
    · exact absurd inText text.nul_free
    · omega
  · intro short
    exact .inr ⟨by omega, rfl⟩

/-- **The entry the copy makes** is the right one unless the joined name fills the
array. -/
theorem copiedUnder_renamed_iff (init : v.name = .ofText v.name.text)
    (short : v.name.text.strlen < CONFIG_ZTACX_VALUE_NAME_MAX) :
    CopiedUnder pre v (v.renamed pre) ↔
      (joinName pre v.name.text).strlen ≠ CONFIG_ZTACX_VALUE_NAME_MAX := by
  have joined := strlen_joinName pre v.name.text
  unfold TableEntry.renamed VariableRecord.renamed
  by_cases full : CONFIG_ZTACX_VALUE_NAME_MAX ≤ v.name.text.strlen + pre.strlen
  · rw [if_pos full]
    refine iff_of_true ⟨?_, ?_, rfl, rfl, rfl, rfl⟩ (by omega)
    · rw [init, nul_mem_ofText_iff short.le]
      exact short
    · rw [if_neg (by omega)]
  · rw [if_neg full]
    have fits : (joinName pre v.name.text).strlen ≤ CONFIG_ZTACX_VALUE_NAME_MAX := by omega
    constructor
    · intro copied
      exact ((nul_mem_ofText_iff fits).mp copied.terminated).ne
    · intro room
      have room := lt_of_le_of_ne fits room
      refine ⟨(nul_mem_ofText_iff fits).mpr room, ?_, rfl, rfl, rfl, rfl⟩
      rw [if_pos (Nat.succ_le_of_lt room)]
      exact NameArray.text_ofText fits

end Entry

section Memory

variable {m : LeafMemory} {src dst : VariablePtr} {count : ℕ} {pre : CString}

theorem length_table : (m.table src count).length = count := by
  rw [LeafMemory.table, List.length_map, tablePtrs, List.length_range']

theorem length_listedTable : (m.listedTable src count).length = count := by
  rw [LeafMemory.listedTable, List.length_map, tablePtrs, List.length_range']

/-- Entry `i` of a table. -/
theorem getElem_listedTable {i : ℕ} (inside : i < (m.listedTable src count).length) :
    (m.listedTable src count)[i] = ⟨m.record (src + i), m.registry.variableNext (src + i)⟩ := by
  simp only [LeafMemory.listedTable, tablePtrs, List.getElem_map, List.getElem_range', one_mul]

/-- The records of the entries. -/
theorem map_record_listedTable :
    (m.listedTable src count).map TableEntry.toVariableRecord = m.table src count := by
  rw [LeafMemory.listedTable, List.map_map]
  rfl

/-- What the copy of a table does to memory. -/
theorem ztacxVariablesCopy_table (padded : NamesPadded (m.table src count)) :
    ztacxVariablesCopy m (some dst) (m.table src count) (m.nodes src) count (some pre) =
      .ok (m.write dst ((m.table src count).map (VariableRecord.renamed pre)) (m.nodes src)) := by
  have copied := @copiedTable_renamed _ pre padded.initialised padded.terminated
  rw [length_table] at copied
  unfold ztacxVariablesCopy
  rw [copied]
  rfl

/-- **The copy is there**: every entry under its new name, with the node of the entry
it was made from. -/
theorem listedTable_write_renamed :
    (m.write dst ((m.table src count).map (VariableRecord.renamed pre))
      (m.nodes src)).listedTable dst count =
        (m.listedTable src count).map (TableEntry.renamed pre) := by
  apply List.ext_getElem
  · rw [List.length_map, length_listedTable, length_listedTable]
  · intro i inside inside'
    have short : i < count := lt_of_lt_of_eq inside length_listedTable
    have records : ((m.table src count).map (VariableRecord.renamed pre)).length = count := by
      rw [List.length_map, length_table]
    have at_i : tableEntry dst ((m.table src count).map (VariableRecord.renamed pre)) (dst + i) =
        some ((m.record (src + i)).renamed pre) := by
      rw [LeafMemory.tableEntry_add, List.getElem?_map, LeafMemory.table, List.getElem?_map,
        tablePtrs, List.getElem?_range' short, one_mul]
      rfl
    have mem : dst + i ∈ tablePtrs dst ((m.table src count).map
        (VariableRecord.renamed pre)).length := by
      rw [records]
      exact List.mem_range'_1.mpr ⟨Nat.le_add_right _ _, Nat.add_lt_add_left short _⟩
    rw [getElem_listedTable, List.getElem_map, getElem_listedTable, m.write_record_of_mem at_i,
      m.write_variableNext_of_mem mem, Nat.add_sub_cancel_left]
    rfl

/-- A table elsewhere is not affected. -/
theorem listedTable_write_of_disjoint (m : LeafMemory) {table : List VariableRecord}
    {nodes : ℕ → Option VariablePtr}
    (apart : ∀ v ∈ tablePtrs src count, v ∉ tablePtrs dst table.length) :
    (m.write dst table nodes).listedTable src count = m.listedTable src count := by
  refine List.map_congr_left fun v mem => ?_
  rw [m.write_record_of_notMem (apart v mem), m.write_variableNext_of_notMem (apart v mem)]

/-- **When a table is copied under a prefix**: no joined name fills the array. -/
theorem copiesUnderPrefix_iff (padded : NamesPadded (m.table src count))
    (apart : ∀ v ∈ tablePtrs src count, v ∉ tablePtrs dst count) :
    CopiesUnderPrefix m src dst count pre ↔
      ∀ v ∈ m.table src count,
        (joinName pre v.name.text).strlen ≠ CONFIG_ZTACX_VALUE_NAME_MAX := by
  have length : ((m.table src count).map (VariableRecord.renamed pre)).length = count := by
    rw [List.length_map, length_table]
  have kept : (m.write dst ((m.table src count).map (VariableRecord.renamed pre))
      (m.nodes src)).listedTable src count = m.listedTable src count :=
    listedTable_write_of_disjoint m (by rw [length]; exact apart)
  have entries : List.Forall₂ (CopiedUnder pre) (m.listedTable src count)
      ((m.listedTable src count).map (TableEntry.renamed pre)) ↔
        ∀ v ∈ m.table src count,
          (joinName pre v.name.text).strlen ≠ CONFIG_ZTACX_VALUE_NAME_MAX := by
    rw [List.forall₂_map_right_iff, List.forall₂_same, ← map_record_listedTable,
      List.forall_mem_map]
    refine forall₂_congr fun v mem => ?_
    have record : v.toVariableRecord ∈ m.table src count := by
      rw [← map_record_listedTable]
      exact List.mem_map_of_mem mem
    exact copiedUnder_renamed_iff (padded.initialised _ record) (padded.terminated _ record)
  rw [← entries]
  constructor
  · rintro ⟨m', ran, copied, -⟩
    cases (ztacxVariablesCopy_table padded).symm.trans ran
    rwa [listedTable_write_renamed] at copied
  · intro copied
    refine ⟨_, ztacxVariablesCopy_table padded, ?_, kept⟩
    rwa [listedTable_write_renamed]

end Memory

/-- A memory in which the default settings of a LED are at an address, and are on the
list of settings. -/
def ledMemory : LeafMemory :=
  (LeafMemory.write
    ⟨Registry.boot (fun _ => ⟨.empty, ⟨.empty, ⟨false, false, false⟩⟩⟩) fun _ => .empty,
      fun _ => .ofEntry "" .bool .zero⟩
    100 (ledDefaultSettings ⟨true, 1000, 50, .empty, 0, 0⟩) unlisted).register
      [(.settings, [100, 101])]

theorem ledMemory_padded : NamesPadded (ledMemory.table 100 2) where
  initialised := by
    unfold Initialised
    decide
  terminated := by decide

/-- The settings of a LED called `red`. -/
theorem copiesUnderPrefix_red : CopiesUnderPrefix ledMemory 100 200 2 (.ofString "red") :=
  (copiesUnderPrefix_iff ledMemory_padded (by decide)).mpr (by decide)

/-- **A name of 34 characters** and an underscore in front of `cycle` fill the array. -/
theorem not_copiesUnderPrefix_long : ¬ CopiesUnderPrefix ledMemory 100 200 2
    (.ofString "status_led_on_the_left_of_the_door") := by
  rintro ⟨m', ran, copied, -⟩
  cases (ztacxVariablesCopy_table ledMemory_padded).symm.trans ran
  have first : CopiedUnder (.ofString "status_led_on_the_left_of_the_door")
      ⟨ledMemory.record 100, some 101⟩
      (TableEntry.renamed (.ofString "status_led_on_the_left_of_the_door")
        ⟨ledMemory.record 100, some 101⟩) := by
    rw [listedTable_write_renamed] at copied
    exact (List.forall₂_cons.mp copied).1
  refine (copiedUnder_renamed_iff ?_ ?_).mp first ?_
  · decide
  · decide
  · decide

end Ztacx
