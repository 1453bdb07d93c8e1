import Ztacx.CModel.Run
import Ztacx.CModel.Sorting
import Ztacx.Value

/-!
# The table of shell commands

A leaf registers its command with `ztacx_shell_cmd_register` of `src/ztacx.c`, and the
shell completes commands from what `ztacx_dynamic_cmd_get` enumerates, which must be
sorted alphabetically.

The table is an array of twenty entries, of which `dynamic_cmd_cnt` are in use.  A
registration writes behind the entries in use and sorts them together with the new one.
The other entries are as the static storage has them: their syntax is the null pointer,
which `shell_cmd_cmp` would not survive.

The entries in use are at any time the registered ones, sorted, whatever is registered
and however often (`registered_listed`).  `qsort` is the C library's and is a parameter.
-/

namespace Ztacx.ShellTable

open CModel

/-! ## The code -/

def MAX_CMD_CNT : ℕ := 20

/-- The address of a command's handler. -/
abbrev ShellCmdHandler := ℕ

/-- `struct shell_static_entry`, with the members that a leaf fills in. -/
structure ShellStaticEntry where
  syntaxPtr : Option CString
  help : Option CString
  handler : Option ShellCmdHandler
deriving DecidableEq, Repr

/-- `dynamic_cmd_table` and `dynamic_cmd_cnt`. -/
structure CommandTable where
  dynamicCmdTable : List ShellStaticEntry
  dynamicCmdCnt : BitVec 8
deriving DecidableEq, Repr

/-- `shell_cmd_cmp`. -/
def shellCmdCmp (a b : ShellStaticEntry) : Except Fault ℤ :=
  match a.syntaxPtr, b.syntaxPtr with
  | some s, some t => .ok (s.strcmp t)
  | _, _ => .error .nullDeref

/-- The `qsort` of the C library, for entries of the table. -/
abbrev Qsort := (ShellStaticEntry → ShellStaticEntry → Except Fault ℤ) →
  List ShellStaticEntry → Except Fault (List ShellStaticEntry)

/-- `ztacx_shell_cmd_register`. -/
def ztacxShellCmdRegister (qsort : Qsort) (s : CommandTable) (entry : ShellStaticEntry) :
    Except Fault (CommandTable × ℤ) :=
  if MAX_CMD_CNT ≤ s.dynamicCmdCnt.toNat then .ok (s, - ENOMEM)
  else
    let table := s.dynamicCmdTable.set s.dynamicCmdCnt.toNat entry
    let cnt := s.dynamicCmdCnt + 1
    (qsort shellCmdCmp (table.take cnt.toNat)).map fun sorted =>
      (⟨sorted ++ table.drop cnt.toNat, cnt⟩, 0)

/-- `ztacx_dynamic_cmd_get`: what it leaves in the caller's entry. -/
def ztacxDynamicCmdGet (s : CommandTable) (idx : ℕ) (entry : ShellStaticEntry) :
    Except Fault ShellStaticEntry :=
  if idx < s.dynamicCmdCnt.toNat then
    match s.dynamicCmdTable[idx]? with
    | some found => .ok found
    | none => .error .outOfBounds
  else .ok { entry with syntaxPtr := none }

/-- The static storage before the first registration. -/
def CommandTable.boot : CommandTable where
  dynamicCmdTable := List.replicate MAX_CMD_CNT ⟨none, none, none⟩
  dynamicCmdCnt := 0

/-! ## Registrations -/

/-- What a leaf registers: its entry has a syntax. -/
structure ShellCommandEntry extends ShellStaticEntry where
  named : syntaxPtr.isSome

/-- The table, and the registrations so far with what they returned. -/
structure CommandHistory where
  table : CommandTable
  calls : List (ShellStaticEntry × ℤ)

def CommandHistory.boot : CommandHistory := ⟨.boot, []⟩

def registerStep (qsort : Qsort) (h : CommandHistory) (entry : ShellCommandEntry) :
    Option CommandHistory :=
  (ztacxShellCmdRegister qsort h.table entry.toShellStaticEntry).toOption.map fun (table, rc) =>
    ⟨table, h.calls ++ [(entry.toShellStaticEntry, rc)]⟩

/-- The entries whose registration returned zero. -/
def CommandHistory.accepted (h : CommandHistory) : List ShellStaticEntry :=
  (h.calls.filter fun call => call.2 = 0).map Prod.fst

/-- The entries in use. -/
def CommandTable.entries (s : CommandTable) : List ShellStaticEntry :=
  s.dynamicCmdTable.take s.dynamicCmdCnt.toNat

/-- The order of the table: `strcmp` of the syntax. -/
def Precedes (a b : ShellStaticEntry) : Prop :=
  ∃ s ∈ a.syntaxPtr, ∃ t ∈ b.syntaxPtr, s.strcmp t ≤ 0

/-- **What the shell lists**: the registered entries, each of them once and in order, and
then a null syntax.  A table is full with twenty entries, and then a registration is
refused and changes nothing. -/
structure RegisteredListed (qsort : Qsort) (h : CommandHistory) : Prop where
  perm : h.table.entries.Perm h.accepted
  sorted : h.table.entries.Pairwise Precedes
  cnt_le : h.table.dynamicCmdCnt.toNat ≤ MAX_CMD_CNT
  full : h.table.dynamicCmdCnt.toNat = MAX_CMD_CNT → ∀ entry,
    ztacxShellCmdRegister qsort h.table entry = .ok (h.table, - ENOMEM)
  vacant : h.table.dynamicCmdCnt.toNat < MAX_CMD_CNT → ∀ entry : ShellCommandEntry,
    ∃ s, ztacxShellCmdRegister qsort h.table entry.toShellStaticEntry = .ok (s, 0)
  listed : ∀ idx found, h.table.entries[idx]? = some found → ∀ entry,
    ztacxDynamicCmdGet h.table idx entry = .ok found ∧ found.syntaxPtr.isSome
  ended : ∀ idx, h.accepted.length ≤ idx → ∀ entry,
    ztacxDynamicCmdGet h.table idx entry = .ok { entry with syntaxPtr := none }

/-! ## One registration -/

section Register

variable {qsort : Qsort} {s : CommandTable}

/-- Entries with a syntax can be compared. -/
theorem compares_shellCmdCmp {entries : List ShellStaticEntry}
    (named : ∀ e ∈ entries, e.syntaxPtr.isSome) :
    Compares shellCmdCmp entries fun a b =>
      (a.syntaxPtr.getD .empty).strcmp (b.syntaxPtr.getD .empty) where
  result := by
    intro a ha b hb
    obtain ⟨s, hs⟩ := Option.isSome_iff_exists.mp (named a ha)
    obtain ⟨t, ht⟩ := Option.isSome_iff_exists.mp (named b hb)
    rw [shellCmdCmp, hs, ht]
    rfl
  swap := by
    intro a _ b _
    rw [CString.strcmp_swap]
    exact Int.neg_neg_iff_pos
  trans := fun _ _ _ _ _ _ ab bc => CString.strcmp_trans ab bc

/-- Writing behind the entries in use. -/
theorem take_set_entries (sized : s.dynamicCmdCnt.toNat < s.dynamicCmdTable.length)
    (entry : ShellStaticEntry) :
    (s.dynamicCmdTable.set s.dynamicCmdCnt.toNat entry).take (s.dynamicCmdCnt.toNat + 1) =
      s.entries ++ [entry] := by
  rw [List.take_add_one, List.take_set_of_le le_rfl, List.getElem?_set_self sized]
  rfl

theorem entries_append {sorted rest : List ShellStaticEntry} {cnt : BitVec 8}
    (length : sorted.length = cnt.toNat) :
    CommandTable.entries ⟨sorted ++ rest, cnt⟩ = sorted := by
  rw [CommandTable.entries, ← length]
  exact List.take_left

/-- **A registration that finds room** returns zero, and sorts the entry in. -/
theorem ztacxShellCmdRegister_spec (sorts : SortsArrays qsort)
    (sized : s.dynamicCmdTable.length = MAX_CMD_CNT)
    (room : s.dynamicCmdCnt.toNat < MAX_CMD_CNT)
    (named : ∀ e ∈ s.entries, e.syntaxPtr.isSome) (entry : ShellCommandEntry) :
    ∃ s', ztacxShellCmdRegister qsort s entry.toShellStaticEntry = .ok (s', 0) ∧
      s'.dynamicCmdTable.length = MAX_CMD_CNT ∧
      s'.dynamicCmdCnt.toNat = s.dynamicCmdCnt.toNat + 1 ∧
      s'.entries.Perm (s.entries ++ [entry.toShellStaticEntry]) ∧
      s'.entries.Pairwise Precedes := by
  have next : (s.dynamicCmdCnt + 1).toNat = s.dynamicCmdCnt.toNat + 1 := by
    unfold MAX_CMD_CNT at room
    rw [BitVec.toNat_add]
    show (s.dynamicCmdCnt.toNat + 1) % 256 = _
    omega
  have all : ∀ e ∈ s.entries ++ [entry.toShellStaticEntry], e.syntaxPtr.isSome :=
    List.forall_mem_append.mpr ⟨named, List.forall_mem_singleton.mpr entry.named⟩
  obtain ⟨sorted, ran, perm, ordered⟩ := sorts _ _ _ (compares_shellCmdCmp all)
  have length : sorted.length = (s.dynamicCmdCnt + 1).toNat := by
    rw [next, perm.length_eq, List.length_append, List.length_singleton, CommandTable.entries,
      List.length_take]
    omega
  have registered : ztacxShellCmdRegister qsort s entry.toShellStaticEntry =
      .ok (⟨sorted ++ (s.dynamicCmdTable.set s.dynamicCmdCnt.toNat
        entry.toShellStaticEntry).drop (s.dynamicCmdCnt + 1).toNat, s.dynamicCmdCnt + 1⟩, 0) := by
    rw [ztacxShellCmdRegister, if_neg (not_le.mpr room)]
    dsimp only
    rw [next, take_set_entries (sized.symm ▸ room), ran]
    rfl
  refine ⟨_, registered, ?_, next, ?_⟩
  · rw [List.length_append, length, List.length_drop, List.length_set, sized]
    omega
  · rw [entries_append length]
    refine ⟨perm, ordered.imp_of_mem fun {a b} ha hb le => ?_⟩
    obtain ⟨s, hs⟩ := Option.isSome_iff_exists.mp (all a (perm.mem_iff.mp ha))
    obtain ⟨t, ht⟩ := Option.isSome_iff_exists.mp (all b (perm.mem_iff.mp hb))
    rw [hs, ht] at le
    exact ⟨s, hs, t, ht, le⟩

end Register

/-! ## Runs -/

section Runs

variable {qsort : Qsort} {h : CommandHistory}

/-- **The invariant**: the entries in use are the accepted ones, sorted. -/
structure TableInv (h : CommandHistory) : Prop where
  length_eq : h.table.dynamicCmdTable.length = MAX_CMD_CNT
  cnt_le : h.table.dynamicCmdCnt.toNat ≤ MAX_CMD_CNT
  named : ∀ e ∈ h.table.entries, e.syntaxPtr.isSome
  perm : h.table.entries.Perm h.accepted
  sorted : h.table.entries.Pairwise Precedes

theorem tableInv_boot : TableInv .boot where
  length_eq := List.length_replicate
  cnt_le := Nat.zero_le _
  named := fun _ mem => absurd mem List.not_mem_nil
  perm := .refl _
  sorted := .nil

theorem TableInv.length_entries (inv : TableInv h) :
    h.table.entries.length = h.table.dynamicCmdCnt.toNat := by
  rw [CommandTable.entries, List.length_take, inv.length_eq]
  exact min_eq_left inv.cnt_le

theorem ztacxShellCmdRegister_full (qsort : Qsort) {s : CommandTable}
    (full : MAX_CMD_CNT ≤ s.dynamicCmdCnt.toNat) (entry : ShellStaticEntry) :
    ztacxShellCmdRegister qsort s entry = .ok (s, - ENOMEM) :=
  if_pos full

theorem accepted_concat (h : CommandHistory) (s : CommandTable) (entry : ShellStaticEntry)
    (rc : ℤ) : CommandHistory.accepted ⟨s, h.calls ++ [(entry, rc)]⟩ =
      h.accepted ++ if rc = 0 then [entry] else [] := by
  unfold CommandHistory.accepted
  rw [List.filter_append, List.map_append]
  by_cases zero : rc = 0 <;> simp [zero]

/-- **The step lemma**: a registration goes through, and keeps the invariant. -/
theorem TableInv.registerStep (inv : TableInv h) (sorts : SortsArrays qsort)
    (entry : ShellCommandEntry) :
    ∃ h', ShellTable.registerStep qsort h entry = some h' ∧ TableInv h' := by
  by_cases room : h.table.dynamicCmdCnt.toNat < MAX_CMD_CNT
  · obtain ⟨s, registered, length, cnt, perm, sorted⟩ :=
      ztacxShellCmdRegister_spec sorts inv.length_eq room inv.named entry
    refine ⟨⟨s, h.calls ++ [(entry.toShellStaticEntry, 0)]⟩, ?_, length, ?_, ?_, ?_, sorted⟩
    · rw [ShellTable.registerStep, registered]
      rfl
    · show s.dynamicCmdCnt.toNat ≤ MAX_CMD_CNT
      omega
    · intro e mem
      rcases List.mem_append.mp (perm.mem_iff.mp mem) with before | new
      · exact inv.named e before
      · rw [List.mem_singleton.mp new]
        exact entry.named
    · rw [accepted_concat, if_pos rfl]
      exact perm.trans (inv.perm.append_right _)
  · have full := ztacxShellCmdRegister_full qsort (not_lt.mp room) entry.toShellStaticEntry
    refine ⟨⟨h.table, h.calls ++ [(entry.toShellStaticEntry, - ENOMEM)]⟩, ?_, inv.length_eq,
      inv.cnt_le, inv.named, ?_, inv.sorted⟩
    · rw [ShellTable.registerStep, full]
      rfl
    · rw [accepted_concat, if_neg (by decide), List.append_nil]
      exact inv.perm

/-- What the invariant says to the shell. -/
theorem TableInv.registeredListed (inv : TableInv h) (sorts : SortsArrays qsort) :
    RegisteredListed qsort h where
  perm := inv.perm
  sorted := inv.sorted
  cnt_le := inv.cnt_le
  full := fun full => ztacxShellCmdRegister_full qsort full.ge
  vacant := by
    intro room entry
    obtain ⟨s, registered, -⟩ :=
      ztacxShellCmdRegister_spec sorts inv.length_eq room inv.named entry
    exact ⟨s, registered⟩
  listed := by
    intro idx found there entry
    refine ⟨?_, inv.named found (List.mem_of_getElem? there)⟩
    have inUse : idx < h.table.dynamicCmdCnt.toNat := by
      rw [← inv.length_entries]
      exact (List.getElem?_eq_some_iff.mp there).1
    rw [CommandTable.entries, List.getElem?_take_of_lt inUse] at there
    rw [ztacxDynamicCmdGet, if_pos inUse, there]
  ended := by
    intro idx behind entry
    rw [← inv.perm.length_eq, inv.length_entries] at behind
    exact if_neg (not_lt.mpr behind)

/-- **The shell lists what is registered**, after every registration of any history. -/
theorem registered_listed (sorts : SortsArrays qsort) (entries : List ShellCommandEntry) :
    (∃ h, run (registerStep qsort) .boot entries = some h) ∧
      Throughout (registerStep qsort) (RegisteredListed qsort) .boot entries := by
  have moves : ∀ {h entry}, TableInv h → True →
      ∃ h', registerStep qsort h entry = some h' ∧ (True → TableInv h') := by
    intro h entry inv _
    obtain ⟨h', taken, inv'⟩ := inv.registerStep sorts entry
    exact ⟨h', taken, fun _ => inv'⟩
  obtain ⟨through, always⟩ := progress_throughout (C := fun _ _ => True) (D := fun _ => True)
    moves tableInv_boot (fun _ _ => trivial)
    (stepsMeet_of_forall (registerStep qsort) (fun _ _ => trivial) .boot entries)
  exact ⟨through, always.mono fun inv => inv.registeredListed sorts⟩

end Runs

/-- The entry of a leaf. -/
def leafEntry (name : String) : ShellCommandEntry := ⟨⟨some (.ofString name), none, none⟩, rfl⟩

/-- A battery after a LED and two strips. -/
theorem registered_listed_four :
    (∃ h, run (registerStep insertionSort) .boot
      [leafEntry "led", leafEntry "strip", leafEntry "strip", leafEntry "battery"] = some h) ∧
      Throughout (registerStep insertionSort) (RegisteredListed insertionSort) .boot
        [leafEntry "led", leafEntry "strip", leafEntry "strip", leafEntry "battery"] :=
  registered_listed sortsArrays_insertionSort _

end Ztacx.ShellTable
