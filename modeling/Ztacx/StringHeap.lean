import Ztacx.CModel.Heap
import Ztacx.Registry
import Ztacx.SettingsLoad
import Ztacx.Bluetooth.GattString

/-!
# Strings on the heap

The STRING arms of `ztacx_variable_value_set`, `ztacx_variable_value_set_string`,
`settings_handle_set` and `bt_write_variable` over a heap that is shared by all
variables.  Where `StringPtr` says that a string is in *some* block, a pointer here
says in which (`StringMemory`), so that two variables can hold the same one and a
pointer can outlive its block.

Which bytes lie inside a block is not looked at again: a write of text makes the
block hold the text it was meant to leave there, and a write through a pointer to a
literal leaves the literal as it is.  Return codes are left out.

`StringMemory.view` forgets the addresses.  What the functions over a single variable
let through, the functions here do with the same strings (`valueSet_view`,
`handleString_view`, `writeString_view`), and the strings of the other variables stay
as they are.
-/

namespace Ztacx

open CModel

/-- The address of a heap block. -/
abbrev BlockPtr := ℕ

/-- The `val_string` pointer of every variable, and the heap. -/
structure StringMemory where
  heap : Heap BlockPtr CString
  valString : VariablePtr → HeapPtr BlockPtr CString

/-- What never changes about the variables: their kinds and names, and the list of
settings. -/
structure VariableTable where
  kind : VariablePtr → ZtacxValueKind
  name : VariablePtr → CString
  settings : List VariablePtr

/-- The setting that `settings_handle_set` stops at. -/
def VariableTable.setting (T : VariableTable) (names : SettingsNames) (name : CString) :
    Option VariablePtr := T.settings.find? fun v => names.steq name (T.name v) = some none

/-- What one call of `settings_handle_set` gets from outside: the length of the
record, the address the allocator proposes, and the text that is in the object when
the record has been read into it. -/
structure StringRead where
  len : ℕ
  proposal : Option BlockPtr
  text : CString

/-- The text after `strncpy` of the payload at an offset.  Behind the end of the old
text it changes nothing, since the old NUL is in front of it. -/
def writtenText (old : CString) (payload : List UInt8) (offset : ℕ) : CString :=
  if offset ≤ old.strlen then (old.take offset).append (.ofBytes payload) else old

namespace StringMemory

/-- `v->value.val_string = p`, with the heap as it is then. -/
def assign (m : StringMemory) (v : VariablePtr) (heap : Heap BlockPtr CString)
    (p : HeapPtr BlockPtr CString) : StringMemory where
  heap := heap
  valString := Function.update m.valString v p

section Arms

variable (m : StringMemory) (v : VariablePtr)

/-- `case ZTACX_VALUE_STRING` of `ztacx_variable_value_set`. -/
def valueSet (value : Option CString) (proposal : Option BlockPtr) : Except Fault StringMemory :=
  match value with
  | none => .ok m
  | some text =>
    match m.heap.calloc proposal text with
    | (_, .null) => .ok m
    | (heap, p) => (heap.free (m.valString v)).map fun heap => m.assign v heap p

/-- `case ZTACX_VALUE_STRING` of `settings_handle_set`. -/
def handleString (io : StringRead) : Except Fault StringMemory :=
  match m.valString v with
  | .null =>
    let r := m.heap.calloc io.proposal io.text
    .ok (m.assign v r.1 r.2)
  | p =>
    (m.heap.deref p).bind fun old =>
      if io.len ≠ old.strlen then
        (m.heap.realloc p io.proposal).map fun r => m.assign v (r.1.store r.2 io.text) r.2
      else .ok (m.assign v (m.heap.store p io.text) p)

/-- `case ZTACX_VALUE_STRING` of `bt_write_variable`. -/
def writeString (payload : List UInt8) (offset : ℕ) (reallocs callocs : Option BlockPtr) :
    Except Fault StringMemory :=
  if STRING_CHAR_MAX < payload.length ∨ STRING_CHAR_MAX < offset + payload.length then .ok m
  else
    let valString := m.valString v
    (m.heap.deref valString).bind fun old =>
      (if old.strlen < offset + payload.length then m.heap.realloc valString reallocs
        else .ok (m.heap, valString)).bind fun r =>
          let heap := r.1.store r.2 (writtenText old payload offset)
          -- `val_string` is a local: the variable still holds the old pointer
          (heap.deref r.2).bind fun text => { m with heap := heap }.valueSet v (some text) callocs

end Arms

/-! ## The calls

A variable of another kind has no string, and a call on it does nothing here. -/

section Calls

variable (T : VariableTable) (m : StringMemory)

/-- `ztacx_variable_value_set`. -/
def ztacxVariableValueSet (v : VariablePtr) (value : Option CString)
    (proposal : Option BlockPtr) : Except Fault StringMemory :=
  if T.kind v = .string then m.valueSet v value proposal else .ok m

/-- `ztacx_variable_value_set_string`. -/
def ztacxVariableValueSetString (v : VariablePtr) (value : Option CString)
    (proposal : Option BlockPtr) : Except Fault StringMemory :=
  if T.kind v = .string then m.ztacxVariableValueSet T v value proposal else .ok m

/-- `settings_handle_set`. -/
def settingsHandleSet (names : SettingsNames) (name : CString) (io : StringRead) :
    Except Fault StringMemory :=
  match T.setting names name with
  | none => .ok m
  | some v => if T.kind v = .string then m.handleString v io else .ok m

/-- `bt_write_variable`. -/
def btWriteVariable (v : VariablePtr) (payload : List UInt8) (offset : ℕ)
    (reallocs callocs : Option BlockPtr) : Except Fault StringMemory :=
  if T.kind v = .string then m.writeString v payload offset reallocs callocs else .ok m

end Calls

/-! ## The view from one variable -/

/-- The string of a variable, without its address. -/
def view (m : StringMemory) (v : VariablePtr) : StringPtr :=
  match m.valString v with
  | .null => .null
  | .static text => .literal text
  | .block b => .block (m.heap.contents b)

/-- The pointers own their blocks. -/
def StringsOwned (m : StringMemory) : Prop := Owned m.heap.live m.valString

/-- The string of `v` is replaced, and no other variable notices. -/
structure Replaces (v : VariablePtr) (m m' : StringMemory) : Prop where
  others : ∀ w, w ≠ v → m'.valString w = m.valString w
  kept : ∀ w b, w ≠ v → m.valString w = .block b →
    b ∈ m'.heap.live ∧ m'.heap.contents b = m.heap.contents b
  here : ∀ b, m'.valString v = .block b →
    b ∈ m'.heap.live ∧ ∀ w, w ≠ v → m.valString w ≠ .block b

namespace Replaces

variable {m m' m'' : StringMemory} {v w : VariablePtr}

theorem refl (owned : m.StringsOwned) (v : VariablePtr) : Replaces v m m where
  others _ _ := rfl
  kept _ _ _ points := ⟨owned.live points, rfl⟩
  here _ points := ⟨owned.live points, fun _ other there => other (owned.unique there points)⟩

theorem trans (first : Replaces v m m') (second : Replaces v m' m'') : Replaces v m m'' where
  others w other := (second.others w other).trans (first.others w other)
  kept w b other points := by
    obtain ⟨-, same⟩ := first.kept w b other points
    obtain ⟨live, same'⟩ := second.kept w b other ((first.others w other).trans points)
    exact ⟨live, same'.trans same⟩
  here b points := by
    obtain ⟨live, nobody⟩ := second.here b points
    exact ⟨live, fun w other there => nobody w other ((first.others w other).trans there)⟩

theorem stringsOwned (replaces : Replaces v m m') (owned : m.StringsOwned) : m'.StringsOwned :=
  owned.replace replaces.others (fun w b other points => (replaces.kept w b other points).1)
    replaces.here

theorem view_of_ne (replaces : Replaces v m m') (other : w ≠ v) : m'.view w = m.view w := by
  unfold view
  rw [replaces.others w other]
  cases points : m.valString w with
  | null => rfl
  | static text => rfl
  | block b => exact congrArg StringPtr.block (replaces.kept w b other points).2

end Replaces

/-! ## What the arms do -/

section Spec

variable {m : StringMemory} {v : VariablePtr} {proposal : Option BlockPtr} {text : CString}
  {b : BlockPtr}

/-- A new block, stored in the variable, whatever becomes of the old one. -/
theorem replaces_fresh (owned : m.StringsOwned) (got : m.heap.fresh proposal = some b)
    {live : Finset BlockPtr} (new : b ∈ live)
    (kept : ∀ w c, w ≠ v → m.valString w = .block c → c ∈ live) (text : CString) :
    Replaces v m (m.assign v ⟨live, Function.update m.heap.contents b text⟩ (.block b)) where
  others w other := Function.update_of_ne other _ _
  kept w c other points := by
    have distinct : c ≠ b := by
      rintro rfl
      exact owned.ne_block (Heap.fresh_notMem got) w points
    exact ⟨kept w c other points, Function.update_of_ne distinct _ _⟩
  here c points := by
    have here : (m.assign v ⟨live, Function.update m.heap.contents b text⟩ (.block b)).valString v =
        .block b := Function.update_self _ _ _
    cases here.symm.trans points
    exact ⟨new, fun w _ => owned.ne_block (Heap.fresh_notMem got) w⟩

theorem view_assign_fresh (live : Finset BlockPtr) :
    (m.assign v ⟨live, Function.update m.heap.contents b text⟩ (.block b)).view v =
      .block text := by
  simp [view, assign]

theorem valueSet_of_none (failed : m.heap.fresh proposal = none) :
    m.valueSet v (some text) proposal = .ok m := by
  rw [valueSet, Heap.calloc_of_none failed]

/-- A literal is handed to `free`. -/
theorem valueSet_literal (got : m.heap.fresh proposal = some b) {t : CString}
    (literal : m.valString v = .static t) :
    m.valueSet v (some text) proposal = .error .invalidFree := by
  rw [valueSet, Heap.calloc_of_fresh got, literal]
  rfl

/-- **Setting a string that is not a literal.** -/
theorem valueSet_of_fresh (owned : m.StringsOwned) (got : m.heap.fresh proposal = some b)
    (writable : ∀ t, m.valString v ≠ .static t) :
    ∃ m', m.valueSet v (some text) proposal = .ok m' ∧ Replaces v m m' ∧
      m'.view v = .block text := by
  rw [valueSet, Heap.calloc_of_fresh got]
  dsimp only
  cases old : m.valString v with
  | null =>
      refine ⟨_, rfl, replaces_fresh owned got (Finset.mem_insert_self _ _) ?_ text,
        view_assign_fresh _⟩
      exact fun w c _ points => Finset.mem_insert_of_mem (owned.live points)
  | static t => exact absurd old (writable t)
  | block c =>
      have distinct : b ≠ c := by
        rintro rfl
        exact owned.ne_block (Heap.fresh_notMem got) v old
      have live : c ∈ insert b m.heap.live := Finset.mem_insert_of_mem (owned.live old)
      refine ⟨_, by rw [Heap.free, if_pos live]; rfl, replaces_fresh owned got ?_ ?_ text,
        view_assign_fresh _⟩
      · exact Finset.mem_erase.mpr ⟨distinct, Finset.mem_insert_self _ _⟩
      · intro w d other points
        exact Finset.erase_subset_erase c (Finset.subset_insert _ _)
          (owned.mem_erase other old points)

theorem assign_self {p : HeapPtr BlockPtr CString} (points : m.valString v = p)
    (heap : Heap BlockPtr CString) : m.assign v heap p = { m with heap := heap } := by
  subst points
  simp [assign]

/-- A text stored in the variable's own block. -/
theorem replaces_store (owned : m.StringsOwned) (old : m.valString v = .block b) (text : CString) :
    Replaces v m { m with heap := m.heap.store (.block b) text } where
  others _ _ := rfl
  kept w c other points := by
    have distinct : c ≠ b := by
      rintro rfl
      exact other (owned.unique points old)
    exact ⟨owned.live points, Function.update_of_ne distinct _ _⟩
  here c points := (Replaces.refl owned v).here c points

theorem view_store (old : m.valString v = .block b) (text : CString) :
    ({ m with heap := m.heap.store (.block b) text } : StringMemory).view v = .block text := by
  simp [view, old, Heap.store]

/-- The object of a string that is loaded can be had. -/
def HasRoom (m : StringMemory) (v : VariablePtr) (io : StringRead) : Prop :=
  match m.valString v with
  | .null => m.heap.fresh io.proposal ≠ none
  | .static _ => False
  | .block b => io.len = (m.heap.contents b).strlen ∨ io.proposal = some b ∨
      m.heap.fresh io.proposal ≠ none

theorem handleString_literal {t : CString} (literal : m.valString v = .static t)
    (io : StringRead) :
    m.handleString v io = if io.len = t.strlen then .ok m else .error .invalidFree := by
  unfold handleString
  rw [literal]
  show (if io.len ≠ t.strlen then _ else _) = _
  by_cases fits : io.len = t.strlen
  · rw [if_pos fits, if_neg (not_not.mpr fits), assign_self literal]
    rfl
  · rw [if_neg fits, if_pos fits]
    rfl

theorem handleString_fits (owned : m.StringsOwned) (old : m.valString v = .block b)
    {io : StringRead} (fits : io.len = (m.heap.contents b).strlen) :
    m.handleString v io = .ok { m with heap := m.heap.store (.block b) io.text } := by
  rw [handleString, old]
  dsimp only [Heap.deref]
  rw [if_pos (owned.live old)]
  exact (if_neg (not_not.mpr fits)).trans (congrArg Except.ok (assign_self old _))

theorem handleString_resizes (owned : m.StringsOwned) (old : m.valString v = .block b)
    {io : StringRead} (fits : io.len ≠ (m.heap.contents b).strlen) :
    m.handleString v io = (m.heap.realloc (.block b) io.proposal).map fun r =>
      m.assign v (r.1.store r.2 io.text) r.2 := by
  rw [handleString, old]
  dsimp only [Heap.deref]
  rw [if_pos (owned.live old)]
  exact if_pos fits

/-- The pointer is overwritten with null. -/
theorem replaces_null (owned : m.StringsOwned) (v : VariablePtr) :
    Replaces v m (m.assign v m.heap .null) where
  others _ other := Function.update_of_ne other _ _
  kept := (Replaces.refl owned v).kept
  here _ points := by cases (Function.update_self v _ m.valString).symm.trans points

theorem view_assign_null : (m.assign v m.heap .null).view v = .null := by simp [view, assign]

/-- **Loading a string that is not a literal.**  With room the variable holds the
text, and otherwise null. -/
theorem handleString_spec (owned : m.StringsOwned) (io : StringRead)
    (writable : ∀ t, m.valString v ≠ .static t) :
    ∃ m', m.handleString v io = .ok m' ∧ Replaces v m m' ∧
      (m.HasRoom v io → m'.view v = .block io.text) ∧ (¬ m.HasRoom v io → m'.view v = .null) := by
  cases old : m.valString v with
  | static t => exact absurd old (writable t)
  | null =>
      unfold HasRoom
      rw [handleString, old]
      dsimp only
      cases got : m.heap.fresh io.proposal with
      | none =>
          rw [Heap.calloc_of_none got]
          exact ⟨_, rfl, replaces_null owned v, fun room => absurd rfl room,
            fun _ => view_assign_null⟩
      | some b =>
          rw [Heap.calloc_of_fresh got]
          refine ⟨_, rfl, replaces_fresh owned got (Finset.mem_insert_self _ _) ?_ io.text,
            fun _ => view_assign_fresh _, fun noRoom => absurd (Option.some_ne_none b) noRoom⟩
          exact fun w c _ points => Finset.mem_insert_of_mem (owned.live points)
  | block b =>
      have live := owned.live old
      unfold HasRoom
      rw [old]
      dsimp only
      -- the block is kept whenever `realloc` is not asked, or answers with it
      have stays : Replaces v m { m with heap := m.heap.store (.block b) io.text } ∧
          ({ m with heap := m.heap.store (.block b) io.text } : StringMemory).view v =
            .block io.text := ⟨replaces_store owned old io.text, view_store old io.text⟩
      by_cases fits : io.len = (m.heap.contents b).strlen
      · rw [handleString_fits owned old fits]
        exact ⟨_, rfl, stays.1, fun _ => stays.2, fun noRoom => absurd (.inl fits) noRoom⟩
      rw [handleString_resizes owned old fits]
      by_cases inPlace : io.proposal = some b
      · rw [inPlace, Heap.realloc_inPlace live]
        refine ⟨_, rfl, ?_⟩
        dsimp only
        rw [assign_self old]
        exact ⟨stays.1, fun _ => stays.2, fun noRoom => absurd (.inr (.inl rfl)) noRoom⟩
      cases got : m.heap.fresh io.proposal with
      | none =>
          rw [Heap.realloc_of_none live inPlace got]
          refine ⟨_, rfl, replaces_null owned v, fun room => ?_, fun _ => view_assign_null⟩
          exact absurd room (by simp [fits, inPlace])
      | some b' =>
          rw [Heap.realloc_of_fresh live got]
          refine ⟨_, rfl, ?_⟩
          dsimp only [Heap.store]
          rw [Function.update_idem]
          refine ⟨replaces_fresh owned got (Finset.mem_insert_self _ _) ?_ io.text,
            fun _ => view_assign_fresh _, fun noRoom => absurd (.inr (.inr (by simp))) noRoom⟩
          intro w c other points
          exact Finset.mem_insert_of_mem (owned.mem_erase other old points)

section Write

variable {payload : List UInt8} {offset : ℕ} {reallocs callocs : Option BlockPtr}

theorem writeString_refused (beyond : STRING_CHAR_MAX < offset + payload.length) :
    m.writeString v payload offset reallocs callocs = .ok m := if_pos (.inr beyond)

theorem writeString_accepted (fits : offset + payload.length ≤ STRING_CHAR_MAX) :
    m.writeString v payload offset reallocs callocs =
      (m.heap.deref (m.valString v)).bind fun old =>
        (if old.strlen < offset + payload.length then m.heap.realloc (m.valString v) reallocs
          else .ok (m.heap, m.valString v)).bind fun r =>
            ((r.1.store r.2 (writtenText old payload offset)).deref r.2).bind fun text =>
              { m with heap := r.1.store r.2 (writtenText old payload offset) }.valueSet v
                (some text) callocs := if_neg (by omega)

theorem writeString_null (null : m.valString v = .null)
    (fits : offset + payload.length ≤ STRING_CHAR_MAX) :
    m.writeString v payload offset reallocs callocs = .error .nullDeref := by
  rw [writeString_accepted fits, null]
  rfl

/-- A literal is handed to `realloc`, or copied. -/
theorem writeString_literal {t : CString} (literal : m.valString v = .static t)
    (fits : offset + payload.length ≤ STRING_CHAR_MAX) :
    m.writeString v payload offset reallocs callocs =
      if t.strlen < offset + payload.length then .error .invalidFree
      else m.valueSet v (some t) callocs := by
  rw [writeString_accepted fits, literal]
  show Except.bind (if t.strlen < offset + payload.length then _ else _) _ = _
  by_cases grows : t.strlen < offset + payload.length
  · rw [if_pos grows, if_pos grows]
    rfl
  · rw [if_neg grows, if_neg grows]
    rfl

/-- The block has room, or is given it where it is. -/
theorem writeString_stays (owned : m.StringsOwned) (old : m.valString v = .block b)
    (fits : offset + payload.length ≤ STRING_CHAR_MAX)
    (stays : (m.heap.contents b).strlen < offset + payload.length → reallocs = some b) :
    m.writeString v payload offset reallocs callocs =
      valueSet
        { m with heap := m.heap.store (.block b) (writtenText (m.heap.contents b) payload offset) }
        v (some (writtenText (m.heap.contents b) payload offset)) callocs := by
  have live := owned.live old
  have same : (if (m.heap.contents b).strlen < offset + payload.length then
      m.heap.realloc (.block b) reallocs else .ok (m.heap, .block b)) =
        .ok (m.heap, .block b) := by
    split
    · rename_i grows
      rw [stays grows, Heap.realloc_inPlace live]
    · rfl
  rw [writeString_accepted fits, old, Heap.deref, if_pos live]
  dsimp only [Except.bind]
  rw [same]
  dsimp only [Except.bind]
  rw [Heap.deref, Heap.store_live, if_pos live]
  dsimp only [Heap.store]
  rw [Function.update_self]

theorem writeString_noMemory (owned : m.StringsOwned) (old : m.valString v = .block b)
    (fits : offset + payload.length ≤ STRING_CHAR_MAX)
    (grows : (m.heap.contents b).strlen < offset + payload.length)
    (moves : reallocs ≠ some b) (failed : m.heap.fresh reallocs = none) :
    m.writeString v payload offset reallocs callocs = .error .nullDeref := by
  have live := owned.live old
  rw [writeString_accepted fits, old, Heap.deref, if_pos live]
  dsimp only [Except.bind]
  rw [if_pos grows, Heap.realloc_of_none live moves failed]
  rfl

/-- **The block moves.**  The variable is left with the address of a block that
`realloc` has freed, and the setter frees it again or leaves it there. -/
theorem writeString_moved (owned : m.StringsOwned) (old : m.valString v = .block b)
    (fits : offset + payload.length ≤ STRING_CHAR_MAX)
    (grows : (m.heap.contents b).strlen < offset + payload.length) {b' : BlockPtr}
    (got : m.heap.fresh reallocs = some b') :
    m.writeString v payload offset reallocs callocs = .error .invalidFree ∨
      ∃ m', m.writeString v payload offset reallocs callocs = .ok m' ∧ ¬ m'.StringsOwned := by
  have live := owned.live old
  have distinct : b ≠ b' := fun same => Heap.fresh_notMem got (same ▸ live)
  have dead : b ∉ insert b' (m.heap.live.erase b) := by simp [distinct]
  rw [writeString_accepted fits, old, Heap.deref, if_pos live]
  dsimp only [Except.bind]
  rw [if_pos grows, Heap.realloc_of_fresh live got]
  dsimp only [Except.bind, Heap.store, Heap.deref]
  rw [if_pos (Finset.mem_insert_self _ _)]
  dsimp only
  unfold valueSet
  dsimp only
  cases again : Heap.fresh _ callocs with
  | none =>
      rw [Heap.calloc_of_none again]
      exact .inr ⟨_, rfl, fun owned' => dead (owned'.live old)⟩
  | some c =>
      rw [Heap.calloc_of_fresh again, old]
      dsimp only [Heap.free]
      by_cases reused : b = c
      · -- `calloc` gave out the old address, and the setter frees its own copy
        subst reused
        rw [if_pos (Finset.mem_insert_self _ _)]
        refine .inr ⟨_, rfl, fun owned' => ?_⟩
        exact Finset.notMem_erase b _ (owned'.live (Function.update_self v _ m.valString))
      · rw [if_neg fun mem => (Finset.mem_insert.mp mem).elim reused dead]
        exact .inl rfl

end Write

end Spec

/-! ## The functions over one variable

What they let through happens here as well, to one variable and to no other. -/

section Refines

variable {m : StringMemory} {v : VariablePtr} {x : ZtacxVariable} {proposal : Option BlockPtr}

theorem view_ne_literal (writable : ∀ t, m.view v ≠ .literal t) (t : CString) :
    m.valString v ≠ .static t := by
  intro literal
  exact writable t (by rw [view, literal])

theorem block_of_view {s : CString} (block : m.view v = .block s) :
    ∃ b, m.valString v = .block b ∧ m.heap.contents b = s := by
  unfold view at block
  cases old : m.valString v with
  | null => rw [old] at block; cases block
  | static t => rw [old] at block; cases block
  | block b =>
      rw [old] at block
      exact ⟨b, rfl, StringPtr.block.inj block⟩

theorem valueSet_refines (owned : m.StringsOwned) (kind : x.kind = .string)
    (same : x.value.valString = m.view v) {text : CString} {r : SetResult}
    (ran : Ztacx.ztacxVariableValueSet (m.heap.fresh proposal).isSome x (some text.stored) =
      .ok r) :
    ∃ m', m.valueSet v (some text) proposal = .ok m' ∧ Replaces v m m' ∧
      m'.view v = r.setting.value.valString := by
  have result := ztacxVariableValueSet_string kind ran
  cases got : m.heap.fresh proposal with
  | none =>
      rw [got, same] at result
      exact ⟨m, valueSet_of_none got, .refl owned v, result.symm⟩
  | some b =>
      rw [got] at ran result
      have writable : ∀ t, m.view v ≠ .literal t := by
        intro t literal
        rw [ztacxVariableValueSet_text kind, same, literal] at ran
        cases ran
      obtain ⟨m', set, replaces, view⟩ := valueSet_of_fresh owned got (view_ne_literal writable)
      exact ⟨m', set, replaces, view.trans result.symm⟩

/-- The allocator has a block for the object behind the variable's pointer. -/
def Supplies (m : StringMemory) (v : VariablePtr) (proposal : Option BlockPtr) : Prop :=
  m.heap.fresh proposal ≠ none ∨ ∃ b, m.valString v = .block b ∧ proposal = some b

theorem hasRoom_view {sio : SettingsRead} {io : StringRead} (len : sio.len = io.len)
    (alloc : sio.alloc = true ↔ m.Supplies v io.proposal) :
    (m.view v).HasRoom sio ↔ m.HasRoom v io := by
  unfold view HasRoom
  cases old : m.valString v with
  | null =>
      refine alloc.trans ?_
      simp [Supplies, old]
  | static t => exact Iff.rfl
  | block b =>
      show sio.len = _ ∨ sio.alloc = true ↔ _
      rw [alloc, len]
      simp [Supplies, old, or_comm]

theorem handleString_refines (owned : m.StringsOwned) (same : x.value.valString = m.view v)
    {sio : SettingsRead} {io : StringRead} (stores : sio.bytes.length ≤ sio.len)
    (len : sio.len = io.len) (alloc : sio.alloc = true ↔ m.Supplies v io.proposal)
    (text : io.text = .ofBytes (x.value.valString.bytesAfter sio)) {r : ZtacxVariable × ℤ}
    (ran : Ztacx.handleString x sio = .ok r) :
    ∃ m', m.handleString v io = .ok m' ∧ Replaces v m m' ∧
      m'.view v = r.1.value.valString := by
  have writable : ∀ t, x.value.valString ≠ .literal t := by
    intro t literal
    rw [Ztacx.handleString, literal, stringObject] at ran
    split at ran <;> cases ran
  obtain ⟨m', handled, replaces, room, noRoom⟩ :=
    handleString_spec owned io (view_ne_literal (same ▸ writable))
  refine ⟨m', handled, replaces, ?_⟩
  have rooms := hasRoom_view (m := m) (v := v) len alloc
  rw [← same] at rooms
  by_cases has : x.value.valString.HasRoom sio
  · rw [handleString_room stores has] at ran
    cases ran
    rw [room (rooms.mp has), text]
    rfl
  · rw [handleString_noRoom writable has] at ran
    cases ran
    exact noRoom (mt rooms.mpr has)

theorem writeString_refines (owned : m.StringsOwned) (kind : x.kind = .string)
    (same : x.value.valString = m.view v) {atoi : CString → BitVec 32} {reallocs : Bool}
    {payload : List UInt8} {offset : ℕ} {proposal' : Option BlockPtr} {r : GattWrite × ℤ}
    (ran : Ztacx.btWriteVariable atoi (m.heap.fresh proposal').isSome reallocs x payload offset =
      .ok r) :
    ∃ m', m.writeString v payload offset proposal proposal' = .ok m' ∧ Replaces v m m' ∧
      m'.view v = r.1.v.value.valString := by
  by_cases fits : offset + payload.length ≤ STRING_CHAR_MAX
  · obtain ⟨s, block⟩ : ∃ s, x.value.valString = .block s := by
      by_contra noBlock
      obtain ⟨fault, faults⟩ := @btWriteVariable_noBlock atoi (m.heap.fresh proposal').isSome
        reallocs x payload offset kind (fun s block => noBlock ⟨s, block⟩) fits
      cases faults.symm.trans ran
    -- only a block of `STRING_CHAR_MAX` characters gets through, and it need not grow
    obtain ⟨b, old, rfl⟩ := block_of_view (same.symm.trans block)
    have wrote := @btWriteVariable_block atoi (m.heap.fresh proposal').isSome reallocs x payload
      offset _ kind block fits
    split at wrote
    · rename_i long
      cases wrote.symm.trans ran
      have text : writtenText (m.heap.contents b) payload offset =
          ((m.heap.contents b).take offset).append (.ofBytes payload) := if_pos (by omega)
      rw [writeString_stays owned old fits (fun grows => by omega), text]
      generalize ((m.heap.contents b).take offset).append (.ofBytes payload) = written
      have stored := replaces_store owned old written
      have again : (m.heap.store (.block b) written).fresh proposal' = m.heap.fresh proposal' :=
        Heap.fresh_store
      cases got : m.heap.fresh proposal' with
      | none =>
          have kept := @valueSet_of_none { m with heap := m.heap.store (.block b) written } v
            proposal' written (again.trans got)
          exact ⟨_, kept, stored, view_store old written⟩
      | some c =>
          have writable : ∀ t, m.valString v ≠ .static t :=
            fun t literal => by cases old.symm.trans literal
          obtain ⟨m', set, replaces, view⟩ := @valueSet_of_fresh _ v proposal' written c
            (stored.stringsOwned owned) (again.trans got) writable
          exact ⟨m', set, stored.trans replaces, view⟩
    · obtain ⟨fault, faults⟩ := wrote
      cases faults.symm.trans ran
  · rw [btWriteVariable_string_refused kind (Nat.lt_of_not_le fits)] at ran
    cases ran
    exact ⟨m, writeString_refused (Nat.lt_of_not_le fits), .refl owned v, same.symm⟩

end Refines

end StringMemory

end Ztacx
