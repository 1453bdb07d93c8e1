import Ztacx.CModel.Slist
import Ztacx.Value

/-!
# Leaves and the registry

The leaf framework of `src/ztacx.c`: the list of leaves, the two lists of
variables (runtime values and settings), and the life of a leaf through
`ztacx_leaf_sys_init`, `ztacx_leaf_sys_start`, `ztacx_leaf_start` and
`ztacx_leaf_stop`.

A leaf and a variable are known by their address (`LeafPtr`, `VariablePtr`); the
registry is the memory behind the addresses together with the list heads.  The
callbacks of a class live in the leaf modules.  Here a class says which of them
it has, and what a callback does in one call is an input of the call: the
tables an init callback registers and the value it returns (`InitCall`), the
value a start or stop callback returns.

`events` is a history the code does not keep: the outcome of every
`ztacx_leaf_sys_init` and every invocation of a start callback, latest first.
-/

namespace Ztacx

open CModel

abbrev LeafPtr := ℕ

abbrev VariablePtr := ℕ

/-- `struct ztacx_leaf_cb`: which callbacks a class has. -/
structure ZtacxLeafCb where
  init : Bool
  start : Bool
  stop : Bool
deriving DecidableEq, Repr

/-- `struct ztacx_leaf_class`. -/
structure ZtacxLeafClass where
  name : CString
  cb : ZtacxLeafCb
deriving DecidableEq, Repr

/-- `struct ztacx_leaf`, without the list node. -/
structure ZtacxLeaf where
  name : CString
  cls : ZtacxLeafClass
  ready : Bool
  running : Bool
deriving DecidableEq, Repr

/-- What `ZTACX_LEAF_DEFINE` fixes about a leaf at compile time. -/
structure LeafDefine where
  name : CString
  cls : ZtacxLeafClass
deriving DecidableEq, Repr

/-- The two lists of variables. -/
inductive ValueList
  | variables
  | settings
deriving DecidableEq, Repr

/-- One call of an init callback: the tables it hands to
`ztacx_values_register`, and what it returns. -/
structure InitCall where
  registers : List (ValueList × List VariablePtr)
  rc : ℤ
deriving DecidableEq, Repr

inductive LeafEvent
  | inited (leaf : LeafPtr) (rc : ℤ)
  | startCb (leaf : LeafPtr)
deriving DecidableEq, Repr

/-- The leaf framework's memory. -/
structure Registry where
  leaf : LeafPtr → ZtacxLeaf
  leafNext : Links LeafPtr
  ztacxLeaves : Slist LeafPtr
  variableName : VariablePtr → CString
  variableNext : Links VariablePtr
  ztacxVariables : Slist VariablePtr
  ztacxSettings : Slist VariablePtr
  events : List LeafEvent

namespace Registry

/-- The registry after `ztacx_init`, over the compiled-in leaves. -/
def boot (defines : LeafPtr → LeafDefine) (variableName : VariablePtr → CString) :
    Registry where
  leaf := fun l => ⟨(defines l).name, (defines l).cls, false, false⟩
  leafNext := fun _ => none
  ztacxLeaves := Slist.init
  variableName := variableName
  variableNext := fun _ => none
  ztacxVariables := Slist.init
  ztacxSettings := Slist.init
  events := []

/-- The head and tail pointers of a list of variables. -/
def valueList (s : Registry) : ValueList → Slist VariablePtr
  | .variables => s.ztacxVariables
  | .settings => s.ztacxSettings

/-- Write fields of one leaf. -/
def modifyLeaf (s : Registry) (leaf : LeafPtr) (f : ZtacxLeaf → ZtacxLeaf) : Registry :=
  { s with leaf := Function.update s.leaf leaf (f (s.leaf leaf)) }

def record (s : Registry) (e : LeafEvent) : Registry := { s with events := e :: s.events }

/-- `sys_slist_append(&ztacx_leaves, &leaf->node)`. -/
def appendLeaf (s : Registry) (leaf : LeafPtr) : Registry :=
  let appended := Slist.append s.leafNext s.ztacxLeaves leaf
  { s with leafNext := appended.1, ztacxLeaves := appended.2 }

/-- `sys_slist_append(list, &v->node)`. -/
def appendValue (s : Registry) (list : ValueList) (v : VariablePtr) : Registry :=
  let appended := Slist.append s.variableNext (s.valueList list) v
  match list with
  | .variables => { s with variableNext := appended.1, ztacxVariables := appended.2 }
  | .settings => { s with variableNext := appended.1, ztacxSettings := appended.2 }

end Registry

/-- `ztacx_values_register`. -/
def ztacxValuesRegister (s : Registry) (list : ValueList) (table : List VariablePtr) :
    Registry :=
  table.foldl (fun s v => s.appendValue list v) s

/-- The registrations of one init callback, in order. -/
def registerAll (s : Registry) (registers : List (ValueList × List VariablePtr)) : Registry :=
  registers.foldl (fun s r => ztacxValuesRegister s r.1 r.2) s

/-- `ztacx_leaf_sys_init`. -/
def ztacxLeafSysInit (s : Registry) (leaf : LeafPtr) (call : InitCall) : Registry × ℤ :=
  let s := (s.appendLeaf leaf).modifyLeaf leaf
    fun l => { l with ready := false, running := false }
  if (s.leaf leaf).cls.cb.init then
    let s := (registerAll s call.registers).record (.inited leaf call.rc)
    if call.rc = 0 then (s.modifyLeaf leaf fun l => { l with ready := true }, call.rc)
    else (s, call.rc)
  else
    ((s.record (.inited leaf 0)).modifyLeaf leaf fun l => { l with ready := true }, 0)

/-- `ztacx_leaf_sys_start`; `rc` is what the start callback returns. -/
def ztacxLeafSysStart (s : Registry) (leaf : LeafPtr) (rc : ℤ) : Registry × ℤ :=
  if !(s.leaf leaf).ready then (s, -ESRCH)
  else if (s.leaf leaf).cls.cb.start then
    let s := s.record (.startCb leaf)
    if rc = 0 then (s.modifyLeaf leaf fun l => { l with running := true }, rc) else (s, rc)
  else (s.modifyLeaf leaf fun l => { l with running := true }, 0)

/-- `strcmp(object->name, name) == 0`. -/
def sameName (own : CString) : Option CString → Except Fault Bool
  | none => .error .nullDeref
  | some name => .ok (own = name)

/-- `ztacx_leaf_get`, with at most `fuel` steps along the list. -/
def ztacxLeafGet (fuel : ℕ) (s : Registry) (name : Option CString) :
    Except Fault (Option LeafPtr) :=
  Slist.findFrom s.leafNext (fun l => sameName (s.leaf l).name name) fuel s.ztacxLeaves.head

/-- The search by name that both lists of variables share. -/
def valueFind (fuel : ℕ) (s : Registry) (list : ValueList) (name : Option CString) :
    Except Fault (Option VariablePtr) :=
  Slist.findFrom s.variableNext (fun v => sameName (s.variableName v) name) fuel
    (s.valueList list).head

/-- `ztacx_variable_find`. -/
def ztacxVariableFind (fuel : ℕ) (s : Registry) (name : Option CString) :=
  valueFind fuel s .variables name

/-- `ztacx_setting_find`. -/
def ztacxSettingFind (fuel : ℕ) (s : Registry) (name : Option CString) :=
  valueFind fuel s .settings name

/-- `ztacx_leaf_start`.  The guard tests `name`, not the leaf it looked up, and
nothing tests `ready`. -/
def ztacxLeafStart (fuel : ℕ) (s : Registry) (name : Option CString) (rc : ℤ) :
    Except Fault (Registry × ℤ) :=
  (ztacxLeafGet fuel s name).bind fun found =>
    if name = none then .ok (s, -ENOENT)
    else
      match found with
      | none => .error .nullDeref
      | some leaf =>
        let called := (s.leaf leaf).cls.cb.start
        let s := if called then s.record (.startCb leaf) else s
        let rc := if called then rc else 0
        if rc = 0 then .ok (s.modifyLeaf leaf fun l => { l with running := true }, rc)
        else .ok (s, rc)

/-- `ztacx_leaf_stop`. -/
def ztacxLeafStop (fuel : ℕ) (s : Registry) (name : Option CString) (rc : ℤ) :
    Except Fault (Registry × ℤ) :=
  (ztacxLeafGet fuel s name).bind fun found =>
    if name = none then .ok (s, -ENOENT)
    else
      match found with
      | none => .error .nullDeref
      | some leaf =>
        let rc := if (s.leaf leaf).cls.cb.stop then rc else 0
        if rc = 0 then .ok (s.modifyLeaf leaf fun l => { l with running := false }, rc)
        else .ok (s, rc)

/-! ## What each operation leaves alone -/

section Frame

variable (s : Registry) (leaf : LeafPtr) (f : ZtacxLeaf → ZtacxLeaf)

@[simp] theorem modifyLeaf_leafNext : (s.modifyLeaf leaf f).leafNext = s.leafNext := rfl

@[simp] theorem modifyLeaf_ztacxLeaves :
    (s.modifyLeaf leaf f).ztacxLeaves = s.ztacxLeaves := rfl

@[simp] theorem modifyLeaf_variableNext :
    (s.modifyLeaf leaf f).variableNext = s.variableNext := rfl

@[simp] theorem modifyLeaf_valueList (list : ValueList) :
    (s.modifyLeaf leaf f).valueList list = s.valueList list := by cases list <;> rfl

@[simp] theorem modifyLeaf_events : (s.modifyLeaf leaf f).events = s.events := rfl

@[simp] theorem modifyLeaf_self : (s.modifyLeaf leaf f).leaf leaf = f (s.leaf leaf) :=
  Function.update_self ..

theorem modifyLeaf_of_ne {l : LeafPtr} (ne : l ≠ leaf) :
    (s.modifyLeaf leaf f).leaf l = s.leaf l := Function.update_of_ne ne ..

@[simp] theorem record_leaf (e : LeafEvent) : (s.record e).leaf = s.leaf := rfl

@[simp] theorem record_leafNext (e : LeafEvent) : (s.record e).leafNext = s.leafNext := rfl

@[simp] theorem record_ztacxLeaves (e : LeafEvent) :
    (s.record e).ztacxLeaves = s.ztacxLeaves := rfl

@[simp] theorem record_variableNext (e : LeafEvent) :
    (s.record e).variableNext = s.variableNext := rfl

@[simp] theorem record_valueList (e : LeafEvent) (list : ValueList) :
    (s.record e).valueList list = s.valueList list := by cases list <;> rfl

@[simp] theorem record_events (e : LeafEvent) : (s.record e).events = e :: s.events := rfl

@[simp] theorem appendLeaf_leaf : (s.appendLeaf leaf).leaf = s.leaf := rfl

@[simp] theorem appendLeaf_events : (s.appendLeaf leaf).events = s.events := rfl

@[simp] theorem appendLeaf_variableNext :
    (s.appendLeaf leaf).variableNext = s.variableNext := rfl

@[simp] theorem appendLeaf_valueList (list : ValueList) :
    (s.appendLeaf leaf).valueList list = s.valueList list := by cases list <;> rfl

/-- The parts of the registry that a registration does not touch. -/
structure SameLeaves (s t : Registry) : Prop where
  leaf : t.leaf = s.leaf
  leafNext : t.leafNext = s.leafNext
  ztacxLeaves : t.ztacxLeaves = s.ztacxLeaves
  events : t.events = s.events

theorem SameLeaves.trans {s t u : Registry} (h : SameLeaves s t) (h' : SameLeaves t u) :
    SameLeaves s u where
  leaf := h'.leaf.trans h.leaf
  leafNext := h'.leafNext.trans h.leafNext
  ztacxLeaves := h'.ztacxLeaves.trans h.ztacxLeaves
  events := h'.events.trans h.events

theorem appendValue_sameLeaves (list : ValueList) (v : VariablePtr) :
    SameLeaves s (s.appendValue list v) := by
  cases list <;> exact ⟨rfl, rfl, rfl, rfl⟩

theorem ztacxValuesRegister_sameLeaves (list : ValueList) (table : List VariablePtr) :
    SameLeaves s (ztacxValuesRegister s list table) := by
  unfold ztacxValuesRegister
  induction table generalizing s with
  | nil => exact ⟨rfl, rfl, rfl, rfl⟩
  | cons v table ih => exact (appendValue_sameLeaves s list v).trans (ih _)

theorem registerAll_sameLeaves (registers : List (ValueList × List VariablePtr)) :
    SameLeaves s (registerAll s registers) := by
  unfold registerAll
  induction registers generalizing s with
  | nil => exact ⟨rfl, rfl, rfl, rfl⟩
  | cons r registers ih => exact (ztacxValuesRegister_sameLeaves s r.1 r.2).trans (ih _)

end Frame

end Ztacx
