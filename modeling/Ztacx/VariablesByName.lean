import Mathlib.Data.List.Find
import Ztacx.CModel.WorkQueue
import Ztacx.Notification
import Ztacx.Registry

/-!
# Variables by name

The application's side of `src/ztacx.c`: `ztacx_variable_get`, `ztacx_variable_set` and
`ztacx_variable_set_onchange` look a variable up by its name, the shell's
`ztacx value set` sets it from a text, and the work item that is attached to a variable
runs after a change.

Two things are expected of this interface, and both hold in every run:

* The names are a map.  What is read under a name is what was last written under it,
  whatever was written under other names (`view_run`, `ztacxVariableGet_run`).
* No change is missed.  A work item that is attached stays attached, and when the queue
  is empty it has seen the present value: it ran last with that value, or has been
  attached since the variable had it (`seen_of_run`).
-/

namespace Ztacx

open CModel

/-! ## The code -/

def EEXIST : ℤ := 17

/-- The registry and the records of the variables. -/
structure VariableMemory where
  registry : Registry
  entry : VariablePtr → ZtacxVariable

/-- What a function makes of the variables: what it submits, and what it returns. -/
structure NamedResult where
  memory : VariableMemory
  submitted : Option KWorkPtr
  rc : ℤ

/-- Replace a record. -/
def VariableMemory.write (m : VariableMemory) (v : VariablePtr) (record : ZtacxVariable) :
    VariableMemory :=
  { m with entry := Function.update m.entry v record }

@[simp] theorem VariableMemory.write_self (m : VariableMemory) (v : VariablePtr)
    (record : ZtacxVariable) : (m.write v record).entry v = record :=
  Function.update_self ..

theorem VariableMemory.write_of_ne (m : VariableMemory) {v u : VariablePtr} (ne : u ≠ v)
    (record : ZtacxVariable) : (m.write v record).entry u = m.entry u :=
  Function.update_of_ne ne ..

/-- What a setter makes of the variables. -/
def VariableMemory.stored (m : VariableMemory) (v : VariablePtr) (r : SetResult) : NamedResult :=
  ⟨m.write v r.setting, r.submitted, r.rc⟩

/-- The functions of this interface begin with `ztacx_variable_find`, and return `-ENOENT`
if there is no such variable. -/
def withVariable (fuel : ℕ) (m : VariableMemory) (name : CString)
    (f : VariablePtr → Except Fault NamedResult) : Except Fault NamedResult :=
  (ztacxVariableFind fuel m.registry (some name)).bind fun found =>
    found.elim (.ok ⟨m, none, -ENOENT⟩) f

/-- `ztacx_variable_get`, with what it writes to the caller's buffer. -/
def ztacxVariableGet (fuel : ℕ) (m : VariableMemory) (name : CString) (valueSize : ℤ) :
    Except Fault (List UInt8 × ℤ) :=
  (ztacxVariableFind fuel m.registry (some name)).bind fun found =>
    found.elim (.ok ([], -ENOENT)) fun v => ztacxVariableValueGet (m.entry v) valueSize

/-- `ztacx_variable_set` -/
def ztacxVariableSet (fuel : ℕ) (alloc : Bool) (m : VariableMemory) (name : CString)
    (value : Option (List UInt8)) : Except Fault NamedResult :=
  withVariable fuel m name fun v => (ztacxVariableValueSet alloc (m.entry v) value).map (m.stored v)

/-- `ztacx value set`, without what it prints. -/
def ztacxValueSetText (fuel : ℕ) (atoi : CString → BitVec 32) (alloc : Bool) (m : VariableMemory)
    (name text : CString) : Except Fault NamedResult :=
  withVariable fuel m name fun v =>
    (ztacxVariableValueSetString atoi alloc (m.entry v) (some text)).map (m.stored v)

/-- `ztacx_variable_ptr_set_onchange` -/
def ztacxVariablePtrSetOnchange (m : VariableMemory) (v : VariablePtr) (work : KWorkPtr) :
    NamedResult :=
  if (m.entry v).onChange.isSome then ⟨m, none, -EEXIST⟩
  else ⟨m.write v { m.entry v with onChange := some work }, none, 0⟩

/-- `ztacx_variable_set_onchange` -/
def ztacxVariableSetOnchange (fuel : ℕ) (m : VariableMemory) (name : CString) (work : KWorkPtr) :
    Except Fault NamedResult :=
  withVariable fuel m name fun v => .ok (ztacxVariablePtrSetOnchange m v work)

/-! ## Operations -/

/-- What the application and the shell do with a name. -/
inductive NamedOp
  | set (alloc : Bool) (value : Option (List UInt8))
  | setText (alloc : Bool) (text : CString)
  | setOnchange (work : KWorkPtr)

/-- One operation under a name. -/
def NamedOp.apply (fuel : ℕ) (atoi : CString → BitVec 32) (m : VariableMemory) (name : CString) :
    NamedOp → Except Fault NamedResult
  | .set alloc value => ztacxVariableSet fuel alloc m name value
  | .setText alloc text => ztacxValueSetText fuel atoi alloc m name text
  | .setOnchange work => ztacxVariableSetOnchange fuel m name work

/-- The value that an operation asks a variable of this kind to have. -/
def NamedOp.asked (atoi : CString → BitVec 32) (kind : ZtacxValueKind) :
    NamedOp → Option TypedValue
  | .set alloc value =>
    if kind = .string ∧ alloc = false then none else value.bind (objectValue kind)
  | .setText alloc text =>
    if kind = .string ∧ alloc = false then none else parsedValue atoi kind text
  | .setOnchange _ => none

/-! ## One operation on a record -/

/-- Only the value or the work item of the record changes: the value to what was asked for,
if anything was. -/
structure OpEffect (asked : Option TypedValue) (v w : ZtacxVariable)
    (submitted : Option KWorkPtr) : Prop where
  name : w.name = v.name
  kind : w.kind = v.kind
  typedValue : w.typedValue = asked.getD v.typedValue
  onChange : ∀ work, v.onChange = some work → w.onChange = some work
  reported : w.typedValue ≠ v.typedValue → submitted = v.onChange

section Record

variable {atoi : CString → BitVec 32} {alloc : Bool} {v : ZtacxVariable} {r : SetResult} {n : ℕ}

theorem OpEffect.refl (v : ZtacxVariable) (submitted : Option KWorkPtr) :
    OpEffect none v v submitted :=
  ⟨rfl, rfl, rfl, fun _ attached => attached, fun changed => absurd rfl changed⟩

/-- A setter that stored what was asked for. -/
theorem OpEffect.stored {asked : TypedValue} {value : ZtacxValue}
    (typed : (SetResult.stored v value).setting.typedValue = asked) :
    OpEffect (some asked) v (SetResult.stored v value).setting v.onChange :=
  ⟨rfl, rfl, typed, fun _ attached => attached, fun _ => rfl⟩

theorem objectValue_of_scalar (size : v.kind.scalarSize = some n) (object : List UInt8) :
    objectValue v.kind object = some (.scalar (object.take n)) := by
  cases hk : v.kind <;> simp_all [objectValue, ZtacxValueKind.scalarSize]

theorem set_effect {object : List UInt8}
    (ran : ztacxVariableValueSet alloc v (some object) = .ok r) :
    OpEffect ((NamedOp.set alloc (some object)).asked atoi v.kind) v r.setting r.submitted := by
  cases size : v.kind.scalarSize with
  | some n =>
      obtain ⟨value, rfl, member⟩ := ztacxVariableValueSet_scalar_eq_ok size ran
      have other := (ZtacxValueKind.ne_string_and_event size).1
      rw [NamedOp.asked, if_neg fun string => other string.1, Option.bind_some,
        objectValue_of_scalar size]
      refine .stored ?_
      rw [ZtacxVariable.typedValue_of_scalar (v := (SetResult.stored v value).setting) size]
      exact congrArg TypedValue.scalar member
  | none =>
      obtain kind | kind := ZtacxValueKind.string_or_event size
      · simp only [ztacxVariableValueSet, kind] at ran
        obtain ⟨text, read, ran⟩ := bind_eq_ok_iff.mp ran
        cases alloc with
        | false =>
            cases ran
            rw [NamedOp.asked, if_pos ⟨kind, rfl⟩]
            exact .refl v none
        | true =>
            obtain ⟨_, -, rfl⟩ := map_eq_ok_iff.mp ran
            have text_eq : CString.ofBytes object = text := by
              unfold readCString at read
              split at read
              · exact Except.ok.inj read
              · cases read
            rw [NamedOp.asked, if_neg fun noMemory => Bool.false_ne_true noMemory.2.symm, kind]
            exact .stored ((ZtacxVariable.typedValue_withString kind (.block text)).trans
              (congrArg (fun t => TypedValue.text (some t)) text_eq.symm))
      · simp only [ztacxVariableValueSet, kind, Except.ok.injEq] at ran
        rw [← ran, NamedOp.asked, kind, if_neg fun string => absurd string.1 (by decide)]
        exact .refl v none

theorem setText_effect {text : CString}
    (ran : ztacxVariableValueSetString atoi alloc v (some text) = .ok r) :
    OpEffect ((NamedOp.setText alloc text).asked atoi v.kind) v r.setting r.submitted := by
  cases size : v.kind.scalarSize with
  | some n =>
      obtain ⟨member, value, parsed, bytes, stored⟩ :=
        ztacxVariableValueSetString_scalar atoi size alloc text
      cases stored.symm.trans ran
      have other := (ZtacxValueKind.ne_string_and_event size).1
      rw [NamedOp.asked, if_neg fun string => other string.1, parsed]
      refine .stored ?_
      rw [ZtacxVariable.typedValue_of_scalar (v := (SetResult.stored v value).setting) size]
      exact congrArg TypedValue.scalar bytes
  | none =>
      obtain kind | kind := ZtacxValueKind.string_or_event size
      · rw [ztacxVariableValueSetString_text kind] at ran
        cases alloc with
        | false =>
            cases ran
            rw [NamedOp.asked, if_pos ⟨kind, rfl⟩]
            exact .refl v none
        | true =>
            obtain ⟨_, -, rfl⟩ := map_eq_ok_iff.mp ran
            rw [NamedOp.asked, if_neg fun noMemory => Bool.false_ne_true noMemory.2.symm, kind]
            exact .stored (ZtacxVariable.typedValue_withString kind (.block text))
      · simp only [ztacxVariableValueSetString, kind, Except.ok.injEq] at ran
        rw [← ran, NamedOp.asked, kind, if_neg fun string => absurd string.1 (by decide)]
        exact .refl v none

end Record

/-! ## One operation under a name -/

section Operation

variable {fuel : ℕ} {atoi : CString → BitVec 32} {m : VariableMemory} {name : CString}
  {op : NamedOp} {r : NamedResult}

theorem withVariable_eq_ok {f : VariablePtr → Except Fault NamedResult}
    (ran : withVariable fuel m name f = .ok r) :
    (ztacxVariableFind fuel m.registry (some name) = .ok none ∧ r = ⟨m, none, -ENOENT⟩) ∨
      ∃ v, ztacxVariableFind fuel m.registry (some name) = .ok (some v) ∧ f v = .ok r := by
  obtain ⟨found, search, rest⟩ := bind_eq_ok_iff.mp ran
  cases found with
  | none => exact .inl ⟨search, (Except.ok.inj rest).symm⟩
  | some v => exact .inr ⟨v, search, rest⟩

/-- The first work item that is attached to a variable stays. -/
theorem ztacxVariablePtrSetOnchange_effect (m : VariableMemory) (v : VariablePtr)
    (work : KWorkPtr) :
    ∃ w, (ztacxVariablePtrSetOnchange m v work).memory = m.write v w ∧
      OpEffect none (m.entry v) w (ztacxVariablePtrSetOnchange m v work).submitted := by
  unfold ztacxVariablePtrSetOnchange
  split
  · refine ⟨m.entry v, ?_, .refl (m.entry v) none⟩
    rw [VariableMemory.write, Function.update_eq_self]
  · rename_i free
    refine ⟨_, rfl, rfl, rfl, rfl, fun w attached => ?_, fun changed => absurd rfl changed⟩
    rw [attached] at free
    exact absurd rfl free

/-- An operation finds no variable and does nothing, or it changes the one it finds. -/
theorem apply_spec (ran : op.apply fuel atoi m name = .ok r) :
    (ztacxVariableFind fuel m.registry (some name) = .ok none ∧ r = ⟨m, none, -ENOENT⟩) ∨
      ∃ v w, ztacxVariableFind fuel m.registry (some name) = .ok (some v) ∧
        r.memory = m.write v w ∧
        OpEffect (op.asked atoi (m.entry v).kind) (m.entry v) w r.submitted := by
  cases op with
  | set alloc value =>
      refine (withVariable_eq_ok ran).imp_right ?_
      rintro ⟨v, search, called⟩
      obtain ⟨s, stored, rfl⟩ := map_eq_ok_iff.mp called
      refine ⟨v, s.setting, search, rfl, ?_⟩
      cases value with
      | none =>
          cases stored
          rw [NamedOp.asked, Option.bind_none, ite_self]
          exact .refl (m.entry v) none
      | some object => exact set_effect stored
  | setText alloc text =>
      refine (withVariable_eq_ok ran).imp_right ?_
      rintro ⟨v, search, called⟩
      obtain ⟨s, stored, rfl⟩ := map_eq_ok_iff.mp called
      exact ⟨v, s.setting, search, rfl, setText_effect stored⟩
  | setOnchange work =>
      refine (withVariable_eq_ok ran).imp_right ?_
      rintro ⟨v, search, attached⟩
      obtain ⟨w, wrote, effect⟩ := ztacxVariablePtrSetOnchange_effect m v work
      rw [← Except.ok.inj attached]
      exact ⟨v, w, search, wrote, effect⟩

end Operation

/-! ## The names are a map -/

/-- What the names stand for. -/
abbrev NamedValues := CString → Option (ZtacxValueKind × TypedValue)

/-- An operation on a map: what is asked for replaces the value under the name. -/
def NamedValues.apply (atoi : CString → BitVec 32) (values : NamedValues) (name : CString)
    (op : NamedOp) : NamedValues :=
  Function.update values name
    ((values name).map fun entry => (entry.1, (op.asked atoi entry.1).getD entry.2))

/-- What `ztacx_variable_get` makes of a value. -/
def NamedValues.get (values : NamedValues) (name : CString) (valueSize : ℤ) :
    Except Fault (List UInt8 × ℤ) :=
  match values name with
  | none => .ok ([], -ENOENT)
  | some (_, .scalar member) => .ok (member, 0)
  | some (_, .event _) => .ok ([], -EINVAL)
  | some (_, .text text) =>
    if valueSize < 1 then .ok ([], -E2BIG)
    else text.elim (.error .nullDeref) fun t =>
      .ok (if valueSize ≤ t.strlen then ([], -E2BIG)
        else (t.bytes ++ List.replicate (valueSize.toNat - t.strlen) 0, 0))

/-- The map that a list of variables is: of those with a name, the first one counts. -/
def VariableMemory.view (m : VariableMemory) (vs : List VariablePtr) : NamedValues := fun name =>
  (vs.find? fun v => (m.entry v).name = name).map
    fun v => ((m.entry v).kind, (m.entry v).typedValue)

/-- The list of variables is intact and holds these, and it can be traversed. -/
structure VariableMemory.Lists (fuel : ℕ) (m : VariableMemory) (vs : List VariablePtr) :
    Prop where
  spells : Slist.Spells m.registry.variableNext m.registry.ztacxVariables.head vs
  enough : vs.length < fuel
  names : ∀ v ∈ vs, m.registry.variableName v = (m.entry v).name

section Map

variable {fuel : ℕ} {atoi : CString → BitVec 32} {m : VariableMemory} {vs : List VariablePtr}
  {name : CString} {op : NamedOp} {r : NamedResult}

theorem VariableMemory.Lists.find (lists : m.Lists fuel vs) (name : CString) :
    ztacxVariableFind fuel m.registry (some name) =
      .ok (vs.find? fun v => (m.entry v).name = name) := by
  have searched : ztacxVariableFind fuel m.registry (some name) =
      .ok (vs.find? fun v => m.registry.variableName v = name) :=
    Slist.findFrom_of_spells lists.spells (fun _ _ => rfl) lists.enough
  refine searched.trans (congrArg Except.ok (List.find?_congr fun v mem => ?_))
  rw [lists.names v mem]

section Write

variable {v : VariablePtr} {w : ZtacxVariable}

/-- Writing a record under its own name does not move any name. -/
theorem write_name (same : w.name = (m.entry v).name) (u : VariablePtr) :
    ((m.write v w).entry u).name = (m.entry u).name := by
  by_cases here : u = v
  · subst here
    rw [m.write_self, same]
  · rw [m.write_of_ne here]

theorem VariableMemory.Lists.write (lists : m.Lists fuel vs) (same : w.name = (m.entry v).name) :
    (m.write v w).Lists fuel vs :=
  ⟨lists.spells, lists.enough, fun u mem => (lists.names u mem).trans (write_name same u).symm⟩

/-- Writing the record that a name leads to replaces the value under this name. -/
theorem view_write (found : vs.find? (fun u => (m.entry u).name = name) = some v)
    (same : w.name = (m.entry v).name) :
    (m.write v w).view vs = Function.update (m.view vs) name (some (w.kind, w.typedValue)) := by
  have leads : ∀ {n u}, vs.find? (fun u => (m.entry u).name = n) = some u → (m.entry u).name = n :=
    fun found => by simpa using List.find?_some found
  have searches : ∀ n, vs.find? (fun u => ((m.write v w).entry u).name = n) =
      vs.find? (fun u => (m.entry u).name = n) :=
    fun n => List.find?_congr fun u _ => by rw [write_name same u]
  funext n
  unfold VariableMemory.view
  rw [searches]
  by_cases here : n = name
  · subst here
    rw [Function.update_self, found, Option.map_some, m.write_self]
  · rw [Function.update_of_ne here]
    refine Option.map_congr fun u mem => ?_
    -- what another name leads to is another record
    have other : u ≠ v := by
      rintro rfl
      exact here ((leads mem).symm.trans (leads found))
    rw [m.write_of_ne other]

end Write

/-- **One operation is one operation on the map.** -/
theorem view_apply (lists : m.Lists fuel vs) (ran : op.apply fuel atoi m name = .ok r) :
    r.memory.Lists fuel vs ∧ r.memory.view vs = (m.view vs).apply atoi name op := by
  obtain ⟨search, rfl⟩ | ⟨v, w, search, wrote, effect⟩ := apply_spec ran
  · have missing := Except.ok.inj ((lists.find name).symm.trans search)
    refine ⟨lists, ?_⟩
    unfold NamedValues.apply
    have none : m.view vs name = none := by
      rw [VariableMemory.view, missing, Option.map_none]
    rw [none, Option.map_none, ← none, Function.update_eq_self]
  · have found := Except.ok.inj ((lists.find name).symm.trans search)
    have here : m.view vs name = some ((m.entry v).kind, (m.entry v).typedValue) := by
      rw [VariableMemory.view, found, Option.map_some]
    rw [wrote]
    refine ⟨lists.write effect.name, (view_write found effect.name).trans ?_⟩
    rw [NamedValues.apply, here, Option.map_some, effect.kind, effect.typedValue]

/-- The getter reads the typed value. -/
theorem ztacxVariableValueGet_eq (v : ZtacxVariable) (values : NamedValues) (name : CString)
    (here : values name = some (v.kind, v.typedValue)) (valueSize : ℤ) :
    ztacxVariableValueGet v valueSize = values.get name valueSize := by
  unfold NamedValues.get
  rw [here]
  cases size : v.kind.scalarSize with
  | some n => rw [ztacxVariableValueGet_scalar size, ZtacxVariable.typedValue_of_scalar size]
  | none =>
      obtain kind | kind := ZtacxValueKind.string_or_event size
      · rw [ZtacxVariable.typedValue_of_string kind]
        simp only [ztacxVariableValueGet, kind, StringPtr.deref_eq]
        cases v.value.valString.text with
        | none => rfl
        | some text => rfl
      · simp only [ztacxVariableValueGet, ZtacxVariable.typedValue, kind]

/-- **What is read under a name** is what the map has there. -/
theorem ztacxVariableGet_eq (lists : m.Lists fuel vs) (name : CString) (valueSize : ℤ) :
    ztacxVariableGet fuel m name valueSize = (m.view vs).get name valueSize := by
  rw [ztacxVariableGet, lists.find name]
  cases found : vs.find? fun v => (m.entry v).name = name with
  | none =>
      have none : m.view vs name = none := by
        rw [VariableMemory.view, found, Option.map_none]
      rw [NamedValues.get, none]
      rfl
  | some v =>
      refine ztacxVariableValueGet_eq (m.entry v) (m.view vs) name ?_ valueSize
      rw [VariableMemory.view, found, Option.map_some]

end Map

/-! ## Runs -/

/-- An operation that goes wrong has no successor. -/
def namedStep (fuel : ℕ) (atoi : CString → BitVec 32) (m : VariableMemory)
    (op : CString × NamedOp) : Option VariableMemory :=
  (op.2.apply fuel atoi m op.1).toOption.map NamedResult.memory

/-- The operations on the map, one after another. -/
def NamedValues.applyAll (atoi : CString → BitVec 32) (values : NamedValues)
    (ops : List (CString × NamedOp)) : NamedValues :=
  ops.foldl (fun values op => values.apply atoi op.1 op.2) values

/-- **The names are a map**, in every run: what is read under a name is what was last
written under it. -/
theorem ztacxVariableGet_run {fuel : ℕ} {atoi : CString → BitVec 32} {m m' : VariableMemory}
    {vs : List VariablePtr} (lists : m.Lists fuel vs) {ops : List (CString × NamedOp)}
    (ran : run (namedStep fuel atoi) m ops = some m') (name : CString) (valueSize : ℤ) :
    ztacxVariableGet fuel m' name valueSize =
      ((m.view vs).applyAll atoi ops).get name valueSize := by
  suffices m'.Lists fuel vs ∧ m'.view vs = (m.view vs).applyAll atoi ops by
    rw [ztacxVariableGet_eq this.1, this.2]
  induction ops generalizing m with
  | nil =>
      cases ran
      exact ⟨lists, rfl⟩
  | cons op ops ih =>
      obtain ⟨t, taken, rest⟩ := run_cons_eq_some.mp ran
      obtain ⟨r, applied, rfl⟩ := Option.map_eq_some_iff.mp taken
      obtain ⟨lists', view⟩ := view_apply lists (toOption_eq_some_iff.mp applied)
      rw [NamedValues.applyAll, List.foldl_cons, ← view]
      exact ih lists' rest

/-! ## No change is missed -/

open WorkQueue

/-- The variables, and what each work item has seen of them: the values when it last ran,
or when it was attached. -/
structure Watched where
  memory : VariableMemory
  seen : KWorkPtr → VariablePtr → TypedValue

/-- The work item is attached to the variable. -/
def VariableMemory.Attached (m : VariableMemory) (w : KWorkPtr) (v : VariablePtr) : Prop :=
  (m.entry v).onChange = some w

instance decidableAttached (m : VariableMemory) (w : KWorkPtr) (v : VariablePtr) :
    Decidable (m.Attached w v) :=
  inferInstanceAs (Decidable (_ = _))

/-- The work item has seen the present values. -/
def Watched.UpToDate (w : KWorkPtr) (s : Watched) : Prop :=
  ∀ v, s.memory.Attached w v → s.seen w v = (s.memory.entry v).typedValue

/-- Operations under names, with the system work queue. -/
def watchedSystem (fuel : ℕ) (atoi : CString → BitVec 32) :
    System Watched KWorkPtr (CString × NamedOp) where
  handle w s := some
    ({ s with seen := Function.update s.seen w fun v => (s.memory.entry v).typedValue }, [])
  act op s := (op.2.apply fuel atoi s.memory op.1).toOption.map fun r =>
    ({ memory := r.memory
       seen := fun w v =>
        if r.memory.Attached w v ∧ ¬ s.memory.Attached w v then (r.memory.entry v).typedValue
        else s.seen w v }, r.submitted.toList)

section Watched

variable {fuel : ℕ} {atoi : CString → BitVec 32}

/-- A change of a variable submits the work item that is attached to it. -/
theorem keeps_upToDate (fuel : ℕ) (atoi : CString → BitVec 32) (w : KWorkPtr) :
    Keeps (watchedSystem fuel atoi) (fun _ _ => True) (fun _ => True) (fun _ => True) (· = w)
      (Watched.UpToDate w) where
  act := by
    intro s op s' works _ _ acted
    refine ⟨trivial, fun _ _ => trivial, fun upToDate => ?_⟩
    obtain ⟨r, applied, same⟩ := Option.map_eq_some_iff.mp acted
    cases same
    obtain ⟨-, rfl⟩ | ⟨v, u, -, wrote, effect⟩ := apply_spec (toOption_eq_some_iff.mp applied)
    · refine .inl fun v attached => ?_
      exact (if_neg fun new => new.2 attached).trans (upToDate v attached)
    · by_cases missed : s.memory.Attached w v ∧ u.typedValue ≠ (s.memory.entry v).typedValue
      · refine .inr ⟨w, ?_, rfl⟩
        rw [effect.reported missed.2, missed.1]
        exact List.mem_singleton_self w
      · refine .inl fun x attached => ?_
        by_cases new : s.memory.Attached w x
        · refine (if_neg fun fresh => fresh.2 new).trans ((upToDate x new).trans ?_)
          show _ = (r.memory.entry x).typedValue
          rw [wrote]
          by_cases here : x = v
          · subst here
            rw [s.memory.write_self]
            by_contra changed
            exact missed ⟨new, Ne.symm changed⟩
          · rw [s.memory.write_of_ne here]
        · exact if_pos ⟨attached, new⟩
  handle := by
    intro s v s' works _ _ handled
    cases handled
    refine ⟨trivial, fun _ _ => trivial, fun reason => .inl fun x attached => ?_⟩
    by_cases here : w = v
    · subst here
      show Function.update s.seen w _ w x = _
      rw [Function.update_self]
    · show Function.update s.seen v _ w x = _
      rw [Function.update_of_ne here]
      exact (reason.resolve_left (Ne.symm here)) x attached

/-- What is attached stays attached. -/
theorem attached_step {q q' : Queued Watched KWorkPtr} {e : Event (CString × NamedOp)}
    (taken : (watchedSystem fuel atoi).step q e = some q') {w : KWorkPtr} {v : VariablePtr}
    (attached : q.state.memory.Attached w v) : q'.state.memory.Attached w v := by
  cases e with
  | act op =>
      obtain ⟨s, works, acted, rfl⟩ := System.step_act_eq_some.mp taken
      obtain ⟨r, applied, same⟩ := Option.map_eq_some_iff.mp acted
      cases same
      show r.memory.Attached w v
      obtain ⟨-, rfl⟩ | ⟨x, u, -, wrote, effect⟩ := apply_spec (toOption_eq_some_iff.mp applied)
      · exact attached
      · rw [wrote]
        unfold VariableMemory.Attached
        by_cases here : v = x
        · subst here
          rw [VariableMemory.write_self]
          exact effect.onChange w attached
        · rw [VariableMemory.write_of_ne _ here]
          exact attached
  | turn =>
      cases front : q.queue with
      | nil =>
          cases (System.step_turn_nil front).symm.trans taken
          exact attached
      | cons x queue =>
          obtain ⟨s, works, handled, rfl⟩ := (System.step_turn_cons front).mp taken
          cases handled
          exact attached

/-- **No change is missed.**  What is attached stays attached, and once the queue is empty
every work item has seen the present values of the variables it is attached to, if at the
start each item had seen them or was in the queue. -/
theorem seen_of_run {q q' : Queued Watched KWorkPtr} {es : List (Event (CString × NamedOp))}
    (start : ∀ w, q.state.UpToDate w ∨ w ∈ q.queue)
    (ran : run (watchedSystem fuel atoi).step q es = some q') :
    (∀ w v, q.state.memory.Attached w v → q'.state.memory.Attached w v) ∧
      (q'.queue = [] → ∀ w, q'.state.UpToDate w) := by
  refine ⟨fun w v attached => ?_, fun idle w => ?_⟩
  · exact run_invariant_of_step (fun attached taken => attached_step taken attached) attached ran
  · refine (keeps_upToDate fuel atoi w).of_idle ⟨trivial, fun _ _ => trivial, ?_⟩ ?_ ran idle
    · exact (start w).imp_right fun waiting => ⟨w, waiting, rfl⟩
    · refine stepsMeet_of_forall _ (fun s e => ?_) q es
      cases e with
      | act op => exact trivial
      | turn => exact trivial

end Watched

/-! ### A connection and a LED -/

theorem connectedName_lt :
    (CString.ofString "bt_peripheral_connected").strlen < CONFIG_ZTACX_VALUE_NAME_MAX := by decide

theorem dutyName_lt :
    (CString.ofString "led0_duty").strlen < CONFIG_ZTACX_VALUE_NAME_MAX := by decide

theorem noName_lt : (CString.ofString "").strlen < CONFIG_ZTACX_VALUE_NAME_MAX := by decide

/-- Two variables of the keypad, registered in this order. -/
def keypadVariables : List ZtacxVariable :=
  [.entry "bt_peripheral_connected" .bool connectedName_lt, .entry "led0_duty" .byte dutyName_lt]

def keypadMemory : VariableMemory where
  registry := ztacxValuesRegister
    (Registry.boot (fun _ => ⟨.empty, ⟨.empty, ⟨false, false, false⟩⟩⟩)
      fun v => (keypadVariables[v]?.map ZtacxVariable.name).getD .empty)
    .variables (List.range keypadVariables.length)
  entry := fun v => keypadVariables[v]?.getD (.entry "" .bool noName_lt)

theorem keypadMemory_lists : keypadMemory.Lists 3 [0, 1] :=
  ⟨⟨rfl, rfl, rfl⟩, by decide, by decide⟩

/-- The duty that was set is there after the connection has been set. -/
theorem keypadMemory_get : ∃ m, run (namedStep 3 fun _ => 0) keypadMemory
      [(.ofString "led0_duty", .set true (some [50])),
        (.ofString "bt_peripheral_connected", .setText true (.ofString "on"))] = some m ∧
    ztacxVariableGet 3 m (.ofString "led0_duty") 1 = .ok ([50], 0) := by
  obtain ⟨m, ran⟩ : ∃ m, run (namedStep 3 fun _ => 0) keypadMemory
      [(.ofString "led0_duty", .set true (some [50])),
        (.ofString "bt_peripheral_connected", .setText true (.ofString "on"))] = some m :=
    ⟨_, rfl⟩
  refine ⟨m, ran, ?_⟩
  rw [ztacxVariableGet_run keypadMemory_lists ran]
  decide

/-- Work item 7 is attached to the connection, which is then set. -/
theorem keypadMemory_seen : ∃ q, run (watchedSystem 3 fun _ => 0).step
      ⟨⟨keypadMemory, fun _ _ => .event none⟩, []⟩
      [.act (.ofString "bt_peripheral_connected", .setOnchange 7),
        .act (.ofString "bt_peripheral_connected", .set true (some [1])), .turn] = some q ∧
    q.queue = [] ∧ q.state.UpToDate 7 := by
  obtain ⟨q, ran, idle⟩ : ∃ q, run (watchedSystem 3 fun _ => 0).step
      ⟨⟨keypadMemory, fun _ _ => .event none⟩, []⟩
      [.act (.ofString "bt_peripheral_connected", .setOnchange 7),
        .act (.ofString "bt_peripheral_connected", .set true (some [1])), .turn] = some q ∧
    q.queue = [] := ⟨_, rfl, rfl⟩
  refine ⟨q, ran, idle, (seen_of_run (fun w => .inl fun v attached => ?_) ran).2 idle 7⟩
  have free : (keypadMemory.entry v).onChange = none := by
    rcases v with _ | _ | v <;> rfl
  cases free.symm.trans attached

end Ztacx
