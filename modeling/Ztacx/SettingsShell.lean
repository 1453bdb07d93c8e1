import Ztacx.SettingsLife
import Ztacx.Shell

/-!
# The settings at the shell

`cmd_ztacx_settings` and `_print_setting` of `src/ztacx_settings.c`, in the life of the
settings.

What a user is told is what the device keeps: after a start `settings show` prints, for each
setting whose record the start reads whole, the description that was printed behind `updated: `
when it was set at the shell for the last time, whatever was typed since, whatever failed, and
whatever the application and a Bluetooth client wrote; and the description of the default when
it never was (`shown_restarted`).  The exception is a text that was made empty, whose default
comes back.
-/

namespace Ztacx.SettingsShell

open CModel
open Shell (argc describeInto DESC_SIZE)

/-! ## The code -/

/-- What a command comes across: memory, the storage, the records that are found and what comes
of reading them, and what is on the stack where its buffer comes to lie. -/
structure Surroundings where
  alloc : Bool
  saveRc : ℤ
  takes : CString → Bool
  arrivals : List SettingsArrival
  desc : List UInt8
  desc_length : desc.length = DESC_SIZE

/-- What is printed: a line, the line `updated: ` with the description of the setting at an
index, or a record, whose key is null if it is the subtree itself. -/
inductive Shown
  | line (text : CString)
  | updated (index : ℕ) (desc : CString)
  | record (key : Option CString) (bytes : List UInt8)
deriving DecidableEq, Repr

/-- What a command leaves behind, prints and returns. -/
structure Outcome where
  life : SettingsLife
  shown : List Shown
  rc : ℤ

/-- `argv[i]`, where `argc` says that it is there. -/
def argv (args : List CString) (i : ℕ) : CString := args.getD (i - 1) .empty

section Code

variable (names : SettingsNames) (longBits : ℕ) (atoi : CString → BitVec 32)

/-- `ztacx_setting_find`, as an index. -/
def settingIndex (s : SettingsLife) (name : CString) : Option ℕ :=
  s.settings.findIdx? fun v => v.name = name

/-- `ztacx_variable_describe` into the buffer, and the line that is printed from it. -/
def describe (desc : List UInt8) (v : ZtacxVariable) : Except Fault (List UInt8 × CString) :=
  (describeInto longBits desc v).bind fun desc => (readCString desc).map fun line => (desc, line)

/-- The loop of `show`. -/
def showFrom : List UInt8 → List ZtacxVariable → Except Fault (List Shown)
  | _, [] => .ok []
  | desc, v :: vs =>
    (describe longBits desc v).bind fun r =>
      (showFrom r.1 vs).map fun lines => .line r.2 :: lines

/-- `_print_setting`, through `char buf[256]`.  What is not read is what was in the buffer. -/
def printSetting (key : Option CString) (io : SettingsRead) : Shown :=
  let len := if 256 ≤ io.len then 255 else io.len
  let read := io.bytes.take len
  .record key (read ++ ((List.range len).map io.fresh).drop read.length)

/-- `settings_load_subtree_direct` with `_print_setting`. -/
def listSubtree (subtree : CString) (arrivals : List SettingsArrival) : List Shown :=
  arrivals.filterMap fun arrival =>
    (names.steq arrival.1 subtree).map fun key => printSetting key arrival.2

/-- `settings_load_subtree`. -/
def loadSubtree (s : SettingsLife) (subtree : CString) (arrivals : List SettingsArrival) :
    Option SettingsLife :=
  if Arrives s.store arrivals then
    let wanted := arrivals.filter fun arrival => (names.steq arrival.1 subtree).isSome
    (loadArrivals names s.settings wanted).toOption.map fun settings =>
      { s with settings := settings }
  else none

/-- `No setting named '%s'` -/
def noSetting (name : CString) : Shown :=
  .line (((CString.ofString "No setting named '").append name).append (.ofString "'"))

/-- `Setting update failed for '%s': error %d` -/
def updateFailed (name : CString) (err : ℤ) : Shown :=
  .line ((((CString.ofString "Setting update failed for '").append name).append
    (.ofString "': error ")).append (decimalText err))

def usage : Shown := .line (.ofString "app settings <setup|list|load|save|set|unretain>\n")

/-- The `set` of `cmd_ztacx_settings`. -/
def settingsSet (s : SettingsLife) (name value : CString) (env : Surroundings) : Option Outcome :=
  match settingIndex s name with
  | none => some ⟨s, [noSetting name], -ENOENT⟩
  | some index =>
    s.settings[index]?.bind fun v =>
      (ztacxSettingSet atoi env.alloc env.saveRc v (some value)).toOption.bind fun r =>
        (s.set atoi ⟨index, value, env.alloc, env.saveRc⟩).bind fun life =>
          if r.rc ≠ 0 then some ⟨life, [updateFailed name r.rc], -EINVAL⟩
          else (describe longBits env.desc r.setting).toOption.map fun line =>
            ⟨life, [.updated index line.2], 0⟩

/-- The `get` of `cmd_ztacx_settings`. -/
def settingsGet (s : SettingsLife) (name : CString) (env : Surroundings) : Option Outcome :=
  match settingIndex s name with
  | none => some ⟨s, [noSetting name], -ENOENT⟩
  | some index =>
    s.settings[index]?.bind fun v =>
      (describe longBits env.desc v).toOption.map fun line => ⟨s, [.line line.2], 0⟩

/-- A command that prints nothing and returns 0. -/
def quietly (result : Option SettingsLife) : Option Outcome :=
  result.map fun life => ⟨life, [], 0⟩

/-- `cmd_ztacx_settings`.  To register the handler and the command again has no effect on the
settings, and what `unretain` erases is not among them. -/
def cmdZtacxSettings (s : SettingsLife) (args : List CString) (env : Surroundings) :
    Option Outcome :=
  if argc args ≤ 1 then quietly (s.loadOver names s.settings env.arrivals)
  else if argv args 1 = .ofString "init" then quietly (some s)
  else if 2 ≤ argc args ∧ argv args 1 = .ofString "show" then
    (showFrom longBits env.desc s.settings).toOption.map fun lines => ⟨s, lines, 0⟩
  else if 2 ≤ argc args ∧ argv args 1 = .ofString "list" then
    let subtree := if 2 < argc args then argv args 2 else .ofString "app"
    if Arrives s.store env.arrivals then
      some ⟨s, listSubtree names subtree env.arrivals, 0⟩
    else none
  else if argc args = 2 ∧ argv args 1 = .ofString "load" then
    quietly (s.loadOver names s.settings env.arrivals)
  else if argc args = 3 ∧ argv args 1 = .ofString "load" then
    quietly (loadSubtree names s (argv args 2) env.arrivals)
  else if argc args = 2 ∧ argv args 1 = .ofString "save" then
    quietly ((settingsHandleExport s.settings).toOption.map fun records =>
      { s with store := settingsSave s.store (records.filter fun record => env.takes record.1) })
  else if 4 ≤ argc args ∧ argv args 1 = .ofString "set" then
    settingsSet longBits atoi s (argv args 2) (argv args 3) env
  else if argc args = 3 ∧ argv args 1 = .ofString "get" then
    settingsGet longBits s (argv args 2) env
  else if argv args 1 = .ofString "unretain" then quietly (some s)
  else some ⟨s, [usage], 0⟩

/-! ## Sessions -/

/-- A command, a write by the application or over Bluetooth, a start. -/
inductive Input
  | command (args : List CString) (env : Surroundings)
  | write (index : ℕ) (write : SettingWrite)
  | restart (arrivals : List SettingsArrival)

/-- The settings, and what was last printed behind `updated: ` for each of them. -/
structure Session where
  life : SettingsLife
  updated : ℕ → Option CString

def Session.boot (defaults : List ZtacxVariable) : Session := ⟨.boot defaults, fun _ => none⟩

/-- What is remembered of a line that is printed. -/
def note (updated : ℕ → Option CString) : Shown → ℕ → Option CString
  | .updated index desc => Function.update updated index (some desc)
  | .line _ | .record .. => updated

def Session.step (defaults : List ZtacxVariable) (s : Session) : Input → Option Session
  | .command args env =>
    (cmdZtacxSettings names longBits atoi s.life args env).map fun o =>
      ⟨o.life, o.shown.foldl note s.updated⟩
  | .write index write =>
    (s.life.step names atoi defaults (.write index write)).map fun life => { s with life := life }
  | .restart arrivals =>
    (s.life.step names atoi defaults (.restart arrivals)).map fun life => { s with life := life }

end Code

/-! ## Descriptions -/

/-- What stands between the brackets for a value of a kind. -/
def shownValue (longBits : ℕ) (k : ZtacxValueKind) : TypedValue → CString
  | .text t => t.getD (.ofString "[empty]")
  | .scalar member =>
    match k with
    | .bool => if leNat member ≠ 0 then .ofString "true" else .ofString "false"
    | .int64 => decimalText (Int.bmod (k.convert 8 (leNat member)) (2 ^ longBits))
    | _ => decimalText (k.convert (k.scalarSize.getD 0) (leNat member))
  | .event _ => .empty

/-- The description of the setting of a table when it has some value. -/
def description (longBits : ℕ) (d : ZtacxVariable) (value : TypedValue) : CString :=
  snprintf DESC_SIZE (describedLine d.name d.kind.word (shownValue longBits d.kind value))

section Descriptions

variable {longBits : ℕ} {d v : ZtacxVariable} {desc : List UInt8}

theorem shownText_eq (known : v.kind ≠ .event) :
    v.shownText longBits = shownValue longBits v.kind v.typedValue := by
  cases hk : v.kind with
  | event => exact absurd hk known
  | bool =>
      simp only [ZtacxVariable.shownText, shownValue, ZtacxVariable.typedValue, hk,
        ZtacxValue.valBool, ZtacxValueKind.scalarSize, Option.getD_some, decide_eq_true_eq]
  | string | byte | uint16 | int16 | int32 | int64 =>
      simp only [ZtacxVariable.shownText, shownValue, ZtacxVariable.typedValue, hk,
        ZtacxVariable.number, ZtacxValueKind.scalarSize, Option.getD_some]

variable (longBits) in
/-- A setting of the table is described by its value. -/
theorem describe_eq (tag : SameTag d v) (known : d.kind ≠ .event)
    (length : desc.length = DESC_SIZE) : ∃ desc', desc'.length = DESC_SIZE ∧
      describe longBits desc v = .ok (desc', description longBits d v.typedValue) := by
  have line : (ztacxVariableDescribe longBits DESC_SIZE v).1 =
      some (description longBits d v.typedValue) := by
    have known' : v.kind ≠ .event := tag.kind ▸ known
    rw [description, ← tag.name, ← tag.kind, ← shownText_eq known']
    cases hk : v.kind <;> first | exact absurd hk known' | simp [ztacxVariableDescribe, hk]
  have fits : (description longBits d v.typedValue).strlen < DESC_SIZE :=
    Nat.lt_succ_of_le (List.length_take_le ..)
  have written := strcpyInto_spec length (description longBits d v.typedValue)
  rw [if_pos fits] at written
  obtain ⟨desc', copied, has⟩ := written
  refine ⟨desc', has.length_eq, ?_⟩
  have described : describeInto longBits desc v = .ok desc' := by
    rw [describeInto, line]
    exact copied
  exact bind_eq_ok_iff.mpr ⟨desc', described, map_eq_ok_iff.mpr ⟨_, has.read, rfl⟩⟩

variable (longBits) in
/-- What `show` prints. -/
theorem showFrom_eq {defaults settings : List ZtacxVariable}
    (tags : List.Forall₂ SameTag defaults settings) (known : ∀ d ∈ defaults, d.kind ≠ .event)
    (length : desc.length = DESC_SIZE) : showFrom longBits desc settings =
      .ok (List.zipWith (fun d v => .line (description longBits d v.typedValue))
        defaults settings) := by
  induction tags generalizing desc with
  | nil => rfl
  | cons tag tags ih =>
      obtain ⟨here, later⟩ := List.forall_mem_cons.mp known
      obtain ⟨desc', length', described⟩ := describe_eq longBits tag here length
      rw [showFrom, described]
      show (showFrom longBits desc' _).map _ = _
      rw [ih later length']
      rfl

end Descriptions

/-! ## What is remembered -/

section Sessions

variable {names : SettingsNames} {longBits : ℕ} {atoi : CString → BitVec 32}
  {defaults : List ZtacxVariable} {s : SettingsLife} {updated : ℕ → Option CString}

/-- The store has what was last saved, and that is what was printed. -/
structure Truthful (longBits : ℕ) (defaults : List ZtacxVariable) (s : SettingsLife)
    (updated : ℕ → Option CString) : Prop where
  remembers : s.Remembers defaults
  printed : ∀ (i : ℕ) d, defaults[i]? = some d →
    updated i = (s.lastSaved i).map (description longBits d)

/-- Lines of other kinds are not remembered. -/
theorem foldl_note {shown : List Shown} (others : ∀ x ∈ shown, note updated x = updated) :
    shown.foldl note updated = updated := by
  induction shown with
  | nil => rfl
  | cons x shown ih =>
      obtain ⟨here, later⟩ := List.forall_mem_cons.mp others
      rw [List.foldl_cons, here]
      exact ih later

/-- What is saved is not touched. -/
theorem Truthful.keep {life : SettingsLife} (truthful : Truthful longBits defaults s updated)
    (remembers : life.Remembers defaults) (saved : life.lastSaved = s.lastSaved) :
    Truthful longBits defaults life updated :=
  ⟨remembers, fun i d here => by rw [saved]; exact truthful.printed i d here⟩

theorem Truthful.quietly {result : Option SettingsLife} {o : Outcome}
    (truthful : Truthful longBits defaults s updated)
    (keeps : ∀ life, result = some life → life.Remembers defaults ∧ life.lastSaved = s.lastSaved)
    (ran : quietly result = some o) :
    Truthful longBits defaults o.life (o.shown.foldl note updated) := by
  obtain ⟨life, made, rfl⟩ := Option.map_eq_some_iff.mp ran
  obtain ⟨remembers, saved⟩ := keeps life made
  exact truthful.keep remembers saved

/-- What a command prints that changes nothing is not remembered. -/
theorem Truthful.shows {shown : List Shown} (truthful : Truthful longBits defaults s updated)
    (others : ∀ x ∈ shown, note updated x = updated) :
    Truthful longBits defaults s (shown.foldl note updated) := by
  rw [foldl_note others]
  exact truthful

theorem note_showFrom {desc : List UInt8} {list : List ZtacxVariable} {lines : List Shown}
    (printed : showFrom longBits desc list = .ok lines) :
    ∀ x ∈ lines, note updated x = updated := by
  induction list generalizing desc lines with
  | nil =>
      cases printed
      exact List.forall_mem_nil _
  | cons v list ih =>
      rw [showFrom] at printed
      obtain ⟨r, -, rest⟩ := bind_eq_ok_iff.mp printed
      obtain ⟨lines, later, rfl⟩ := map_eq_ok_iff.mp rest
      exact List.forall_mem_cons.mpr ⟨rfl, ih later⟩

theorem note_listSubtree {subtree : CString} {arrivals : List SettingsArrival} :
    ∀ x ∈ listSubtree names subtree arrivals, note updated x = updated := by
  intro x mem
  obtain ⟨arrival, -, shown⟩ := List.mem_filterMap.mp mem
  obtain ⟨key, -, rfl⟩ := Option.map_eq_some_iff.mp shown
  rfl

theorem remembers_loadSubtree {subtree : CString} {arrivals : List SettingsArrival}
    {life : SettingsLife} (remembers : s.Remembers defaults)
    (loaded : loadSubtree names s subtree arrivals = some life) :
    life.Remembers defaults ∧ life.lastSaved = s.lastSaved := by
  obtain ⟨-, loaded⟩ := Option.ite_none_right_eq_some.mp loaded
  obtain ⟨settings, ran, rfl⟩ := Option.map_eq_some_iff.mp loaded
  have kept := sameTag_loadArrivals (toOption_eq_some_iff.mp ran)
  exact ⟨⟨remembers.plain, sameTag_trans remembers.tags kept, remembers.records⟩, rfl⟩

/-- **To set a setting**: what is printed is what is saved. -/
theorem Truthful.set {name value : CString} {env : Surroundings} {o : Outcome}
    (table : SettingsTable defaults) (truthful : Truthful longBits defaults s updated)
    (ran : settingsSet longBits atoi s name value env = some o) :
    Truthful longBits defaults o.life (o.shown.foldl note updated) := by
  unfold settingsSet at ran
  split at ran
  · cases ran
    exact truthful
  rename_i index found
  obtain ⟨v, here, ran⟩ := Option.bind_eq_some_iff.mp ran
  obtain ⟨r, called, ran⟩ := Option.bind_eq_some_iff.mp ran
  obtain ⟨life, set, ran⟩ := Option.bind_eq_some_iff.mp ran
  have remembers := truthful.remembers.set table set
  obtain ⟨v', here', set⟩ := Option.bind_eq_some_iff.mp set
  obtain ⟨r', called', rfl⟩ := Option.map_eq_some_iff.mp set
  cases here.symm.trans here'
  cases called.symm.trans called'
  by_cases failed : r.rc ≠ 0
  · rw [if_pos failed] at ran
    cases ran
    exact truthful.keep remembers (if_neg failed)
  · rw [if_neg failed] at ran
    obtain ⟨line, described, rfl⟩ := Option.map_eq_some_iff.mp ran
    refine ⟨remembers, fun i d there => ?_⟩
    simp only [List.foldl_cons, List.foldl_nil, note, if_pos (not_not.mp failed)]
    by_cases same : i = index
    · subst same
      obtain ⟨d', default, tag⟩ := forall₂_getElem? truthful.remembers.tags here
      cases there.symm.trans default
      obtain ⟨name', kind', -⟩ := ztacxSettingSet_cases (toOption_eq_some_iff.mp called)
      obtain ⟨desc', -, described'⟩ := describe_eq longBits
        (tag.trans ⟨name', kind'⟩) (table.supported d (List.mem_of_getElem? there))
        env.desc_length
      rw [toOption_eq_some_iff.mp described] at described'
      cases described'
      rw [Function.update_self, Function.update_self]
      rfl
    · rw [Function.update_of_ne same, Function.update_of_ne same]
      exact truthful.printed i d there

theorem Truthful.get {name : CString} {env : Surroundings} {o : Outcome}
    (truthful : Truthful longBits defaults s updated)
    (ran : settingsGet longBits s name env = some o) :
    Truthful longBits defaults o.life (o.shown.foldl note updated) := by
  unfold settingsGet at ran
  split at ran
  · cases ran
    exact truthful
  · obtain ⟨v, -, ran⟩ := Option.bind_eq_some_iff.mp ran
    obtain ⟨line, -, rfl⟩ := Option.map_eq_some_iff.mp ran
    exact truthful

/-- **What a command does**: what is printed behind `updated: ` is what is saved. -/
theorem Truthful.command {args : List CString} {env : Surroundings} {o : Outcome}
    (table : SettingsTable defaults)
    (foreign : ∀ d ∈ defaults, ∀ e ∈ defaults, d.name ≠ settingKey e.name)
    (truthful : Truthful longBits defaults s updated)
    (ran : cmdZtacxSettings names longBits atoi s args env = some o) :
    Truthful longBits defaults o.life (o.shown.foldl note updated) := by
  have remembers := truthful.remembers
  unfold cmdZtacxSettings at ran
  obtain ⟨-, ran⟩ | ⟨-, ran⟩ := ite_eq_iff.mp ran
  · exact truthful.quietly (fun life loaded => remembers.loadOver remembers.tags loaded) ran
  obtain ⟨-, ran⟩ | ⟨-, ran⟩ := ite_eq_iff.mp ran
  · cases ran
    exact truthful
  obtain ⟨-, ran⟩ | ⟨-, ran⟩ := ite_eq_iff.mp ran
  · obtain ⟨lines, printed, rfl⟩ := Option.map_eq_some_iff.mp ran
    exact truthful.shows (note_showFrom (toOption_eq_some_iff.mp printed))
  obtain ⟨-, ran⟩ | ⟨-, ran⟩ := ite_eq_iff.mp ran
  · obtain ⟨-, same⟩ := Option.ite_none_right_eq_some.mp ran
    cases same
    exact truthful.shows note_listSubtree
  obtain ⟨-, ran⟩ | ⟨-, ran⟩ := ite_eq_iff.mp ran
  · exact truthful.quietly (fun life loaded => remembers.loadOver remembers.tags loaded) ran
  obtain ⟨-, ran⟩ | ⟨-, ran⟩ := ite_eq_iff.mp ran
  · exact truthful.quietly (fun life loaded => remembers_loadSubtree remembers loaded) ran
  obtain ⟨-, ran⟩ | ⟨-, ran⟩ := ite_eq_iff.mp ran
  · refine truthful.quietly (fun life saved => ?_) ran
    obtain ⟨records, exported, rfl⟩ := Option.map_eq_some_iff.mp saved
    exact ⟨remembers.save table foreign (toOption_eq_some_iff.mp exported) env.takes, rfl⟩
  obtain ⟨-, ran⟩ | ⟨-, ran⟩ := ite_eq_iff.mp ran
  · exact truthful.set table ran
  obtain ⟨-, ran⟩ | ⟨-, ran⟩ := ite_eq_iff.mp ran
  · exact truthful.get ran
  obtain ⟨-, ran⟩ | ⟨-, ran⟩ := ite_eq_iff.mp ran
  · cases ran
    exact truthful
  · cases ran
    exact truthful

theorem Truthful.step {s s' : Session} {input : Input} (table : SettingsTable defaults)
    (foreign : ∀ d ∈ defaults, ∀ e ∈ defaults, d.name ≠ settingKey e.name)
    (truthful : Truthful longBits defaults s.life s.updated)
    (taken : s.step names longBits atoi defaults input = some s') :
    Truthful longBits defaults s'.life s'.updated := by
  cases input with
  | command args env =>
      obtain ⟨o, ran, rfl⟩ := Option.map_eq_some_iff.mp taken
      exact truthful.command table foreign ran
  | write index write =>
      obtain ⟨life, written, rfl⟩ := Option.map_eq_some_iff.mp taken
      refine truthful.keep (truthful.remembers.step table foreign written) ?_
      obtain ⟨v, -, made⟩ := Option.bind_eq_some_iff.mp written
      obtain ⟨w, -, rfl⟩ := Option.map_eq_some_iff.mp made
      rfl
  | restart arrivals =>
      obtain ⟨life, started, rfl⟩ := Option.map_eq_some_iff.mp taken
      obtain ⟨remembers, saved⟩ :=
        truthful.remembers.loadOver (sameTag_refl defaults) started
      exact truthful.keep remembers saved

/-- How a setting is shown after a start: as it was last reported, unless that was the empty
text, and else as its default. -/
def shownAfter (longBits : ℕ) (d : ZtacxVariable) (saved : Option TypedValue)
    (reported : Option CString) : CString :=
  if saved = some (.text (some .empty)) then description longBits d d.typedValue
  else reported.getD (description longBits d d.typedValue)

theorem description_restoredValue (d : ZtacxVariable) (saved : Option TypedValue) :
    description longBits d (restoredValue d saved) =
      shownAfter longBits d saved (saved.map (description longBits d)) := by
  cases saved with
  | none => rfl
  | some value =>
      by_cases blank : value = .text (some .empty)
      · rw [shownAfter, restoredValue, if_pos blank, if_pos (congrArg some blank)]
      · have other : some value ≠ some (.text (some .empty)) := mt Option.some.inj blank
        rw [shownAfter, restoredValue, if_neg blank, if_neg other]
        rfl

/-- **What is shown after a start** is what was reported when the settings were set, for every
setting whose record was read whole. -/
theorem shown_restarted (exact : names.Exact) (table : SettingsTable defaults)
    (foreign : ∀ d ∈ defaults, ∀ e ∈ defaults, d.name ≠ settingKey e.name)
    {inputs : List Input} {s t : Session} {arrivals : List SettingsArrival}
    (ran : run (Session.step names longBits atoi defaults) (.boot defaults) inputs = some s)
    (restarted : s.step names longBits atoi defaults (.restart arrivals) = some t)
    (env : Surroundings) :
    ∃ lines, cmdZtacxSettings names longBits atoi t.life [.ofString "show"] env =
        some ⟨t.life, lines, 0⟩ ∧
      lines.length = defaults.length ∧
      ∀ (i : ℕ) d, defaults[i]? = some d →
        ReadWhole s.life.store arrivals (settingKey d.name) →
        lines[i]? = some (.line (shownAfter longBits d (s.life.lastSaved i) (s.updated i))) := by
  have truthful : Truthful longBits defaults s.life s.updated := by
    refine run_invariant_of_step (I := fun s => Truthful longBits defaults s.life s.updated)
      (fun truthful taken => truthful.step table foreign taken) ?_ ran
    exact ⟨SettingsLife.remembers_boot defaults, fun _ _ _ => rfl⟩
  obtain ⟨life, started, rfl⟩ := Option.map_eq_some_iff.mp restarted
  have tags := (truthful.remembers.loadOver (sameTag_refl defaults) started).1.tags
  have shows := showFrom_eq longBits tags table.supported env.desc_length
  refine ⟨List.zipWith (fun d v => .line (description longBits d v.typedValue)) defaults
    life.settings, ?_, ?_, fun i d here whole => ?_⟩
  · show (showFrom longBits env.desc life.settings).toOption.map _ = _
    rw [shows]
    rfl
  · rw [List.length_zipWith, tags.length_eq, Nat.min_self]
  · obtain ⟨v, there, value⟩ := truthful.remembers.restarted exact table started here whole
    rw [List.getElem?_zipWith, here, there]
    show some (Shown.line (description longBits d v.typedValue)) = _
    rw [value, truthful.printed i d here, description_restoredValue]

end Sessions

/-! ## The join retries -/

/-- Memory and storage are there, nothing is found in it, and the stack is empty. -/
def calm : Surroundings :=
  ⟨true, 0, fun _ => true, [], List.replicate DESC_SIZE 0, List.length_replicate⟩

/-- Both are set, and loaded without being found; the retries are written over Bluetooth, and
saved with everything else. -/
def retriesSession : List Input :=
  [.command [.ofString "set", .ofString "lorawan_join_retries", .ofString "3"] calm,
    .command [.ofString "set", .ofString "greeting", .ofString "hello"] calm,
    .command [.ofString "load"] calm, .write 0 (.gatt true true [7, 0] 0),
    .command [.ofString "save"] calm]

set_option maxRecDepth 4096 in
/-- The join retries after the session and a start that does not read the greeting. -/
theorem retriesSession_shown : ∃ s t lines,
    run (Session.step .zephyr 32 (fun _ => 3) retriesAndGreeting) (.boot retriesAndGreeting)
      retriesSession = some s ∧
    s.step .zephyr 32 (fun _ => 3) retriesAndGreeting (.restart retriesArrive) = some t ∧
    cmdZtacxSettings .zephyr 32 (fun _ => 3) t.life [.ofString "show"] calm =
      some ⟨t.life, lines, 0⟩ ∧
    lines[0]? = some (.line (.ofString "lorawan_join_retries=(uint16)[3]")) := by
  obtain ⟨s, t, ran, restarted, record, saved, updated⟩ : ∃ s t,
      run (Session.step .zephyr 32 (fun _ => 3) retriesAndGreeting) (.boot retriesAndGreeting)
        retriesSession = some s ∧
      s.step .zephyr 32 (fun _ => 3) retriesAndGreeting (.restart retriesArrive) = some t ∧
      s.life.store.lookup (settingKey lorawanJoinRetries.name) = some [3, 0] ∧
      s.life.lastSaved 0 = some (.scalar [3, 0]) ∧
      s.updated 0 = some (.ofString "lorawan_join_retries=(uint16)[3]") :=
    ⟨_, _, rfl, rfl, rfl, rfl, rfl⟩
  obtain ⟨lines, shown, -, each⟩ := shown_restarted SettingsNames.zephyr_exact
    retriesAndGreeting_table retriesAndGreeting_foreign ran restarted calm
  refine ⟨s, t, lines, ran, restarted, shown, ?_⟩
  rw [each 0 lorawanJoinRetries rfl fun data mem => by
    cases record.symm.trans mem
    exact ⟨.whole [3, 0], List.mem_cons_self, rfl, rfl⟩, saved, updated]
  rfl

end Ztacx.SettingsShell
