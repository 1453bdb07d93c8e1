import Ztacx.Shell

/-!
# Shell commands on every input

The five handlers on every registry and every argument vector.  What they are asked for is
that they use no argument that is not there and no null pointer of a failed lookup, and that
they refuse an incomplete command or one that names nothing registered, changing nothing
(`Refuses`).

They hardly ever do.  `cmd_ztacx_init`, `cmd_ztacx_start` and `cmd_ztacx_stop` use the first
argument without asking for it, and the leaf without asking whether it was found; so does
`cmd_ztacx_value` with the arguments of `get`, and `cmd_ztacx_led` with its leaf.  What is
left are the arguments that are `Guarded` (`refuses_iff`).
-/

namespace Ztacx.Shell

open CModel

/-! ## The commands -/

/-- A handler, with what its callbacks, its stack and the allocator do. -/
inductive ShellCommand
  | init (call : InitCall)
  | start (rc : ℤ)
  | stop (rc : ℤ)
  | value (desc : List UInt8) (alloc : Bool)
  | led (alloc : Bool)

section Property

variable (fuel longBits : ℕ) (atoi : CString → BitVec 32)
  (retainedErase : Option (ShellState → ShellState)) (s : ShellState)

def ShellCommand.run (args : List CString) : ShellCommand → Except ShellFault ShellOutcome
  | .init call => cmdZtacxInit fuel s args call
  | .start rc => cmdZtacxStart fuel s args rc
  | .stop rc => cmdZtacxStop fuel s args rc
  | .value desc alloc => cmdZtacxValue fuel longBits atoi retainedErase s args desc alloc
  | .led alloc => cmdZtacxLed fuel atoi s args alloc

/-- A name of a leaf on `ztacx_leaves`. -/
def LeafRegistered (name : CString) : Prop :=
  ∃ ls, Slist.Spells s.registry.leafNext s.registry.ztacxLeaves.head ls ∧
    ∃ l ∈ ls, (s.registry.leaf l).name = name

/-- A name of a variable on `ztacx_variables`. -/
def VariableRegistered (name : CString) : Prop :=
  ∃ vs, Slist.Spells s.registry.variableNext s.registry.ztacxVariables.head vs ∧
    ∃ v ∈ vs, s.registry.variableName v = name

/-- The subcommands of a LED that take a value. -/
def TakesValue (word : CString) : Prop :=
  word = .ofString "duty" ∨ word = .ofString "cycle" ∨ word = .ofString "blink"

/-- No argument has been left out.  `value` alone is `value list`. -/
def Complete : ShellCommand → List CString → Prop
  | .value .., args => (args[0]? = some (.ofString "get") → 2 ≤ args.length) ∧
      (args[0]? = some (.ofString "set") → 3 ≤ args.length)
  | .led _, args => 2 ≤ args.length ∧ ∀ word ∈ args[1]?, TakesValue word → 3 ≤ args.length
  | _, args => 1 ≤ args.length

/-- What the arguments name is registered. -/
def NamesRegistered : ShellCommand → List CString → Prop
  | .value .., args => args[0]? = some (.ofString "get") ∨ args[0]? = some (.ofString "set") →
      ∀ name ∈ args[1]?, VariableRegistered s name
  | _, args => ∀ name ∈ args[0]?, LeafRegistered s name

/-- **The command is safe and refuses what it cannot do.** -/
structure Refuses (cmd : ShellCommand) (args : List CString) : Prop where
  arguments : cmd.run fuel longBits atoi retainedErase s args ≠ .error .argument
  lookups : cmd.run fuel longBits atoi retainedErase s args ≠ .error .nullLookup
  refuses : ¬ (Complete cmd args ∧ NamesRegistered s cmd args) → ∃ shown rc,
    cmd.run fuel longBits atoi retainedErase s args = .ok ⟨s, shown, rc⟩ ∧ rc ≠ 0

/-- The arguments with which a command is safe. -/
def Guarded : ShellCommand → List CString → Prop
  | .value .., args => ∃ word ∈ args[0]?,
      (word = .ofString "get" → ∃ name ∈ args[1]?, VariableRegistered s name) ∧
      (word = .ofString "set" → 3 ≤ args.length)
  | .led _, args => args = [] ∨ ∃ name ∈ args[0]?, LeafRegistered s name ∧ ∃ word ∈ args[1]?,
      args.length = 2 → ¬ TakesValue word ∧
        (name = .ofString "cycle" ∨ name = .ofString "blink" →
          word = .ofString "on" ∨ word = .ofString "off")
  | _, args => ∃ name ∈ args[0]?, LeafRegistered s name

/-- The two lists are intact, and short enough to be traversed. -/
def Linked : Prop :=
  (∃ ls, Slist.Spells s.registry.leafNext s.registry.ztacxLeaves.head ls ∧ ls.length < fuel) ∧
    ∃ vs, Slist.Spells s.registry.variableNext s.registry.ztacxVariables.head vs ∧
      vs.length < fuel

end Property

/-! ## What the commands do -/

section Commands

variable {fuel longBits : ℕ} {atoi : CString → BitVec 32}
  {retainedErase : Option (ShellState → ShellState)} {s : ShellState}

/-- A lookup by name on a spelled list finds something exactly if there is something. -/
theorem findFrom_sameName {α : Type} {links : Links α} {p : Option α} {ns : List α}
    (spelled : Slist.Spells links p ns) (own : α → CString) (name : CString)
    (enough : ns.length < fuel) :
    ∃ found, Slist.findFrom links (fun n => sameName (own n) (some name)) fuel p = .ok found ∧
      (found.isSome ↔ ∃ ms, Slist.Spells links p ms ∧ ∃ n ∈ ms, own n = name) := by
  refine ⟨ns.find? fun n => own n = name,
    Slist.findFrom_of_spells spelled (fun _ _ => rfl) enough, ?_⟩
  rw [List.find?_isSome]
  simp only [decide_eq_true_eq]
  constructor
  · exact fun some => ⟨ns, spelled, some⟩
  · rintro ⟨ms, spelled', some⟩
    rwa [← spelled.unique spelled'] at some

theorem Linked.leafGet (h : Linked fuel s) (name : CString) :
    ∃ found, ztacxLeafGet fuel s.registry (some name) = .ok found ∧
      (found.isSome ↔ LeafRegistered s name) := by
  obtain ⟨⟨ls, spelled, enough⟩, -⟩ := h
  exact findFrom_sameName spelled _ name enough

theorem Linked.variableFind (h : Linked fuel s) (name : CString) :
    ∃ found, ztacxVariableFind fuel s.registry (some name) = .ok found ∧
      (found.isSome ↔ VariableRegistered s name) := by
  obtain ⟨-, vs, spelled, enough⟩ := h
  exact findFrom_sameName spelled _ name enough

/-! ### Harmless results -/

/-- No argument was used that is not there, and no null pointer of a lookup. -/
structure Harmless {α : Type} (x : Except ShellFault α) : Prop where
  argument : x ≠ .error .argument
  nullLookup : x ≠ .error .nullLookup

theorem harmless_ok {α : Type} (a : α) : Harmless (.ok a) := ⟨nofun, nofun⟩

theorem harmless_fault {α : Type} (f : Fault) :
    Harmless (.error (.fault f) : Except ShellFault α) := ⟨nofun, nofun⟩

theorem harmless_lift {α : Type} (x : Except Fault α) : Harmless (lift x) := by
  cases x with
  | error f => exact harmless_fault f
  | ok a => exact harmless_ok a

theorem Harmless.bind {α β : Type} {x : Except ShellFault α} {f : α → Except ShellFault β}
    (first : Harmless x) (then_ : ∀ a, Harmless (f a)) : Harmless (x >>= f) := by
  cases x with
  | error fault =>
      refine ⟨fun same => first.argument ?_, fun same => first.nullLookup ?_⟩
      · cases same
        rfl
      · cases same
        rfl
  | ok a => exact then_ a

theorem harmless_contextOf (s : ShellState) (leaf : LeafPtr) : Harmless (contextOf s leaf) := by
  unfold contextOf
  cases s.context leaf with
  | none => exact harmless_fault .nullDeref
  | some context => exact harmless_ok context

theorem harmless_setString (s : ShellState) (alloc : Bool) (v : VariablePtr) (text : CString) :
    Harmless (setString atoi s alloc v text) := by
  unfold setString
  cases ztacxVariableValueSetString atoi alloc (s.entry v) (some text) with
  | error f => exact harmless_fault f
  | ok r => exact harmless_ok _

theorem harmless_reschedule (s : ShellState) (leaf : LeafPtr) (work : LedWork) :
    Harmless (reschedule s leaf work) :=
  (harmless_contextOf s leaf).bind fun _ => harmless_ok _

/-! ### Leaves -/

/-- What `start` and `stop` do once the leaf has been looked up. -/
theorem ztacxLeafStart_of_get {name : CString} {found : Option LeafPtr}
    (got : ztacxLeafGet fuel s.registry (some name) = .ok found) (rc : ℤ) :
    (found = none → liftLeaf (ztacxLeafStart fuel s.registry (some name) rc) =
        .error .nullLookup ∧
      liftLeaf (ztacxLeafStop fuel s.registry (some name) rc) = .error .nullLookup) ∧
    (found.isSome → (∃ r, liftLeaf (ztacxLeafStart fuel s.registry (some name) rc) = .ok r) ∧
      ∃ r, liftLeaf (ztacxLeafStop fuel s.registry (some name) rc) = .ok r) := by
  unfold ztacxLeafStart ztacxLeafStop
  rw [got]
  simp only [Except.bind, reduceCtorEq, if_false]
  cases found with
  | none => exact ⟨fun _ => ⟨rfl, rfl⟩, nofun⟩
  | some l =>
      refine ⟨nofun, fun _ => ⟨?_, ?_⟩⟩ <;> dsimp only
      · cases (s.registry.leaf l).cls.cb.start with
        | false => exact ⟨_, rfl⟩
        | true => by_cases ready : rc = 0 <;> simp [ready, liftLeaf, Except.mapError]
      · cases (s.registry.leaf l).cls.cb.stop with
        | false => exact ⟨_, rfl⟩
        | true => by_cases ready : rc = 0 <;> simp [ready, liftLeaf, Except.mapError]

/-- **`init`, `start` and `stop`** go through with a registered leaf, and use an argument that
is not there or a null pointer without. -/
theorem run_leaf (longBits : ℕ) (atoi : CString → BitVec 32)
    (retainedErase : Option (ShellState → ShellState)) (h : Linked fuel s) {cmd : ShellCommand}
    (leaf : (∃ call, cmd = .init call) ∨ (∃ rc, cmd = .start rc) ∨ ∃ rc, cmd = .stop rc)
    (args : List CString) :
    ((∃ name ∈ args[0]?, LeafRegistered s name) ∧
      ∃ outcome, cmd.run fuel longBits atoi retainedErase s args = .ok outcome) ∨
    ((¬ ∃ name ∈ args[0]?, LeafRegistered s name) ∧
      (cmd.run fuel longBits atoi retainedErase s args = .error .argument ∨
        cmd.run fuel longBits atoi retainedErase s args = .error .nullLookup)) := by
  cases args with
  | nil =>
      refine .inr ⟨by simp, .inl ?_⟩
      rcases leaf with ⟨call, rfl⟩ | ⟨rc, rfl⟩ | ⟨rc, rfl⟩ <;> rfl
  | cons name args =>
      obtain ⟨found, got, registered⟩ := h.leafGet name
      have named : (∃ name' ∈ (name :: args)[0]?, LeafRegistered s name') ↔
          LeafRegistered s name := by simp
      rw [named]
      cases found with
      | none =>
          refine .inr ⟨registered.not.mp (by decide), .inr ?_⟩
          rcases leaf with ⟨call, rfl⟩ | ⟨rc, rfl⟩ | ⟨rc, rfl⟩
          · show (lift (ztacxLeafGet fuel s.registry (some name)) >>= _) = _
            rw [got]
            rfl
          · show (liftLeaf (ztacxLeafStart fuel s.registry (some name) rc) >>= _) = _
            rw [((ztacxLeafStart_of_get got rc).1 rfl).1]
            rfl
          · show (liftLeaf (ztacxLeafStop fuel s.registry (some name) rc) >>= _) = _
            rw [((ztacxLeafStart_of_get got rc).1 rfl).2]
            rfl
      | some l =>
          refine .inl ⟨registered.mp rfl, ?_⟩
          rcases leaf with ⟨call, rfl⟩ | ⟨rc, rfl⟩ | ⟨rc, rfl⟩
          · show ∃ outcome, (lift (ztacxLeafGet fuel s.registry (some name)) >>= _) = .ok outcome
            rw [got]
            exact ⟨_, rfl⟩
          · obtain ⟨r, ran⟩ := ((ztacxLeafStart_of_get got rc).2 rfl).1
            show ∃ outcome, (liftLeaf (ztacxLeafStart fuel s.registry (some name) rc) >>= _) =
              .ok outcome
            rw [ran]
            exact ⟨_, rfl⟩
          · obtain ⟨r, ran⟩ := ((ztacxLeafStart_of_get got rc).2 rfl).2
            show ∃ outcome, (liftLeaf (ztacxLeafStop fuel s.registry (some name) rc) >>= _) =
              .ok outcome
            rw [ran]
            exact ⟨_, rfl⟩

/-! ### Variables -/

/-- The arms of `value`. -/
theorem cmdZtacxValue_cons (word : CString) (args : List CString) (desc : List UInt8)
    (alloc : Bool) :
    cmdZtacxValue fuel longBits atoi retainedErase s (word :: args) desc alloc =
      if word = .ofString "list" ∨ word = .ofString "show" then
        lift (listFrom longBits s fuel s.registry.ztacxVariables.head desc) >>= fun lines =>
          .ok ⟨s, lines, 0⟩
      else if word = .ofString "get" then valueGet fuel longBits s (word :: args) desc
      else if word = .ofString "set" then valueSet fuel atoi s (word :: args) alloc
      else
        match retainedErase with
        | some erase =>
          if word = .ofString "unretain" then .ok ⟨erase s, [], 0⟩
          else .ok ⟨s, [.ofString "ztacx value <list|get|set|unretain>\n"], 0⟩
        | none => .ok ⟨s, [.ofString "ztacx value <list|get|set|unretain>\n"], 0⟩ := by
  have listing : (argc (word :: args) = 1 ∨ 2 ≤ argc (word :: args) ∧
      (word = .ofString "list" ∨ word = .ofString "show")) ↔
        (word = .ofString "list" ∨ word = .ofString "show") := by simp [argc]
  show @ite _ _ _ _ _ = _
  simp only [listing]
  cases retainedErase <;> rfl

theorem cmdZtacxValue_get (args : List CString) (desc : List UInt8) (alloc : Bool) :
    cmdZtacxValue fuel longBits atoi retainedErase s (.ofString "get" :: args) desc alloc =
      valueGet fuel longBits s (.ofString "get" :: args) desc := by
  rw [cmdZtacxValue_cons, if_neg (by decide), if_pos rfl]

theorem cmdZtacxValue_set (args : List CString) (desc : List UInt8) (alloc : Bool) :
    cmdZtacxValue fuel longBits atoi retainedErase s (.ofString "set" :: args) desc alloc =
      valueSet fuel atoi s (.ofString "set" :: args) alloc := by
  rw [cmdZtacxValue_cons, if_neg (by decide), if_neg (by decide), if_pos rfl]

/-- The arms other than `get` and `set` look nothing up. -/
theorem harmless_cmdZtacxValue {word : CString} (other : word ≠ .ofString "get")
    (other' : word ≠ .ofString "set") (args : List CString) (desc : List UInt8) (alloc : Bool) :
    Harmless (cmdZtacxValue fuel longBits atoi retainedErase s (word :: args) desc alloc) := by
  rw [cmdZtacxValue_cons, if_neg other, if_neg other']
  split
  · exact (harmless_lift _).bind fun _ => harmless_ok _
  · cases retainedErase with
    | none => exact harmless_ok _
    | some erase =>
        dsimp only
        split <;> exact harmless_ok _

/-- **`get`** uses an argument that is not there, or the null pointer of a failed lookup. -/
theorem valueGet_cases (h : Linked fuel s) (word : CString) (args : List CString)
    (desc : List UInt8) :
    ((∃ name ∈ args[0]?, VariableRegistered s name) ∧
      Harmless (valueGet fuel longBits s (word :: args) desc)) ∨
    ((¬ ∃ name ∈ args[0]?, VariableRegistered s name) ∧
      ¬ Harmless (valueGet fuel longBits s (word :: args) desc)) := by
  cases args with
  | nil => exact .inr ⟨by simp, fun harmless => harmless.argument rfl⟩
  | cons name args =>
      obtain ⟨found, got, registered⟩ := h.variableFind name
      have named : (∃ name' ∈ (name :: args)[0]?, VariableRegistered s name') ↔
          VariableRegistered s name := by simp
      rw [named]
      have ran : valueGet fuel longBits s (word :: name :: args) desc =
          (lift (ztacxVariableFind fuel s.registry (some name)) >>= _) := rfl
      rw [ran, got]
      cases found with
      | none => exact .inr ⟨registered.not.mp (by decide), fun harmless => harmless.nullLookup rfl⟩
      | some v =>
          refine .inl ⟨registered.mp rfl, ?_⟩
          show Harmless (lift ((describeInto longBits desc (s.entry v)).bind readCString) >>= _)
          exact (harmless_lift _).bind fun _ => harmless_ok _

/-- **`set`** uses an argument that is not there, and refuses a name that is not
registered. -/
theorem valueSet_cases (h : Linked fuel s) (word : CString) (args : List CString)
    (alloc : Bool) :
    (2 ≤ args.length ∧ Harmless (valueSet fuel atoi s (word :: args) alloc) ∧
      ((¬ ∀ name ∈ args[0]?, VariableRegistered s name) → ∃ shown rc,
        valueSet fuel atoi s (word :: args) alloc = .ok ⟨s, shown, rc⟩ ∧ rc ≠ 0)) ∨
    (¬ 2 ≤ args.length ∧ ¬ Harmless (valueSet fuel atoi s (word :: args) alloc)) := by
  cases args with
  | nil => exact .inr ⟨by simp, fun harmless => harmless.argument rfl⟩
  | cons name args =>
    cases args with
    | nil => exact .inr ⟨by simp, fun harmless => harmless.argument rfl⟩
    | cons value args =>
      obtain ⟨found, got, registered⟩ := h.variableFind name
      have named : (∀ name' ∈ (name :: value :: args)[0]?, VariableRegistered s name') ↔
          VariableRegistered s name := by simp
      have ran : valueSet fuel atoi s (word :: name :: value :: args) alloc =
          (lift (ztacxVariableFind fuel s.registry (some name)) >>= _) := rfl
      rw [named, ran, got]
      refine .inl ⟨by simp, ?_⟩
      cases found with
      | none => exact ⟨harmless_ok _, fun _ => ⟨_, _, rfl, by decide⟩⟩
      | some v =>
          refine ⟨?_, fun unknown => absurd (registered.mp rfl) unknown⟩
          show Harmless (setString atoi s alloc v value >>= _)
          refine (harmless_setString s alloc v value).bind fun r => ?_
          split <;> exact harmless_ok _

/-! ### LEDs -/

/-- An arm with a value uses the fourth argument. -/
theorem harmless_ledSet_iff (s : ShellState) (args : List CString) (alloc : Bool)
    (leaf : LeafPtr) (entry : LedContext → VariablePtr) :
    Harmless (ledSet atoi s args alloc leaf entry) ↔ 3 ≤ args.length := by
  by_cases three : 3 ≤ args.length
  · have there : argument args 3 = .ok args[2] := by
      rw [argument, List.getElem?_eq_getElem (show 3 - 1 < args.length by omega)]
      rfl
    have ran : ledSet atoi s args alloc leaf entry = (contextOf s leaf >>= fun context =>
        setString atoi s alloc (entry context) args[2] >>= fun r => .ok ⟨r.1, [], 0⟩) := by
      rw [ledSet, there]
      rfl
    rw [ran]
    exact iff_of_true ((harmless_contextOf s leaf).bind fun _ =>
      (harmless_setString s alloc _ _).bind fun _ => harmless_ok _) three
  · have missing : argument args 3 = .error .argument := by
      simp [argument, List.getElem?_eq_none (Nat.lt_succ_iff.mp (not_le.mp three))]
    refine iff_of_false (fun harmless => harmless.argument ?_) three
    rw [ledSet, missing]
    rfl

/-- With four arguments no arm does harm. -/
theorem harmless_ledArms (s : ShellState) {args : List CString} (three : 3 ≤ args.length)
    (alloc : Bool) (name : CString) (leaf : LeafPtr) :
    Harmless (ledArms atoi s args alloc name leaf) := by
  have arm : ∀ entry, Harmless (ledSet atoi s args alloc leaf entry) := fun entry =>
    (harmless_ledSet_iff s args alloc leaf entry).mpr three
  unfold ledArms
  split
  · exact harmless_reschedule ..
  split
  · exact harmless_reschedule ..
  split
  · exact arm _
  split
  · exact arm _
  split
  · exact arm _
  · exact harmless_ok _

/-- **Three arguments**: switching a LED does no harm, the arms that test the name of the leaf
use a fourth argument, and anything else succeeds without doing anything. -/
theorem ledArms_pair (atoi : CString → BitVec 32) (s : ShellState) (name word : CString)
    (alloc : Bool) (leaf : LeafPtr) :
    (word = .ofString "on" ∨ word = .ofString "off" →
      Harmless (ledArms atoi s [name, word] alloc name leaf)) ∧
    (¬ (word = .ofString "on" ∨ word = .ofString "off") →
      ((name = .ofString "cycle" ∨ name = .ofString "blink") →
        ¬ Harmless (ledArms atoi s [name, word] alloc name leaf)) ∧
      (¬ (name = .ofString "cycle" ∨ name = .ofString "blink") →
        ledArms atoi s [name, word] alloc name leaf = .ok ⟨s, [], 0⟩)) := by
  have arm : ∀ entry, ¬ Harmless (ledSet atoi s [name, word] alloc leaf entry) := fun entry =>
    (harmless_ledSet_iff s [name, word] alloc leaf entry).not.mpr (Nat.lt_irrefl 2)
  have three : 2 < argc [name, word] := Nat.lt_succ_self 2
  have notFour : ¬ 3 < argc [name, word] := Nat.lt_irrefl 3
  unfold ledArms
  simp only [three, notFour, true_and, false_and, if_false, List.getElem?_cons_succ,
    List.getElem?_cons_zero, Option.some.injEq]
  constructor
  · rintro (on | off)
    · rw [if_pos on]
      exact harmless_reschedule ..
    · rw [if_pos off]
      split <;> exact harmless_reschedule ..
  · intro other
    obtain ⟨notOn, notOff⟩ := not_or.mp other
    rw [if_neg notOn, if_neg notOff]
    constructor
    · rintro (cycle | blink)
      · rw [if_pos cycle]
        exact arm _
      · rw [if_pos blink]
        split <;> exact arm _
    · intro plain
      obtain ⟨notCycle, notBlink⟩ := not_or.mp plain
      rw [if_neg notCycle, if_neg notBlink]

/-! ## When the commands are safe -/

theorem Refuses.harmless {cmd : ShellCommand} {args : List CString}
    (h : Refuses fuel longBits atoi retainedErase s cmd args) :
    Harmless (cmd.run fuel longBits atoi retainedErase s args) := ⟨h.arguments, h.lookups⟩

/-- Where there is nothing to refuse, a harmless command is safe. -/
theorem Harmless.refuses {cmd : ShellCommand} {args : List CString}
    (h : Harmless (cmd.run fuel longBits atoi retainedErase s args))
    (complete : Complete cmd args) (named : NamesRegistered s cmd args) :
    Refuses fuel longBits atoi retainedErase s cmd args :=
  ⟨h.argument, h.nullLookup, fun neither => absurd ⟨complete, named⟩ neither⟩

/-- A command that succeeds without having been complete is not safe. -/
theorem not_refuses_of_ok {cmd : ShellCommand} {args : List CString} {shown : List CString}
    (ran : cmd.run fuel longBits atoi retainedErase s args = .ok ⟨s, shown, 0⟩)
    (incomplete : ¬ Complete cmd args) :
    ¬ Refuses fuel longBits atoi retainedErase s cmd args := by
  intro h
  obtain ⟨shown', rc, ran', failed⟩ := h.refuses fun both => incomplete both.1
  cases ran.symm.trans ran'
  exact failed rfl

/-- `init`, `start` and `stop`. -/
theorem refuses_leaf_iff (h : Linked fuel s) {cmd : ShellCommand}
    (leaf : (∃ call, cmd = .init call) ∨ (∃ rc, cmd = .start rc) ∨ ∃ rc, cmd = .stop rc)
    (args : List CString) :
    Refuses fuel longBits atoi retainedErase s cmd args ↔ Guarded s cmd args := by
  have guarded : Guarded s cmd args ↔ ∃ name ∈ args[0]?, LeafRegistered s name := by
    rcases leaf with ⟨call, rfl⟩ | ⟨rc, rfl⟩ | ⟨rc, rfl⟩ <;> exact Iff.rfl
  have complete : Complete cmd args ↔ 1 ≤ args.length := by
    rcases leaf with ⟨call, rfl⟩ | ⟨rc, rfl⟩ | ⟨rc, rfl⟩ <;> exact Iff.rfl
  have named : NamesRegistered s cmd args ↔ ∀ name ∈ args[0]?, LeafRegistered s name := by
    rcases leaf with ⟨call, rfl⟩ | ⟨rc, rfl⟩ | ⟨rc, rfl⟩ <;> exact Iff.rfl
  rw [guarded]
  rcases run_leaf longBits atoi retainedErase h leaf args with
    ⟨⟨name, first, registered⟩, outcome, ran⟩ | ⟨none, faulted⟩
  · refine iff_of_true (Harmless.refuses (ran ▸ harmless_ok outcome) (complete.mpr ?_)
      (named.mpr ?_)) ⟨name, first, registered⟩
    · exact (List.getElem?_eq_some_iff.mp first).1
    · intro name' first'
      cases first.symm.trans first'
      exact registered
  · refine iff_of_false (fun refuses => ?_) none
    rcases faulted with faulted | faulted
    · exact refuses.arguments faulted
    · exact refuses.lookups faulted

/-- `value get`. -/
theorem refuses_get_iff (h : Linked fuel s) (desc : List UInt8) (alloc : Bool)
    (args : List CString) :
    Refuses fuel longBits atoi retainedErase s (.value desc alloc) (.ofString "get" :: args) ↔
      ∃ name ∈ args[0]?, VariableRegistered s name := by
  have ran : ShellCommand.run fuel longBits atoi retainedErase s (.ofString "get" :: args)
      (.value desc alloc) = valueGet fuel longBits s (.ofString "get" :: args) desc :=
    cmdZtacxValue_get args desc alloc
  rcases valueGet_cases h (.ofString "get") args desc with
    ⟨⟨name, first, registered⟩, harmless⟩ | ⟨none, harm⟩
  · refine iff_of_true (Harmless.refuses (ran ▸ harmless) ⟨fun _ => ?_, fun set => ?_⟩
      fun _ name' first' => ?_) ⟨name, first, registered⟩
    · exact Nat.succ_le_succ (List.getElem?_eq_some_iff.mp first).1
    · exact absurd (Option.some.inj set) (by decide)
    · cases first.symm.trans first'
      exact registered
  · exact iff_of_false (fun refuses => harm (ran ▸ refuses.harmless)) none

/-- `value set`. -/
theorem refuses_set_iff (h : Linked fuel s) (desc : List UInt8) (alloc : Bool)
    (args : List CString) :
    Refuses fuel longBits atoi retainedErase s (.value desc alloc) (.ofString "set" :: args) ↔
      2 ≤ args.length := by
  have ran : ShellCommand.run fuel longBits atoi retainedErase s (.ofString "set" :: args)
      (.value desc alloc) = valueSet fuel atoi s (.ofString "set" :: args) alloc :=
    cmdZtacxValue_set args desc alloc
  rcases valueSet_cases h (.ofString "set") args alloc with
    ⟨two, harmless, unknown⟩ | ⟨few, harm⟩
  · have harmless := ran ▸ harmless
    refine iff_of_true ⟨harmless.argument, harmless.nullLookup, fun neither => ?_⟩ two
    rw [ran]
    refine unknown fun registered => neither ⟨⟨fun get => ?_, fun _ => ?_⟩, fun _ => registered⟩
    · exact absurd (Option.some.inj get) (by decide)
    · exact Nat.succ_le_succ two
  · exact iff_of_false (fun refuses => harm (ran ▸ refuses.harmless)) few

/-- `value`. -/
theorem refuses_value_iff (h : Linked fuel s) (desc : List UInt8) (alloc : Bool)
    (args : List CString) :
    Refuses fuel longBits atoi retainedErase s (.value desc alloc) args ↔
      Guarded s (.value desc alloc) args := by
  cases args with
  | nil =>
      refine iff_of_false (fun refuses => refuses.arguments rfl) ?_
      rintro ⟨word, first, -⟩
      cases first
  | cons word args =>
      have guarded : Guarded s (.value desc alloc) (word :: args) ↔
          (word = .ofString "get" → ∃ name ∈ args[0]?, VariableRegistered s name) ∧
            (word = .ofString "set" → 2 ≤ args.length) := by
        simp [Guarded]
      rw [guarded]
      by_cases get : word = .ofString "get"
      · have other : word ≠ .ofString "set" := by
          rw [get]
          decide
        subst get
        rw [refuses_get_iff h]
        exact ⟨fun named => ⟨fun _ => named, fun set => absurd set other⟩, fun both => both.1 rfl⟩
      by_cases set : word = .ofString "set"
      · subst set
        rw [refuses_set_iff h]
        exact ⟨fun two => ⟨fun same => absurd same get, fun _ => two⟩, fun both => both.2 rfl⟩
      · refine iff_of_true (Harmless.refuses (harmless_cmdZtacxValue get set args desc alloc)
          ⟨fun same => ?_, fun same => ?_⟩ ?_)
          ⟨fun same => absurd same get, fun same => absurd same set⟩
        · exact absurd (Option.some.inj same) get
        · exact absurd (Option.some.inj same) set
        · rintro (same | same)
          · exact absurd (Option.some.inj same) get
          · exact absurd (Option.some.inj same) set

/-- What `led` runs for a leaf that is registered, and for one that is not. -/
theorem run_led_of_get {name : CString} {found : Option LeafPtr}
    (got : ztacxLeafGet fuel s.registry (some name) = .ok found) (alloc : Bool)
    (args : List CString) :
    (found = none → ShellCommand.run fuel longBits atoi retainedErase s (name :: args)
      (.led alloc) = .error .nullLookup) ∧
    ∀ l ∈ found, ShellCommand.run fuel longBits atoi retainedErase s (name :: args)
      (.led alloc) = ledArms atoi s (name :: args) alloc name l := by
  have ran : ShellCommand.run fuel longBits atoi retainedErase s (name :: args) (.led alloc) =
      cmdZtacxLed fuel atoi s (name :: args) alloc := rfl
  rw [ran, cmdZtacxLed, if_neg (by simp [argc])]
  constructor
  · rintro rfl
    show (lift (ztacxLeafGet fuel s.registry (some name)) >>= _) = _
    rw [got]
    rfl
  · rintro l rfl
    show (lift (ztacxLeafGet fuel s.registry (some name)) >>= _) = _
    rw [got]
    rfl

/-- `led` with the name of a leaf that is registered and one more word. -/
theorem refuses_led_pair_iff {name word : CString} {l : LeafPtr} {alloc : Bool}
    (ran : ShellCommand.run fuel longBits atoi retainedErase s [name, word] (.led alloc) =
      ledArms atoi s [name, word] alloc name l)
    (named : NamesRegistered s (.led alloc) [name, word]) :
    Refuses fuel longBits atoi retainedErase s (.led alloc) [name, word] ↔
      ¬ TakesValue word ∧ (name = .ofString "cycle" ∨ name = .ofString "blink" →
        word = .ofString "on" ∨ word = .ofString "off") := by
  obtain ⟨switch, other⟩ := ledArms_pair atoi s name word alloc l
  have complete : Complete (.led alloc) [name, word] ↔ ¬ TakesValue word := by
    simp [Complete]
  by_cases switches : word = .ofString "on" ∨ word = .ofString "off"
  · have noValue : ¬ TakesValue word := by
      rcases switches with rfl | rfl <;> unfold TakesValue <;> decide
    exact iff_of_true (Harmless.refuses (ran ▸ switch switches) (complete.mpr noValue) named)
      ⟨noValue, fun _ => switches⟩
  obtain ⟨harm, nothing⟩ := other switches
  by_cases tests : name = .ofString "cycle" ∨ name = .ofString "blink"
  · exact iff_of_false (fun refuses => harm tests (ran ▸ refuses.harmless))
      fun both => switches (both.2 tests)
  · have nothing := ran.trans (nothing tests)
    by_cases noValue : TakesValue word
    · exact iff_of_false (not_refuses_of_ok nothing (complete.not.mpr (not_not.mpr noValue)))
        fun both => both.1 noValue
    · have harmless := nothing ▸ harmless_ok (⟨s, [], 0⟩ : ShellOutcome)
      exact iff_of_true (Harmless.refuses harmless (complete.mpr noValue) named)
        ⟨noValue, fun same => absurd same tests⟩

/-- `led` with the name of a leaf that is registered. -/
theorem refuses_led_iff_of_found {name : CString} {l : LeafPtr}
    (got : ztacxLeafGet fuel s.registry (some name) = .ok (some l))
    (registered : LeafRegistered s name) (alloc : Bool) (args : List CString) :
    Refuses fuel longBits atoi retainedErase s (.led alloc) (name :: args) ↔
      ∃ word ∈ args[0]?, args.length = 1 → ¬ TakesValue word ∧
        (name = .ofString "cycle" ∨ name = .ofString "blink" →
          word = .ofString "on" ∨ word = .ofString "off") := by
  have ran : ShellCommand.run fuel longBits atoi retainedErase s (name :: args) (.led alloc) =
      ledArms atoi s (name :: args) alloc name l := (run_led_of_get got alloc args).2 l rfl
  have named : NamesRegistered s (.led alloc) (name :: args) := by
    intro name' first
    cases first
    exact registered
  cases args with
  | nil =>
      refine iff_of_false (not_refuses_of_ok ran fun complete => ?_) (by simp)
      exact absurd complete.1 (Nat.lt_irrefl 1)
  | cons word args =>
    cases args with
    | nil =>
      rw [refuses_led_pair_iff ran named]
      simp
    | cons value args =>
      have three : 3 ≤ (name :: word :: value :: args).length := by simp
      have complete : Complete (.led alloc) (name :: word :: value :: args) :=
        ⟨by simp, fun _ _ _ => three⟩
      refine iff_of_true (Harmless.refuses (ran ▸ harmless_ledArms s three alloc name l) complete
        named) ⟨word, rfl, fun one => ?_⟩
      simp at one

/-- `led`. -/
theorem refuses_led_iff (h : Linked fuel s) (alloc : Bool) (args : List CString) :
    Refuses fuel longBits atoi retainedErase s (.led alloc) args ↔
      Guarded s (.led alloc) args := by
  cases args with
  | nil =>
      exact iff_of_true ⟨nofun, nofun, fun _ => ⟨_, _, rfl, by decide⟩⟩ (.inl rfl)
  | cons name args =>
      have guarded : Guarded s (.led alloc) (name :: args) ↔ LeafRegistered s name ∧
          ∃ word ∈ args[0]?, args.length = 1 → ¬ TakesValue word ∧
            (name = .ofString "cycle" ∨ name = .ofString "blink" →
              word = .ofString "on" ∨ word = .ofString "off") := by
        simp [Guarded]
      rw [guarded]
      obtain ⟨found, got, registered⟩ := h.leafGet name
      cases found with
      | none =>
          refine iff_of_false (fun refuses => refuses.lookups ?_) fun both =>
            registered.not.mp (by decide) both.1
          exact (run_led_of_get got alloc args).1 rfl
      | some l =>
          have registered := registered.mp rfl
          rw [refuses_led_iff_of_found got registered]
          exact ⟨fun word => ⟨registered, word⟩, fun both => both.2⟩

/-- **When a shell command is safe**, on every registry and every argument vector: its
arguments are guarded. -/
theorem refuses_iff (h : Linked fuel s) (cmd : ShellCommand) (args : List CString) :
    Refuses fuel longBits atoi retainedErase s cmd args ↔ Guarded s cmd args := by
  cases cmd with
  | init call => exact refuses_leaf_iff h (.inl ⟨call, rfl⟩) args
  | start rc => exact refuses_leaf_iff h (.inr (.inl ⟨rc, rfl⟩)) args
  | stop rc => exact refuses_leaf_iff h (.inr (.inr ⟨rc, rfl⟩)) args
  | value desc alloc => exact refuses_value_iff h desc alloc args
  | led alloc => exact refuses_led_iff h alloc args

end Commands

theorem linked_ledTable : Linked 3 (shellWith ledTable) :=
  ⟨⟨[], rfl, by decide⟩, ⟨[0, 1], ⟨rfl, rfl, rfl⟩, by decide⟩⟩

/-- A buffer for descriptions, on a stack of zeros. -/
def blankDesc : List UInt8 := List.replicate DESC_SIZE 0

/-- `ztacx value get led0_ok` on a board with that variable. -/
theorem refuses_get_led0_ok :
    Refuses 3 32 (fun _ => 0) none (shellWith ledTable) (.value blankDesc true)
      [.ofString "get", .ofString "led0_ok"] := by
  refine (refuses_iff linked_ledTable _ _).mpr ⟨.ofString "get", rfl, fun _ => ?_, fun set => ?_⟩
  · exact ⟨_, rfl, [0, 1], ⟨rfl, rfl, rfl⟩, 0, List.mem_cons_self, rfl⟩
  · exact absurd set (by decide)

/-- **What is missing or unknown**: `ztacx start` alone, a leaf and a variable that are not
registered, and the command of a LED with the name of no leaf. -/
theorem not_refuses_missing :
    ¬ Refuses 3 32 (fun _ => 0) none (shellWith ledTable) (.start 0) [] ∧
      ¬ Refuses 3 32 (fun _ => 0) none (shellWith ledTable) (.start 0) [.ofString "led7"] ∧
      ¬ Refuses 3 32 (fun _ => 0) none (shellWith ledTable) (.value blankDesc true)
        [.ofString "get", .ofString "led7_ok"] ∧
      ¬ Refuses 3 32 (fun _ => 0) none (shellWith ledTable) (.led true)
        [.ofString "led7", .ofString "on"] :=
  ⟨fun refuses => refuses.arguments rfl, fun refuses => refuses.lookups rfl,
    fun refuses => refuses.lookups rfl, fun refuses => refuses.lookups rfl⟩

end Ztacx.Shell
