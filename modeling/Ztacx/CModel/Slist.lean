import Mathlib.Data.List.Nodup
import Mathlib.Logic.Function.Basic
import Ztacx.CModel.Memory

/-!
# Intrusive singly linked lists

A list whose `next` pointers live inside the objects it links.  `Links α` is the
`next` field of every object, `Slist α` the head and tail pointers of one list;
several lists can share the objects, and hence the links.

The operations are `append`, which first clears the `next` field of the node it
is given and then hangs it behind the tail, the early-exit traversal `findFrom`,
and `walkFrom`, which visits every node.  A traversal of a cyclic list has no end, so
both count their steps and report `Fault.diverged` when they run out.

`Spells links p xs` says that following `next` from `p` visits exactly `xs` and
then meets null: the finite, acyclic reading of a pointer.  `Represents` adds
the tail pointer.

* `Represents.append` — appending a node that is not on the list extends what
  the list spells by that node.
* `Represents.not_spells_append` — appending a node that *is* on the list never
  leaves a finite list with all the nodes on it: at the tail the node becomes
  its own successor, before the tail it cuts the tail off.
* `findFrom_of_spells` — a traversal of a spelled list ends and is `List.find?`;
  `walkFrom_of_spells` — a walk over one is a fold.
-/

namespace Ztacx.CModel

universe u

/-- The `next` pointer of every object. -/
abbrev Links (α : Type u) := α → Option α

/-- The two pointers of a list. -/
structure Slist (α : Type u) where
  head : Option α
  tail : Option α
deriving DecidableEq, Repr

namespace Slist

variable {α : Type u}

/-- The empty list. -/
def init : Slist α := ⟨none, none⟩

/-- Clear the `next` pointer of `n`; hang `n` behind the tail, or make it the
whole list when there is no tail. -/
def append [DecidableEq α] (links : Links α) (l : Slist α) (n : α) : Links α × Slist α :=
  let links := Function.update links n none
  match l.tail with
  | none => (links, ⟨some n, some n⟩)
  | some t => (Function.update links t (some n), { l with tail := some n })

/-- Walk the list from `p` to the first node that satisfies `test`, making at
most `fuel` steps. -/
def findFrom (links : Links α) (test : α → Except Fault Bool) :
    ℕ → Option α → Except Fault (Option α)
  | 0, _ => .error .diverged
  | _ + 1, none => .ok none
  | fuel + 1, some n =>
      (test n).bind fun found =>
        if found then .ok (some n) else findFrom links test fuel (links n)

/-- Walk the list from `p` to its end, making at most `fuel` steps. -/
def walkFrom {σ : Type*} (links : Links α) (body : σ → α → Except Fault σ) :
    ℕ → σ → Option α → Except Fault σ
  | 0, _, _ => .error .diverged
  | _ + 1, s, none => .ok s
  | fuel + 1, s, some n => (body s n).bind fun s' => walkFrom links body fuel s' (links n)

/-- Following `next` from a pointer visits exactly these nodes, then null. -/
def Spells (links : Links α) : Option α → List α → Prop
  | p, [] => p = none
  | p, n :: ns => p = some n ∧ Spells links (links n) ns

/-- The list spells these nodes and its tail pointer is at the last of them. -/
structure Represents (links : Links α) (l : Slist α) (ns : List α) : Prop where
  spells : Spells links l.head ns
  tail : l.tail = ns.getLast?

/-! ## What a pointer spells -/

theorem represents_init (links : Links α) : Represents links init [] := ⟨rfl, rfl⟩

/-- A pointer spells at most one list. -/
theorem Spells.unique {links : Links α} {p : Option α} {ns ms : List α}
    (h : Spells links p ns) (h' : Spells links p ms) : ns = ms := by
  induction ns generalizing p ms with
  | nil =>
      cases ms with
      | nil => rfl
      | cons m ms => rw [show p = none from h] at h'; cases h'.1
  | cons n ns ih =>
      cases ms with
      | nil => rw [show p = none from h'] at h; cases h.1
      | cons m ms =>
          obtain ⟨rfl, rest⟩ := h
          obtain ⟨same, rest'⟩ := h'
          cases same
          rw [ih rest rest']

/-- What comes after a node on a spelled list is what its `next` spells. -/
theorem Spells.suffix {links : Links α} {p : Option α} {pre : List α} {n : α}
    {post : List α} (h : Spells links p (pre ++ n :: post)) : Spells links (links n) post := by
  induction pre generalizing p with
  | nil => exact h.2
  | cons m pre ih => exact ih h.2

/-- A finite spelling has no node twice: what follows a node is determined by
the node, so a repeated node would be followed by two lists of different
lengths. -/
theorem Spells.nodup {links : Links α} {p : Option α} {ns : List α}
    (h : Spells links p ns) : ns.Nodup := by
  induction ns generalizing p with
  | nil => exact List.nodup_nil
  | cons n ns ih =>
      refine List.nodup_cons.mpr ⟨fun mem => ?_, ih h.2⟩
      obtain ⟨pre, post, split⟩ := List.append_of_mem mem
      have rest : Spells links (links n) ns := h.2
      have again : Spells links (links n) post := by
        rw [split] at rest
        exact rest.suffix
      have := congrArg List.length (split.symm.trans (rest.unique again))
      simp at this
      omega

/-- Writing the `next` field of a node that is not on a spelled list does not
change what the list spells. -/
theorem Spells.update [DecidableEq α] {links : Links α} {p : Option α} {ns : List α}
    (h : Spells links p ns) {n : α} (notMem : n ∉ ns) (q : Option α) :
    Spells (Function.update links n q) p ns := by
  induction ns generalizing p with
  | nil => exact h
  | cons m ns ih =>
      rw [List.mem_cons, not_or] at notMem
      refine ⟨h.1, ?_⟩
      rw [Function.update_of_ne (Ne.symm notMem.1)]
      exact ih h.2 notMem.2

/-- What a pointer spells depends on the `next` fields of the nodes it spells. -/
theorem Spells.congr {links links' : Links α} {p : Option α} {ns : List α}
    (h : Spells links p ns) (agree : ∀ n ∈ ns, links' n = links n) : Spells links' p ns := by
  induction ns generalizing p with
  | nil => exact h
  | cons n ns ih =>
      refine ⟨h.1, ?_⟩
      rw [agree n List.mem_cons_self]
      exact ih h.2 fun m mem => agree m (List.mem_cons_of_mem n mem)

/-- A spelled list, extended by hanging a node behind its last one. -/
theorem Spells.concat [DecidableEq α] {links : Links α} {p : Option α} {pre : List α}
    {t n : α} (h : Spells links p (pre ++ [t])) (fresh : n ∉ pre ++ [t])
    (cleared : links n = none) :
    Spells (Function.update links t (some n)) p (pre ++ [t] ++ [n]) := by
  have notMem : t ∉ pre := by
    have nodup := h.nodup
    rw [List.nodup_append] at nodup
    exact fun mem => nodup.2.2 t mem t (List.mem_singleton_self t) rfl
  induction pre generalizing p with
  | nil =>
      have ne : n ≠ t := by simpa using fresh
      refine ⟨h.1, ?_, ?_⟩
      · rw [Function.update_self]
      · rw [Function.update_of_ne ne]
        exact cleared
  | cons m pre ih =>
      simp only [List.cons_append, List.mem_cons, not_or] at fresh notMem
      refine ⟨h.1, ?_⟩
      rw [Function.update_of_ne (Ne.symm notMem.1)]
      exact ih h.2 fresh.2 notMem.2

/-! ## Appending -/

/-- **Appending a new node** extends the list by it. -/
theorem Represents.append [DecidableEq α] {links : Links α} {l : Slist α} {ns : List α}
    (h : Represents links l ns) {n : α} (fresh : n ∉ ns) :
    Represents (Slist.append links l n).1 (Slist.append links l n).2 (ns ++ [n]) := by
  have cleared : Spells (Function.update links n none) l.head ns :=
    h.spells.update fresh none
  rcases List.eq_nil_or_concat' ns with rfl | ⟨pre, t, rfl⟩
  · have htail : l.tail = none := h.tail
    simp only [Slist.append, htail]
    exact ⟨⟨rfl, Function.update_self ..⟩, rfl⟩
  · have htail : l.tail = some t := by simpa using h.tail
    simp only [Slist.append, htail]
    exact ⟨cleared.concat fresh (Function.update_self ..), by simp⟩

/-- Another list over the same objects is not affected, when neither the node
nor the tail it is hung behind is on it. -/
theorem Represents.append_frame [DecidableEq α] {links : Links α} {l k : Slist α}
    {ns ms : List α} (h : Represents links l ns) (hk : Represents links k ms)
    {n : α} (fresh : n ∉ ms) (apart : ∀ t ∈ ns, t ∉ ms) :
    Represents (Slist.append links l n).1 k ms := by
  have cleared : Spells (Function.update links n none) k.head ms :=
    hk.spells.update fresh none
  rcases List.eq_nil_or_concat' ns with rfl | ⟨pre, t, rfl⟩
  · have htail : l.tail = none := h.tail
    simp only [Slist.append, htail]
    exact ⟨cleared, hk.tail⟩
  · have htail : l.tail = some t := by simpa using h.tail
    simp only [Slist.append, htail]
    exact ⟨cleared.update (apart t (by simp)) (some n), hk.tail⟩

/-- The pointers of a list in front of a node survive an append of that node. -/
private theorem Spells.append_split [DecidableEq α] {links : Links α} {p : Option α}
    {pre : List α} {n t : α} {post ms : List α}
    (h : Spells links p (pre ++ n :: post)) (ht : t ∈ n :: post)
    (h' : Spells (Function.update (Function.update links n none) t (some n)) p ms) :
    ∃ rest, ms = pre ++ n :: rest ∧
      Spells (Function.update (Function.update links n none) t (some n))
        (Function.update (Function.update links n none) t (some n) n) rest := by
  have nodup := h.nodup
  induction pre generalizing p ms with
  | nil =>
      obtain ⟨rfl, -⟩ := h
      cases ms with
      | nil => cases h'
      | cons m ms =>
          obtain ⟨same, rest⟩ := h'
          cases same
          exact ⟨ms, rfl, rest⟩
  | cons m pre ih =>
      obtain ⟨rfl, hrest⟩ := h
      cases ms with
      | nil => cases h'
      | cons m' ms =>
          obtain ⟨same, rest⟩ := h'
          cases same
          rw [List.cons_append, List.nodup_cons] at nodup
          have hn : m ≠ n := fun eq => nodup.1 (by simp [eq])
          have hm : m ≠ t := fun eq => nodup.1 (by rw [eq]; exact List.mem_append_right _ ht)
          rw [Function.update_of_ne hm, Function.update_of_ne hn] at rest
          obtain ⟨tailNodes, rfl, spelled⟩ := ih hrest rest nodup.2
          exact ⟨tailNodes, rfl, spelled⟩

/-- **Appending a node that is already on the list breaks it**: either the list
has become cyclic, or it has lost the node that used to be last. -/
theorem Represents.not_spells_append [DecidableEq α] {links : Links α} {l : Slist α}
    {ns : List α} (h : Represents links l ns) {n : α} (mem : n ∈ ns) :
    ¬ ∃ ms, Spells (Slist.append links l n).1 (Slist.append links l n).2.head ms ∧
      ∀ m ∈ ns, m ∈ ms := by
  rintro ⟨ms, spelled, all⟩
  obtain ⟨pre, post, rfl⟩ := List.append_of_mem mem
  obtain ⟨t, htail⟩ : ∃ t, (pre ++ n :: post).getLast? = some t :=
    Option.ne_none_iff_exists'.mp (by simp)
  have htl : l.tail = some t := h.tail.trans htail
  simp only [Slist.append, htl] at spelled
  have ht : t ∈ n :: post := by
    rw [List.getLast?_append_of_ne_nil _ (by simp)] at htail
    exact List.mem_of_getLast? htail
  -- the new links differ from the old ones at the node and at the tail only
  obtain ⟨rest, rfl, after⟩ := h.spells.append_split ht spelled
  by_cases same : t = n
  · -- the node was the tail: it is now its own successor
    subst same
    rw [Function.update_self] at after
    cases rest with
    | nil => cases after
    | cons m rest =>
        cases after.1
        have := spelled.nodup
        simp [List.nodup_append] at this
  · -- the node was in front of the tail: nothing follows it any more
    rw [Function.update_of_ne (Ne.symm same), Function.update_self] at after
    cases rest with
    | cons m rest => cases after.1
    | nil =>
        have nodup := h.spells.nodup
        have hpost : t ∈ post := (List.mem_cons.mp ht).resolve_left same
        rcases List.mem_append.mp (all t (List.mem_append_right _ ht)) with inPre | inEnd
        · rw [List.nodup_append] at nodup
          exact nodup.2.2 t inPre t ht rfl
        · exact same (List.mem_singleton.mp inEnd)

/-! ## Traversal -/

/-- A traversal of a spelled list ends, and finds what `List.find?` finds. -/
theorem findFrom_of_spells {links : Links α} {test : α → Except Fault Bool}
    {pred : α → Bool} {p : Option α} {ns : List α} (h : Spells links p ns)
    (total : ∀ n ∈ ns, test n = .ok (pred n)) {fuel : ℕ} (enough : ns.length < fuel) :
    findFrom links test fuel p = .ok (ns.find? pred) := by
  induction ns generalizing p fuel with
  | nil =>
      obtain ⟨k, rfl⟩ : ∃ k, fuel = k + 1 := ⟨fuel - 1, by omega⟩
      rw [show p = none from h]
      rfl
  | cons n ns ih =>
      obtain ⟨k, rfl⟩ : ∃ k, fuel = k + 1 := ⟨fuel - 1, by simp at enough; omega⟩
      obtain ⟨rfl, rest⟩ := h
      have here : test n = .ok (pred n) := total n List.mem_cons_self
      have later : findFrom links test k (links n) = .ok (ns.find? pred) :=
        ih rest (fun m mem => total m (List.mem_cons_of_mem n mem)) (by simpa using enough)
      rw [findFrom, here, List.find?_cons]
      cases pred n with
      | true => rfl
      | false => exact later

/-- A walk over a spelled list ends, and is a fold. -/
theorem walkFrom_of_spells {σ : Type*} {links : Links α} {body : σ → α → Except Fault σ}
    {f : σ → α → σ} {p : Option α} {ns : List α} (h : Spells links p ns)
    (total : ∀ s, ∀ n ∈ ns, body s n = .ok (f s n)) {fuel : ℕ} (enough : ns.length < fuel)
    (s : σ) : walkFrom links body fuel s p = .ok (ns.foldl f s) := by
  induction ns generalizing p fuel s with
  | nil =>
      obtain ⟨k, rfl⟩ : ∃ k, fuel = k + 1 := ⟨fuel - 1, by omega⟩
      rw [show p = none from h]
      rfl
  | cons n ns ih =>
      obtain ⟨k, rfl⟩ : ∃ k, fuel = k + 1 := ⟨fuel - 1, by simp at enough; omega⟩
      obtain ⟨rfl, rest⟩ := h
      rw [walkFrom, total s n List.mem_cons_self]
      exact ih rest (fun s m mem => total s m (List.mem_cons_of_mem n mem))
        (by simpa using enough) (f s n)

/-- A traversal that does not find what it looks for on a self-loop never ends. -/
theorem findFrom_self_loop {links : Links α} {test : α → Except Fault Bool} {n : α}
    (loop : links n = some n) (fails : test n = .ok false) (fuel : ℕ) :
    findFrom links test fuel (some n) = .error .diverged := by
  induction fuel with
  | zero => rfl
  | succ fuel ih =>
      rw [findFrom, fails, loop]
      exact ih

end Slist

end Ztacx.CModel
