import Mathlib.Data.Finset.Insert
import Mathlib.Data.Finset.Erase
import Mathlib.Logic.Function.Basic
import Ztacx.CModel.Memory

/-!
# Heap blocks and their owners

`calloc`, `realloc` and `free` for a program that passes blocks around by their
addresses.  A pointer is null, the address of an object that is not on the heap
(`static`), or the address of a block; the heap is the finite set of the blocks
that are live, with what each of them holds.

What the allocator does is an input.  It *proposes* an address, and a proposal
that is null or names a live block counts as a failure (`Heap.fresh`).  So every
allocator is covered, whichever addresses it uses again.

`Owned` is the invariant of a family of pointers that each own what they point at:
the blocks among them are live, and no two of them are the same.  `free` and
`realloc` of an owned pointer cannot go wrong unless it is static, and
`Owned.replace` is the rule by which one owner's pointer is replaced.
-/

namespace Ztacx.CModel

/-- A pointer that may be freed if it is not static. -/
inductive HeapPtr (B α : Type*)
  | null
  | static (object : α)
  | block (b : B)
deriving DecidableEq

namespace HeapPtr

variable {B α : Type*}

/-- The object of a static pointer. -/
def static? : HeapPtr B α → Option α
  | .static object => some object
  | _ => none

/-- The block a pointer names. -/
def block? : HeapPtr B α → Option B
  | .block b => some b
  | _ => none

end HeapPtr

/-- The live blocks, and the contents of every block. -/
structure Heap (B α : Type*) where
  live : Finset B
  contents : B → α

namespace Heap

variable {B α : Type*} [DecidableEq B] (h : Heap B α)

/-- The block a proposal of the allocator leads to. -/
def fresh (proposal : Option B) : Option B := proposal.filter fun b => b ∉ h.live

/-- `calloc`, and what is stored in the block then. -/
def calloc (proposal : Option B) (object : α) : Heap B α × HeapPtr B α :=
  match h.fresh proposal with
  | none => (h, .null)
  | some b => (⟨insert b h.live, Function.update h.contents b object⟩, .block b)

/-- `free`. -/
def free : HeapPtr B α → Except Fault (Heap B α)
  | .null => .ok h
  | .static _ => .error .invalidFree
  | .block b =>
    if b ∈ h.live then .ok { h with live := h.live.erase b } else .error .invalidFree

/-- `realloc`: a block stays where it is, moves with its contents, or is kept while
null is returned.  A block for the null pointer holds what is there. -/
def realloc (p : HeapPtr B α) (proposal : Option B) : Except Fault (Heap B α × HeapPtr B α) :=
  match p with
  | .null =>
    match h.fresh proposal with
    | none => .ok (h, .null)
    | some b => .ok ({ h with live := insert b h.live }, .block b)
  | .static _ => .error .invalidFree
  | .block b =>
    if b ∈ h.live then
      if proposal = some b then .ok (h, .block b)
      else
        match h.fresh proposal with
        | none => .ok (h, .null)
        | some b' =>
          .ok (⟨insert b' (h.live.erase b), Function.update h.contents b' (h.contents b)⟩,
            .block b')
    else .error .invalidFree

/-- Reading the object behind a pointer. -/
def deref : HeapPtr B α → Except Fault α
  | .null => .error .nullDeref
  | .static object => .ok object
  | .block b => if b ∈ h.live then .ok (h.contents b) else .error .outOfBounds

/-- Writing the object behind a pointer.  What is not on the heap keeps its value. -/
def store (p : HeapPtr B α) (object : α) : Heap B α :=
  match p with
  | .block b => { h with contents := Function.update h.contents b object }
  | _ => h

variable {h} {p : HeapPtr B α} {proposal : Option B} {object : α} {b : B}

theorem fresh_eq_some_iff : h.fresh proposal = some b ↔ proposal = some b ∧ b ∉ h.live := by
  simp [fresh, Option.filter_eq_some_iff]

theorem fresh_notMem (got : h.fresh proposal = some b) : b ∉ h.live := (fresh_eq_some_iff.mp got).2

@[simp] theorem store_live : (h.store p object).live = h.live := by cases p <;> rfl

@[simp] theorem fresh_store : (h.store p object).fresh proposal = h.fresh proposal := by
  rw [fresh, store_live, fresh]

theorem calloc_of_fresh (got : h.fresh proposal = some b) :
    h.calloc proposal object =
      (⟨insert b h.live, Function.update h.contents b object⟩, .block b) := by
  rw [calloc, got]

theorem calloc_of_none (failed : h.fresh proposal = none) :
    h.calloc proposal object = (h, .null) := by
  rw [calloc, failed]

theorem realloc_inPlace (live : b ∈ h.live) :
    h.realloc (.block b) (some b) = .ok (h, .block b) := by
  rw [realloc, if_pos live, if_pos rfl]

theorem realloc_of_fresh {b' : B} (live : b ∈ h.live) (got : h.fresh proposal = some b') :
    h.realloc (.block b) proposal =
      .ok (⟨insert b' (h.live.erase b), Function.update h.contents b' (h.contents b)⟩,
        .block b') := by
  have moves : proposal ≠ some b := by
    rintro rfl
    exact (fresh_eq_some_iff.mp got).2 (Option.some.inj (fresh_eq_some_iff.mp got).1 ▸ live)
  rw [realloc, if_pos live, if_neg moves, got]

theorem realloc_of_none (live : b ∈ h.live) (moves : proposal ≠ some b)
    (failed : h.fresh proposal = none) : h.realloc (.block b) proposal = .ok (h, .null) := by
  rw [realloc, if_pos live, if_neg moves, failed]

end Heap

/-! ## Ownership -/

variable {ι B α : Type*}

/-- The pointers own the blocks they point at. -/
structure Owned (live : Finset B) (pointer : ι → HeapPtr B α) : Prop where
  live : ∀ {i b}, pointer i = .block b → b ∈ live
  unique : ∀ {i j b}, pointer i = .block b → pointer j = .block b → i = j

namespace Owned

variable {live live' : Finset B} {pointer : ι → HeapPtr B α} {i : ι}

/-- **Replacing one owner's pointer.**  The blocks of the others have to stay live,
and the new block must be live and belong to nobody else. -/
theorem replace (owned : Owned live pointer) {pointer' : ι → HeapPtr B α}
    (others : ∀ j, j ≠ i → pointer' j = pointer j)
    (kept : ∀ j b, j ≠ i → pointer j = .block b → b ∈ live')
    (here : ∀ b, pointer' i = .block b → b ∈ live' ∧ ∀ j, j ≠ i → pointer j ≠ .block b) :
    Owned live' pointer' := by
  constructor
  · intro j b points
    by_cases same : j = i
    · subst same
      exact (here b points).1
    · exact kept j b same (others j same ▸ points)
  · intro j k b first second
    by_cases hj : j = i
    · by_cases hk : k = i
      · rw [hj, hk]
      · subst hj
        rw [others k hk] at second
        exact absurd second ((here b first).2 k hk)
    · rw [others j hj] at first
      by_cases hk : k = i
      · subst hk
        exact absurd first ((here b second).2 j hj)
      · exact owned.unique first (others k hk ▸ second)

/-- A block that is not live belongs to nobody. -/
theorem ne_block (owned : Owned live pointer) {b : B} (dead : b ∉ live) (j : ι) :
    pointer j ≠ .block b := fun points => dead (owned.live points)

/-- The blocks of the others survive when one owner's block is freed. -/
theorem mem_erase [DecidableEq B] (owned : Owned live pointer) {b c : B} {j : ι} (other : j ≠ i)
    (here : pointer i = .block b) (there : pointer j = .block c) : c ∈ live.erase b := by
  refine Finset.mem_erase.mpr ⟨?_, owned.live there⟩
  rintro rfl
  exact other (owned.unique there here)

/-- Pointers at nothing, or outside the heap, own nothing. -/
theorem of_forall_ne (none : ∀ i b, pointer i ≠ .block b) : Owned live pointer where
  live points := absurd points (none _ _)
  unique points _ := absurd points (none _ _)

end Owned

end Ztacx.CModel
