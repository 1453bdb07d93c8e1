import Mathlib.Data.List.Forall2
import Mathlib.Data.List.Sigma
import Ztacx.CModel.Memory

/-!
# Records read back into cells

Persistent state is usually kept as records under keys and read back one record
at a time, in an order that the storage chooses; the memory it is read into is a
list of *cells*, each of which answers to the key of its *tag*.  What a verification wants to
know of such a loop is what becomes of *one* cell, and there are two steps to
it:

* `foldlM_eq_ok_iff` — if every record acts on the cells one by one, so does the
  whole loop, and each cell can be followed on its own (`replay`);
* `replay_eq_loadCell` — if no key has two records, a cell ends up as the record
  under its key says, or as it was, whatever the order.

A cell that cannot be read stops the loop with a fault, and with it the rest.
That is why the first step is about loops that go through: which of two bad
cells the fault comes from does depend on the order.
-/

namespace Ztacx.CModel

universe u v w

variable {κ : Type u} {δ : Type v} {α : Type w}

/-- Relations that agree on the elements of the left list agree on the lists. -/
theorem forall₂_congr_left {R S : α → α → Prop} {xs ys : List α}
    (same : ∀ x ∈ xs, ∀ y, R x y ↔ S x y) : List.Forall₂ R xs ys ↔ List.Forall₂ S xs ys := by
  induction xs generalizing ys with
  | nil => rw [List.forall₂_nil_left_iff, List.forall₂_nil_left_iff]
  | cons x xs ih =>
      rw [List.forall₂_cons_left_iff, List.forall₂_cons_left_iff]
      refine exists₂_congr fun y ys' => and_congr (same x (List.mem_cons_self ..) y) ?_
      rw [ih fun x mem => same x (List.mem_cons_of_mem _ mem)]

/-- Related through something in between, element by element. -/
theorem forall₂_exists_iff {R S : α → α → Prop} {xs zs : List α} :
    List.Forall₂ (fun x z => ∃ y, R x y ∧ S y z) xs zs ↔
      ∃ ys, List.Forall₂ R xs ys ∧ List.Forall₂ S ys zs := by
  constructor
  · intro related
    induction related with
    | nil => exact ⟨[], .nil, .nil⟩
    | cons head _ ih =>
        obtain ⟨y, left, right⟩ := head
        obtain ⟨ys, lefts, rights⟩ := ih
        exact ⟨y :: ys, .cons left lefts, .cons right rights⟩
  · rintro ⟨ys, lefts, rights⟩
    induction lefts generalizing zs with
    | nil =>
        cases rights
        exact .nil
    | cons left _ ih =>
        cases rights with
        | cons right rights => exact .cons ⟨_, left, right⟩ (ih rights)

theorem exists_mem_of_forall₂ {β : Type*} {R : α → β → Prop} {xs : List α} {ys : List β}
    (related : List.Forall₂ R xs ys) {y : β} (mem : y ∈ ys) : ∃ x ∈ xs, R x y := by
  induction related with
  | nil => exact absurd mem List.not_mem_nil
  | cons head _ ih =>
      rcases List.mem_cons.mp mem with rfl | mem
      · exact ⟨_, List.mem_cons_self .., head⟩
      · obtain ⟨x, here, holds⟩ := ih mem
        exact ⟨x, List.mem_cons_of_mem _ here, holds⟩

/-- Lists with the same image. -/
theorem forall₂_image_eq_iff {β : Type*} {f : α → β} {xs ys : List α} :
    List.Forall₂ (fun x y => f x = f y) xs ys ↔ xs.map f = ys.map f := by
  rw [← List.forall₂_eq_eq_eq, List.forall₂_map_left_iff, List.forall₂_map_right_iff]

/-- Two lists, index by index. -/
theorem forall₂_iff_getElem? {R : α → α → Prop} {xs ys : List α} :
    List.Forall₂ R xs ys ↔
      xs.length = ys.length ∧
        ∀ (i : ℕ) x y, xs[i]? = some x → ys[i]? = some y → R x y := by
  rw [List.forall₂_iff_get]
  refine and_congr_right fun _ => ⟨fun related i x y hx hy => ?_, fun related i hx hy => ?_⟩
  · obtain ⟨left, rfl⟩ := List.getElem?_eq_some_iff.mp hx
    obtain ⟨right, rfl⟩ := List.getElem?_eq_some_iff.mp hy
    exact related i left right
  · exact related i _ _ (List.getElem?_eq_getElem hx) (List.getElem?_eq_getElem hy)

/-- An element has its partner at the same index. -/
theorem forall₂_getElem? {β : Type*} {R : α → β → Prop} {xs : List α} {ys : List β}
    (related : List.Forall₂ R xs ys) {i : ℕ} {y : β} (here : ys[i]? = some y) :
    ∃ x, xs[i]? = some x ∧ R x y := by
  induction related generalizing i with
  | nil => cases here
  | cons head _ ih =>
      cases i with
      | zero =>
          cases here
          exact ⟨_, rfl, head⟩
      | succ i => exact ih here

/-- An element is replaced by another partner. -/
theorem forall₂_set {β : Type*} {R : α → β → Prop} {xs : List α} {ys : List β}
    (related : List.Forall₂ R xs ys) {i : ℕ} {x : α} (here : xs[i]? = some x) {y : β}
    (new : R x y) : List.Forall₂ R xs (ys.set i y) := by
  induction related generalizing i with
  | nil => cases here
  | cons head tail ih =>
      cases i with
      | zero =>
          cases here
          exact .cons new tail
      | succ i => exact .cons head (ih here)

variable [DecidableEq κ]

/-! ## One cell -/

/-- A record, seen by the cell of a key. -/
def touch (key : κ) (decode : α → δ → Except Fault α) (cell : α) (record : Σ _ : κ, δ) :
    Except Fault α :=
  if record.1 = key then decode cell record.2 else .ok cell

/-- All records, one after another, seen by the cell of a key. -/
def replay (key : κ) (decode : α → δ → Except Fault α) (cell : α)
    (records : List (Σ _ : κ, δ)) : Except Fault α :=
  records.foldlM (touch key decode) cell

/-- The cell after the one record under its key, if there is one. -/
def loadCell (decode : α → δ → Except Fault α) (cell : α) : Option δ → Except Fault α
  | none => .ok cell
  | some data => decode cell data

section Cell

variable {key : κ} {decode : α → δ → Except Fault α} {cell : α}

theorem replay_nil : replay key decode cell [] = .ok cell := rfl

theorem replay_cons (record : Σ _ : κ, δ) (records : List (Σ _ : κ, δ)) :
    replay key decode cell (record :: records) =
      (touch key decode cell record).bind fun cell => replay key decode cell records := rfl

theorem replay_of_notMem {records : List (Σ _ : κ, δ)} (absent : key ∉ records.keys) :
    replay key decode cell records = .ok cell := by
  induction records with
  | nil => rfl
  | cons record records ih =>
      rw [List.keys_cons, List.mem_cons, not_or] at absent
      have skipped : touch key decode cell record = .ok cell := if_neg (Ne.symm absent.1)
      rw [replay_cons, skipped]
      exact ih absent.2

/-- **The order of the records does not matter** to a cell. -/
theorem replay_eq_loadCell {records : List (Σ _ : κ, δ)} (nodup : records.NodupKeys) :
    replay key decode cell records = loadCell decode cell (records.dlookup key) := by
  induction records with
  | nil => rfl
  | cons record records ih =>
      obtain ⟨here, data⟩ := record
      rw [List.nodupKeys_cons] at nodup
      rw [replay_cons]
      by_cases mine : here = key
      · subst mine
        have decoded : touch here decode cell ⟨here, data⟩ = decode cell data := if_pos rfl
        rw [decoded, List.dlookup_cons_eq]
        show (decode cell data).bind _ = decode cell data
        cases decode cell data with
        | error fault => rfl
        | ok cell' => exact replay_of_notMem nodup.1
      · have skipped : touch key decode cell ⟨here, data⟩ = .ok cell := if_neg mine
        rw [skipped, List.dlookup_cons_ne _ _ (Ne.symm mine)]
        exact ih nodup.2

end Cell

/-! ## All cells -/

section Cells

variable {τ : Type w} {tag : α → τ} {key : τ → κ} {decode : α → δ → Except Fault α}

theorem touch_tag
    (keeps : ∀ {cell data cell'}, decode cell data = .ok cell' → tag cell' = tag cell)
    {a b : α} {record : Σ _ : κ, δ} (ok : touch (key (tag a)) decode a record = .ok b) :
    tag b = tag a := by
  unfold touch at ok
  split at ok
  · exact keeps ok
  · cases ok
    rfl

/-- One record leaves the tags of all cells alone. -/
theorem map_tag_of_touched
    (keeps : ∀ {cell data cell'}, decode cell data = .ok cell' → tag cell' = tag cell)
    {record : Σ _ : κ, δ} {cells mid : List α}
    (related : List.Forall₂ (fun a b => touch (key (tag a)) decode a record = .ok b) cells mid) :
    mid.map tag = cells.map tag := by
  induction related with
  | nil => rfl
  | cons head _ ih => rw [List.map_cons, List.map_cons, touch_tag keeps head, ih]

/-- The first record, and then the others. -/
theorem forall₂_replay_cons_iff
    (keeps : ∀ {cell data cell'}, decode cell data = .ok cell' → tag cell' = tag cell)
    {record : Σ _ : κ, δ} {records : List (Σ _ : κ, δ)} {cells cells' : List α} :
    List.Forall₂ (fun a b => replay (key (tag a)) decode a (record :: records) = .ok b)
        cells cells' ↔
      ∃ mid, List.Forall₂ (fun a b => touch (key (tag a)) decode a record = .ok b) cells mid ∧
        List.Forall₂ (fun b c => replay (key (tag b)) decode b records = .ok c) mid cells' := by
  rw [← forall₂_exists_iff]
  refine forall₂_congr_left fun a _ c => ?_
  rw [replay_cons, bind_eq_ok_iff]
  refine exists_congr fun b => and_congr_right fun ok => ?_
  rw [touch_tag keeps ok]

/-- **A loop over the records is a loop for each cell.**  `step` reads one
record into the list of cells; it is enough that it does so cell by cell as long
as the list has the tags it started with. -/
theorem foldlM_eq_ok_iff
    (keeps : ∀ {cell data cell'}, decode cell data = .ok cell' → tag cell' = tag cell)
    {step : List α → (Σ _ : κ, δ) → Except Fault (List α)} {tags : List τ}
    {records : List (Σ _ : κ, δ)}
    (pointwise : ∀ cells, cells.map tag = tags → ∀ record ∈ records, ∀ cells',
      step cells record = .ok cells' ↔
        List.Forall₂ (fun a b => touch (key (tag a)) decode a record = .ok b) cells cells')
    {cells cells' : List α} (htags : cells.map tag = tags) :
    records.foldlM step cells = .ok cells' ↔
      List.Forall₂ (fun a b => replay (key (tag a)) decode a records = .ok b)
        cells cells' := by
  induction records generalizing cells with
  | nil =>
      have same : List.Forall₂ (fun a b => replay (key (tag a)) decode a [] = .ok b)
          cells cells' ↔ List.Forall₂ (· = ·) cells cells' := by
        simp only [replay_nil, Except.ok.injEq]
      rw [same, List.forall₂_eq_eq_eq]
      show Except.ok cells = .ok cells' ↔ _
      rw [Except.ok.injEq]
  | cons record records ih =>
      have first := pointwise cells htags record (List.mem_cons_self ..)
      -- the tags survive the first record, so the rest is the induction hypothesis
      have rest : ∀ {mid}, List.Forall₂ (fun a b =>
          touch (key (tag a)) decode a record = .ok b) cells mid →
          (records.foldlM step mid = .ok cells' ↔
            List.Forall₂ (fun a b => replay (key (tag a)) decode a records = .ok b)
              mid cells') := fun related =>
        ih (fun cells h r hr => pointwise cells h r (List.mem_cons_of_mem _ hr))
          ((map_tag_of_touched keeps related).trans htags)
      rw [forall₂_replay_cons_iff keeps, List.foldlM_cons]
      show (step cells record).bind _ = _ ↔ _
      rw [bind_eq_ok_iff]
      constructor
      · rintro ⟨mid, ok, later⟩
        exact ⟨mid, (first mid).mp ok, (rest ((first mid).mp ok)).mp later⟩
      · rintro ⟨mid, related, later⟩
        exact ⟨mid, (first mid).mpr related, (rest related).mpr later⟩

end Cells

end Ztacx.CModel
