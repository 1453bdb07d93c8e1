import Mathlib.Data.List.TakeWhile

/-!
# Byte objects, C strings and faults

The piece of C's memory model that a firmware verification needs when it does
not want to commit to addresses: an *object* is the list of its bytes, a *fault*
is anything after which the C abstract machine promises nothing, and a *C
string* is a byte list without a NUL.

* `Fault` — the undefined operations (and the loop that never ends) a function
  can run into.  A modelled function returns `Except Fault α`, so "does not go
  wrong" is the statement that its result is `.ok`.
* `splice`, `memcpyInto` — copying bytes into an object at an offset; the copy
  faults exactly when it would leave the object.
* `CString`, `readCString` — the text seen through a `char *`: the bytes up to
  the first NUL of the object it points into.

Nothing here mentions a particular program.
-/

namespace Ztacx.CModel

/-- What can go wrong beyond an error code. -/
inductive Fault
  | nullDeref
  | outOfBounds
  | invalidFree
  | readOnlyWrite
  | diverged
deriving DecidableEq, Repr

/-- A function that goes through, seen from a step relation. -/
theorem toOption_eq_some_iff {α : Type*} {x : Except Fault α} {a : α} :
    x.toOption = some a ↔ x = .ok a := by
  cases x <;> simp [Except.toOption]

/-- What a sequence of two computations that goes through did. -/
theorem bind_eq_ok_iff {α β : Type*} {x : Except Fault α} {f : α → Except Fault β} {b : β} :
    x.bind f = .ok b ↔ ∃ a, x = .ok a ∧ f a = .ok b := by
  cases x <;> simp [Except.bind]

theorem map_eq_ok_iff {α β : Type*} {x : Except Fault α} {f : α → β} {b : β} :
    x.map f = .ok b ↔ ∃ a, x = .ok a ∧ f a = b := by
  cases x <;> simp [Except.map]

/-- Nothing comes of a fault. -/
theorem not_exists_error_eq_ok {α : Type*} (fault : Fault) :
    ¬ ∃ a, (.error fault : Except Fault α) = .ok a := by
  rintro ⟨a, same⟩
  cases same

/-! ## Copies into an object -/

/-- `dst` with the bytes from offset `off` on replaced by `src`. -/
def splice (dst : List UInt8) (off : ℕ) (src : List UInt8) : List UInt8 :=
  dst.take off ++ src ++ dst.drop (off + src.length)

/-- `memcpy(dst + off, src, n)`, where `src` is the list of the `n` bytes. -/
def memcpyInto (dst : List UInt8) (off : ℕ) (src : List UInt8) :
    Except Fault (List UInt8) :=
  if off + src.length ≤ dst.length then .ok (splice dst off src) else .error .outOfBounds

theorem length_splice {dst src : List UInt8} {off : ℕ}
    (fits : off + src.length ≤ dst.length) :
    (splice dst off src).length = dst.length := by
  simp only [splice, List.length_append, List.length_take, List.length_drop]
  omega

/-- A copy to the front of an object. -/
theorem splice_zero (dst src : List UInt8) :
    splice dst 0 src = src ++ dst.drop src.length := by
  simp [splice]

/-- What is behind a copy to the front stays. -/
theorem getElem?_splice_zero {dst src : List UInt8} {i : ℕ} (behind : src.length ≤ i) :
    (splice dst 0 src)[i]? = dst[i]? := by
  rw [splice_zero, List.getElem?_append_right behind, List.getElem?_drop,
    Nat.add_sub_cancel' behind]

/-- A copy behind a known front. -/
theorem splice_append_left (front back src : List UInt8) :
    splice (front ++ back) front.length src = front ++ (src ++ back.drop src.length) := by
  rw [splice, List.take_left, List.append_assoc, List.drop_append,
    List.drop_eq_nil_of_le (by omega)]
  simp

@[simp] theorem splice_nil (dst : List UInt8) (off : ℕ) : splice dst off [] = dst := by
  simp [splice]

theorem memcpyInto_of_le {dst src : List UInt8} {off : ℕ}
    (fits : off + src.length ≤ dst.length) :
    memcpyInto dst off src = .ok (splice dst off src) := if_pos fits

theorem memcpyInto_of_lt {dst src : List UInt8} {off : ℕ}
    (beyond : dst.length < off + src.length) :
    memcpyInto dst off src = .error .outOfBounds := if_neg (by omega)

/-! ## C strings -/

/-- The text behind a `char *`: bytes, none of which is NUL. -/
@[ext] structure CString where
  bytes : List UInt8
  nul_free : 0 ∉ bytes
deriving DecidableEq, Repr

namespace CString

/-- The text at the start of an object, up to the first NUL. -/
def ofBytes (object : List UInt8) : CString where
  bytes := object.takeWhile (· ≠ 0)
  nul_free := fun mem => by simpa using List.mem_takeWhile_imp mem

/-- The empty text. -/
def empty : CString := ⟨[], List.not_mem_nil⟩

/-- A string literal. -/
def ofString (literal : String) : CString :=
  ofBytes (literal.toList.map fun c => UInt8.ofNat c.toNat)

/-- The text followed by its terminator, as it lies in memory. -/
def stored (s : CString) : List UInt8 := s.bytes ++ [0]

def strlen (s : CString) : ℕ := s.bytes.length

def append (s t : CString) : CString where
  bytes := s.bytes ++ t.bytes
  nul_free := by simpa using ⟨s.nul_free, t.nul_free⟩

/-- The first `n` characters. -/
def take (s : CString) (n : ℕ) : CString where
  bytes := s.bytes.take n
  nul_free := fun mem => s.nul_free (List.mem_of_mem_take mem)

/-- The text without its first `n` characters. -/
def drop (s : CString) (n : ℕ) : CString where
  bytes := s.bytes.drop n
  nul_free := fun mem => s.nul_free (List.mem_of_mem_drop mem)

@[simp] theorem append_bytes (s t : CString) : (s.append t).bytes = s.bytes ++ t.bytes := rfl

@[simp] theorem take_bytes (s : CString) (n : ℕ) : (s.take n).bytes = s.bytes.take n := rfl

@[simp] theorem drop_bytes (s : CString) (n : ℕ) : (s.drop n).bytes = s.bytes.drop n := rfl

theorem append_right_inj (s : CString) {t u : CString} :
    s.append t = s.append u ↔ t = u := by
  simp [CString.ext_iff]

/-- Reading past a text and its terminator gives the text back. -/
@[simp] theorem ofBytes_append_nul (s : CString) (rest : List UInt8) :
    ofBytes (s.bytes ++ 0 :: rest) = s := by
  have keep : ∀ b ∈ s.bytes, (decide (b ≠ 0)) = true := by
    intro b mem
    have : b ≠ 0 := fun zero => s.nul_free (zero ▸ mem)
    simpa using this
  apply CString.ext
  change (s.bytes ++ 0 :: rest).takeWhile (fun b => decide (b ≠ 0)) = s.bytes
  rw [List.takeWhile_append_of_pos keep]
  simp

@[simp] theorem ofBytes_stored (s : CString) : ofBytes s.stored = s :=
  s.ofBytes_append_nul []

/-- A text that fills its object is the object. -/
@[simp] theorem ofBytes_bytes (s : CString) : ofBytes s.bytes = s := by
  apply CString.ext
  refine List.takeWhile_eq_self_iff.mpr fun b mem => ?_
  have : b ≠ 0 := fun zero => s.nul_free (zero ▸ mem)
  simpa using this

/-- A NUL behind an object adds nothing to the text in it. -/
@[simp] theorem ofBytes_append_zero (object : List UInt8) :
    ofBytes (object ++ [0]) = ofBytes object := by
  apply CString.ext
  show (object ++ [0]).takeWhile _ = object.takeWhile _
  rw [List.takeWhile_append]
  split
  · rename_i whole
    rw [(List.takeWhile_prefix _).eq_of_length whole]
    simp
  · rfl

theorem strlen_ofBytes_le (object : List UInt8) : (ofBytes object).strlen ≤ object.length :=
  (List.takeWhile_prefix _).length_le

/-- A text with its terminator fits its object. -/
theorem strlen_ofBytes_lt {object : List UInt8} (terminated : 0 ∈ object) :
    (ofBytes object).strlen < object.length := by
  have front : (ofBytes object).bytes <+: object := List.takeWhile_prefix _
  refine lt_of_le_of_ne front.length_le fun same => ?_
  have whole := front.eq_of_length same
  exact (ofBytes object).nul_free (whole.symm ▸ terminated)

/-- A character found in a text is in the object. -/
theorem getElem?_of_idxOf? {object : List UInt8} {c : UInt8} {i : ℕ}
    (found : (ofBytes object).bytes.idxOf? c = some i) : object[i]? = some c := by
  have front : (ofBytes object).bytes <+: object := List.takeWhile_prefix _
  obtain ⟨inside, same, -⟩ := List.idxOf?_eq_some_iff.mp found
  rw [List.getElem?_eq_getElem (inside.trans_le front.length_le), ← front.getElem inside, same]

/-- Two objects of one size hold the same text if they agree up to the end of it. -/
theorem ofBytes_eq_iff {xs ys : List UInt8} (same : xs.length = ys.length) :
    ofBytes xs = ofBytes ys ↔ ∀ i, i ≤ (ofBytes ys).strlen → xs[i]? = ys[i]? := by
  rw [CString.ext_iff]
  show xs.takeWhile _ = ys.takeWhile _ ↔ ∀ i, i ≤ (ys.takeWhile _).length → _
  induction ys generalizing xs with
  | nil =>
      cases List.length_eq_zero_iff.mp same
      simp
  | cons y ys ih =>
      obtain ⟨x, xs, rfl⟩ := List.exists_cons_of_length_eq_add_one same
      by_cases nul : y = 0
      · by_cases nul' : x = 0
        · simp [nul, nul']
        · simp [nul, nul']
      · have ih := ih (Nat.succ.inj same)
        have kept : (y :: ys).takeWhile (· ≠ 0) = y :: ys.takeWhile (· ≠ 0) :=
          List.takeWhile_cons_of_pos (by simpa using nul)
        have tail : (∀ i, i ≤ ((y :: ys).takeWhile (· ≠ 0)).length →
            (x :: xs)[i]? = (y :: ys)[i]?) ↔
              x = y ∧ ∀ i, i ≤ (ys.takeWhile (· ≠ 0)).length → xs[i]? = ys[i]? := by
          rw [kept, List.length_cons]
          constructor
          · intro all
            exact ⟨by simpa using all 0 (Nat.zero_le _), fun i le => by
              simpa using all (i + 1) (Nat.succ_le_succ le)⟩
          · rintro ⟨rfl, all⟩ i le
            cases i with
            | zero => rfl
            | succ i => simpa using all i (Nat.le_of_succ_le_succ le)
        rw [tail, ← ih, kept]
        by_cases nul' : x = 0
        · have ends : (x :: xs).takeWhile (· ≠ 0) = [] :=
            List.takeWhile_cons_of_neg (by simpa using nul')
          rw [ends]
          exact iff_of_false (by simp) fun both => nul (both.1 ▸ nul')
        · have kept' : (x :: xs).takeWhile (· ≠ 0) = x :: xs.takeWhile (· ≠ 0) :=
            List.takeWhile_cons_of_pos (by simpa using nul')
          rw [kept', List.cons.injEq]

/-- The text at the front of an object of `n` bytes that is zero behind it. -/
def padded (s : CString) (n : ℕ) : List UInt8 := s.bytes ++ List.replicate (n - s.strlen) 0

theorem length_padded {s : CString} {n : ℕ} (fits : s.strlen ≤ n) : (s.padded n).length = n := by
  rw [padded, List.length_append, List.length_replicate]
  exact Nat.add_sub_of_le fits

@[simp] theorem ofBytes_padded (s : CString) (n : ℕ) : ofBytes (s.padded n) = s := by
  unfold padded
  cases n - s.strlen with
  | zero => rw [List.replicate_zero, List.append_nil, ofBytes_bytes]
  | succ m => rw [List.replicate_succ, ofBytes_append_nul]

/-- Up to the terminator it is the text as it is stored. -/
theorem getElem?_padded {s : CString} {n i : ℕ} (upTo : i ≤ s.strlen) (inside : i < n) :
    (s.padded n)[i]? = s.stored[i]? := by
  show (s.bytes ++ _)[i]? = (s.bytes ++ [0])[i]?
  by_cases low : i < s.bytes.length
  · rw [List.getElem?_append_left low, List.getElem?_append_left low]
  · have last : i = s.bytes.length := Nat.le_antisymm upTo (by omega)
    rw [List.getElem?_append_right (by omega), List.getElem?_append_right (by omega), last,
      Nat.sub_self, List.getElem?_replicate, if_pos (by unfold CString.strlen; omega)]
    rfl

end CString

/-- Where `strchr` finds a character. -/
theorem idxOf?_append_cons {α : Type*} [BEq α] [LawfulBEq α] {a : α} {front : List α}
    (absent : a ∉ front) (back : List α) : (front ++ a :: back).idxOf? a = some front.length := by
  induction front with
  | nil => simp [List.idxOf?_cons]
  | cons b front ih =>
      obtain ⟨other, absent⟩ := List.ne_and_not_mem_of_not_mem_cons absent
      rw [List.cons_append, List.idxOf?_cons, ih absent]
      simp [other.symm]

/-- The text a `char *` to the start of an object points at.  An object without
a NUL is read past its end. -/
def readCString (object : List UInt8) : Except Fault CString :=
  if 0 ∈ object then .ok (CString.ofBytes object) else .error .outOfBounds

@[simp] theorem readCString_stored (s : CString) : readCString s.stored = .ok s := by
  rw [readCString, if_pos (by simp [CString.stored]), CString.ofBytes_stored]

/-- `strchr(object, c)` as an offset, for `c` other than NUL.  The search ends at
the first NUL. -/
def strchrOffset (object : List UInt8) (c : UInt8) : Except Fault (Option ℕ) :=
  match (CString.ofBytes object).bytes.idxOf? c with
  | some i => .ok (some i)
  | none => if 0 ∈ object then .ok none else .error .outOfBounds

/-- `snprintf(object + off, size, …)` where the format spells `text`.  The result
is the length of the whole text, however much of it was written. -/
def snprintfInto (object : List UInt8) (off size : ℕ) (text : CString) :
    Except Fault (List UInt8 × ℕ) :=
  if size = 0 then .ok (object, text.strlen)
  else (memcpyInto object off (text.take (size - 1)).stored).map fun object =>
    (object, text.strlen)

theorem snprintfInto_of_lt {object : List UInt8} {off size : ℕ} {text : CString}
    (inside : off + size ≤ object.length) (whole : text.strlen < size) :
    snprintfInto object off size text = .ok (splice object off text.stored, text.strlen) := by
  have untouched : text.take (size - 1) = text :=
    CString.ext (List.take_of_length_le (Nat.le_sub_one_of_lt whole))
  have fits : off + text.stored.length ≤ object.length := by
    have stored : text.stored.length = text.strlen + 1 := List.length_append
    omega
  rw [snprintfInto, if_neg (by omega), untouched, memcpyInto_of_le fits]
  rfl

end Ztacx.CModel
