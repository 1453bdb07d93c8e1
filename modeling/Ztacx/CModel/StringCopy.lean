import Ztacx.CModel.Memory

/-!
# Copying strings into arrays

`strcpy`, `strncat` and `strncpy` on an array of `n` bytes.  `HasText object n s` says
that the array holds the text `s` with its terminator; the lemmas say when an operation
keeps an array in that form, and that it goes wrong otherwise.

* A text written with its terminator, somewhere behind a text without NUL, gives the two
  texts in a row (`hasText_splice`).
* `strcpy` and `strncat` fault where the terminator would be the first byte behind the
  array (`strcpyInto_spec`, `strncatInto_spec`).
* `strncpy` never does, and there it leaves an array without a terminator
  (`strncpyInto_spec`).
-/

namespace Ztacx.CModel

/-- `strcpy(object, s)`. -/
def strcpyInto (object : List UInt8) (s : CString) : Except Fault (List UInt8) :=
  memcpyInto object 0 s.stored

/-- `strncat(object, s, count)`: at most `count` characters, and a terminator. -/
def strncatInto (object : List UInt8) (s : CString) (count : ℕ) : Except Fault (List UInt8) :=
  (readCString object).bind fun old => memcpyInto object old.strlen (s.take count).stored

/-- `strncpy(object, s, count)`: `count` bytes, which are NUL behind the text. -/
def strncpyInto (object : List UInt8) (s : CString) (count : ℕ) : Except Fault (List UInt8) :=
  memcpyInto object 0 ((s.padded count).take count)

/-- An array of `n` bytes holds a text. -/
structure HasText (object : List UInt8) (n : ℕ) (s : CString) : Prop where
  length_eq : object.length = n
  read : readCString object = .ok s

variable {object : List UInt8} {n off : ℕ} {s t : CString}

theorem hasText_padded (short : s.strlen < n) : HasText (s.padded n) n s where
  length_eq := CString.length_padded short.le
  read := by
    have terminated : 0 ∈ s.padded n := by
      refine List.mem_append_right _ (List.mem_replicate.mpr ⟨?_, rfl⟩)
      omega
    rw [readCString, if_pos terminated, CString.ofBytes_padded]

namespace HasText

theorem eq_ofBytes (h : HasText object n s) : s = CString.ofBytes object := by
  have read := h.read
  unfold readCString at read
  split at read
  · exact (Except.ok.inj read).symm
  · cases read

/-- The text is at the front of the array. -/
theorem take_strlen (h : HasText object n s) : object.take s.strlen = s.bytes := by
  have front : (CString.ofBytes object).bytes <+: object := List.takeWhile_prefix _
  rw [h.eq_ofBytes]
  exact (List.prefix_iff_eq_take.mp front).symm

end HasText

theorem CString.length_stored (s : CString) : s.stored.length = s.strlen + 1 :=
  List.length_append

/-- A text written behind another. -/
theorem hasText_splice (length_eq : object.length = n) (front : object.take t.strlen = t.bytes)
    (fits : t.strlen + s.strlen < n) :
    memcpyInto object t.strlen s.stored = .ok (splice object t.strlen s.stored) ∧
      HasText (splice object t.strlen s.stored) n (t.append s) := by
  have stored := s.length_stored
  have inside : t.strlen + s.stored.length ≤ object.length := by omega
  refine ⟨memcpyInto_of_le inside, (length_splice inside).trans length_eq, ?_⟩
  have whole : splice object t.strlen s.stored =
      (t.append s).bytes ++ 0 :: object.drop (t.strlen + s.stored.length) := by
    rw [splice, front, CString.stored, CString.append_bytes]
    simp
  rw [whole, readCString, if_pos (by simp), CString.ofBytes_append_nul]

/-- `strcpy` into an array. -/
theorem strcpyInto_spec (length_eq : object.length = n) (s : CString) :
    if s.strlen < n then ∃ object', strcpyInto object s = .ok object' ∧ HasText object' n s
    else strcpyInto object s = .error .outOfBounds := by
  have stored := s.length_stored
  split
  · obtain ⟨ran, has⟩ := hasText_splice (t := .empty) (s := s) length_eq rfl
      (by rw [CString.strlen, CString.empty, List.length_nil]; omega)
    exact ⟨_, ran, has⟩
  · exact memcpyInto_of_lt (by omega)

/-- `strncat` to a text in an array. -/
theorem strncatInto_spec (h : HasText object n t) (s : CString) (count : ℕ) :
    if t.strlen + (s.take count).strlen < n then
      ∃ object', strncatInto object s count = .ok object' ∧
        HasText object' n (t.append (s.take count))
    else strncatInto object s count = .error .outOfBounds := by
  have stored := (s.take count).length_stored
  have length_eq := h.length_eq
  rw [strncatInto, h.read]
  split
  · rename_i fits
    obtain ⟨ran, has⟩ := hasText_splice length_eq h.take_strlen fits
    exact ⟨_, ran, has⟩
  · exact memcpyInto_of_lt (by omega)

/-- `strncpy` with the size of the array as its count. -/
theorem strncpyInto_spec (length_eq : object.length = n) (s : CString) :
    ∃ object', strncpyInto object s n = .ok object' ∧
      if s.strlen < n then HasText object' n s else readCString object' = .error .outOfBounds := by
  have padded : ((s.padded n).take n).length = n := by
    rw [CString.padded, List.length_take, List.length_append, List.length_replicate]
    have : s.strlen = s.bytes.length := rfl
    omega
  have whole : splice object 0 ((s.padded n).take n) = (s.padded n).take n := by
    rw [splice_zero, padded, ← length_eq, List.drop_length, List.append_nil]
  refine ⟨_, memcpyInto_of_le (by omega), ?_⟩
  rw [whole]
  split
  · rename_i short
    rw [List.take_of_length_le (CString.length_padded short.le).le]
    exact hasText_padded short
  · rename_i long
    have cut : (s.padded n).take n = s.bytes.take n := by
      rw [CString.padded, List.take_append_of_le_length (not_lt.mp long)]
    rw [cut, readCString, if_neg fun mem => s.nul_free (List.mem_of_mem_take mem)]

end Ztacx.CModel
