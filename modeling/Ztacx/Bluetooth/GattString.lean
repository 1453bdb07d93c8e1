import Ztacx.Bluetooth.Gatt

/-!
# Writing part of a string over GATT

The STRING arm of `bt_write_variable`.  The payload is written into the
variable's own block, `realloc` having made the block longer if it is too short,
and the text found there is then copied into a fresh block by the setter.

The write goes through `strncpy`, which pads with NUL up to its count, and the
count is that of a buffer of `STRING_CHAR_MAX + 1` bytes.  The block is rarely
that large: it has room for the old text and its terminator, or exactly
`offset + len` bytes.  So an accepted write stays inside its block only if the
old text already fills `STRING_CHAR_MAX` characters (`btWriteVariable_block`), and
that is the extent to which the arm does what it is for
(`btWriteVariable_writesString_iff`).
-/

namespace Ztacx

open CModel

/-- **A write of part of a string.**  A payload that ends within the limit
replaces the text from the offset on; any other is refused. -/
def WritesString (atoi : CString → BitVec 32) (alloc reallocs : Bool) (v : ZtacxVariable)
    (payload : CString) (offset : ℕ) (s : CString) : Prop :=
  if offset + payload.strlen ≤ STRING_CHAR_MAX then
    ∃ w, btWriteVariable atoi alloc reallocs v payload.bytes offset =
        .ok (w, (payload.strlen : ℤ)) ∧
      w.v.typedValue = .text (some ((s.take offset).append payload))
  else
    ∃ w rc, btWriteVariable atoi alloc reallocs v payload.bytes offset = .ok (w, rc) ∧ rc < 0 ∧
      w.v.typedValue = .text (some s)

section Block

variable {atoi : CString → BitVec 32} {alloc reallocs : Bool} {v : ZtacxVariable}
  {payload : List UInt8} {offset : ℕ} {s : CString}

theorem btWriteVariable_string_refused (kind : v.kind = .string)
    (beyond : STRING_CHAR_MAX < offset + payload.length) :
    btWriteVariable atoi alloc reallocs v payload offset =
      .ok (⟨v, []⟩, BT_GATT_ERR BT_ATT_ERR_INVALID_OFFSET) := by
  unfold btWriteVariable
  rw [kind]
  exact if_pos (.inr beyond)

/-- What `strncpy` writes: the payload up to its NUL, and NULs up to the end of a
buffer of `STRING_CHAR_MAX + 1` bytes. -/
def strncpyBytes (payload : List UInt8) (offset : ℕ) : List UInt8 :=
  let text := (CString.ofBytes payload).bytes
  text ++ List.replicate (STRING_CHAR_MAX - offset + 1 - text.length) 0

theorem length_strncpyBytes (fits : offset + payload.length ≤ STRING_CHAR_MAX) :
    offset + (strncpyBytes payload offset).length = STRING_CHAR_MAX + 1 := by
  have : (CString.ofBytes payload).bytes.length ≤ payload.length :=
    CString.strlen_ofBytes_le payload
  rw [strncpyBytes, List.length_append, List.length_replicate]
  omega

/-- The text in a block after `strncpy` wrote inside it. -/
theorem readCString_splice_strncpy (inside : offset ≤ s.strlen)
    (fits : offset + payload.length ≤ STRING_CHAR_MAX) :
    readCString (splice s.stored offset (strncpyBytes payload offset)) =
      .ok ((s.take offset).append (CString.ofBytes payload)) := by
  have short : (CString.ofBytes payload).bytes.length ≤ payload.length :=
    CString.strlen_ofBytes_le payload
  obtain ⟨n, pad⟩ : ∃ n, STRING_CHAR_MAX - offset + 1 - (CString.ofBytes payload).bytes.length =
      n + 1 := Nat.exists_eq_succ_of_ne_zero (by omega)
  have front : s.stored.take offset = (s.take offset).bytes :=
    List.take_append_of_le_length inside
  have object : splice s.stored offset (strncpyBytes payload offset) =
      ((s.take offset).append (CString.ofBytes payload)).bytes ++ 0 :: (List.replicate n 0 ++
        s.stored.drop (offset + (strncpyBytes payload offset).length)) := by
    unfold splice
    rw [front]
    unfold strncpyBytes
    dsimp only
    rw [pad, List.replicate_succ]
    simp
  rw [object, readCString, if_pos (by simp), CString.ofBytes_append_nul]

/-- An accepted write to a string that is not in a block goes wrong. -/
theorem btWriteVariable_noBlock (kind : v.kind = .string)
    (noBlock : ∀ s, v.value.valString ≠ .block s)
    (fits : offset + payload.length ≤ STRING_CHAR_MAX) :
    ∃ fault, btWriteVariable atoi alloc reallocs v payload offset = .error fault := by
  have accepted : ¬ (STRING_CHAR_MAX < payload.length ∨
      STRING_CHAR_MAX < offset + payload.length) := by omega
  unfold btWriteVariable
  rw [kind]
  dsimp only
  unfold stringArm
  rw [if_neg accepted]
  dsimp only
  cases h : v.value.valString with
  | null => exact ⟨_, rfl⟩
  | block s => exact absurd h (noBlock s)
  | literal s =>
      by_cases grows : s.strlen < offset + payload.length
      · exact ⟨.invalidFree, if_pos grows⟩
      · exact ⟨.readOnlyWrite, if_neg grows⟩

/-- **An accepted write to a block.**  It stays inside the block only if the old
text has at least `STRING_CHAR_MAX` characters, and then the block holds the new
text whether or not the setter finds memory for its copy. -/
theorem btWriteVariable_block (kind : v.kind = .string) (old : v.value.valString = .block s)
    (fits : offset + payload.length ≤ STRING_CHAR_MAX) :
    if STRING_CHAR_MAX ≤ s.strlen then
      btWriteVariable atoi alloc reallocs v payload offset =
        .ok (⟨v.withString (.block ((s.take offset).append (CString.ofBytes payload))),
          if alloc then v.onChange.toList else []⟩, (payload.length : ℤ))
    else ∃ fault, btWriteVariable atoi alloc reallocs v payload offset = .error fault := by
  have dispatch : btWriteVariable atoi alloc reallocs v payload offset =
      stringArm alloc payload offset atoi reallocs ⟨v, []⟩ := by
    unfold btWriteVariable
    rw [kind]
  have accepted : ¬ (STRING_CHAR_MAX < payload.length ∨
      STRING_CHAR_MAX < offset + payload.length) := by omega
  have width := length_strncpyBytes fits
  have size : s.stored.length = s.strlen + 1 := by simp [CString.stored, CString.strlen]
  rw [dispatch]
  unfold stringArm
  rw [if_neg accepted]
  dsimp only
  rw [old]
  dsimp only
  rw [show (CString.ofBytes payload).bytes ++ List.replicate
    (STRING_CHAR_MAX - offset + 1 - (CString.ofBytes payload).bytes.length) 0 =
      strncpyBytes payload offset from rfl]
  split
  · rename_i long
    have inPlace : ¬ s.strlen < offset + payload.length := by omega
    rw [if_neg inPlace, memcpyInto_of_le (by omega)]
    show (readCString _).bind _ = _
    rw [readCString_splice_strncpy (by omega) fits]
    show (GattWrite.set _ _).bind _ = _
    unfold GattWrite.set
    dsimp only
    rw [ztacxVariableValueSetString_text (by exact kind)]
    cases alloc with
    | false => rfl
    | true => rfl
  · rename_i short
    by_cases grows : s.strlen < offset + payload.length
    · rw [if_pos grows]
      cases reallocs with
      | false => exact ⟨_, rfl⟩
      | true =>
          -- the block has `offset + len` bytes now, one less than `strncpy` needs
          rw [if_pos rfl, memcpyInto_of_lt (by
            rw [List.length_append, List.length_take, List.length_replicate]
            omega)]
          exact ⟨_, rfl⟩
    · rw [if_neg grows, memcpyInto_of_lt (by omega)]
      exact ⟨_, rfl⟩

end Block

/-- **When `bt_write_variable` writes part of a string as it should**, for every
string of at most `STRING_CHAR_MAX` characters in a block of its own size, every
payload, every offset and every outcome of the allocations. -/
theorem btWriteVariable_writesString_iff {atoi : CString → BitVec 32} {alloc reallocs : Bool}
    {v : ZtacxVariable} {payload : CString} {offset : ℕ} {s : CString}
    (kind : v.kind = .string) (old : v.value.valString = .block s)
    (short : s.strlen ≤ STRING_CHAR_MAX) :
    WritesString atoi alloc reallocs v payload offset s ↔
      STRING_CHAR_MAX < offset + payload.strlen ∨ s.strlen = STRING_CHAR_MAX := by
  have nulFree : CString.ofBytes payload.bytes = payload := CString.ofBytes_bytes payload
  unfold WritesString
  by_cases fits : offset + payload.strlen ≤ STRING_CHAR_MAX
  · have write := @btWriteVariable_block atoi alloc reallocs v payload.bytes offset s kind old fits
    rw [if_pos fits]
    by_cases full : STRING_CHAR_MAX ≤ s.strlen
    · rw [if_pos full, nulFree] at write
      refine iff_of_true ⟨_, write, ?_⟩ (.inr (by omega))
      exact ZtacxVariable.typedValue_withString kind _
    · rw [if_neg full] at write
      obtain ⟨fault, faults⟩ := write
      refine iff_of_false ?_ (by omega)
      rintro ⟨w, ran, -⟩
      rw [faults] at ran
      cases ran
  · rw [if_neg fits]
    have beyond : STRING_CHAR_MAX < offset + payload.bytes.length := Nat.lt_of_not_le fits
    refine iff_of_true ?_ (.inl beyond)
    refine ⟨_, _, btWriteVariable_string_refused kind beyond, by decide, ?_⟩
    rw [ZtacxVariable.typedValue_of_string kind, old]
    rfl

/-! ### A full string and a short one -/

/-- A STRING variable that owns a block. -/
def blockVariable (text : String) : ZtacxVariable :=
  (zeroVariable .string).withString (.block (.ofString text))

/-- Twenty characters leave room for what `strncpy` pads. -/
theorem full_string_writesString :
    WritesString (fun _ => 0) true true (blockVariable "abcdefghijklmnopqrst") (.ofString "xyz") 4
      (.ofString "abcdefghijklmnopqrst") :=
  (btWriteVariable_writesString_iff rfl rfl (by decide)).mpr (.inr (by decide))

/-- Replacing the first character of a string of four leaves its block. -/
theorem short_string_not_writesString :
    ¬ WritesString (fun _ => 0) true true (blockVariable "node") (.ofString "m") 0
      (.ofString "node") := by
  rintro ⟨w, ran, -⟩
  have overruns : btWriteVariable (fun _ => 0) true true (blockVariable "node")
      (CString.ofString "m").bytes 0 = .error .outOfBounds := by decide
  rw [overruns] at ran
  cases ran

end Ztacx
