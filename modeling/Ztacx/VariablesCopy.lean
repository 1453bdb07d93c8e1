import Mathlib.Data.List.Basic
import Ztacx.Value

/-!
# Copying a table of variables under a prefix

`ztacx_variables_copy` of `src/ztacx.c` gives a leaf its own copy of its class's
default variables.  It copies the whole table and then prefixes every name in
place: the name moves up by the length of the prefix and one, the prefix goes in
front of it and an underscore in between.

The name is therefore looked at as what it is in memory, an array of
`CONFIG_ZTACX_VALUE_NAME_MAX` bytes (`NameArray`), and a table entry as a
`VariableRecord`.  The move does not copy the terminator: the name that results
is terminated by the zeros that were behind the old name, when there are any
left (`prefixName_ofText`).

`joinName` is the name a prefixed entry is meant to have.  The prefix may
contain underscores itself; as long as the entry's own name contains none, the
joined name still tells both (`joinName_inj`).
-/

namespace Ztacx

open CModel

/-! ## Names in memory -/

/-- The array `name` of a `struct ztacx_variable`. -/
@[ext] structure NameArray where
  bytes : List UInt8
  bytes_length : bytes.length = CONFIG_ZTACX_VALUE_NAME_MAX
deriving DecidableEq, Repr

namespace NameArray

/-- The text in the array. -/
def text (name : NameArray) : CString := CString.ofBytes name.bytes

/-- The array an initialiser fills: the text, and zeros behind it. -/
def ofText (text : CString) : NameArray where
  bytes := (text.take CONFIG_ZTACX_VALUE_NAME_MAX).padded CONFIG_ZTACX_VALUE_NAME_MAX
  bytes_length := CString.length_padded (List.length_take_le _ _)

/-- Copy bytes into the array at an offset. -/
def write (name : NameArray) (off : ℕ) (src : List UInt8) : Except Fault NameArray :=
  if fits : off + src.length ≤ name.bytes.length then
    .ok ⟨splice name.bytes off src, by rw [length_splice fits, name.bytes_length]⟩
  else .error .outOfBounds

theorem write_of_le (name : NameArray) (off : ℕ) (src : List UInt8)
    (fits : off + src.length ≤ CONFIG_ZTACX_VALUE_NAME_MAX) :
    ∃ name', name.write off src = .ok name' ∧ name'.bytes = splice name.bytes off src := by
  rw [← name.bytes_length] at fits
  exact ⟨_, dif_pos fits, rfl⟩

theorem ofText_bytes {text : CString} (fits : text.strlen ≤ CONFIG_ZTACX_VALUE_NAME_MAX) :
    (ofText text).bytes = text.padded CONFIG_ZTACX_VALUE_NAME_MAX := by
  have whole : text.take CONFIG_ZTACX_VALUE_NAME_MAX = text :=
    CString.ext (List.take_of_length_le fits)
  show (text.take _).padded _ = _
  rw [whole]

theorem text_ofText {text : CString} (fits : text.strlen ≤ CONFIG_ZTACX_VALUE_NAME_MAX) :
    (ofText text).text = text := by
  rw [NameArray.text, ofText_bytes fits, CString.ofBytes_padded]

end NameArray

/-- `struct ztacx_variable` as it lies in a table, without the list node, which is
with the lists. -/
structure VariableRecord where
  name : NameArray
  kind : ZtacxValueKind
  value : ZtacxValue
  onChange : Option KWorkPtr
deriving DecidableEq, Repr

/-! ## Joined names -/

/-- `prefix_name`. -/
def joinName (pre own : CString) : CString where
  bytes := pre.bytes ++ 95 :: own.bytes
  nul_free := by simp [pre.nul_free, own.nul_free]

theorem strlen_joinName (pre own : CString) :
    (joinName pre own).strlen = pre.strlen + 1 + own.strlen := by
  simp only [joinName, CString.strlen, List.length_append, List.length_cons]
  omega

/-- What follows the last separator of a list, and what is in front of it. -/
theorem append_cons_inj {α : Type*} {x x' z z' : List α} {a : α} (plain : a ∉ z)
    (plain' : a ∉ z') (same : x ++ a :: z = x' ++ a :: z') : x = x' ∧ z = z' := by
  rcases List.append_eq_append_iff.mp same with ⟨mid, front, back⟩ | ⟨mid, front, back⟩
  · cases mid with
    | nil =>
        cases back
        exact ⟨by simpa using front.symm, rfl⟩
    | cons c mid =>
        obtain ⟨-, rfl⟩ := List.cons.inj back
        exact absurd (by simp) plain
  · cases mid with
    | nil =>
        cases back
        exact ⟨by simpa using front, rfl⟩
    | cons c mid =>
        obtain ⟨-, rfl⟩ := List.cons.inj back
        exact absurd (by simp) plain'

/-- A joined name splits at its last underscore, so it tells both parts. -/
theorem joinName_inj {pre pre' own own' : CString} (plain : 95 ∉ own.bytes)
    (plain' : 95 ∉ own'.bytes) (same : joinName pre own = joinName pre' own') :
    pre = pre' ∧ own = own' := by
  obtain ⟨front, back⟩ := append_cons_inj plain plain' (congrArg CString.bytes same)
  exact ⟨CString.ext front, CString.ext back⟩

/-! ## The copy -/

/-- One round of the loop of `ztacx_variables_copy`, on the entry's name. -/
def prefixName (pre : CString) (name : NameArray) : Except Fault NameArray :=
  (readCString name.bytes).bind fun own =>
    if own.strlen + pre.strlen ≥ CONFIG_ZTACX_VALUE_NAME_MAX then .ok name
    else
      -- the name without its terminator
      (name.write (pre.strlen + 1) (name.bytes.take own.strlen)).bind fun name =>
        (name.write 0 pre.bytes).bind fun name => name.write pre.strlen [95]

/-- What `ztacx_variables_copy` leaves in a destination that is not null. -/
def copiedTable (src : List VariableRecord) (count : ℕ) (pre : Option CString) :
    Except Fault (List VariableRecord) :=
  if count ≤ src.length then
    match pre with
    | none => .ok (src.take count)
    | some pre => (src.take count).mapM fun v =>
        (prefixName pre v.name).map fun name => { v with name := name }
  else .error .outOfBounds

/-- An entry under its joined name. -/
def VariableRecord.prefixed (pre : CString) (v : VariableRecord) : VariableRecord :=
  { v with name := .ofText (joinName pre v.name.text) }

/-- Moving a text up in its object, and putting another one and a separator in
front of it. -/
theorem splice_joined (a b : List UInt8) (sep : UInt8) {object : List UInt8}
    (room : a.length + 1 + b.length ≤ object.length) :
    splice (splice (splice object (a.length + 1) b) 0 a) a.length [sep] =
      a ++ sep :: b ++ object.drop (a.length + 1 + b.length) := by
  have moved : (splice object (a.length + 1) b).drop a.length =
      (object.drop a.length).take 1 ++ (b ++ object.drop (a.length + 1 + b.length)) := by
    rw [splice, List.append_assoc, List.drop_append_of_le_length (by simp; omega),
      List.drop_take, Nat.add_sub_cancel_left]
  have one : ((object.drop a.length).take 1).length = 1 := by
    rw [List.length_take, List.length_drop]
    omega
  rw [splice_zero, splice_append_left, moved,
    show [sep].length = ((object.drop a.length).take 1).length from one.symm, List.drop_left]
  simp

/-- An initialised name that is terminated reads as its text. -/
theorem readCString_ofText {own : CString} (short : own.strlen < CONFIG_ZTACX_VALUE_NAME_MAX) :
    readCString (NameArray.ofText own).bytes = .ok own := by
  have nul : 0 ∈ own.padded CONFIG_ZTACX_VALUE_NAME_MAX :=
    List.mem_append_right _ (List.mem_replicate.mpr ⟨by omega, rfl⟩)
  rw [NameArray.ofText_bytes short.le, readCString, if_pos nul, CString.ofBytes_padded]

/-- **Prefixing a name that fits** leaves the joined name and, if there is room left,
the zeros that were behind the old one. -/
theorem prefixName_ofText {pre own : CString}
    (fits : pre.strlen + 1 + own.strlen ≤ CONFIG_ZTACX_VALUE_NAME_MAX) :
    prefixName pre (.ofText own) = .ok (.ofText (joinName pre own)) := by
  have ownFits : own.strlen ≤ CONFIG_ZTACX_VALUE_NAME_MAX := by omega
  have joinedFits : (joinName pre own).strlen ≤ CONFIG_ZTACX_VALUE_NAME_MAX := by
    rw [strlen_joinName]
    omega
  have object := NameArray.ofText_bytes ownFits
  have length : (NameArray.ofText own).bytes.length = CONFIG_ZTACX_VALUE_NAME_MAX :=
    (NameArray.ofText own).bytes_length
  have short : own.strlen < CONFIG_ZTACX_VALUE_NAME_MAX := by omega
  have read := readCString_ofText short
  have front : (NameArray.ofText own).bytes.take own.strlen = own.bytes := by
    rw [object]
    exact List.take_left
  -- the three copies in their order: the name moves back, then prefix and underscore
  obtain ⟨moved, movedOk, movedBytes⟩ := NameArray.write_of_le
    (.ofText own) (pre.strlen + 1) own.bytes (by show pre.strlen + 1 + own.strlen ≤ _; omega)
  obtain ⟨headed, headedOk, headedBytes⟩ := NameArray.write_of_le
    moved 0 pre.bytes (by show 0 + pre.strlen ≤ _; omega)
  obtain ⟨joined, joinedOk, joinedBytes⟩ := NameArray.write_of_le
    headed pre.strlen [95] (by show pre.strlen + 1 ≤ _; omega)
  have result : joined = .ofText (joinName pre own) := by
    apply NameArray.ext
    rw [joinedBytes, headedBytes, movedBytes, NameArray.ofText_bytes joinedFits]
    refine (splice_joined pre.bytes own.bytes 95 ?_).trans ?_
    · rw [length]
      show pre.strlen + 1 + own.strlen ≤ _
      omega
    · have zeros : (own.padded CONFIG_ZTACX_VALUE_NAME_MAX).drop
          (pre.bytes.length + 1 + own.bytes.length) =
            List.replicate (CONFIG_ZTACX_VALUE_NAME_MAX - (joinName pre own).strlen) 0 := by
        have shift : pre.bytes.length + 1 + own.bytes.length =
            own.bytes.length + (pre.strlen + 1) := Nat.add_comm _ _
        rw [shift, CString.padded, List.drop_length_add_append, List.drop_replicate,
          strlen_joinName]
        congr 1
        omega
      rw [object, zeros]
      rfl
  unfold prefixName
  rw [read]
  show (if _ then _ else _) = _
  rw [if_neg (by omega), front, movedOk]
  show (moved.write 0 pre.bytes).bind _ = _
  rw [headedOk]
  show headed.write pre.strlen [95] = _
  rw [joinedOk, result]

/-- A name that would leave no room is not prefixed. -/
theorem prefixName_of_full {pre own : CString} (short : own.strlen < CONFIG_ZTACX_VALUE_NAME_MAX)
    (full : CONFIG_ZTACX_VALUE_NAME_MAX ≤ own.strlen + pre.strlen) :
    prefixName pre (.ofText own) = .ok (.ofText own) := by
  unfold prefixName
  rw [readCString_ofText short]
  exact if_pos full

/-- The entries of a table whose names an initialiser filled. -/
def Initialised (table : List VariableRecord) : Prop :=
  ∀ v ∈ table, v.name = .ofText v.name.text

/-- The entry that the copy makes of an initialised one. -/
def VariableRecord.renamed (pre : CString) (v : VariableRecord) : VariableRecord :=
  if CONFIG_ZTACX_VALUE_NAME_MAX ≤ v.name.text.strlen + pre.strlen then v else v.prefixed pre

theorem mapM_eq_ok {α β : Type*} {f : α → Except Fault β} {g : α → β} {xs : List α}
    (all : ∀ x ∈ xs, f x = .ok (g x)) : xs.mapM f = .ok (xs.map g) := by
  induction xs with
  | nil => rfl
  | cons x xs ih =>
      rw [List.mapM_cons, all x List.mem_cons_self,
        ih fun y mem => all y (List.mem_cons_of_mem x mem)]
      rfl

/-- **An initialised table** is copied entry by entry. -/
theorem copiedTable_renamed {src : List VariableRecord} {pre : CString} (init : Initialised src)
    (terminated : ∀ v ∈ src, v.name.text.strlen < CONFIG_ZTACX_VALUE_NAME_MAX) :
    copiedTable src src.length (some pre) = .ok (src.map (VariableRecord.renamed pre)) := by
  have round : ∀ v ∈ src, (prefixName pre v.name).map (fun name => { v with name := name }) =
      .ok (v.renamed pre) := by
    intro v mem
    have short := terminated v mem
    unfold VariableRecord.renamed
    rw [init v mem, NameArray.text_ofText short.le]
    by_cases full : CONFIG_ZTACX_VALUE_NAME_MAX ≤ v.name.text.strlen + pre.strlen
    · rw [prefixName_of_full short full, if_pos full, ← init v mem]
      rfl
    · rw [prefixName_ofText (by omega), if_neg full]
      rfl
  rw [copiedTable, if_pos le_rfl]
  show (src.take src.length).mapM _ = _
  rw [List.take_length]
  exact mapM_eq_ok round

/-- **A table whose joined names all fit** is copied entry by entry, each under its
joined name. -/
theorem copiedTable_eq {src : List VariableRecord} {pre : CString} (init : Initialised src)
    (fits : ∀ v ∈ src, pre.strlen + 1 + v.name.text.strlen + 1 ≤ CONFIG_ZTACX_VALUE_NAME_MAX) :
    copiedTable src src.length (some pre) = .ok (src.map (VariableRecord.prefixed pre)) := by
  rw [copiedTable_renamed init fun v mem => by have := fits v mem; omega]
  congr 1
  refine List.map_congr_left fun v mem => if_neg ?_
  have := fits v mem
  omega

end Ztacx
