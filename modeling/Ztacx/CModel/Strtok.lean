import Ztacx.CModel.Memory

/-!
# Tokens of a text

A loop over `strtok_r` with one separator character: separators are skipped, a
token ends at the next separator or at the end of the text, and the separator
behind it is overwritten with a NUL.  `tokens` are the tokens that the calls
return one after another, and whether the last call came to an end: a buffer
without a NUL is searched past its end.

A token is known with the bytes behind its NUL (`Token.memory`), because a program
may read from a token beyond its end.  The tokens of a text do not depend on what
lies behind the text (`texts_tokens`).
-/

namespace Ztacx.CModel

/-- A token, and the bytes of its buffer behind the NUL that ends it. -/
structure Token where
  text : CString
  behind : List UInt8
deriving DecidableEq, Repr

/-- The buffer from the first character of the token on. -/
def Token.memory (t : Token) : List UInt8 := t.text.bytes ++ 0 :: t.behind

/-- The tokens of a buffer in which `carry` is the part of a token already seen. -/
def tokensFrom (sep : UInt8) (carry : List UInt8) : List UInt8 → List Token × Except Fault Unit
  | [] => ([], .error .outOfBounds)
  | c :: rest =>
    if c = 0 then (if carry = [] then [] else [⟨CString.ofBytes carry, rest⟩], .ok ())
    else if c = sep then
      let later := tokensFrom sep [] rest
      (if carry = [] then later.1 else ⟨CString.ofBytes carry, rest⟩ :: later.1, later.2)
    else tokensFrom sep (carry ++ [c]) rest

/-- The tokens of a buffer. -/
def tokens (sep : UInt8) (buf : List UInt8) : List Token × Except Fault Unit :=
  tokensFrom sep [] buf

section Tokens

variable {sep : UInt8} {carry rest behind : List UInt8}

/-- The characters of a field go to the token. -/
theorem tokensFrom_append {field : List UInt8} (nulFree : 0 ∉ field) (plain : sep ∉ field)
    (carry rest : List UInt8) :
    tokensFrom sep carry (field ++ rest) = tokensFrom sep (carry ++ field) rest := by
  induction field generalizing carry with
  | nil => rw [List.nil_append, List.append_nil]
  | cons c field ih =>
      obtain ⟨hc, nulFree⟩ := List.ne_and_not_mem_of_not_mem_cons nulFree
      obtain ⟨hs, plain⟩ := List.ne_and_not_mem_of_not_mem_cons plain
      rw [List.cons_append, tokensFrom, if_neg (Ne.symm hc), if_neg (Ne.symm hs),
        ih nulFree plain, List.append_assoc]
      rfl

/-- A field with a separator behind it is a token. -/
theorem tokens_field_sep (nonzero : sep ≠ 0) {field : CString} (plain : sep ∉ field.bytes)
    (some : field.bytes ≠ []) (rest : List UInt8) :
    tokens sep (field.bytes ++ sep :: rest) =
      (⟨field, rest⟩ :: (tokens sep rest).1, (tokens sep rest).2) := by
  unfold tokens
  rw [tokensFrom_append field.nul_free plain, List.nil_append, tokensFrom, if_neg nonzero,
    if_pos rfl, CString.ofBytes_bytes]
  simp only [if_neg some]

/-- A field at the end of the text is the last token. -/
theorem tokens_field_end {field : CString} (plain : sep ∉ field.bytes)
    (some : field.bytes ≠ []) (behind : List UInt8) :
    tokens sep (field.bytes ++ 0 :: behind) = ([⟨field, behind⟩], .ok ()) := by
  unfold tokens
  rw [tokensFrom_append field.nul_free plain, List.nil_append, tokensFrom, if_pos rfl,
    if_neg some, CString.ofBytes_bytes]

/-- The search comes to an end if there is a NUL. -/
theorem tokensFrom_snd_eq_ok_iff (carry buf : List UInt8) :
    (tokensFrom sep carry buf).2 = .ok () ↔ 0 ∈ buf := by
  induction buf generalizing carry with
  | nil => exact iff_of_false (fun same => by cases same) List.not_mem_nil
  | cons c buf ih =>
      rw [tokensFrom, List.mem_cons]
      by_cases zero : c = 0
      · rw [if_pos zero]
        exact iff_of_true rfl (.inl zero.symm)
      · have later : (0 = c ∨ 0 ∈ buf) ↔ 0 ∈ buf := or_iff_right (Ne.symm zero)
        rw [if_neg zero, later]
        split
        · exact ih []
        · exact ih (carry ++ [c])

/-- What lies behind a token ends like the buffer, or the token ends with it. -/
theorem getLast?_memory_tokensFrom {t : Token} {last : UInt8} (carry buf : List UInt8)
    (ends : buf.getLast? = some last) (mem : t ∈ (tokensFrom sep carry buf).1) :
    t.behind = [] ∨ t.behind.getLast? = some last := by
  induction buf generalizing carry with
  | nil => cases mem
  | cons c buf ih =>
      have tail : buf = [] ∨ buf.getLast? = some last := by
        cases buf with
        | nil => exact .inl rfl
        | cons d buf => exact .inr ends
      have later : ∀ carry, t ∈ (tokensFrom sep carry buf).1 →
          t.behind = [] ∨ t.behind.getLast? = some last := by
        intro carry inside
        rcases tail with rfl | ends'
        · cases inside
        · exact ih carry ends' inside
      rw [tokensFrom] at mem
      split at mem
      · split at mem
        · cases mem
        · rw [List.mem_singleton] at mem
          subst mem
          exact tail
      · split at mem
        · dsimp only at mem
          split at mem
          · exact later [] mem
          · rcases List.mem_cons.mp mem with rfl | inside
            · exact tail
            · exact later [] inside
        · exact later (carry ++ [c]) mem

/-- A text is searched up to its end. -/
theorem tokensFrom_snd {text : List UInt8} (nulFree : 0 ∉ text) (carry behind : List UInt8) :
    (tokensFrom sep carry (text ++ 0 :: behind)).2 = .ok () := by
  induction text generalizing carry with
  | nil => rw [List.nil_append, tokensFrom, if_pos rfl]
  | cons c text ih =>
      obtain ⟨hc, nulFree⟩ := List.ne_and_not_mem_of_not_mem_cons nulFree
      rw [List.cons_append, tokensFrom, if_neg (Ne.symm hc)]
      split
      · exact ih nulFree []
      · exact ih nulFree (carry ++ [c])

/-- **The tokens of a text** are its own: what lies behind it makes no difference. -/
theorem texts_tokensFrom {text : List UInt8} (nulFree : 0 ∉ text) (carry behind behind' :
    List UInt8) :
    (tokensFrom sep carry (text ++ 0 :: behind)).1.map Token.text =
      (tokensFrom sep carry (text ++ 0 :: behind')).1.map Token.text := by
  induction text generalizing carry with
  | nil =>
      simp only [List.nil_append, tokensFrom, if_true]
      split <;> rfl
  | cons c text ih =>
      obtain ⟨hc, nulFree⟩ := List.ne_and_not_mem_of_not_mem_cons nulFree
      simp only [List.cons_append, tokensFrom, if_neg (Ne.symm hc)]
      by_cases hs : c = sep
      · simp only [if_pos hs]
        split
        · exact ih nulFree []
        · rw [List.map_cons, List.map_cons, ih nulFree []]
      · simp only [if_neg hs]
        exact ih nulFree (carry ++ [c])

end Tokens

/-- The fields of a text. -/
def fieldsOf (sep : UInt8) (text : CString) : List CString :=
  (tokens sep text.stored).1.map Token.text

theorem texts_tokens (sep : UInt8) (text : CString) (behind : List UInt8) :
    (tokens sep (text.bytes ++ 0 :: behind)).1.map Token.text = fieldsOf sep text :=
  texts_tokensFrom text.nul_free [] behind []

theorem tokens_snd (sep : UInt8) (text : CString) (behind : List UInt8) :
    (tokens sep (text.bytes ++ 0 :: behind)).2 = .ok () :=
  tokensFrom_snd text.nul_free [] behind

end Ztacx.CModel
