import Mathlib.Data.List.Basic
import Mathlib.Tactic.Linarith

/-!
# Lines of a byte stream

A stream of text lines is cut at its newlines.  `completeLines` is the sequence
of lines that have been terminated; what follows the last newline is not a line
yet.  `completeLines_append_line` is the recurrence a reader that consumes one
line at a time relies on, and `completeLines_flatMap_append` the same for all
lines it has consumed so far.

A sender goes the other way (`unlines`).  What has arrived of its stream is short
when few newlines are in it (`length_le_of_prefix_unlines`).
-/

namespace Ztacx.CModel

/-- The byte that ends a line. -/
def newline : UInt8 := 10

/-- The lines of a stream, when `cur` has been read since the last newline. -/
def linesFrom (cur : List UInt8) : List UInt8 → List (List UInt8)
  | [] => []
  | b :: bs => if b = newline then cur :: linesFrom [] bs else linesFrom (cur ++ [b]) bs

/-- The terminated lines of a stream, without their newlines. -/
def completeLines (stream : List UInt8) : List (List UInt8) := linesFrom [] stream

theorem linesFrom_append_line {line : List UInt8} (clean : newline ∉ line)
    (cur rest : List UInt8) :
    linesFrom cur (line ++ newline :: rest) = (cur ++ line) :: linesFrom [] rest := by
  induction line generalizing cur with
  | nil => simp [linesFrom]
  | cons b line ih =>
      have other : b ≠ newline := fun same => clean (same ▸ List.mem_cons_self)
      have clean' : newline ∉ line := fun mem => clean (List.mem_cons_of_mem b mem)
      rw [List.cons_append, linesFrom, if_neg other, ih clean']
      simp

/-- A stream that starts with a line. -/
theorem completeLines_append_line {line : List UInt8} (clean : newline ∉ line)
    (rest : List UInt8) :
    completeLines (line ++ newline :: rest) = line :: completeLines rest :=
  linesFrom_append_line clean [] rest

/-- A stream that starts with several lines. -/
theorem completeLines_flatMap_append {lines : List (List UInt8)}
    (clean : ∀ line ∈ lines, newline ∉ line) (rest : List UInt8) :
    completeLines (lines.flatMap (fun line => line ++ [newline]) ++ rest) =
      lines ++ completeLines rest := by
  induction lines with
  | nil => rfl
  | cons line lines ih =>
      have first := clean line List.mem_cons_self
      have later := ih fun l mem => clean l (List.mem_cons_of_mem line mem)
      rw [List.flatMap_cons, List.append_assoc, List.append_assoc, List.singleton_append,
        completeLines_append_line first, later, List.cons_append]

/-! ## Streams of lines -/

/-- The stream of the lines, each with its newline. -/
def unlines (lines : List (List UInt8)) : List UInt8 := lines.flatMap fun line => line ++ [newline]

theorem unlines_cons (line : List UInt8) (lines : List (List UInt8)) :
    unlines (line :: lines) = line ++ newline :: unlines lines := by
  rw [unlines, List.flatMap_cons, List.append_assoc]
  rfl

theorem unlines_append (lines lines' : List (List UInt8)) :
    unlines (lines ++ lines') = unlines lines ++ unlines lines' := List.flatMap_append

theorem completeLines_unlines {lines : List (List UInt8)} (clean : ∀ line ∈ lines, newline ∉ line) :
    completeLines (unlines lines) = lines := by
  have all := completeLines_flatMap_append clean []
  rw [List.append_nil] at all
  exact all.trans (List.append_nil lines)

theorem linesFrom_prefix (cur stream rest : List UInt8) :
    linesFrom cur stream <+: linesFrom cur (stream ++ rest) := by
  induction stream generalizing cur with
  | nil => exact List.nil_prefix
  | cons b bs ih =>
      simp only [List.cons_append, linesFrom]
      split
      · exact (List.prefix_cons_inj cur).mpr (ih [])
      · exact ih (cur ++ [b])

/-- A stream that goes on keeps its lines. -/
theorem completeLines_prefix {stream stream' : List UInt8} (goesOn : stream <+: stream') :
    completeLines stream <+: completeLines stream' := by
  obtain ⟨rest, rfl⟩ := goesOn
  exact linesFrom_prefix [] stream rest

/-- A stream without a newline has no complete line. -/
theorem completeLines_of_notMem {stream : List UInt8} (clean : newline ∉ stream) :
    completeLines stream = [] := by
  have none : ∀ cur, linesFrom cur stream = [] := by
    induction stream with
    | nil => exact fun _ => rfl
    | cons b bs ih =>
        obtain ⟨other, clean⟩ := not_or.mp (mt List.mem_cons.mpr clean)
        intro cur
        rw [linesFrom, if_neg (Ne.symm other)]
        exact ih clean (cur ++ [b])
  exact none []

/-- **What has arrived of a few lines is short.** -/
theorem length_le_of_prefix_unlines {bound : ℕ} {lines : List (List UInt8)} {stream : List UInt8}
    (short : ∀ line ∈ lines, line.length ≤ bound) (arrived : stream <+: unlines lines) :
    stream.length ≤ (stream.count newline + 1) * (bound + 1) := by
  induction lines generalizing stream with
  | nil =>
      rw [List.prefix_nil.mp arrived]
      exact Nat.zero_le _
  | cons line lines ih =>
      obtain ⟨here, later⟩ := List.forall_mem_cons.mp short
      rw [unlines_cons] at arrived
      obtain inside | ⟨rest, rfl⟩ :=
        List.prefix_or_prefix_of_prefix arrived (List.prefix_append line _)
      · have := inside.length_le
        nlinarith
      · rw [List.prefix_append_right_inj, List.prefix_cons_iff] at arrived
        obtain rfl | ⟨tail, rfl, behind⟩ := arrived
        · rw [List.append_nil]
          nlinarith
        · have := ih later behind
          rw [List.count_append, List.count_cons_self]
          simp only [List.length_append, List.length_cons]
          nlinarith

/-- A stream of lines of which the first one has arrived. -/
theorem prefix_unlines_cons {line first rest : List UInt8} {lines : List (List UInt8)}
    (clean : newline ∉ line) (clean' : newline ∉ first)
    (arrived : line ++ newline :: rest <+: unlines (first :: lines)) :
    line = first ∧ rest <+: unlines lines := by
  obtain ⟨tail, whole⟩ := arrived
  rw [unlines_cons, List.append_assoc, List.cons_append] at whole
  have same := congrArg completeLines whole
  rw [completeLines_append_line clean, completeLines_append_line clean'] at same
  obtain ⟨rfl, -⟩ := List.cons.inj same
  rw [List.append_cancel_left_eq, List.cons_inj_right] at whole
  exact ⟨rfl, tail, whole⟩

end Ztacx.CModel
