import Ztacx.CModel.Strtoul
import Ztacx.Variable

/-!
# The LED strip

`color_parse` and `ztacx_led_strip_set` of `src/ztacx_led_strip.c`, and the two
work items through which the strip follows its variables `led_strip_cursor` and
`led_strip_color`.

Setting either variable submits its work item to the system work queue; the item
reads the variable when it runs.  `kWorkSubmit` is the submission: an item that is
already queued stays where it is and is not queued again.
-/

namespace Ztacx

open CModel

/-! ## Colours -/

/-- `struct led_rgb`. -/
structure LedRgb where
  r : UInt8
  g : UInt8
  b : UInt8
deriving DecidableEq, Repr

/-- The named colours, in the order in which they are compared. -/
def colors : List (CString × LedRgb) :=
  [(.ofString "red", ⟨0x20, 0x00, 0x00⟩), (.ofString "green", ⟨0x00, 0x20, 0x00⟩),
   (.ofString "blue", ⟨0x00, 0x00, 0x20⟩), (.ofString "orange", ⟨0x20, 0x10, 0x00⟩),
   (.ofString "yellow", ⟨0x10, 0x20, 0x00⟩), (.ofString "white", ⟨0x20, 0x20, 0x20⟩)]

/-- `strchr`. -/
def strchr (s : CString) (c : UInt8) : Option CString :=
  (s.bytes.findIdx? (· = c)).map s.drop

/-- The low byte of an integer. -/
def lowByte (x : BitVec 32) : UInt8 := UInt8.ofNat x.toNat

/-- `color_parse` into a colour that is not null: what it holds afterwards, and the
return code. -/
def colorParse (atoi : CString → BitVec 32) (c : CString) (color : LedRgb) : LedRgb × ℤ :=
  if c.bytes.head? = some 35 then
    let rgb := strtoul16 (c.drop 1)
    (⟨lowByte (rgb >>> 16), lowByte (rgb >>> 8), lowByte rgb⟩, 0)
  else if c.bytes.take 4 = (CString.ofString "rgb:").bytes then
    -- the pointer moves on by one character, not by the length of `rgb:`
    let c := c.drop 1
    let color := { color with r := lowByte (atoi c) }
    match strchr c 44 with
    | none => (color, 0)
    | some c =>
      let c := c.drop 1
      let color := { color with g := lowByte (atoi c) }
      match strchr c 44 with
      | none => (color, 0)
      | some c => ({ color with b := lowByte (atoi (c.drop 1)) }, 0)
  else
    match colors.lookup c with
    | some named => (named, 0)
    | none => (color, -1)

/-! ## Pixels -/

/-- `ztacx_led_strip_set`.  At position -1 the loop over the pixels writes to
`pixels[pos]` in each of its rounds. -/
def ztacxLedStripSet (pixels : List LedRgb) (pos : ℤ) (color : LedRgb) :
    Except Fault (List LedRgb) :=
  if pos < -1 ∨ pixels.length ≤ pos then .ok pixels
  else if pos = -1 then (if pixels = [] then .ok pixels else .error .outOfBounds)
  else .ok (pixels.set pos.toNat color)

/-! ## The strip and its work items -/

/-- `led_strip_cursor_onchange` and `led_strip_color_onchange`. -/
def ledStripCursorOnchange : KWorkPtr := 0

def ledStripColorOnchange : KWorkPtr := 1

/-- `k_work_submit`, seen from the queue. -/
def kWorkSubmit (queue : List KWorkPtr) (work : Option KWorkPtr) : List KWorkPtr :=
  match work with
  | none => queue
  | some work => if work ∈ queue then queue else queue ++ [work]

/-- The strip: `ztacx_led_strip_values[VALUE_CURSOR]` and `[VALUE_COLOR]`, the
fields of the context, and the queue. -/
structure LedStrip where
  cursorVar : ZtacxVariable
  colorVar : ZtacxVariable
  cursor : ℤ
  pixels : List LedRgb
  queue : List KWorkPtr

namespace LedStrip

/-- `ztacx_variable_value_set` of the cursor. -/
def writeCursor (s : LedStrip) (value : BitVec 16) : Except Fault LedStrip :=
  (ztacxVariableValueSetUint16 true s.cursorVar value).map fun r =>
    { s with cursorVar := r.setting, queue := kWorkSubmit s.queue r.submitted }

/-- `ztacx_variable_value_set` of the colour; memory for it is there. -/
def writeColor (s : LedStrip) (value : CString) : Except Fault LedStrip :=
  (ztacxVariableValueSet true s.colorVar (some value.stored)).map fun r =>
    { s with colorVar := r.setting, queue := kWorkSubmit s.queue r.submitted }

/-- `ztacx_led_strip_cursor_onchange`. -/
def cursorOnchange (s : LedStrip) : Except Fault LedStrip :=
  (ztacxVariableValueGetUint16 s.cursorVar).map fun value => { s with cursor := value.toNat }

/-- `ztacx_led_strip_color_onchange`. -/
def colorOnchange (atoi : CString → BitVec 32) (s : LedStrip) : Except Fault LedStrip :=
  match s.colorVar.value.valString.text with
  | none => .ok s
  | some c =>
    let color := colorParse atoi c ⟨0, 0, 0⟩
    if color.2 ≠ 0 then .ok s
    else (ztacxLedStripSet s.pixels s.cursor color.1).map fun pixels => { s with pixels := pixels }

/-- The work queue takes its first item and runs it. -/
def runWork (atoi : CString → BitVec 32) (s : LedStrip) : Except Fault LedStrip :=
  match s.queue with
  | [] => .ok s
  | work :: queue =>
    let s := { s with queue := queue }
    if work = ledStripCursorOnchange then s.cursorOnchange
    else if work = ledStripColorOnchange then s.colorOnchange atoi
    else .ok s

/-! ## What the operations do -/

/-- The strip once `ztacx_led_strip_init` has run: the kinds are those of the
table, each variable submits its own work item, and the colour, which starts out
null, never holds a literal. -/
structure Wired (s : LedStrip) : Prop where
  cursor_kind : s.cursorVar.kind = .uint16
  cursor_onChange : s.cursorVar.onChange = some ledStripCursorOnchange
  color_kind : s.colorVar.kind = .string
  color_onChange : s.colorVar.onChange = some ledStripColorOnchange
  color_owned : s.colorVar.value.valString.free = .ok ()

section Spec

variable {s : LedStrip}

theorem writeCursor_spec (wired : s.Wired) (value : BitVec 16) :
    ∃ v, s.writeCursor value = .ok { s with
        cursorVar := v, queue := kWorkSubmit s.queue (some ledStripCursorOnchange) } ∧
      v.kind = .uint16 ∧ v.onChange = some ledStripCursorOnchange ∧
      v.value.valUint16 = value := by
  have size : s.cursorVar.kind.scalarSize = some 2 := by rw [wired.cursor_kind]; rfl
  obtain ⟨value', stored, bytes, -⟩ :=
    ztacxVariableValueSet_spec size true (length_leBytes 2 value.toNat)
  refine ⟨{ s.cursorVar with value := value' }, ?_, wired.cursor_kind, wired.cursor_onChange, ?_⟩
  · rw [writeCursor, ztacxVariableValueSetUint16, stored, ← wired.cursor_onChange]
    rfl
  · have low : value'.bytes.take 2 = leBytes 2 value.toNat := by
      rw [bytes, List.take_append_of_le_length (length_leBytes 2 _).ge,
        List.take_of_length_le (length_leBytes 2 _).le]
    have small : value.toNat < 256 ^ 2 := value.isLt
    show BitVec.ofNat 16 (leNat (value'.bytes.take 2)) = value
    rw [low, leNat_leBytes, Nat.mod_eq_of_lt small, BitVec.ofNat_toNat, BitVec.setWidth_eq]

theorem writeColor_eq (wired : s.Wired) (value : CString) :
    s.writeColor value = .ok { s with
      colorVar := s.colorVar.withString (.block value)
      queue := kWorkSubmit s.queue (some ledStripColorOnchange) } := by
  rw [writeColor, ztacxVariableValueSet_text wired.color_kind, if_pos rfl, wired.color_owned,
    wired.color_onChange]
  rfl

theorem cursorOnchange_eq (wired : s.Wired) :
    s.cursorOnchange = .ok { s with cursor := s.cursorVar.value.valUint16.toNat } := by
  have size : s.cursorVar.kind.scalarSize = some 2 := by rw [wired.cursor_kind]; rfl
  rw [cursorOnchange, ztacxVariableValueGetUint16, getScalar_self size]
  rfl

/-- At a position that is not -1 the colour item cannot go wrong. -/
theorem colorOnchange_eq {atoi : CString → BitVec 32} {c : CString} {color : LedRgb}
    (text : s.colorVar.value.valString.text = some c)
    (parses : colorParse atoi c ⟨0, 0, 0⟩ = (color, 0)) (atLeast : 0 ≤ s.cursor) :
    s.colorOnchange atoi = .ok { s with
      pixels := if s.cursor < s.pixels.length then s.pixels.set s.cursor.toNat color
        else s.pixels } := by
  unfold colorOnchange
  rw [text]
  dsimp only
  rw [parses, if_neg (by simp), ztacxLedStripSet]
  by_cases inside : s.cursor < s.pixels.length
  · rw [if_neg (by omega), if_neg (by omega), if_pos inside]
    rfl
  · rw [if_pos (by omega), if_neg inside]
    rfl

theorem runWork_cursor (atoi : CString → BitVec 32) (wired : s.Wired) {queue : List KWorkPtr}
    (hqueue : s.queue = ledStripCursorOnchange :: queue) :
    s.runWork atoi = .ok { s with
      queue := queue, cursor := s.cursorVar.value.valUint16.toNat } := by
  rw [runWork, hqueue]
  exact cursorOnchange_eq (s := { s with queue := queue }) { wired with }

end Spec

end LedStrip

end Ztacx
