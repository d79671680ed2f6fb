import Mathlib.Tactic.Common

/-!
# Character display modules

An HD44780 controller on a four-bit bus behind a PCF8574 port expander: bit 0 of
the port is RS, bit 1 is R/W, bit 2 is EN, and the upper four bits are the data
lines.  On each falling edge of EN the controller latches a nibble.

* `writes_pulse`: one nibble through the port.
* `Ready.transfer`: two nibbles are one byte, once the controller is in order.
* `writeText_cells`: what a text leaves in the cells.
* `synchronise`: four nibbles put any controller in four-bit mode.
-/

namespace BrBox
namespace DisplayModule

/-- The controller. -/
structure Controller where
  eightBit : Bool
  /-- The upper nibble of a byte whose lower nibble has not come yet. -/
  pending : Option UInt8
  twoLines : Bool
  increment : Bool
  /-- Every character that is written shifts the display. -/
  shifting : Bool
  displayOn : Bool
  /-- The address counter is one of the character generator. -/
  inCgram : Bool
  address : Nat
  /-- How far the display is shifted. -/
  offset : Nat
  cells : Nat → UInt8

/-- The module: the lines of the port, and the controller behind it. -/
structure Module where
  port : UInt8
  controller : Controller

namespace Controller

/-- The address behind this one; with two lines each has 40 cells. -/
def nextAddress (c : Controller) (a : Nat) : Nat :=
  if c.twoLines then
    if a = 0x27 then 0x40 else if a = 0x67 then 0 else a + 1
  else
    if a = 0x4F then 0 else a + 1

/-- The address in front of this one. -/
def previousAddress (c : Controller) (a : Nat) : Nat :=
  if c.twoLines then
    if a = 0x40 then 0x27 else if a = 0 then 0x67 else a - 1
  else
    if a = 0 then 0x4F else a - 1

/-- A character is written where the address counter stands. -/
def writeCell (c : Controller) (b : UInt8) : Controller :=
  if c.inCgram then
    { c with address := (c.address + if c.increment then 1 else 63) % 64 }
  else
    { c with
      cells := fun a => if a = c.address then b else c.cells a
      address :=
        if c.increment then c.nextAddress c.address else c.previousAddress c.address
      offset :=
        if c.shifting then (c.offset + if c.increment then 1 else 39) % 40 else c.offset }

/-- An instruction; the highest bit that is set tells which one it is. -/
def instruct (c : Controller) (b : UInt8) : Controller :=
  if 0x80 ≤ b.toNat then
    { c with inCgram := false, address := b.toNat % 128 }
  else if 0x40 ≤ b.toNat then
    { c with inCgram := true, address := b.toNat % 64 }
  else if 0x20 ≤ b.toNat then
    { c with eightBit := b.toNat / 16 % 2 = 1, twoLines := b.toNat / 8 % 2 = 1 }
  else if 0x18 ≤ b.toNat then
    { c with offset := (c.offset + if b.toNat / 4 % 2 = 1 then 39 else 1) % 40 }
  else if 0x10 ≤ b.toNat then
    { c with
      address :=
        if b.toNat / 4 % 2 = 1 then c.nextAddress c.address
        else c.previousAddress c.address }
  else if 0x08 ≤ b.toNat then
    { c with displayOn := b.toNat / 4 % 2 = 1 }
  else if 0x04 ≤ b.toNat then
    { c with increment := b.toNat / 2 % 2 = 1, shifting := b.toNat % 2 = 1 }
  else if 0x02 ≤ b.toNat then
    { c with inCgram := false, address := 0, offset := 0 }
  else if 0x01 ≤ b.toNat then
    { c with
      inCgram := false
      address := 0
      offset := 0
      increment := true
      cells := fun _ => 0x20 }
  else
    c

/-- A byte for the data or the instruction register. -/
def transfer (c : Controller) (rs : Bool) (b : UInt8) : Controller :=
  if rs then c.writeCell b else c.instruct b

/-- A nibble on the upper data lines; the lower ones are not connected. -/
def nibble (c : Controller) (rs : Bool) (n : UInt8) : Controller :=
  if c.eightBit then
    { c with pending := none }.transfer rs n
  else
    match c.pending with
    | none => { c with pending := some n }
    | some first => { c with pending := none }.transfer rs (first ||| n >>> (4 : UInt8))

/-- The falling edge of EN with these lines; a read stores nothing. -/
def latch (c : Controller) (lines : UInt8) : Controller :=
  if lines &&& 2 ≠ 0 then c else c.nibble (lines &&& 1 ≠ 0) (lines &&& 0xF0)

/-- The character that is seen this far behind the start of a row. -/
def shown (c : Controller) (start column : Nat) : Option UInt8 :=
  if c.displayOn then
    some (c.cells (64 * (start / 64) + (start % 64 + column + c.offset) % 40))
  else
    none

end Controller

namespace Module

/-- A byte is put on the lines of the port. -/
def write (m : Module) (b : UInt8) : Module where
  port := b
  controller :=
    if m.port &&& 4 ≠ 0 ∧ b &&& 4 = 0 then m.controller.latch m.port else m.controller

/-- Bytes one after the other. -/
def writes (m : Module) (bytes : List UInt8) : Module :=
  bytes.foldl write m

theorem writes_append
    (m : Module) (bytes more : List UInt8) :
    m.writes (bytes ++ more) = (m.writes bytes).writes more := by
  simp only [writes, List.foldl_append]

end Module

/-! ## Nibbles -/

/-- What holds of 256 numbers holds of every byte. -/
theorem forall_byte
    {p : UInt8 → Prop}
    (h : ∀ i : Fin 256, p (UInt8.ofFin i))
    (b : UInt8) :
    p b :=
  h b.toFin

/-- The lines of a pulse: EN is high and then low, the others stay. -/
theorem pulse_lines
    (v : UInt8) :
    (v ||| 4) &&& 4 ≠ 0 ∧ (v &&& ~~~4) &&& 4 = 0 ∧
      (v ||| 4) &&& 2 = v &&& 2 ∧ (v ||| 4) &&& 1 = v &&& 1 ∧
      (v ||| 4) &&& 0xF0 = v &&& 0xF0 := by
  refine forall_byte
    (p := fun v => (v ||| 4) &&& 4 ≠ 0 ∧ (v &&& ~~~4) &&& 4 = 0 ∧
      (v ||| 4) &&& 2 = v &&& 2 ∧ (v ||| 4) &&& 1 = v &&& 1 ∧
      (v ||| 4) &&& 0xF0 = v &&& 0xF0) ?_ v
  decide +kernel

/-- A pulse of EN latches one nibble, whatever the port has been before. -/
theorem writes_pulse
    (m : Module) (v : UInt8)
    (hwrite : v &&& 2 = 0) :
    m.writes [v ||| 4, v &&& ~~~4] =
      { port := v &&& ~~~4
        controller := m.controller.nibble (v &&& 1 ≠ 0) (v &&& 0xF0) } := by
  obtain ⟨hhigh, hlow, hrw, hrs, hdata⟩ := pulse_lines v
  simp only [Module.writes, List.foldl_cons, List.foldl_nil, Module.write, hhigh, hlow,
    not_true_eq_false, not_false_eq_true, ne_eq, and_self, and_false, if_true, if_false,
    Controller.latch, hrw, hrs, hdata, hwrite]

/-- Two nibbles make their byte. -/
theorem nibbles_byte
    (b : UInt8) :
    (b &&& 0xF0) ||| (b <<< (4 : UInt8) &&& 0xF0) >>> (4 : UInt8) = b := by
  refine forall_byte
    (p := fun b => (b &&& 0xF0) ||| (b <<< (4 : UInt8) &&& 0xF0) >>> (4 : UInt8) = b) ?_ b
  decide +kernel

/-- In four-bit mode the nibbles of a byte transfer it. -/
theorem nibble_nibble
    {c : Controller}
    (hmode : c.eightBit = false)
    (hpending : c.pending = none)
    (rs : Bool) (b : UInt8) :
    (c.nibble rs (b &&& 0xF0)).nibble rs (b <<< (4 : UInt8) &&& 0xF0) =
      c.transfer rs b := by
  cases c
  simp only at hmode hpending
  subst hmode hpending
  simp only [Controller.nibble, Bool.false_eq_true, if_false, nibbles_byte]

/-! ## A controller in order -/

/-- Four-bit mode, two lines, nothing pending, and a display that is on and not shifted. -/
structure Controller.Ready (c : Controller) : Prop where
  eightBit : c.eightBit = false
  pending : c.pending = none
  twoLines : c.twoLines = true
  increment : c.increment = true
  shifting : c.shifting = false
  displayOn : c.displayOn = true
  inCgram : c.inCgram = false
  offset : c.offset = 0

/-- The cells and the address counter do not matter for it. -/
theorem Controller.Ready.moved
    {c : Controller}
    (hready : c.Ready)
    (address : Nat) (cells : Nat → UInt8) :
    { c with address := address, cells := cells : Controller }.Ready :=
  ⟨hready.eightBit, hready.pending, hready.twoLines, hready.increment, hready.shifting,
    hready.displayOn, hready.inCgram, hready.offset⟩

/-- A character in order. -/
theorem Controller.Ready.writeCell
    {c : Controller}
    (hready : c.Ready)
    (b : UInt8) :
    c.writeCell b =
      { c with
        cells := fun a => if a = c.address then b else c.cells a
        address := c.nextAddress c.address } := by
  simp [Controller.writeCell, hready.inCgram, hready.increment, hready.shifting]

/-- An address of the cells. -/
theorem instruct_address
    (c : Controller) {b : UInt8}
    (hb : 0x80 ≤ b.toNat) :
    c.instruct b = { c with inCgram := false, address := b.toNat % 128 } := by
  rw [Controller.instruct, if_pos hb]

/-- What is seen of a module in order. -/
theorem Controller.Ready.shown
    {c : Controller}
    (hready : c.Ready)
    {start column : Nat}
    (hline : start % 64 + column < 40) :
    c.shown start column = some (c.cells (start + column)) := by
  have haddress : 64 * (start / 64) + (start % 64 + column + 0) % 40 = start + column := by
    omega
  rw [Controller.shown, hready.displayOn, hready.offset, haddress, if_pos rfl]

/-- The characters of a text, one after the other. -/
def Controller.writeText (c : Controller) (text : List UInt8) : Controller :=
  text.foldl Controller.writeCell c

theorem Controller.Ready.writeText
    {c : Controller}
    (hready : c.Ready)
    (text : List UInt8) :
    (c.writeText text).Ready := by
  induction text generalizing c with
  | nil =>
      exact hready
  | cons b text ih =>
      refine @ih (c.writeCell b) ?_
      rw [hready.writeCell]
      exact hready.moved _ _

/-- The cells with a text in them from an address on. -/
def overlay (cells : Nat → UInt8) (address : Nat) (text : List UInt8) (a : Nat) : UInt8 :=
  if address ≤ a then (text[a - address]?).getD (cells a) else cells a

theorem overlay_nil
    (cells : Nat → UInt8) (address : Nat) :
    overlay cells address [] = cells := by
  funext a
  simp [overlay]

/-- The first character of a text is put in its cell, and the others behind it. -/
theorem overlay_cons
    (cells : Nat → UInt8) (address : Nat) (b : UInt8) (text : List UInt8) :
    overlay cells address (b :: text) =
      overlay (fun a => if a = address then b else cells a) (address + 1) text := by
  funext a
  simp only [overlay]
  by_cases ha : a = address
  · have hnot : ¬ address + 1 ≤ a := by omega
    rw [if_neg hnot, if_pos ha, if_pos (Nat.le_of_eq ha.symm), ha, Nat.sub_self,
      List.getElem?_cons_zero, Option.getD_some]
  · by_cases hle : address ≤ a
    · have hle' : address + 1 ≤ a := by omega
      have hindex : a - address = (a - (address + 1)) + 1 := by omega
      rw [if_pos hle, if_pos hle', hindex, List.getElem?_cons_succ, if_neg ha]
    · have hle' : ¬ address + 1 ≤ a := by omega
      rw [if_neg hle, if_neg hle', if_neg ha]

theorem overlay_outside
    {cells : Nat → UInt8} {address a : Nat} {text : List UInt8}
    (ha : a < address ∨ address + text.length ≤ a) :
    overlay cells address text a = cells a := by
  unfold overlay
  rcases ha with ha | ha
  · rw [if_neg (by omega)]
  · rw [if_pos (by omega), List.getElem?_eq_none (by omega), Option.getD_none]

theorem overlay_inside
    {cells : Nat → UInt8} {address a : Nat} {text : List UInt8}
    (hlow : address ≤ a)
    (hhigh : a < address + text.length) :
    text[a - address]? = some (overlay cells address text a) := by
  have hlt : a - address < text.length := by omega
  rw [overlay, if_pos hlow, List.getElem?_eq_getElem hlt, Option.getD_some]

/-- The text stands in its line: the address counter does not leave the line before. -/
def InLine (address length : Nat) : Prop :=
  address + length ≤ 40 ∨ (64 ≤ address ∧ address + length ≤ 104)

/-- What a text leaves in the cells. -/
theorem writeText_cells
    {c : Controller}
    (hready : c.Ready)
    {text : List UInt8}
    (hline : InLine c.address text.length) :
    (c.writeText text).cells = overlay c.cells c.address text := by
  induction text generalizing c with
  | nil =>
      exact (overlay_nil c.cells c.address).symm
  | cons b text ih =>
      have hstep := hready.writeCell b
      have hready' : (c.writeCell b).Ready := hready.writeText [b]
      have hrest : c.writeText (b :: text) = (c.writeCell b).writeText text := rfl
      rw [overlay_cons, hrest]
      by_cases hlast : text = []
      -- behind the last character the address counter may leave the line
      · rw [hlast, overlay_nil, hstep]
        rfl
      · have hlength := List.length_pos_iff.mpr hlast
        have hnext : c.nextAddress c.address = c.address + 1 := by
          rw [InLine, List.length_cons] at hline
          rw [Controller.nextAddress, hready.twoLines, if_pos rfl, if_neg (by omega),
            if_neg (by omega)]
        have haddress : (c.writeCell b).address = c.address + 1 := by
          rw [hstep]
          exact hnext
        have hline' : InLine (c.writeCell b).address text.length := by
          rw [haddress]
          rw [InLine, List.length_cons] at hline
          unfold InLine
          omega
        rw [ih hready' hline', haddress, hstep]

/-! ## Synchronisation -/

theorem instruct_pending
    (c : Controller) (b : UInt8) :
    (c.instruct b).pending = c.pending := by
  unfold Controller.instruct
  split_ifs <;> rfl

/-- A controller that waits for its second nibble does not wait behind it. -/
theorem nibble_pending
    {c : Controller} {first : UInt8}
    (hmode : c.eightBit = false)
    (hpending : c.pending = some first)
    (n : UInt8) :
    (c.nibble false n).pending = none := by
  simp only [Controller.nibble, hmode, hpending, Controller.transfer, Bool.false_eq_true,
    if_false, instruct_pending]

/-- In eight-bit mode the upper half of a function set sets the mode. -/
theorem nibble_eightBit
    {c : Controller}
    (hmode : c.eightBit = true)
    (n : UInt8) :
    c.nibble false n = { c with pending := none }.instruct n := by
  simp only [Controller.nibble, hmode, if_true, Controller.transfer, Bool.false_eq_true,
    if_false]

theorem instruct_eightBit
    (c : Controller) :
    c.instruct 0x30 = { c with eightBit := true, twoLines := false } :=
  rfl

theorem instruct_fourBit
    (c : Controller) :
    c.instruct 0x20 = { c with eightBit := false, twoLines := false } :=
  rfl

/-- Two such nibbles from four-bit mode make a function set for eight bits. -/
theorem nibble_twice
    {c : Controller}
    (hmode : c.eightBit = false)
    (hpending : c.pending = none) :
    ((c.nibble false 0x30).nibble false 0x30).eightBit = true := by
  have hfirst : c.nibble false 0x30 = { c with pending := some 0x30 } := by
    simp only [Controller.nibble, hmode, hpending, Bool.false_eq_true, if_false]
  rw [hfirst]
  simp only [Controller.nibble, hmode, Controller.transfer, Bool.false_eq_true, if_false]
  rfl

/-- Three nibbles for eight bits and one for four bits, whatever the mode has been. -/
theorem synchronise
    (c : Controller) :
    let d := (((c.nibble false 0x30).nibble false 0x30).nibble false 0x30).nibble false 0x20
    d.eightBit = false ∧ d.pending = none := by
  have hkeep : ∀ d : Controller, d.eightBit = true → (d.nibble false 0x30).eightBit = true := by
    intro d hd
    rw [nibble_eightBit hd, instruct_eightBit]
  have hlast :
      ∀ d : Controller, d.eightBit = true →
        (d.nibble false 0x20).eightBit = false ∧ (d.nibble false 0x20).pending = none := by
    intro d hd
    rw [nibble_eightBit hd, instruct_fourBit]
    exact ⟨rfl, rfl⟩
  cases hmode : c.eightBit with
  | true =>
      exact hlast _ (hkeep _ (hkeep _ (hkeep c hmode)))
  | false =>
      cases hpending : c.pending with
      | none =>
          exact hlast _ (hkeep _ (nibble_twice hmode hpending))
      | some first =>
          have hnone := nibble_pending hmode hpending 0x30
          cases hmode' : (c.nibble false 0x30).eightBit with
          | true =>
              exact hlast _ (hkeep _ (hkeep _ hmode'))
          | false =>
              exact hlast _ (nibble_twice hmode' hnone)

end DisplayModule
end BrBox
