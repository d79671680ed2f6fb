import BrBox.Lib.DisplayModule
import BrBox.Lib.CText
import BrBox.Lib.LabelledRun

/-!
# A character display

`I2CPcfLcd` drives a character module behind a PCF8574.  A state is the object and
the module on the bus; the calls are `print_line`, `set_back_light` and
`clear_display`, in any order after the constructor.

* `newLcd_inOrder`: the constructor brings any module in order.
* `printLine_cells`: what a line leaves in the cells.
* `callShown_of_printsRight`: when a call does what it is asked to.
* `lcdRun_shown`: the same for every call of a run.
-/

namespace BrBox
namespace Adav

open CText
open DisplayModule
open LabelledRun

/-- The values of `ADLIB_DISPLAY_TYPE` for a module behind one PCF8574. -/
inductive PcfDisplayType where
  | pcf1602
  | pcf2002
  | pcf2004
  | pcf1604
deriving DecidableEq, Repr

/-- `DISPLAY_TYPE`, the number of columns. -/
def PcfDisplayType.width : PcfDisplayType → Nat
  | .pcf2002 => 20
  | .pcf2004 => 20
  | _ => 16

/-- The number of rows, which the driver does not know. -/
def PcfDisplayType.height : PcfDisplayType → Nat
  | .pcf1602 => 2
  | .pcf2002 => 2
  | .pcf2004 => 4
  | .pcf1604 => 4

/--
Where a row of the module starts: rows 1 and 2 at the starts of the two lines of the
controller, and each other row behind the one two above it.
-/
def PcfDisplayType.rowStart (t : PcfDisplayType) (row : Nat) : Nat :=
  64 * ((row - 1) % 2) + t.width * ((row - 1) / 2)

/-- `DISPLAY_LINE`. -/
inductive DisplayLine where
  | line1
  | line2
  | line3
  | line4
  | full
  | other
deriving DecidableEq, Repr

/-- `TEXT_ALIGNMENT`. -/
inductive TextAlignment where
  | left
  | right
  | center
  | other
deriving DecidableEq, Repr

/-- An `I2CPcfLcd`. -/
structure I2CPcfLcd where
  displayType : PcfDisplayType
  bkLight : Bool
  /-- `LCD_PCF_ADDRESS` -/
  pcfAddress : UInt8
deriving DecidableEq, Repr

/-! ## The bytes for the port -/

/-- `HI_NIBBLE` -/
def hiNibble (b : UInt8) : UInt8 :=
  b &&& 0xF0

/-- `LO_NIBBLE` -/
def loNibble (b : UInt8) : UInt8 :=
  b <<< (4 : UInt8) &&& 0xF0

/-- `LCD_BL` -/
def lcdBl : UInt8 := 0x08

/-- `LCD_EN` -/
def lcdEn : UInt8 := 0x04

/-- `LCD_RS` -/
def lcdRs : UInt8 := 0x01

/-- `LCD_LINE1` to `LCD_LINE4`, and `LCD_LINE1` for any other row. -/
def lcdLine (row : Nat) : UInt8 :=
  if row = 2 then 0xC0
  else if row = 3 then 0x94
  else if row = 4 then 0xD4
  else 0x80

namespace I2CPcfLcd

/-- The two writes for a nibble. -/
def strobe (lcddata : UInt8) : List UInt8 :=
  [lcddata ||| lcdEn, lcddata &&& ~~~lcdEn]

/-- `write_inst`: one cycle, or two if `cmdtype` is set. -/
def writeInst (lcd : I2CPcfLcd) (data : UInt8) (cmdtype : Bool) : List UInt8 :=
  strobe (if lcd.bkLight = false then hiNibble data else hiNibble data ||| lcdBl) ++
    if cmdtype then
      strobe (if lcd.bkLight = false then loNibble data else loNibble data ||| lcdBl)
    else
      []

/-- `write_data`. -/
def writeData (lcd : I2CPcfLcd) (data : UInt8) : List UInt8 :=
  strobe (if lcd.bkLight = false then hiNibble data ||| lcdRs
    else hiNibble data ||| lcdRs ||| lcdBl) ++
  strobe (if lcd.bkLight = false then loNibble data ||| lcdRs
    else loNibble data ||| lcdRs ||| lcdBl)

/-- `LCD_goto`. -/
def lcdGoto (lcd : I2CPcfLcd) (row : Nat) (column : UInt8) : List UInt8 :=
  lcd.writeInst (lcdLine row + (column - 1)) true

/-- The loop of `print_lcd`, with its counter. -/
def printLcdFrom (lcd : I2CPcfLcd) : Bytes → (i : Nat) → List UInt8
  | [], _ => []
  | c :: ptr, i =>
      if c = 0 then
        []
      else
        lcd.writeData c ++
          if lcd.displayType.width < i + 1 then [] else lcd.printLcdFrom ptr (i + 1)

/-- `print_lcd`. -/
def printLcd (lcd : I2CPcfLcd) (ptr : Bytes) : List UInt8 :=
  lcd.printLcdFrom ptr 1

/-- The sixteen blanks of `clear_display_internal`. -/
def blanks : Bytes :=
  List.replicate 16 32

/-- `clear_display_internal`. -/
def clearDisplayInternal (lcd : I2CPcfLcd) : DisplayLine → List UInt8
  | .line1 => lcd.lcdGoto 1 1 ++ lcd.printLcd blanks
  | .line2 => lcd.lcdGoto 2 1 ++ lcd.printLcd blanks
  | .line3 => lcd.lcdGoto 3 1 ++ lcd.printLcd blanks
  | .line4 => lcd.lcdGoto 4 1 ++ lcd.printLcd blanks
  | .full => lcd.writeInst 0x01 true
  | .other => []

/-- `print_center`. -/
def printCenter (lcd : I2CPcfLcd) (line : DisplayLine) (string : Bytes) : List UInt8 :=
  let len := min (cString string).length lcd.displayType.width
  let indx := UInt8.ofNat ((lcd.displayType.width - len) / 2 + 1)
  lcd.clearDisplayInternal line ++
    (match line with
      | .line1 => lcd.lcdGoto 1 indx
      | .line2 => lcd.lcdGoto 2 indx
      | .line3 => lcd.lcdGoto 3 indx
      | .line4 => lcd.lcdGoto 4 indx
      | _ => []) ++
    lcd.printLcd string

end I2CPcfLcd

/-- The row that `print_line` goes to. -/
def DisplayLine.row : DisplayLine → Nat
  | .line1 => 1
  | .line2 => 2
  | .line3 => 3
  | .line4 => 4
  | _ => 1

namespace I2CPcfLcd

/-- `print_line`; the length of the text is an `int`. -/
def printLine
    (lcd : I2CPcfLcd) (msg : Bytes) (line : DisplayLine) (align : TextAlignment) :
    List UInt8 :=
  let strlen := wrapInt32 (cString msg).length
  let width : Int := lcd.displayType.width
  let len := if strlen > width then width else strlen
  let indx := wrapInt32 (width - len)
  match align with
  | .left => lcd.lcdGoto line.row 1 ++ lcd.printLcd msg
  | .right => lcd.lcdGoto line.row (UInt8.ofInt (indx + 1)) ++ lcd.printLcd msg
  | _ => lcd.printCenter line msg

/-- `init_lcd`. -/
def initLcd (lcd : I2CPcfLcd) : List UInt8 :=
  [0xFF] ++ lcd.writeInst 0x30 false ++ lcd.writeInst 0x30 false ++
    lcd.writeInst 0x30 false ++ lcd.writeInst 0x20 false ++ lcd.writeInst 0x28 true ++
    lcd.writeInst 0x08 true ++ lcd.writeInst 0x01 true ++ lcd.writeInst 0x06 true ++
    lcd.writeInst 0x0C true

end I2CPcfLcd

/-! ## The object and its module -/

/-- An object, and the module with its address on the bus. -/
structure LcdState where
  lcd : I2CPcfLcd
  address : UInt8
  module : Module

/-- Bytes reach the module if they are sent to its address. -/
def LcdState.send (s : LcdState) (bytes : List UInt8) : LcdState :=
  if s.lcd.pcfAddress = s.address then
    { s with module := s.module.writes bytes }
  else
    s

/-- The constructor of `I2CPcfLcd`: the address is the one that answers first. -/
def newLcd (t : PcfDisplayType) (address : UInt8) (m : Module) : LcdState :=
  let probed := if address = 0x3F then m.writes [0xFF] else m
  let lcd : I2CPcfLcd :=
    { displayType := t
      bkLight := true
      pcfAddress := if address = 0x3F then 0x3F else 0x27 }
  { lcd := lcd, address := address, module := probed : LcdState }.send
    (lcd.initLcd ++ lcd.lcdGoto 1 1)

/-- A call of a method. -/
inductive LcdCall where
  | printLine (msg : Bytes) (line : DisplayLine) (align : TextAlignment)
  | setBackLight (sts : Bool)
  | clearDisplay
deriving DecidableEq, Repr

/-- `set_back_light`. -/
def setBackLight (s : LcdState) (sts : Bool) : LcdState :=
  { s with lcd := { s.lcd with bkLight := sts } }.send
    [if sts = false then hiNibble 0 else hiNibble 0 ||| lcdBl]

/-- One call. -/
def lcdStep (s : LcdState) : LcdCall → Option LcdState
  | .printLine msg line align => some (s.send (s.lcd.printLine msg line align))
  | .setBackLight sts => some (setBackLight s sts)
  | .clearDisplay => some (s.send (s.lcd.clearDisplayInternal .full))

/-! ## What is asked of them -/

/-- The line is one that the display has. -/
def DisplayLine.On (line : DisplayLine) (t : PcfDisplayType) : Prop :=
  line ≠ .full ∧ line ≠ .other ∧ line.row ≤ t.height

/-- A text is printed on a line that the display has. -/
def LcdCall.Legal (t : PcfDisplayType) : LcdCall → Prop
  | .printLine _ line _ => line.On t
  | _ => True

/-- The first characters of a text, as many as a row has. -/
def lineText (t : PcfDisplayType) (msg : Bytes) : Bytes :=
  (cString msg).take t.width

/-- The column of the first character. -/
def textColumn (t : PcfDisplayType) (msg : Bytes) : TextAlignment → Nat
  | .left => 0
  | .right => t.width - (lineText t msg).length
  | _ => (t.width - (lineText t msg).length) / 2

/-- The column is one of the text. -/
def InText (t : PcfDisplayType) (msg : Bytes) (align : TextAlignment) (column : Nat) : Prop :=
  textColumn t msg align ≤ column ∧
    column < textColumn t msg align + (lineText t msg).length

/-- What a cell beside the text shows: a blank, or what it has shown before. -/
def besideText (old : Option UInt8) : TextAlignment → Option UInt8
  | .left => old
  | .right => old
  | _ => some 32

/-- What is seen in a row and column of a display. -/
def LcdState.shown (s : LcdState) (t : PcfDisplayType) (row column : Nat) : Option UInt8 :=
  s.module.controller.shown (t.rowStart row) column

/-- The row shows the text at its alignment. -/
def LineShown
    (t : PcfDisplayType) (s s' : LcdState) (msg : Bytes) (row : Nat)
    (align : TextAlignment) : Prop :=
  ∀ column < t.width,
    (InText t msg align column →
      s'.shown t row column = (lineText t msg)[column - textColumn t msg align]?) ∧
    (¬ InText t msg align column →
      s'.shown t row column = besideText (s.shown t row column) align)

/-- The row shows what it has shown before. -/
def RowKept (t : PcfDisplayType) (s s' : LcdState) (row : Nat) : Prop :=
  ∀ column < t.width, s'.shown t row column = s.shown t row column

/-- What a call does to the display. -/
def CallShown (t : PcfDisplayType) (s s' : LcdState) : LcdCall → Prop
  | .printLine msg line align =>
      LineShown t s s' msg line.row align ∧
        ∀ row, 1 ≤ row → row ≤ t.height → row ≠ line.row → RowKept t s s' row
  | .setBackLight _ =>
      s'.module.controller = s.module.controller
  | .clearDisplay =>
      ∀ row column, 1 ≤ row → row ≤ t.height → column < t.width →
        s'.shown t row column = some 32

/-! ## When it is done -/

/--
On a 1604, the line is one of the first two, or nothing is written; the length of a
text that is put to the right is right as an `int`; and behind the sixteen blanks that
a text in the centre is put on, the row is blank beside the text.
-/
def PrintsRight (t : PcfDisplayType) (s : LcdState) : LcdCall → Prop
  | .printLine msg line .left =>
      t = .pcf1604 → line.row ≤ 2 ∨ lineText t msg = []
  | .printLine msg line .right =>
      (t = .pcf1604 → line.row ≤ 2 ∨ lineText t msg = []) ∧
        min (wrapInt32 (cString msg).length) t.width = min (cString msg).length t.width
  | .printLine msg line align =>
      (t = .pcf1604 → line.row ≤ 2) ∧
        ∀ column, 16 ≤ column → column < t.width → ¬ InText t msg align column →
          s.shown t line.row column = some 32
  | _ => True

/-! ## Bytes through the port -/

/-- The lines that carry a nibble, with RS and the back light as they are set. -/
theorem nibble_lines
    (b : UInt8) :
    ∀ f ∈ [(0 : UInt8), 1, 8, 9],
      ((b &&& 0xF0) ||| f) &&& 2 = 0 ∧ ((b &&& 0xF0) ||| f) &&& 1 = f &&& 1 ∧
        ((b &&& 0xF0) ||| f) &&& 0xF0 = b &&& 0xF0 := by
  refine forall_byte
    (p := fun b => ∀ f ∈ [(0 : UInt8), 1, 8, 9],
      ((b &&& 0xF0) ||| f) &&& 2 = 0 ∧ ((b &&& 0xF0) ||| f) &&& 1 = f &&& 1 ∧
        ((b &&& 0xF0) ||| f) &&& 0xF0 = b &&& 0xF0) ?_ b
  decide +kernel

/-- One nibble reaches the controller. -/
theorem writes_strobe
    (m : Module) (b : UInt8) {f : UInt8}
    (hf : f ∈ [(0 : UInt8), 1, 8, 9]) :
    (m.writes (I2CPcfLcd.strobe ((b &&& 0xF0) ||| f))).controller =
      m.controller.nibble (f &&& 1 ≠ 0) (b &&& 0xF0) := by
  obtain ⟨hrw, hrs, hdata⟩ := nibble_lines b f hf
  have hpulse := writes_pulse m ((b &&& 0xF0) ||| f) hrw
  rw [hrs, hdata] at hpulse
  exact congrArg Module.controller hpulse

/-- The bits of the back light and of RS. -/
def I2CPcfLcd.flags (lcd : I2CPcfLcd) (rs : Bool) : UInt8 :=
  if rs then (if lcd.bkLight then 9 else 1) else (if lcd.bkLight then 8 else 0)

theorem flags_mem
    (lcd : I2CPcfLcd) (rs : Bool) :
    lcd.flags rs ∈ [(0 : UInt8), 1, 8, 9] ∧ decide (lcd.flags rs &&& 1 ≠ 0) = rs := by
  unfold I2CPcfLcd.flags
  cases lcd.bkLight <;> cases rs <;> decide

/-- What is put on the lines for an instruction. -/
theorem writeInst_eq
    (lcd : I2CPcfLcd) (data : UInt8) (cmdtype : Bool) :
    lcd.writeInst data cmdtype =
      I2CPcfLcd.strobe (hiNibble data ||| lcd.flags false) ++
        if cmdtype then I2CPcfLcd.strobe (loNibble data ||| lcd.flags false) else [] := by
  unfold I2CPcfLcd.writeInst I2CPcfLcd.flags
  cases lcd.bkLight with
  | true =>
      rfl
  | false =>
      simp

/-- What is put on the lines for a character. -/
theorem writeData_eq
    (lcd : I2CPcfLcd) (data : UInt8) :
    lcd.writeData data =
      I2CPcfLcd.strobe (hiNibble data ||| lcd.flags true) ++
        I2CPcfLcd.strobe (loNibble data ||| lcd.flags true) := by
  unfold I2CPcfLcd.writeData I2CPcfLcd.flags
  cases lcd.bkLight with
  | true =>
      simp only [Bool.true_eq_false, if_false, if_true, UInt8.or_assoc]
      rfl
  | false =>
      rfl

/-- A nibble of an instruction alone. -/
theorem writes_writeInst_nibble
    (m : Module) (lcd : I2CPcfLcd) (data : UInt8) :
    (m.writes (lcd.writeInst data false)).controller =
      m.controller.nibble false (data &&& 0xF0) := by
  obtain ⟨hmem, hrs⟩ := flags_mem lcd false
  rw [writeInst_eq, if_neg Bool.false_ne_true, List.append_nil]
  have h := writes_strobe m data hmem
  rw [hrs] at h
  exact h

/-- In four-bit mode two nibbles transfer their byte. -/
theorem writes_nibbles
    {m : Module}
    (hmode : m.controller.eightBit = false)
    (hpending : m.controller.pending = none)
    (lcd : I2CPcfLcd) (rs : Bool) (data : UInt8) :
    (m.writes
      (I2CPcfLcd.strobe (hiNibble data ||| lcd.flags rs) ++
        I2CPcfLcd.strobe (loNibble data ||| lcd.flags rs))).controller =
      m.controller.transfer rs data := by
  obtain ⟨hmem, hrs⟩ := flags_mem lcd rs
  have hfirst := writes_strobe m data hmem
  have hsecond :=
    writes_strobe (m.writes (I2CPcfLcd.strobe (hiNibble data ||| lcd.flags rs)))
      (data <<< (4 : UInt8)) hmem
  rw [hrs] at hfirst hsecond
  rw [Module.writes_append]
  refine hsecond.trans ?_
  rw [show hiNibble data = data &&& 0xF0 from rfl, hfirst,
    nibble_nibble hmode hpending rs data]

/-- In four-bit mode an instruction is carried out. -/
theorem writes_writeInst
    {m : Module}
    (hmode : m.controller.eightBit = false)
    (hpending : m.controller.pending = none)
    (lcd : I2CPcfLcd) (data : UInt8) :
    (m.writes (lcd.writeInst data true)).controller = m.controller.instruct data := by
  rw [writeInst_eq, if_pos rfl, writes_nibbles hmode hpending]
  rfl

/-- In four-bit mode a character is written. -/
theorem writes_writeData
    {m : Module}
    (hmode : m.controller.eightBit = false)
    (hpending : m.controller.pending = none)
    (lcd : I2CPcfLcd) (data : UInt8) :
    (m.writes (lcd.writeData data)).controller = m.controller.writeCell data := by
  rw [writeData_eq, writes_nibbles hmode hpending]
  rfl

/-- A module in order, with EN low. -/
structure ModuleInOrder (m : Module) : Prop where
  ready : m.controller.Ready
  low : m.port &&& 4 = 0

/-- A strobe leaves EN low. -/
theorem writes_strobe_low
    (m : Module) (lcddata : UInt8) :
    (m.writes (I2CPcfLcd.strobe lcddata)).port &&& 4 = 0 :=
  (pulse_lines lcddata).2.1

theorem writes_writeInst_low
    (m : Module) (lcd : I2CPcfLcd) (data : UInt8) :
    (m.writes (lcd.writeInst data true)).port &&& 4 = 0 := by
  rw [writeInst_eq, if_pos rfl, Module.writes_append]
  exact writes_strobe_low _ _

theorem writes_writeData_low
    (m : Module) (lcd : I2CPcfLcd) (data : UInt8) :
    (m.writes (lcd.writeData data)).port &&& 4 = 0 := by
  rw [writeData_eq, Module.writes_append]
  exact writes_strobe_low _ _

/-- Where the first column of a row is for the driver. -/
def lineAddress (row : Nat) : Nat :=
  if row = 2 then 0x40
  else if row = 3 then 0x14
  else if row = 4 then 0x54
  else 0

/-- The instruction of `LCD_goto` is one for an address. -/
theorem goto_data
    (row : Nat) {column : Nat}
    (hcolumn : column ≤ 20) :
    (lcdLine row + (UInt8.ofNat (column + 1) - 1)).toNat =
      128 + (lineAddress row + column) := by
  have hline :
      (lcdLine row).toNat = 128 + lineAddress row ∧ lineAddress row ≤ 0x54 := by
    unfold lcdLine lineAddress
    split_ifs <;> decide
  have hback : UInt8.ofNat (column + 1) - 1 = UInt8.ofNat column := by
    rw [← UInt8.toNat_inj, UInt8.toNat_sub]
    simp only [UInt8.toNat_ofNat', UInt8.toNat_one]
    omega
  rw [hback, UInt8.toNat_add, hline.1, UInt8.toNat_ofNat']
  omega

/-- `LCD_goto` sets the address and nothing else. -/
theorem writes_lcdGoto
    {m : Module}
    (hm : ModuleInOrder m)
    (lcd : I2CPcfLcd) (row : Nat) {column : Nat}
    (hcolumn : column ≤ 20) :
    ModuleInOrder (m.writes (lcd.lcdGoto row (UInt8.ofNat (column + 1)))) ∧
      (m.writes (lcd.lcdGoto row (UInt8.ofNat (column + 1)))).controller =
        { m.controller with address := lineAddress row + column } := by
  have hdata := goto_data row hcolumn
  have hbound : lineAddress row ≤ 0x54 := by
    unfold lineAddress
    split_ifs <;> decide
  have hready := hm.ready
  have hcontroller :
      (m.writes (lcd.lcdGoto row (UInt8.ofNat (column + 1)))).controller =
        { m.controller with address := lineAddress row + column } := by
    rw [I2CPcfLcd.lcdGoto, writes_writeInst hready.eightBit hready.pending,
      instruct_address _ (by omega), hdata]
    have hmod : (128 + (lineAddress row + column)) % 128 = lineAddress row + column := by
      omega
    rw [hmod, ← hready.inCgram]
  refine ⟨⟨?_, writes_writeInst_low m lcd _⟩, hcontroller⟩
  rw [hcontroller]
  exact hready.moved _ _

/-- `print_lcd` writes the first characters of the text. -/
theorem writes_printLcdFrom
    {m : Module}
    (hm : ModuleInOrder m)
    (lcd : I2CPcfLcd) (ptr : Bytes) {i : Nat}
    (hi : i ≤ lcd.displayType.width) :
    ModuleInOrder (m.writes (lcd.printLcdFrom ptr i)) ∧
      (m.writes (lcd.printLcdFrom ptr i)).controller =
        m.controller.writeText ((cString ptr).take (lcd.displayType.width + 1 - i)) := by
  induction ptr generalizing m i with
  | nil =>
      exact ⟨hm, by simp [I2CPcfLcd.printLcdFrom, Module.writes, Controller.writeText]⟩
  | cons c ptr ih =>
      by_cases hc : c = 0
      · subst hc
        rw [I2CPcfLcd.printLcdFrom, if_pos rfl, cString_zero_cons, List.take_nil]
        exact ⟨hm, rfl⟩
      · have hready := hm.ready
        have hdata := writes_writeData hready.eightBit hready.pending lcd c
        have hm' : ModuleInOrder (m.writes (lcd.writeData c)) := by
          refine ⟨?_, writes_writeData_low m lcd c⟩
          rw [hdata]
          exact hready.writeText [c]
        rw [I2CPcfLcd.printLcdFrom, if_neg hc, cString_cons_of_ne hc, Module.writes_append]
        by_cases hlast : lcd.displayType.width < i + 1
        · have hone : lcd.displayType.width + 1 - i = 1 := by omega
          rw [if_pos hlast, hone]
          exact ⟨hm', hdata⟩
        · have hmore :
              lcd.displayType.width + 1 - i = (lcd.displayType.width + 1 - (i + 1)) + 1 := by
            omega
          rw [if_neg hlast, hmore, List.take_succ_cons]
          obtain ⟨hinOrder, htext⟩ := ih hm' (i := i + 1) (by omega)
          refine ⟨hinOrder, ?_⟩
          rw [htext, hdata]
          rfl

theorem width_pos
    (t : PcfDisplayType) :
    16 ≤ t.width ∧ t.width ≤ 20 := by
  cases t <;> decide

theorem writes_printLcd
    {m : Module}
    (hm : ModuleInOrder m)
    (lcd : I2CPcfLcd) (ptr : Bytes) :
    ModuleInOrder (m.writes (lcd.printLcd ptr)) ∧
      (m.writes (lcd.printLcd ptr)).controller =
        m.controller.writeText (lineText lcd.displayType ptr) := by
  have hwidth := width_pos lcd.displayType
  exact writes_printLcdFrom hm lcd ptr (i := 1) (by omega)

/-- A text at a column of a row: where it goes, and what it leaves. -/
theorem writes_at
    {m : Module}
    (hm : ModuleInOrder m)
    (lcd : I2CPcfLcd) (row : Nat) (ptr : Bytes) {column : Nat}
    (hfit : column + (lineText lcd.displayType ptr).length ≤ 20) :
    ModuleInOrder
        (m.writes (lcd.lcdGoto row (UInt8.ofNat (column + 1)) ++ lcd.printLcd ptr)) ∧
      (m.writes
          (lcd.lcdGoto row (UInt8.ofNat (column + 1)) ++ lcd.printLcd ptr)).controller.cells =
        overlay m.controller.cells (lineAddress row + column)
          (lineText lcd.displayType ptr) := by
  obtain ⟨hm', hgoto⟩ := @writes_lcdGoto m hm lcd row column (by omega)
  obtain ⟨hm'', htext⟩ := writes_printLcd hm' lcd ptr
  rw [Module.writes_append]
  refine ⟨hm'', ?_⟩
  have hline :
      InLine (lineAddress row + column) (lineText lcd.displayType ptr).length := by
    unfold InLine lineAddress
    split_ifs <;> omega
  rw [htext, writeText_cells hm'.ready (by rw [hgoto]; exact hline), hgoto]

/-! ## The constructor -/

/-- A byte with EN high latches nothing. -/
theorem writes_high
    (m : Module) :
    (m.writes [0xFF]).controller = m.controller := by
  have hhigh : ¬ ((0xFF : UInt8) &&& 4 = 0) := by decide
  simp only [Module.writes, List.foldl_cons, List.foldl_nil, Module.write, hhigh, and_false,
    if_false]

/-- The four nibbles that `init_lcd` begins with. -/
theorem writes_synchronise
    (m : Module) (lcd : I2CPcfLcd) :
    let synchronised := ((((m.writes [0xFF]).writes (lcd.writeInst 0x30 false)).writes
      (lcd.writeInst 0x30 false)).writes (lcd.writeInst 0x30 false)).writes
      (lcd.writeInst 0x20 false)
    synchronised.controller.eightBit = false ∧ synchronised.controller.pending = none := by
  simp only [writes_writeInst_nibble, writes_high]
  exact synchronise m.controller

/-- `init_lcd` brings any module in order, and blanks it. -/
theorem writes_initLcd
    (m : Module) (lcd : I2CPcfLcd) :
    ModuleInOrder (m.writes lcd.initLcd) ∧
      (m.writes lcd.initLcd).controller.cells = fun _ => 32 := by
  simp only [I2CPcfLcd.initLcd, Module.writes_append]
  obtain ⟨hmode, hpending⟩ := writes_synchronise m lcd
  generalize ((((m.writes [0xFF]).writes (lcd.writeInst 0x30 false)).writes
    (lcd.writeInst 0x30 false)).writes (lcd.writeInst 0x30 false)).writes
    (lcd.writeInst 0x20 false) = m0 at hmode hpending ⊢
  have hinst :
      ∀ (n : Module) (data : UInt8),
        n.controller.eightBit = false → n.controller.pending = none →
        (n.writes (lcd.writeInst data true)).controller = n.controller.instruct data ∧
          (n.writes (lcd.writeInst data true)).controller.pending = none := by
    intro n data hn hn'
    have hdata := writes_writeInst hn hn' lcd data
    exact ⟨hdata, by rw [hdata, instruct_pending, hn']⟩
  obtain ⟨h1, hpending1⟩ := hinst m0 0x28 hmode hpending
  obtain ⟨h2, hpending2⟩ := hinst _ 0x08 (by rw [h1]; rfl) hpending1
  obtain ⟨h3, hpending3⟩ := hinst _ 0x01 (by rw [h2, h1]; rfl) hpending2
  obtain ⟨h4, hpending4⟩ := hinst _ 0x06 (by rw [h3, h2, h1]; rfl) hpending3
  obtain ⟨h5, hpending5⟩ := hinst _ 0x0C (by rw [h4, h3, h2, h1]; rfl) hpending4
  rw [h4, h3, h2, h1] at h5
  refine ⟨⟨?_, writes_writeInst_low _ lcd 0x0C⟩, ?_⟩
  · exact
      { eightBit := by rw [h5]; rfl
        pending := hpending5
        twoLines := by rw [h5]; rfl
        increment := by rw [h5]; rfl
        shifting := by rw [h5]; rfl
        displayOn := by rw [h5]; rfl
        inCgram := by rw [h5]; rfl
        offset := by rw [h5]; rfl }
  · rw [h5]
    rfl

/-- The object and its module are in order. -/
structure InOrder (s : LcdState) : Prop where
  module : ModuleInOrder s.module
  address : s.lcd.pcfAddress = s.address

/-- What an object in order sends reaches its module. -/
theorem InOrder.send
    {s : LcdState}
    (hs : InOrder s)
    (bytes : List UInt8) :
    s.send bytes = { s with module := s.module.writes bytes } := by
  rw [LcdState.send, if_pos hs.address]

/-- The constructor brings any module at one of the two addresses in order. -/
theorem newLcd_inOrder
    (t : PcfDisplayType) {address : UInt8}
    (haddress : address = 0x3F ∨ address = 0x27)
    (m : Module) :
    InOrder (newLcd t address m) ∧ (newLcd t address m).lcd.displayType = t ∧
      (newLcd t address m).module.controller.cells = fun _ => 32 := by
  have hsame : (if address = 0x3F then (0x3F : UInt8) else 0x27) = address := by
    rcases haddress with rfl | rfl
    · rfl
    · rfl
  simp only [newLcd, LcdState.send, hsame, if_true, Module.writes_append]
  obtain ⟨hm, hcells⟩ := writes_initLcd (if address = 0x3F then m.writes [0xFF] else m)
    { displayType := t, bkLight := true, pcfAddress := address }
  obtain ⟨hm', hgoto⟩ := @writes_lcdGoto _ hm
    { displayType := t, bkLight := true, pcfAddress := address } 1 0 (by decide)
  refine ⟨⟨hm', rfl⟩, trivial, ?_⟩
  exact (congrArg Controller.cells hgoto).trans hcells

/-! ## A line -/

theorem lineText_length
    (t : PcfDisplayType) (msg : Bytes) :
    (lineText t msg).length = min t.width (cString msg).length :=
  List.length_take

/-- The blanks fit on every row. -/
theorem lineText_blanks
    (t : PcfDisplayType) :
    lineText t I2CPcfLcd.blanks = List.replicate 16 32 := by
  cases t <;> decide

/-- The text of a call does not leave its row. -/
theorem textColumn_fits
    (t : PcfDisplayType) (msg : Bytes) (align : TextAlignment) :
    textColumn t msg align + (lineText t msg).length ≤ t.width := by
  have hlength := lineText_length t msg
  cases align with
  | left =>
      simp only [textColumn]
      omega
  | right =>
      simp only [textColumn]
      omega
  | center =>
      simp only [textColumn]
      omega
  | other =>
      simp only [textColumn]
      omega

/-- What the cells hold when the text of a call is put on them. -/
def ground (cells : Nat → UInt8) (row : Nat) : TextAlignment → Nat → UInt8
  | .left => cells
  | .right => cells
  | _ => overlay cells (lineAddress row) (List.replicate 16 32)

/-- What `print_center` does. -/
theorem writes_printCenter
    {m : Module}
    (hm : ModuleInOrder m)
    (lcd : I2CPcfLcd) (msg : Bytes) {line : DisplayLine}
    (hline : line.On lcd.displayType) :
    ModuleInOrder (m.writes (lcd.printCenter line msg)) ∧
      (m.writes (lcd.printCenter line msg)).controller.cells =
        overlay (overlay m.controller.cells (lineAddress line.row) (List.replicate 16 32))
          (lineAddress line.row +
            (lcd.displayType.width - (lineText lcd.displayType msg).length) / 2)
          (lineText lcd.displayType msg) := by
  have hwidth := width_pos lcd.displayType
  have hlength := lineText_length lcd.displayType msg
  have hcenter :
      lcd.printCenter line msg =
        (lcd.lcdGoto line.row (UInt8.ofNat (0 + 1)) ++ lcd.printLcd I2CPcfLcd.blanks) ++
          (lcd.lcdGoto line.row
            (UInt8.ofNat
              ((lcd.displayType.width - (lineText lcd.displayType msg).length) / 2 + 1)) ++
            lcd.printLcd msg) := by
    rw [hlength, Nat.min_comm]
    obtain ⟨hfull, hother, -⟩ := hline
    cases line with
    | line1 | line2 | line3 | line4 =>
        simp only [I2CPcfLcd.printCenter, I2CPcfLcd.clearDisplayInternal, DisplayLine.row,
          List.append_assoc]
        rfl
    | full =>
        exact absurd rfl hfull
    | other =>
        exact absurd rfl hother
  obtain ⟨hm', hblank⟩ := @writes_at m hm lcd line.row I2CPcfLcd.blanks 0
    (by rw [lineText_blanks]; simp)
  obtain ⟨hm'', htext⟩ := @writes_at _ hm' lcd line.row msg
    ((lcd.displayType.width - (lineText lcd.displayType msg).length) / 2) (by omega)
  rw [hcenter, Module.writes_append]
  refine ⟨hm'', ?_⟩
  rw [htext, hblank, lineText_blanks, Nat.add_zero]

/-- What `print_line` does. -/
theorem writes_printLine
    {m : Module}
    (hm : ModuleInOrder m)
    (lcd : I2CPcfLcd) (msg : Bytes) {line : DisplayLine} {align : TextAlignment}
    (hline : line.On lcd.displayType)
    (hright : align = .right →
      min (wrapInt32 (cString msg).length) lcd.displayType.width =
        min (cString msg).length lcd.displayType.width) :
    ModuleInOrder (m.writes (lcd.printLine msg line align)) ∧
      (m.writes (lcd.printLine msg line align)).controller.cells =
        overlay (ground m.controller.cells line.row align)
          (lineAddress line.row + textColumn lcd.displayType msg align)
          (lineText lcd.displayType msg) := by
  have hwidth := width_pos lcd.displayType
  have hlength := lineText_length lcd.displayType msg
  cases align with
  | left =>
      exact @writes_at m hm lcd line.row msg 0 (by omega)
  | right =>
      have hmin := hright rfl
      have hlen :
          (if wrapInt32 (cString msg).length > (lcd.displayType.width : Int) then
              (lcd.displayType.width : Int)
            else
              wrapInt32 (cString msg).length) =
            ((lineText lcd.displayType msg).length : Int) := by
        rw [hlength]
        split
        · omega
        · omega
      have hkept :
          wrapInt32 ((lcd.displayType.width : Int) - (lineText lcd.displayType msg).length) =
            ((lcd.displayType.width - (lineText lcd.displayType msg).length : Nat) : Int) := by
        rw [wrapInt32_of_range (by omega) (by omega)]
        omega
      have hcolumn :
          ∀ k : Nat, k ≤ 20 → UInt8.ofInt ((k : Int) + 1) = UInt8.ofNat (k + 1) := by
        intro k hk
        apply UInt8.toNat_inj.mp
        simp only [UInt8.ofInt, UInt8.toNat_ofNat']
        omega
      have hbytes :
          lcd.printLine msg line .right =
            lcd.lcdGoto line.row
              (UInt8.ofNat
                (lcd.displayType.width - (lineText lcd.displayType msg).length + 1)) ++
              lcd.printLcd msg := by
        simp only [I2CPcfLcd.printLine, hlen, hkept]
        rw [hcolumn _ (by omega)]
      rw [hbytes]
      exact @writes_at m hm lcd line.row msg
        (lcd.displayType.width - (lineText lcd.displayType msg).length) (by omega)
  | center =>
      exact writes_printCenter hm lcd msg hline
  | other =>
      exact writes_printCenter hm lcd msg hline

/-! ## What is seen -/

/-- A display has four rows at most. -/
theorem row_cases
    {t : PcfDisplayType} {row : Nat}
    (hlow : 1 ≤ row)
    (hhigh : row ≤ t.height) :
    row = 1 ∨ row = 2 ∨ row = 3 ∨ row = 4 := by
  have hheight : t.height ≤ 4 := by
    cases t <;> decide
  omega

/-- A row lies in one line of the controller. -/
theorem rowStart_line
    {t : PcfDisplayType} {row column : Nat}
    (hlow : 1 ≤ row)
    (hhigh : row ≤ t.height)
    (hcolumn : column < t.width) :
    t.rowStart row % 64 + column < 40 := by
  rcases row_cases hlow hhigh with rfl | rfl | rfl | rfl <;> cases t <;>
    simp only [PcfDisplayType.rowStart, PcfDisplayType.width, PcfDisplayType.height] at * <;>
    omega

/-- Two rows have no cell in common. -/
theorem rows_disjoint
    {t : PcfDisplayType} {row row' column : Nat}
    (hne : row' ≠ row)
    (hlow : 1 ≤ row) (hhigh : row ≤ t.height)
    (hlow' : 1 ≤ row') (hhigh' : row' ≤ t.height)
    (hcolumn : column < t.width) :
    t.rowStart row' + column < t.rowStart row ∨
      t.rowStart row + t.width ≤ t.rowStart row' + column := by
  rcases row_cases hlow hhigh with rfl | rfl | rfl | rfl <;>
    rcases row_cases hlow' hhigh' with rfl | rfl | rfl | rfl <;> cases t <;>
    simp only [PcfDisplayType.rowStart, PcfDisplayType.width, PcfDisplayType.height] at * <;>
    omega

/-- The driver finds the rows of every display but the lower ones of a 1604. -/
theorem lineAddress_eq
    {t : PcfDisplayType} {row : Nat}
    (hlow : 1 ≤ row)
    (hhigh : row ≤ t.height)
    (hright : t = .pcf1604 → row ≤ 2) :
    lineAddress row = t.rowStart row := by
  have hrow := row_cases hlow hhigh
  cases t with
  | pcf1602 | pcf2002 =>
      rcases hrow with rfl | rfl | rfl | rfl
      · rfl
      · rfl
      · exact absurd hhigh (by decide)
      · exact absurd hhigh (by decide)
  | pcf2004 =>
      rcases hrow with rfl | rfl | rfl | rfl
      · rfl
      · rfl
      · rfl
      · rfl
  | pcf1604 =>
      have hrow := hright rfl
      rcases (by omega : row = 1 ∨ row = 2) with rfl | rfl
      · rfl
      · rfl

/-- An object in order that drives a display of its own type. -/
structure Drives (t : PcfDisplayType) (s : LcdState) : Prop extends InOrder s where
  displayType : s.lcd.displayType = t

/-- In order, a display shows its cells. -/
theorem InOrder.shown
    {s : LcdState}
    (hs : InOrder s)
    {t : PcfDisplayType} {row column : Nat}
    (hlow : 1 ≤ row)
    (hhigh : row ≤ t.height)
    (hcolumn : column < t.width) :
    s.shown t row column = some (s.module.controller.cells (t.rowStart row + column)) :=
  hs.module.ready.shown (rowStart_line hlow hhigh hcolumn)

theorem DisplayLine.On.bounds
    {line : DisplayLine} {t : PcfDisplayType}
    (hline : line.On t) :
    1 ≤ line.row ∧ line.row ≤ t.height := by
  refine ⟨?_, hline.2.2⟩
  cases line <;> decide

/-- The length of a text is right as an `int` wherever it matters. -/
theorem PrintsRight.length
    {t : PcfDisplayType} {s : LcdState} {msg : Bytes} {line : DisplayLine}
    {align : TextAlignment}
    (hright : PrintsRight t s (.printLine msg line align)) :
    align = .right →
      min (wrapInt32 (cString msg).length) t.width = min (cString msg).length t.width := by
  rintro rfl
  exact hright.2

/-- Beside the blanks the cells are as before. -/
theorem ground_outside
    {cells : Nat → UInt8} {row a : Nat} {align : TextAlignment}
    (ha : a < lineAddress row ∨ lineAddress row + 16 ≤ a) :
    ground cells row align a = cells a := by
  cases align with
  | left | right =>
      rfl
  | center | other =>
      exact overlay_outside (by rwa [List.length_replicate])

/-- A column that is not one of the text is in front of it or behind it. -/
theorem beside_of_not_inText
    {t : PcfDisplayType} {msg : Bytes} {align : TextAlignment} {column : Nat}
    (hout : ¬ InText t msg align column) :
    column < textColumn t msg align ∨
      textColumn t msg align + (lineText t msg).length ≤ column := by
  rwa [InText, not_and_or, Nat.not_le, Nat.not_lt] at hout

/-- A cell of a row, when the driver has found the row. -/
theorem lineShown_of_cells
    {t : PcfDisplayType} {s s' : LcdState} {msg : Bytes} {line : DisplayLine}
    {align : TextAlignment}
    (hs : InOrder s) (hs' : InOrder s')
    (hline : line.On t)
    (haddress : lineAddress line.row = t.rowStart line.row)
    (hblank : align ≠ .left → align ≠ .right →
      ∀ column, 16 ≤ column → column < t.width → ¬ InText t msg align column →
        s.shown t line.row column = some 32)
    (hcells : s'.module.controller.cells =
      overlay (ground s.module.controller.cells line.row align)
        (lineAddress line.row + textColumn t msg align) (lineText t msg)) :
    LineShown t s s' msg line.row align := by
  obtain ⟨hlow, hhigh⟩ := hline.bounds
  intro column hcolumn
  rw [hs'.shown hlow hhigh hcolumn, hcells, haddress]
  constructor
  · rintro ⟨hfrom, hto⟩
    have hindex :
        t.rowStart line.row + column - (t.rowStart line.row + textColumn t msg align) =
          column - textColumn t msg align := by
      omega
    rw [← hindex]
    exact (overlay_inside (by omega) (by omega)).symm
  · intro hout
    have hbeside := beside_of_not_inText hout
    rw [overlay_outside (by omega)]
    have hcentered :
        align ≠ .left → align ≠ .right →
          overlay s.module.controller.cells (lineAddress line.row) (List.replicate 16 32)
            (t.rowStart line.row + column) = 32 := by
      intro hleft hright
      by_cases hfirst : column < 16
      · have hin :=
          @overlay_inside s.module.controller.cells (lineAddress line.row)
            (t.rowStart line.row + column) (List.replicate 16 32) (by omega)
            (by rw [List.length_replicate]; omega)
        rw [List.getElem?_replicate, if_pos (by omega)] at hin
        exact (Option.some.inj hin).symm
      · have hsame := hblank hleft hright column (by omega) hcolumn hout
        rw [hs.shown hlow hhigh hcolumn] at hsame
        rw [overlay_outside (by rw [List.length_replicate]; omega)]
        exact Option.some.inj hsame
    cases align with
    | left =>
        exact (hs.shown hlow hhigh hcolumn).symm
    | right =>
        exact (hs.shown hlow hhigh hcolumn).symm
    | center =>
        exact congrArg some (hcentered (by decide) (by decide))
    | other =>
        exact congrArg some (hcentered (by decide) (by decide))

/-- The other rows, when the driver has found the row. -/
theorem rowKept_of_cells
    {t : PcfDisplayType} {s s' : LcdState} {msg : Bytes} {line : DisplayLine}
    {align : TextAlignment} {row : Nat}
    (hs : InOrder s) (hs' : InOrder s')
    (hline : line.On t)
    (haddress : lineAddress line.row = t.rowStart line.row)
    (hlow : 1 ≤ row)
    (hhigh : row ≤ t.height)
    (hne : row ≠ line.row)
    (hcells : s'.module.controller.cells =
      overlay (ground s.module.controller.cells line.row align)
        (lineAddress line.row + textColumn t msg align) (lineText t msg)) :
    RowKept t s s' row := by
  obtain ⟨hlow', hhigh'⟩ := hline.bounds
  have hwidth := width_pos t
  have hfits := textColumn_fits t msg align
  intro column hcolumn
  have haway := rows_disjoint hne hlow' hhigh' hlow hhigh hcolumn
  rw [hs'.shown hlow hhigh hcolumn, hs.shown hlow hhigh hcolumn, hcells, haddress,
    overlay_outside (by omega), ground_outside (by omega)]

/-- `set_back_light` has no nibble latched. -/
theorem setBackLight_kept
    {t : PcfDisplayType} {s : LcdState}
    (hs : Drives t s)
    (sts : Bool) :
    Drives t (setBackLight s sts) ∧
      (setBackLight s sts).module.controller = s.module.controller := by
  have hlow :
      (if sts = false then hiNibble 0 else hiNibble 0 ||| lcdBl) &&& 4 = 0 := by
    cases sts <;> decide
  have hsend :
      setBackLight s sts =
        { s with
          lcd := { s.lcd with bkLight := sts }
          module :=
            { port := if sts = false then hiNibble 0 else hiNibble 0 ||| lcdBl
              controller := s.module.controller } } := by
    have hnot : ¬ s.module.port &&& 4 ≠ 0 := not_not.mpr hs.module.low
    simp only [setBackLight, LcdState.send, hs.address, if_true, Module.writes,
      List.foldl_cons, List.foldl_nil, Module.write, hnot, false_and, if_false]
  rw [hsend]
  exact ⟨⟨⟨⟨hs.module.ready, hlow⟩, hs.address⟩, hs.displayType⟩, rfl⟩

/-- `clear_display` blanks every cell. -/
theorem clearDisplay_blank
    {t : PcfDisplayType} {s : LcdState}
    (hs : Drives t s) :
    Drives t (s.send (s.lcd.clearDisplayInternal .full)) ∧
      (s.send (s.lcd.clearDisplayInternal .full)).module.controller.cells = fun _ => 32 := by
  have hready := hs.module.ready
  have hcontroller := writes_writeInst hready.eightBit hready.pending s.lcd 0x01
  rw [hs.send]
  refine ⟨⟨⟨⟨?_, writes_writeInst_low s.module s.lcd 0x01⟩, hs.address⟩, hs.displayType⟩, ?_⟩
  · refine (congrArg Controller.Ready hcontroller).mpr ?_
    exact ⟨hready.eightBit, hready.pending, hready.twoLines, rfl, hready.shifting,
      hready.displayOn, rfl, rfl⟩
  · exact congrArg Controller.cells hcontroller

/-- `print_line` keeps the display in order, and what it leaves in the cells. -/
theorem printLine_cells
    {t : PcfDisplayType} {s : LcdState} {msg : Bytes} {line : DisplayLine}
    {align : TextAlignment}
    (hs : Drives t s)
    (hline : line.On t)
    (hlength : align = .right →
      min (wrapInt32 (cString msg).length) t.width = min (cString msg).length t.width) :
    Drives t (s.send (s.lcd.printLine msg line align)) ∧
      (s.send (s.lcd.printLine msg line align)).module.controller.cells =
        overlay (ground s.module.controller.cells line.row align)
          (lineAddress line.row + textColumn t msg align) (lineText t msg) := by
  have htype := hs.displayType
  obtain ⟨hm, hcells⟩ := @writes_printLine s.module hs.module s.lcd msg line align
    (by rw [htype]; exact hline) (by rw [htype]; exact hlength)
  rw [hs.send]
  rw [htype] at hcells
  exact ⟨⟨⟨hm, hs.address⟩, htype⟩, hcells⟩

/-- A line is shown right when the driver has found its row. -/
theorem printLine_found
    {t : PcfDisplayType} {s : LcdState} {msg : Bytes} {line : DisplayLine}
    {align : TextAlignment}
    (hs : Drives t s)
    (hline : line.On t)
    (hright : PrintsRight t s (.printLine msg line align))
    (hrow : t = .pcf1604 → line.row ≤ 2)
    (hblank : align ≠ .left → align ≠ .right →
      ∀ column, 16 ≤ column → column < t.width → ¬ InText t msg align column →
        s.shown t line.row column = some 32) :
    CallShown t s (s.send (s.lcd.printLine msg line align)) (.printLine msg line align) := by
  obtain ⟨hs', hcells⟩ := printLine_cells hs hline hright.length
  obtain ⟨hlow, hhigh⟩ := hline.bounds
  have haddress := lineAddress_eq hlow hhigh hrow
  constructor
  · exact lineShown_of_cells hs.toInOrder hs'.toInOrder hline haddress hblank hcells
  · intro row hlow' hhigh' hne
    exact rowKept_of_cells hs.toInOrder hs'.toInOrder hline haddress hlow' hhigh' hne hcells

/-- A text of no characters at one end of a row leaves the display as it is. -/
theorem printLine_nothing
    {t : PcfDisplayType} {s : LcdState} {msg : Bytes} {line : DisplayLine}
    {align : TextAlignment}
    (hs : Drives t s)
    (hline : line.On t)
    (hright : PrintsRight t s (.printLine msg line align))
    (halign : align = .left ∨ align = .right)
    (hempty : lineText t msg = []) :
    CallShown t s (s.send (s.lcd.printLine msg line align)) (.printLine msg line align) := by
  obtain ⟨hs', hcells⟩ := printLine_cells hs hline hright.length
  obtain ⟨hlow, hhigh⟩ := hline.bounds
  have hground : ground s.module.controller.cells line.row align =
      s.module.controller.cells := by
    rcases halign with rfl | rfl
    · rfl
    · rfl
  have hbeside : ∀ old, besideText old align = old := by
    rcases halign with rfl | rfl
    · exact fun _ => rfl
    · exact fun _ => rfl
  rw [hempty, overlay_nil, hground] at hcells
  have hkept :
      ∀ row, 1 ≤ row → row ≤ t.height →
        RowKept t s (s.send (s.lcd.printLine msg line align)) row := by
    intro row hlow' hhigh' column hcolumn
    rw [hs'.shown hlow' hhigh' hcolumn, hs.shown hlow' hhigh' hcolumn, hcells]
  refine ⟨?_, fun row hlow' hhigh' _ => hkept row hlow' hhigh'⟩
  intro column hcolumn
  rw [hkept line.row hlow hhigh column hcolumn, hbeside]
  refine ⟨?_, fun _ => rfl⟩
  rintro ⟨hfrom, hto⟩
  rw [hempty, List.length_nil] at hto
  omega

/-- A text at one end of a row. -/
theorem printLine_end
    {t : PcfDisplayType} {s : LcdState} {msg : Bytes} {line : DisplayLine}
    {align : TextAlignment}
    (hs : Drives t s)
    (hline : line.On t)
    (hright : PrintsRight t s (.printLine msg line align))
    (halign : align = .left ∨ align = .right)
    (hwhere : t = .pcf1604 → line.row ≤ 2 ∨ lineText t msg = []) :
    CallShown t s (s.send (s.lcd.printLine msg line align)) (.printLine msg line align) := by
  by_cases hrow : t = .pcf1604 → line.row ≤ 2
  · refine printLine_found hs hline hright hrow ?_
    intro hleft hright'
    exact (halign.elim hleft hright').elim
  · rw [Classical.not_imp] at hrow
    exact printLine_nothing hs hline hright halign ((hwhere hrow.1).resolve_left hrow.2)

/-- A call on a display in order does what it is asked to. -/
theorem callShown_of_printsRight
    {t : PcfDisplayType} {s s' : LcdState} {call : LcdCall}
    (hs : Drives t s)
    (hlegal : call.Legal t)
    (hright : PrintsRight t s call)
    (hstep : lcdStep s call = some s') :
    Drives t s' ∧ CallShown t s s' call := by
  cases call with
  | setBackLight sts =>
      obtain rfl := Option.some.inj hstep
      exact setBackLight_kept hs sts
  | clearDisplay =>
      obtain rfl := Option.some.inj hstep
      obtain ⟨hs', hcells⟩ := clearDisplay_blank hs
      refine ⟨hs', ?_⟩
      intro row column hlow hhigh hcolumn
      rw [hs'.shown hlow hhigh hcolumn, hcells]
  | printLine msg line align =>
      obtain rfl := Option.some.inj hstep
      refine ⟨(printLine_cells hs hlegal hright.length).1, ?_⟩
      cases align with
      | left =>
          exact printLine_end hs hlegal hright (Or.inl rfl) hright
      | right =>
          exact printLine_end hs hlegal hright (Or.inr rfl) hright.1
      | center | other =>
          exact printLine_found hs hlegal hright hright.1 (fun _ _ => hright.2)

/-- Every call can be made. -/
theorem lcdStep_total
    (s : LcdState) (call : LcdCall) :
    ∃ s', lcdStep s call = some s' := by
  cases call with
  | printLine msg line align =>
      exact ⟨_, rfl⟩
  | setBackLight sts =>
      exact ⟨_, rfl⟩
  | clearDisplay =>
      exact ⟨_, rfl⟩

/--
In a run from the constructor, on any module at one of the two addresses, whose calls
all print right, every call does what it is asked to.
-/
theorem lcdRun_shown
    (t : PcfDisplayType) {address : UInt8}
    (haddress : address = 0x3F ∨ address = 0x27)
    (m : Module) {calls : List LcdCall}
    (hlegal : ∀ call ∈ calls, call.Legal t)
    (hmeets : Meets lcdStep (PrintsRight t) (newLcd t address m) calls) :
    ∀ pre call, pre ++ [call] <+: calls →
      ∃ s s', run lcdStep (newLcd t address m) pre = some s ∧ lcdStep s call = some s' ∧
        CallShown t s s' call := by
  rintro pre call ⟨post, rfl⟩
  obtain ⟨hnew, htype, -⟩ := newLcd_inOrder t haddress m
  have hboth := meets_and hmeets (meets_of_forall (newLcd t address m) hlegal)
  have hfirst := meets_append hboth
  obtain ⟨s, hs⟩ := exists_run_of_total lcdStep_total (newLcd t address m) pre
  obtain ⟨s', hs'⟩ := lcdStep_total s call
  have hdrives : Drives t s :=
    run_invariant_of_meets
      (fun u l v hu hl hstep => (callShown_of_printsRight hu hl.2 hl.1 hstep).1)
      ⟨hnew, htype⟩ (meets_append hfirst) hs
  have hcall := meets_last hfirst hs
  exact ⟨s, s', hs, hs', (callShown_of_printsRight hdrives hcall.2 hcall.1 hs').2⟩

/-- A module as it is switched on: eight-bit mode, and the port high. -/
def newModule : Module where
  port := 0xFF
  controller :=
    { eightBit := true
      pending := none
      twoLines := false
      increment := true
      shifting := false
      displayOn := false
      inCgram := false
      address := 0
      offset := 0
      cells := fun _ => 32 }

/-- `"Hi"` in the centre of row 1 of a 1602, and on the right of row 2 with the light out. -/
theorem lcdRun_shown_hi :
    ∃ s s',
      run lcdStep (newLcd .pcf1602 0x27 newModule)
          [.printLine [72, 105] .line1 .center, .setBackLight false] = some s ∧
        lcdStep s (.printLine [72, 105] .line2 .right) = some s' ∧
        CallShown .pcf1602 s s' (.printLine [72, 105] .line2 .right) := by
  refine @lcdRun_shown .pcf1602 0x27 (Or.inr rfl) newModule
    [.printLine [72, 105] .line1 .center, .setBackLight false,
      .printLine [72, 105] .line2 .right] ?_ ?_
    [.printLine [72, 105] .line1 .center, .setBackLight false] _ (List.prefix_refl _)
  · intro call hcall
    simp only [List.mem_cons, List.not_mem_nil, or_false] at hcall
    rcases hcall with rfl | rfl | rfl
    · exact ⟨by decide, by decide, by decide⟩
    · trivial
    · exact ⟨by decide, by decide, by decide⟩
  · refine ⟨⟨by decide, ?_⟩, trivial, ⟨by decide, by decide⟩, trivial⟩
    intro column hlow hhigh
    have : column < 16 := hhigh
    omega

/--
`"Hi"` on row 3 of a 1604 is not at the start of the row, and in the centre of a 2002
it leaves the last of the twenty characters that have been there before.
-/
theorem not_lcdRun_shown :
    (∃ s', lcdStep (newLcd .pcf1604 0x27 newModule) (.printLine [72, 105] .line3 .left) =
        some s' ∧
      ¬ CallShown .pcf1604 (newLcd .pcf1604 0x27 newModule) s'
        (.printLine [72, 105] .line3 .left)) ∧
    ∃ s s',
      run lcdStep (newLcd .pcf2002 0x27 newModule)
          [.printLine (List.replicate 20 88) .line1 .left] = some s ∧
        lcdStep s (.printLine [72, 105] .line1 .center) = some s' ∧
        ¬ CallShown .pcf2002 s s' (.printLine [72, 105] .line1 .center) := by
  constructor
  · refine ⟨_, rfl, ?_⟩
    rintro ⟨hshown, -⟩
    obtain ⟨hnew, htype, hblank⟩ := @newLcd_inOrder .pcf1604 0x27 (Or.inr rfl) newModule
    obtain ⟨hs', hcells⟩ := @printLine_cells .pcf1604 _ [72, 105] .line3 .left ⟨hnew, htype⟩
      ⟨by decide, by decide, by decide⟩ (by decide)
    have hfirst := (hshown 0 (by decide)).1 ⟨by decide, by decide⟩
    rw [hs'.shown (by decide) (by decide) (by decide), hcells, hblank] at hfirst
    exact absurd hfirst (by decide)
  · refine ⟨_, _, rfl, rfl, ?_⟩
    rintro ⟨hshown, -⟩
    obtain ⟨hnew, htype, hblank⟩ := @newLcd_inOrder .pcf2002 0x27 (Or.inr rfl) newModule
    obtain ⟨hs, hcells⟩ := @printLine_cells .pcf2002 _ (List.replicate 20 88) .line1 .left
      ⟨hnew, htype⟩ ⟨by decide, by decide, by decide⟩ (by decide)
    obtain ⟨hs', hcells'⟩ := @printLine_cells .pcf2002 _ [72, 105] .line1 .center hs
      ⟨by decide, by decide, by decide⟩ (by decide)
    have hlast := (hshown 19 (by decide)).2 (by rintro ⟨-, h⟩; exact absurd h (by decide))
    rw [hs'.shown (by decide) (by decide) (by decide), hcells', hcells, hblank] at hlast
    exact absurd hlast (by decide)

end Adav
end BrBox
