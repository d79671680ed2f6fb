import BrBox.Lib.Overlay
import Mathlib.Data.Nat.Bitwise

/-!
# Graphic displays in page addressing mode

The controllers SSD1306 and SH1106 behind an I2C bus: eight rows of pixels form a page, a
byte of the memory is a column of one page, and the data that is written goes to the columns
of one page, one behind the other.

* `instruct_page`, `instruct_lower`, `instruct_upper`: the commands that set the position.
* `receive_position`: the three of them in one transfer.
* `receive_data`: what a block of data that stays inside its page leaves in the memory.
-/

namespace BrBox
namespace PageDisplay

open Overlay

/-- The bytes of one I2C write. -/
abbrev Transfer := List UInt8

/-- The controller, with its memory by pages and columns. -/
structure Module where
  /-- The columns of the memory: 128 in an SSD1306, 132 in an SH1106. -/
  columns : Nat
  page : Nat
  column : Nat
  ram : Nat → Nat → UInt8

/-- The commands that have one argument or two behind them. -/
def arguments (command : UInt8) : Nat :=
  if command ∈ ([0x20, 0x81, 0x8D, 0xA8, 0xAD, 0xD3, 0xD5, 0xD9, 0xDA, 0xDB, 0xDC] :
      List UInt8) then
    1
  else if command ∈ ([0x21, 0x22, 0xA3] : List UInt8) then
    2
  else
    0

namespace Module

/-- A command; those that set up the panel leave the memory and its pointers alone. -/
def instruct (m : Module) (command : UInt8) : Module :=
  if command.toNat < 0x10 then
    { m with column := m.column / 16 * 16 + command.toNat }
  else if command.toNat < 0x20 then
    { m with column := m.column % 16 + 16 * (command.toNat - 0x10) }
  else if 0xB0 ≤ command.toNat ∧ command.toNat < 0xC0 then
    { m with page := command.toNat - 0xB0 }
  else
    m

/-- Commands, the first bytes of which are arguments of a command before them. -/
def commands (m : Module) : (skip : Nat) → List UInt8 → Module
  | _, [] => m
  | 0, command :: rest => (m.instruct command).commands (arguments command) rest
  | skip + 1, _ :: rest => m.commands skip rest

/-- A byte of data; behind the last column the first one of the same page follows. -/
def writeData (m : Module) (b : UInt8) : Module where
  columns := m.columns
  page := m.page
  column := if m.column + 1 = m.columns then 0 else m.column + 1
  ram := Function.update m.ram m.page (Function.update (m.ram m.page) m.column b)

/-- A write to the address of the module, the first byte of which tells what the rest is. -/
def receive (m : Module) (transfer : Transfer) : Module :=
  match transfer with
  | [] => m
  | control :: rest =>
      if control = 0x00 then
        m.commands 0 rest
      else if control = 0x40 then
        rest.foldl writeData m
      else
        m

/-- The writes that the module acknowledges; it sees nothing of the others. -/
def receiveSome (m : Module) (acknowledged : Nat → Bool) : List Transfer → Module
  | [] => m
  | transfer :: transfers =>
      (if acknowledged 0 then m.receive transfer else m).receiveSome
        (fun n => acknowledged (n + 1)) transfers

variable {m : Module}

theorem instruct_lower
    {n : Nat}
    (hn : n < 16) :
    m.instruct (UInt8.ofNat n) = { m with column := m.column / 16 * 16 + n } := by
  have htoNat : (UInt8.ofNat n).toNat = n := by
    rw [UInt8.toNat_ofNat']
    exact Nat.mod_eq_of_lt (by omega)
  rw [instruct, htoNat, if_pos hn]

theorem instruct_upper
    {n : Nat}
    (hn : n < 16) :
    m.instruct (UInt8.ofNat (16 + n)) = { m with column := m.column % 16 + 16 * n } := by
  have htoNat : (UInt8.ofNat (16 + n)).toNat = 16 + n := by
    rw [UInt8.toNat_ofNat']
    exact Nat.mod_eq_of_lt (by omega)
  rw [instruct, htoNat, if_neg (by omega), if_pos (by omega), Nat.add_sub_cancel_left]

theorem instruct_page
    {n : Nat}
    (hn : n < 16) :
    m.instruct (UInt8.ofNat (0xB0 + n)) = { m with page := n } := by
  have htoNat : (UInt8.ofNat (0xB0 + n)).toNat = 0xB0 + n := by
    rw [UInt8.toNat_ofNat']
    exact Nat.mod_eq_of_lt (by omega)
  rw [instruct, htoNat, if_neg (by omega), if_neg (by omega), if_pos (by omega),
    Nat.add_sub_cancel_left]

/-- A command below 32 or that of a page has no argument. -/
theorem arguments_position
    {n : Nat}
    (hn : n < 32 ∨ 0xB0 ≤ n ∧ n < 0xC0) :
    arguments (UInt8.ofNat n) = 0 := by
  have htoNat : (UInt8.ofNat n).toNat = n := by
    rw [UInt8.toNat_ofNat']
    exact Nat.mod_eq_of_lt (by omega)
  have hne : ∀ c : UInt8, 32 ≤ c.toNat ∧ c.toNat < 0xB0 ∨ 0xC0 ≤ c.toNat →
      UInt8.ofNat n ≠ c := by
    rintro c hc rfl
    omega
  rw [arguments, if_neg, if_neg]
  all_goals
    simp only [List.mem_cons, List.not_mem_nil, or_false, not_or]
    refine ⟨hne _ (by decide), ?_⟩
    repeat' first | exact hne _ (by decide) | refine ⟨hne _ (by decide), ?_⟩

/-- Page, lower half and upper half of the column. -/
theorem receive_position
    {page column : Nat}
    (hpage : page < 16)
    (hcolumn : column < 256) :
    m.receive [0x00, UInt8.ofNat (0xB0 ||| page), UInt8.ofNat (column &&& 0xF),
        UInt8.ofNat (0x10 ||| column >>> 4)] =
      { m with page := page, column := column } := by
  have hor : 0xB0 ||| page = 0xB0 + page := by
    exact (Nat.two_pow_add_eq_or_of_lt (i := 4) hpage 11).symm
  have hand : column &&& 0xF = column % 16 := by
    exact Nat.and_two_pow_sub_one_eq_mod column 4
  have hshift : column >>> 4 = column / 16 := by
    rw [Nat.shiftRight_eq_div_pow]
  have hupper : 0x10 ||| column / 16 = 16 + column / 16 := by
    have hlt : column / 16 < 2 ^ 4 := by omega
    exact (Nat.two_pow_add_eq_or_of_lt hlt 1).symm
  rw [hor, hand, hshift, hupper, receive, if_pos rfl, commands,
    arguments_position (.inr (by omega)), instruct_page hpage, commands,
    arguments_position (.inl (by omega)), instruct_lower (Nat.mod_lt _ (by decide)), commands,
    arguments_position (.inl (by omega)), instruct_upper (by omega), commands]
  congr 1
  show (m.column / 16 * 16 + column % 16) % 16 + 16 * (column / 16) = column
  omega

/-- A block of data that does not go beyond the last column. -/
theorem foldl_writeData
    (data : List UInt8)
    (hfit : m.column + data.length ≤ m.columns)
    (hcolumn : m.column < m.columns) :
    data.foldl writeData m =
      { m with
        column := if m.column + data.length = m.columns then 0 else m.column + data.length
        ram := Function.update m.ram m.page (overlay (m.ram m.page) m.column data) } := by
  induction data generalizing m with
  | nil =>
      rw [List.foldl_nil, overlay_nil, Function.update_eq_self, List.length_nil, Nat.add_zero,
        if_neg (Nat.ne_of_lt hcolumn)]
  | cons b data ih =>
      rw [List.length_cons] at hfit
      rw [List.foldl_cons]
      by_cases hlast : m.column + 1 = m.columns
      · -- the last column is written by the last byte
        have hnil : data = [] := List.eq_nil_of_length_eq_zero (by omega)
        subst hnil
        rw [List.foldl_nil, overlay_cons, overlay_nil, writeData, if_pos hlast]
        simp [hlast]
      · have hnext : (m.writeData b).column = m.column + 1 := if_neg hlast
        have hcolumns : (m.writeData b).columns = m.columns := rfl
        rw [ih (by omega) (by omega), hnext, hcolumns, List.length_cons, overlay_cons]
        have hram : (m.writeData b).ram (m.writeData b).page =
            Function.update (m.ram m.page) m.column b := Function.update_self ..
        rw [hram]
        have hassoc : m.column + 1 + data.length = m.column + (data.length + 1) := by omega
        simp [writeData, hassoc]

theorem receive_data
    (data : List UInt8)
    (hfit : m.column + data.length ≤ m.columns)
    (hcolumn : m.column < m.columns) :
    m.receive (0x40 :: data) =
      { m with
        column := if m.column + data.length = m.columns then 0 else m.column + data.length
        ram := Function.update m.ram m.page (overlay (m.ram m.page) m.column data) } := by
  rw [receive, if_neg (by decide), if_pos rfl, foldl_writeData data hfit hcolumn]

@[simp] theorem columns_instruct
    (command : UInt8) :
    (m.instruct command).columns = m.columns := by
  unfold instruct
  split_ifs <;> rfl

@[simp] theorem columns_commands
    (skip : Nat)
    (bytes : List UInt8) :
    (m.commands skip bytes).columns = m.columns := by
  induction bytes generalizing m skip with
  | nil =>
      cases skip <;> rfl
  | cons command rest ih =>
      cases skip with
      | zero =>
          rw [commands, ih, columns_instruct]
      | succ skip =>
          rw [commands, ih]

@[simp] theorem columns_foldl_writeData
    (data : List UInt8) :
    (data.foldl writeData m).columns = m.columns := by
  induction data generalizing m with
  | nil =>
      rfl
  | cons b data ih =>
      rw [List.foldl_cons, ih]
      rfl

/-- No transfer changes how many columns there are. -/
@[simp] theorem columns_receive
    (transfer : Transfer) :
    (m.receive transfer).columns = m.columns := by
  unfold receive
  split
  · rfl
  · split_ifs
    · exact columns_commands _ _
    · exact columns_foldl_writeData _
    · rfl

@[simp] theorem columns_receiveSome
    (acknowledged : Nat → Bool)
    (transfers : List Transfer) :
    (m.receiveSome acknowledged transfers).columns = m.columns := by
  induction transfers generalizing m acknowledged with
  | nil =>
      rfl
  | cons transfer transfers ih =>
      rw [receiveSome, ih]
      split_ifs
      · exact columns_receive _
      · rfl

/-- All transfers are acknowledged. -/
theorem receiveSome_true
    (transfers : List Transfer) :
    m.receiveSome (fun _ => true) transfers = transfers.foldl receive m := by
  induction transfers generalizing m with
  | nil =>
      rfl
  | cons transfer transfers ih =>
      rw [receiveSome, if_pos rfl, ih, List.foldl_cons]

end Module

end PageDisplay
end BrBox
