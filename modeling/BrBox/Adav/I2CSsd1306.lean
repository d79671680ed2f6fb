import BrBox.Adav.SsOled
import BrBox.Adav.TaskWorker
import BrBox.Lib.LabelledRun

/-!
# A graphic display

`I2CSsd1306` prints texts in the middle of the rows of an OLED display.  A state is the data
of the library and the module on the bus; a label is a call of a method together with the
writes that the module acknowledges while it runs.

* `initDisplayNew_ready`: what the constructor leaves if it succeeds.
* `ssdRun_safe_iff`: the runs that stay inside the font.
* `ssdRun_shown`: whatever has been lost before, after a cleared display both the buffer and
  the module show what the calls since then have drawn.
* `printLine_lost_iff`: the texts that are reported as printed and are not sent at all.
-/

namespace BrBox
namespace Adav

open CText
open LabelledRun
open Overlay
open PageDisplay

/-- The type that `init_display_new` takes for one of `ADLIB_DISPLAY_TYPE_TABL`. -/
def ssd1306Type (devType : String) : OledType :=
  if devType = "ssd1306_128x32" then .oled128x32
  else if devType = "ssd1306_128x64" then .oled128x64
  else .oled128x32

/-- `init_display_new`, in a new object. -/
def initDisplayNew (devType : String) (ucBackBuf : Nat → Byte) (env : OledEnv) :
    RpcSrvResult × Drawing :=
  let (i, drawing) := oledInit (ssd1306Type devType) (-1) true false env
  if i ≠ -1 then
    (.success,
      thenDraw drawing fun o => oledFill (oledSetBackBuffer o (some ucBackBuf)) 0 true)
  else
    (.fail, drawing)

/-- `clear_display`. -/
def SsOled.clearDisplay (o : SsOled) : RpcSrvResult × Drawing :=
  (.success, oledFill o 0 true)

/-- The column of `writeCenter`; `size_t` has this many bits. -/
def ssdCenter (sizeBits : Nat) (text : Bytes) : Int :=
  wrapInt32 ((128 - (text.length : Int) * 8) % 2 ^ sizeBits / 2)

/-- `writeCenter`. -/
def SsOled.writeCenter (o : SsOled) (sizeBits : Nat) (text : Bytes) (row : Nat) : Drawing :=
  (oledWriteString o 0 (ssdCenter sizeBits text) row text false true).2

/-- `print_line`; the values of `DISPLAY_LINE` for the lines 1 to 8 are 0 to 7. -/
def SsOled.printLine (o : SsOled) (sizeBits : Nat) (msg : Bytes) (line : Nat) :
    RpcSrvResult × Drawing :=
  if line < 8 then
    (.success, o.writeCenter sizeBits (cString msg) line)
  else
    (.argError, some (o, []))

/-! ## The object and its module -/

/-- The library's data, and the module on the bus. -/
structure SsdState where
  ssoled : SsOled
  module : Module

/-- A call of a method. -/
inductive SsdCall where
  | clearDisplay
  | printLine (msg : Bytes) (line : Nat)
deriving DecidableEq, Repr

/-- What a call draws. -/
def SsdCall.drawing (sizeBits : Nat) (o : SsOled) : SsdCall → Drawing
  | .clearDisplay => o.clearDisplay.2
  | .printLine msg line => (o.printLine sizeBits msg line).2

/-- A drawing on a bus that loses writes. -/
def Drawing.onBus (drawing : Drawing) (m : Module) (acknowledged : Nat → Bool) :
    Option SsdState :=
  drawing.map fun r => { ssoled := r.1, module := m.receiveSome acknowledged r.2 }

/-- One call, with the writes that are acknowledged; it is none once an array is left. -/
def ssdStep (sizeBits : Nat) (s : SsdState) (label : SsdCall × (Nat → Bool)) :
    Option SsdState :=
  Drawing.onBus (label.1.drawing sizeBits s.ssoled) s.module label.2

/-- The constructor; there is no object to work with unless it succeeds. -/
def newSsd (devType : String) (ucBackBuf : Nat → Byte) (env : OledEnv) (m : Module)
    (acknowledged : Nat → Bool) : Option SsdState :=
  if (initDisplayNew devType ucBackBuf env).1 = .success then
    Drawing.onBus (initDisplayNew devType ucBackBuf env).2 m acknowledged
  else
    none

/-! ## What is asked of them -/

/-- The rows of a display. -/
def ssdLines (devType : String) : Nat :=
  if devType = "ssd1306_128x64" then 8 else 4

/-- The first visible column; an SH1106 tells itself by its status. -/
def ssdShift (env : OledEnv) : Nat :=
  if env.status &&& 0x0F = 0x8 then 2 else 0

/-- The column that a text is drawn from, which is behind the right edge from 128 on. -/
def ssdStart (text : Bytes) : Nat :=
  ((64 - 4 * (text.length : Int)) % 256).toNat

/-- The characters that reach the display. -/
def ssdVisible (text : Bytes) : Bytes :=
  text.take ((128 - ssdStart text + 7) / 8)

/-- The text that a call draws has a place on the display. -/
def OnDisplay (lines : Nat) (msg : Bytes) (line : Nat) : Prop :=
  line < lines ∧ ssdStart (cString msg) < 128

instance decidableOnDisplay (lines : Nat) (msg : Bytes) (line : Nat) :
    Decidable (OnDisplay lines msg line) :=
  inferInstanceAs (Decidable (_ ∧ _))

/-- The characters that a call draws are in the font. -/
def SsdCall.InFont (lines : Nat) : SsdCall → Prop
  | .clearDisplay => True
  | .printLine msg line =>
      OnDisplay lines msg line → ∀ c ∈ ssdVisible (cString msg), Printable c

/-- What a call makes of a picture. -/
def SsdCall.draw (lines : Nat) (picture : Nat → Nat → Byte) : SsdCall → Nat → Nat → Byte
  | .clearDisplay => fun _ _ => 0
  | .printLine msg line =>
      if OnDisplay lines msg line then
        paint picture line (ssdStart (cString msg))
          ((textColumns false (ssdVisible (cString msg))).take (128 - ssdStart (cString msg)))
      else
        picture

/-- The library draws on the rows of this module. -/
structure DrawsOn (s : SsdState) (shift lines : Nat) : Prop where
  ready : Ready s.ssoled shift lines
  wide : 128 + shift ≤ s.module.columns

/-- Buffer and module show the same picture. -/
structure ShowsBoth
    (s : SsdState) (shift lines : Nat) (picture : Nat → Nat → Byte) : Prop where
  buffered : Buffered s.ssoled lines picture
  displayed : Displayed s.module shift lines picture

section Start

variable {devType : String}
variable {ucBackBuf : Nat → Byte}
variable {env : OledEnv}

theorem ssd1306Type_cases
    (devType : String) :
    ssd1306Type devType = .oled128x64 ∧ ssdLines devType = 8 ∨
      ssd1306Type devType = .oled128x32 ∧ ssdLines devType = 4 := by
  rw [ssd1306Type, ssdLines]
  by_cases hbig : devType = "ssd1306_128x64"
  · subst hbig
    exact .inl ⟨by decide, rfl⟩
  · rw [if_neg hbig, if_neg hbig, ite_self]
    exact .inr ⟨rfl, rfl⟩

/-- A controller of another kind is seen by its status only. -/
theorem detectOled_cases
    (iType : OledType)
    (env : OledEnv) :
    (detectOled iType env.status).2 = .oled132x64 ∧ ssdShift env = 2 ∨
      ((detectOled iType env.status).2 = iType ∨
        (detectOled iType env.status).2 = .oled128x128) ∧ ssdShift env = 0 := by
  rw [detectOled, ssdShift]
  by_cases hsh1106 : env.status &&& 0x0F = 0x8
  · rw [hsh1106]
    exact .inl ⟨rfl, rfl⟩
  · refine .inr ⟨?_, if_neg hsh1106⟩
    simp only [hsh1106, if_false]
    split_ifs
    · exact .inr rfl
    · exact .inl rfl
    · exact .inl rfl

/-- A display of 128 columns is ready once it has a buffer. -/
theorem ready_new
    {o : SsOled}
    (hscreen : o.ucScreen.isSome = true)
    (hsize : (o.oledX, o.oledY) = (ssd1306Type devType).size)
    (hnoWrap : o.oledWrap = false)
    (htype : o.oledType = (detectOled (ssd1306Type devType) env.status).2) :
    Ready o (ssdShift env) (ssdLines devType) := by
  have hrows : o.oledX = 128 ∧ o.oledY = 8 * ssdLines devType ∧ ssdLines devType ≤ 8 ∧
      (ssd1306Type devType = .oled128x64 ∨ ssd1306Type devType = .oled128x32) := by
    rcases ssd1306Type_cases devType with ⟨hbig, hlines⟩ | ⟨hsmall, hlines⟩
    · rw [hbig] at hsize
      obtain ⟨hwidth, hheight⟩ := Prod.mk.inj hsize
      exact ⟨hwidth, by omega, by omega, .inl hbig⟩
    · rw [hsmall] at hsize
      obtain ⟨hwidth, hheight⟩ := Prod.mk.inj hsize
      exact ⟨hwidth, by omega, by omega, .inr hsmall⟩
  obtain ⟨hwidth, hheight, hlines, hkind⟩ := hrows
  have hseen : ssdShift env ≤ 2 ∧ (∀ x y, o.visible x y = (x + ssdShift env, y)) ∧
      o.oledType ≠ .oled72x40 := by
    rcases detectOled_cases (ssd1306Type devType) env with ⟨hother, hshift⟩ | ⟨hother, hshift⟩
    · rw [hshift, htype, hother]
      refine ⟨Nat.le_refl 2, fun x y => ?_, by decide⟩
      rw [SsOled.visible, htype, hother]
    · have hplain : o.oledType = .oled128x64 ∨ o.oledType = .oled128x32 ∨
          o.oledType = .oled128x128 := by
        rw [htype]
        rcases hother with hother | hother
        · rw [hother]
          exact hkind.imp_right .inl
        · exact .inr (.inr hother)
      rw [hshift]
      refine ⟨Nat.zero_le 2, fun x y => ?_, ?_⟩
      · rw [SsOled.visible]
        rcases hplain with h | h | h <;> rw [h] <;> rfl
      · rcases hplain with h | h | h <;> rw [h] <;> decide
  exact
    { screen := hscreen
      width := hwidth
      height := by omega
      size := by rw [hwidth]; omega
      lines_le := hlines
      shift_le := hseen.1
      noWrap := hnoWrap
      visible := hseen.2.1
      notNarrow := hseen.2.2 }

/-- What `oledInit` leaves if it finds a display. -/
theorem oledInit_found
    {iType : OledType}
    {iAddr : Int}
    {bFlip bInvert : Bool}
    (hfound : (oledInit iType iAddr bFlip bInvert env).1 ≠ -1) :
    ∃ o sent, (oledInit iType iAddr bFlip bInvert env).2 = some (o, sent) ∧
      o.oledWrap = false ∧ o.oledType = (detectOled iType env.status).2 ∧
      (o.oledX, o.oledY) = iType.size := by
  rw [oledInit] at hfound ⊢
  cases haddress : oledAddress iAddr env with
  | none =>
      rw [haddress] at hfound
      exact absurd rfl hfound
  | some address =>
      exact ⟨_, _, rfl, rfl, rfl, rfl⟩

/-- The constructor that succeeds leaves the library with the rows of the display. -/
theorem initDisplayNew_ready
    (hsuccess : (initDisplayNew devType ucBackBuf env).1 = .success) :
    ∃ o sent, (initDisplayNew devType ucBackBuf env).2 = some (o, sent) ∧
      Ready o (ssdShift env) (ssdLines devType) := by
  rw [initDisplayNew] at hsuccess ⊢
  by_cases hfound : (oledInit (ssd1306Type devType) (-1) true false env).1 = -1
  · simp only [hfound, ne_eq, not_true, if_false] at hsuccess
    exact absurd hsuccess (by decide)
  · simp only [hfound, ne_eq, not_false_iff, if_true]
    obtain ⟨o, sent, hinit, hnoWrap, htype, hsize⟩ := oledInit_found hfound
    obtain ⟨o', more, hfill, hready, -⟩ := oledFill_spec 0
      (ready_new (o := oledSetBackBuffer o (some ucBackBuf)) rfl hsize hnoWrap htype)
    rw [hinit, thenDraw_some, hfill]
    exact ⟨o', sent ++ more, rfl, hready⟩

end Start

section Texts

variable {sizeBits : Nat}

theorem ssdCenter_emod
    (hsize : 32 ≤ sizeBits)
    (text : Bytes) :
    ssdCenter sizeBits text % 256 = (64 - 4 * (text.length : Int)) % 256 := by
  obtain ⟨k, rfl⟩ := Nat.exists_eq_add_of_le hsize
  have hpow : (2 : Int) ^ (32 + k) = 512 * (2 ^ 23 * 2 ^ k) := by
    rw [pow_add, ← Int.mul_assoc]
    rfl
  have hwrap := wrapInt32_emod ((128 - (text.length : Int) * 8) % 2 ^ (32 + k) / 2)
  rw [← ssdCenter] at hwrap
  have hdiv := Int.emod_add_mul_ediv (128 - (text.length : Int) * 8) (2 ^ (32 + k))
  rw [hpow, Int.mul_assoc] at hdiv
  rw [hpow] at hwrap
  omega

/-- The column and the row of a text; none of them is -1. -/
theorem setCursor_ssdCenter
    (hsize : 32 ≤ sizeBits)
    (o : SsOled)
    (text : Bytes)
    {row : Nat}
    (hrow : row < 8) :
    o.setCursor (ssdCenter sizeBits text) row =
      { o with cursorX := ssdStart text, cursorY := row } := by
  have hcenter := ssdCenter_emod hsize text
  have hcolumn : (ssdCenter sizeBits text % 256).toNat = ssdStart text := by
    rw [hcenter, ssdStart]
  have hsame : ((row : Int) % 256).toNat = row := by omega
  rw [SsOled.setCursor, if_neg (by omega), hcolumn, hsame]

variable {o : SsOled}
variable {shift lines : Nat}

/-- Nothing of a text is drawn unless it has a place on the display. -/
theorem printLine_off
    (hready : Ready o shift lines)
    (hsize : 32 ≤ sizeBits)
    {msg : Bytes}
    {line : Nat}
    (hoff : ¬ OnDisplay lines msg line) :
    ∃ o', (o.printLine sizeBits msg line).2 = some (o', []) ∧ Ready o' shift lines ∧
      o'.screen = o.screen := by
  rw [SsOled.printLine]
  by_cases hrow : line < 8
  · have hcursor := setCursor_ssdCenter hsize o (cString msg) hrow
    have hplace : 128 ≤ (o.setCursor (ssdCenter sizeBits (cString msg)) line).cursorX ∨
        lines ≤ (o.setCursor (ssdCenter sizeBits (cString msg)) line).cursorY := by
      rw [hcursor]
      show 128 ≤ ssdStart (cString msg) ∨ lines ≤ line
      rw [OnDisplay, not_and_or, Nat.not_lt, Nat.not_lt] at hoff
      exact hoff.symm
    rw [if_pos hrow, SsOled.writeCenter, oledWriteString_off false hready hplace]
    exact ⟨_, rfl, hready.setCursor _ _, screen_setCursor o _ _⟩
  · rw [if_neg hrow]
    exact ⟨o, rfl, hready, rfl⟩

/-- A text that has a place on the display is safe if what is seen of it is in the font. -/
theorem printLine_isSome_iff
    (hready : Ready o shift lines)
    (hsize : 32 ≤ sizeBits)
    {msg : Bytes}
    {line : Nat}
    (hon : OnDisplay lines msg line) :
    (o.printLine sizeBits msg line).2.isSome = true ↔
      ∀ c ∈ ssdVisible (cString msg), Printable c := by
  have hlines := hready.lines_le
  have hrow : line < 8 := Nat.lt_of_lt_of_le hon.1 hlines
  have hcursor := setCursor_ssdCenter hsize o (cString msg) hrow
  have hsafe := oledWriteString_isSome_iff false hready (ssdCenter sizeBits (cString msg)) line 0
    (zero_not_mem_cString msg)
  rw [hcursor] at hsafe
  simp only [Nat.zero_div, Nat.zero_mod, Nat.add_zero, List.drop_zero] at hsafe
  rw [SsOled.printLine, if_pos hrow, SsOled.writeCenter]
  refine hsafe.trans ⟨?_, fun h => .inr (.inr h)⟩
  rintro (hx | hy | h)
  · exact absurd hon.2 (Nat.not_lt.mpr hx)
  · exact absurd hon.1 (Nat.not_lt.mpr hy)
  · exact h

/-- A text that has a place on the display is sent behind its position. -/
theorem printLine_sends
    (hready : Ready o shift lines)
    (hsize : 32 ≤ sizeBits)
    {msg : Bytes}
    {line : Nat}
    (hon : OnDisplay lines msg line) :
    (o.printLine sizeBits msg line).2.map Prod.snd ≠ some [] := by
  have hlines := hready.lines_le
  have hrow : line < 8 := Nat.lt_of_lt_of_le hon.1 hlines
  have hcursor := setCursor_ssdCenter hsize o (cString msg) hrow
  have hloop := oledWriteString_on false hready
    (x := ssdCenter sizeBits (cString msg)) (y := line) (by rw [hcursor]; exact hon.2)
    (by rw [hcursor]; exact hon.1) 0 (zero_not_mem_cString msg)
  rw [SsOled.printLine, if_pos hrow, SsOled.writeCenter]
  rw [Nat.cast_zero] at hloop
  rw [hloop, ← Prod.mk.eta (p := oledSetPosition _ _ _ true), thenDraw_some, Option.map_map]
  intro hnone
  obtain ⟨r, -, hsent⟩ := Option.map_eq_some_iff.mp hnone
  exact absurd hsent (List.cons_ne_nil _ _)

/-- A text of this length starts behind the right edge. -/
theorem le_ssdStart_iff
    (text : Bytes) :
    128 ≤ ssdStart text ↔ 17 ≤ text.length % 64 ∧ text.length % 64 ≤ 48 := by
  rw [ssdStart]
  omega

/-- A text that has a place on the display is painted there. -/
theorem printLine_on
    (hready : Ready o shift lines)
    (hsize : 32 ≤ sizeBits)
    {msg : Bytes}
    {line : Nat}
    (hon : OnDisplay lines msg line)
    (hprintable : ∀ c ∈ ssdVisible (cString msg), Printable c) :
    ∃ o' sent,
      (o.printLine sizeBits msg line).2 = some (o', sent) ∧ Ready o' shift lines ∧
        o'.screen =
          overlay o.screen (line * 128 + ssdStart (cString msg))
            ((textColumns false (ssdVisible (cString msg))).take
              (128 - ssdStart (cString msg))) ∧
        ∀ m : Module, 128 + shift ≤ m.columns →
          (sent.foldl Module.receive m).ram =
            Function.update m.ram line
              (overlay (m.ram line) (ssdStart (cString msg) + shift)
                ((textColumns false (ssdVisible (cString msg))).take
                  (128 - ssdStart (cString msg)))) := by
  have hlines := hready.lines_le
  have hrow : line < 8 := Nat.lt_of_lt_of_le hon.1 hlines
  have hcursor := setCursor_ssdCenter hsize o (cString msg) hrow
  have hseen := oledWriteString_take false hready (ssdCenter sizeBits (cString msg)) line
    (cString msg)
  rw [hcursor] at hseen
  obtain ⟨o', sent, hwrite, hready', hscreen, hram⟩ := oledWriteString_spec false hready
    (x := ssdCenter sizeBits (cString msg)) (y := line) (by rw [hcursor]; exact hon.2)
    (by rw [hcursor]; exact hon.1) hprintable 0
  rw [hcursor] at hscreen hram
  refine ⟨o', sent, ?_, hready', hscreen, hram⟩
  rw [SsOled.printLine, if_pos hrow, SsOled.writeCenter]
  exact congrArg Prod.snd (hseen.symm.trans hwrite)

end Texts

section Calls

variable {sizeBits : Nat}
variable {s : SsdState}
variable {shift lines : Nat}

/-- A call that stays inside the font draws the same on any buffer and on any memory. -/
theorem drawing_spec
    {o : SsOled}
    (hready : Ready o shift lines)
    (hsize : 32 ≤ sizeBits)
    {call : SsdCall}
    (hfont : call.InFont lines) :
    ∃ o' sent, call.drawing sizeBits o = some (o', sent) ∧ Ready o' shift lines ∧
      (∀ picture, Buffered o lines picture → Buffered o' lines (call.draw lines picture)) ∧
      ∀ m : Module, 128 + shift ≤ m.columns → ∀ picture, Displayed m shift lines picture →
        Displayed (sent.foldl Module.receive m) shift lines (call.draw lines picture) := by
  cases call with
  | clearDisplay =>
      obtain ⟨o', sent, hfill, hready', hbuffered, hdisplayed⟩ := oledFill_spec 0 hready
      exact ⟨o', sent, hfill, hready', fun _ _ => hbuffered, fun m hwide _ _ =>
        hdisplayed m hwide⟩
  | printLine msg line =>
      by_cases hon : OnDisplay lines msg line
      · obtain ⟨o', sent, hprint, hready', hscreen, hram⟩ :=
          printLine_on hready hsize hon (hfont hon)
        refine ⟨o', sent, hprint, hready', fun picture hold => ?_, fun m hwide picture hold => ?_⟩
        · rw [SsdCall.draw, if_pos hon]
          refine hold.paint ?_ hscreen
          rw [List.length_take]
          have hstart := hon.2
          omega
        · rw [SsdCall.draw, if_pos hon]
          exact hold.paint (hram m hwide)
      · obtain ⟨o', hprint, hready', hscreen⟩ := printLine_off hready hsize hon
        refine ⟨o', [], hprint, hready', fun picture hold => ?_, fun m _ picture hold => ?_⟩
        · rw [SsdCall.draw, if_neg hon]
          intro y hy x hx
          rw [hscreen]
          exact hold y hy x hx
        · rw [SsdCall.draw, if_neg hon]
          exact hold

/-- Whatever is acknowledged, the library stays with its rows. -/
theorem DrawsOn.step
    (hdraws : DrawsOn s shift lines)
    (hsize : 32 ≤ sizeBits)
    {label : SsdCall × (Nat → Bool)}
    (hfont : label.1.InFont lines) :
    ∃ s', ssdStep sizeBits s label = some s' ∧ DrawsOn s' shift lines := by
  obtain ⟨o', sent, hdrawing, hready', -⟩ := drawing_spec hdraws.ready hsize hfont
  refine ⟨_, by rw [ssdStep, Drawing.onBus, hdrawing]; rfl, hready', ?_⟩
  rw [Module.columns_receiveSome]
  exact hdraws.wide

/-- A character that is not in the font. -/
theorem DrawsOn.step_none
    (hdraws : DrawsOn s shift lines)
    (hsize : 32 ≤ sizeBits)
    {label : SsdCall × (Nat → Bool)}
    (hfont : ¬ label.1.InFont lines) :
    ssdStep sizeBits s label = none := by
  obtain ⟨call, acknowledged⟩ := label
  cases call with
  | clearDisplay =>
      exact absurd trivial hfont
  | printLine msg line =>
      rw [SsdCall.InFont, Classical.not_imp] at hfont
      have hnone := mt (printLine_isSome_iff hdraws.ready hsize hfont.1).mp hfont.2
      rw [Option.not_isSome_iff_eq_none] at hnone
      rw [ssdStep, Drawing.onBus, SsdCall.drawing, hnone, Option.map_none]

/-- Calls with lost writes. -/
theorem DrawsOn.run
    (hdraws : DrawsOn s shift lines)
    (hsize : 32 ≤ sizeBits)
    (labels : List (SsdCall × (Nat → Bool)))
    (hfont : ∀ label ∈ labels, label.1.InFont lines) :
    ∃ s', LabelledRun.run (ssdStep sizeBits) s labels = some s' ∧ DrawsOn s' shift lines := by
  induction labels generalizing s with
  | nil =>
      exact ⟨s, rfl, hdraws⟩
  | cons label labels ih =>
      obtain ⟨s', hstep, hdraws'⟩ := hdraws.step hsize (hfont label List.mem_cons_self)
      obtain ⟨t, hrun, hend⟩ := ih hdraws' fun l hl => hfont l (List.mem_cons_of_mem label hl)
      refine ⟨t, ?_, hend⟩
      rw [LabelledRun.run, hstep]
      exact hrun

/-- A run is safe up to its first character that is not in the font. -/
theorem DrawsOn.run_isSome_iff
    (hdraws : DrawsOn s shift lines)
    (hsize : 32 ≤ sizeBits)
    (labels : List (SsdCall × (Nat → Bool))) :
    (LabelledRun.run (ssdStep sizeBits) s labels).isSome = true ↔
      ∀ label ∈ labels, label.1.InFont lines := by
  induction labels generalizing s with
  | nil =>
      exact iff_of_true rfl fun label hlabel => absurd hlabel List.not_mem_nil
  | cons label labels ih =>
      rw [List.forall_mem_cons, LabelledRun.run]
      by_cases hfont : label.1.InFont lines
      · obtain ⟨s', hstep, hdraws'⟩ := hdraws.step hsize hfont
        rw [hstep, and_iff_right hfont]
        exact ih hdraws'
      · rw [hdraws.step_none hsize hfont]
        exact iff_of_false Bool.false_ne_true fun h => hfont h.1

/-- A call that is acknowledged, on a buffer and a memory that may differ. -/
theorem ssdStep_acknowledged
    (hdraws : DrawsOn s shift lines)
    (hsize : 32 ≤ sizeBits)
    {call : SsdCall}
    (hfont : call.InFont lines) :
    ∃ s', ssdStep sizeBits s (call, fun _ => true) = some s' ∧ DrawsOn s' shift lines ∧
      (∀ picture, Buffered s.ssoled lines picture →
        Buffered s'.ssoled lines (call.draw lines picture)) ∧
      ∀ picture, Displayed s.module shift lines picture →
        Displayed s'.module shift lines (call.draw lines picture) := by
  obtain ⟨o', sent, hdrawing, hready', hbuffered, hdisplayed⟩ :=
    drawing_spec hdraws.ready hsize hfont
  refine ⟨{ ssoled := o', module := sent.foldl Module.receive s.module }, ?_, ⟨hready', ?_⟩,
    hbuffered, hdisplayed s.module hdraws.wide⟩
  · rw [ssdStep, Drawing.onBus, hdrawing, Option.map_some, Module.receiveSome_true]
  · rw [← Module.receiveSome_true, Module.columns_receiveSome]
    exact hdraws.wide

/-- Calls that are acknowledged keep both pictures together. -/
theorem ShowsBoth.run
    {picture : Nat → Nat → Byte}
    (hshows : ShowsBoth s shift lines picture)
    (hdraws : DrawsOn s shift lines)
    (hsize : 32 ≤ sizeBits)
    (calls : List SsdCall)
    (hfont : ∀ call ∈ calls, call.InFont lines) :
    ∃ s', LabelledRun.run (ssdStep sizeBits) s (calls.map fun call => (call, fun _ => true)) =
        some s' ∧
      ShowsBoth s' shift lines (calls.foldl (SsdCall.draw lines) picture) := by
  induction calls generalizing s picture with
  | nil =>
      exact ⟨s, rfl, hshows⟩
  | cons call calls ih =>
      obtain ⟨s', hstep, hdraws', hbuffered, hdisplayed⟩ :=
        ssdStep_acknowledged hdraws hsize (hfont call List.mem_cons_self)
      obtain ⟨t, hrun, hend⟩ := ih
        ⟨hbuffered picture hshows.buffered, hdisplayed picture hshows.displayed⟩ hdraws'
        fun c hc => hfont c (List.mem_cons_of_mem call hc)
      refine ⟨t, ?_, hend⟩
      rw [List.map_cons, LabelledRun.run, hstep]
      exact hrun

end Calls

/-! ## Runs from the constructor on -/

section Runs

variable {devType : String}
variable {ucBackBuf : Nat → Byte}
variable {env : OledEnv}
variable {m : Module}
variable {acknowledged : Nat → Bool}
variable {s : SsdState}
variable {sizeBits : Nat}

theorem exists_newSsd
    (hsuccess : (initDisplayNew devType ucBackBuf env).1 = .success)
    (m : Module)
    (acknowledged : Nat → Bool) :
    ∃ s, newSsd devType ucBackBuf env m acknowledged = some s := by
  obtain ⟨o, sent, hinit, -⟩ := initDisplayNew_ready hsuccess
  refine ⟨{ ssoled := o, module := m.receiveSome acknowledged sent }, ?_⟩
  rw [newSsd, if_pos hsuccess, hinit, Drawing.onBus, Option.map_some]

theorem newSsd_drawsOn
    (hwide : 128 + ssdShift env ≤ m.columns)
    (hnew : newSsd devType ucBackBuf env m acknowledged = some s) :
    DrawsOn s (ssdShift env) (ssdLines devType) := by
  rw [newSsd] at hnew
  split_ifs at hnew with hsuccess
  obtain ⟨o, sent, hinit, hready⟩ := initDisplayNew_ready hsuccess
  rw [hinit, Drawing.onBus, Option.map_some] at hnew
  obtain rfl := Option.some.inj hnew
  refine ⟨hready, ?_⟩
  rw [Module.columns_receiveSome]
  exact hwide

/-- An SH1106 with all that its memory may hold. -/
def sh1106Module : Module where
  columns := 132
  page := 5
  column := 77
  ram := fun _ _ => 0xA5

/-- An SH1106 that answers at its usual address. -/
def sh1106Env : OledEnv where
  answers := fun address => address = 0x3C
  status := 0x48

/-- A run leaves the font with its first visible character that is not in it, or never. -/
theorem ssdRun_safe_iff
    (hwide : 128 + ssdShift env ≤ m.columns)
    (hnew : newSsd devType ucBackBuf env m acknowledged = some s)
    (hsize : 32 ≤ sizeBits)
    (labels : List (SsdCall × (Nat → Bool))) :
    (run (ssdStep sizeBits) s labels).isSome = true ↔
      ∀ label ∈ labels, label.1.InFont (ssdLines devType) := by
  exact (newSsd_drawsOn hwide hnew).run_isSome_iff hsize labels

theorem ssdRun_safe_iff_sample :
    ∃ s, newSsd "ssd1306_128x64" (fun _ => 0) sh1106Env sh1106Module (fun _ => true) = some s ∧
      ¬ (run (ssdStep 32) s [(.printLine [72, 195, 182] 0, fun _ => true)]).isSome = true := by
  obtain ⟨s, hnew⟩ := exists_newSsd
    (show (initDisplayNew "ssd1306_128x64" (fun _ => 0) sh1106Env).1 = .success by decide)
    sh1106Module fun _ => true
  refine ⟨s, hnew, fun hsafe => ?_⟩
  have hfont := (ssdRun_safe_iff (by decide) hnew (by decide) _).mp hsafe _
    List.mem_cons_self
  exact absurd (hfont (by decide)) (by decide)

/--
Writes that are lost, in the constructor or later, leave a display that differs from the
buffer; once it has been cleared both show what has been drawn since.
-/
theorem ssdRun_shown
    (hwide : 128 + ssdShift env ≤ m.columns)
    (hnew : newSsd devType ucBackBuf env m acknowledged = some s)
    (hsize : 32 ≤ sizeBits)
    (before : List (SsdCall × (Nat → Bool)))
    (hbefore : ∀ label ∈ before, label.1.InFont (ssdLines devType))
    (after : List SsdCall)
    (hafter : ∀ call ∈ after, call.InFont (ssdLines devType)) :
    ∃ s', run (ssdStep sizeBits) s
          (before ++ (.clearDisplay, fun _ => true) ::
            after.map fun call => (call, fun _ => true)) = some s' ∧
      ShowsBoth s' (ssdShift env) (ssdLines devType)
        (after.foldl (SsdCall.draw (ssdLines devType)) fun _ _ => 0) := by
  obtain ⟨t, hrun, hdraws⟩ := (newSsd_drawsOn hwide hnew).run hsize before hbefore
  obtain ⟨u, hclear, hdraws', hbuffered, hdisplayed⟩ :=
    ssdStep_acknowledged hdraws hsize
      (show SsdCall.InFont (ssdLines devType) .clearDisplay from trivial)
  -- the cleared picture does not depend on what has been there
  obtain ⟨s', hrest, hshows⟩ := ShowsBoth.run
    ⟨hbuffered (fun y x => t.ssoled.screen (y * 128 + x)) fun _ _ _ _ => rfl,
      hdisplayed (fun y x => t.module.ram y (x + ssdShift env)) fun _ _ _ _ => rfl⟩
    hdraws' hsize after hafter
  refine ⟨s', ?_, hshows⟩
  rw [run_append, hrun, Option.bind_some, run, hclear]
  exact hrest

theorem ssdRun_shown_sample :
    ∃ s s', newSsd "ssd1306_128x64" (fun _ => 7) sh1106Env sh1106Module (fun n => n % 3 = 0) =
        some s ∧
      run (ssdStep 32) s
          [(.printLine [65] 0, fun _ => false), (.clearDisplay, fun _ => true),
            (.printLine [66, 67] 1, fun _ => true)] = some s' ∧
      ShowsBoth s' 2 8
        (paint (fun _ _ => 0) 1 56 ((textColumns false [66, 67]).take 72)) := by
  obtain ⟨s, hnew⟩ := exists_newSsd
    (show (initDisplayNew "ssd1306_128x64" (fun _ => 7) sh1106Env).1 = .success by decide)
    sh1106Module fun n => n % 3 = 0
  obtain ⟨s', hrun, hshows⟩ := ssdRun_shown (by decide) hnew (Nat.le_refl 32)
    [(.printLine [65] 0, fun _ => false)]
    (by
      intro label hlabel
      rw [List.mem_singleton] at hlabel
      subst hlabel
      exact fun _ => by decide)
    [.printLine [66, 67] 1]
    (by
      intro call hcall
      rw [List.mem_singleton] at hcall
      subst hcall
      exact fun _ => by decide)
  exact ⟨s, s', hnew, hrun, hshows⟩

/--
In every state that is reached, these are the texts that are reported as printed although
nothing is sent: those for a row the display does not have, and those of 17 to 48 characters,
or as many more as a multiple of 64.
-/
theorem printLine_lost_iff
    (hwide : 128 + ssdShift env ≤ m.columns)
    (hnew : newSsd devType ucBackBuf env m acknowledged = some s)
    (hsize : 32 ≤ sizeBits)
    {labels : List (SsdCall × (Nat → Bool))}
    {t : SsdState}
    (hrun : run (ssdStep sizeBits) s labels = some t)
    (msg : Bytes)
    (line : Nat) :
    (t.ssoled.printLine sizeBits msg line).1 = .success ∧
        ((t.ssoled.printLine sizeBits msg line).2.map Prod.snd) = some [] ↔
      line < 8 ∧ (ssdLines devType ≤ line ∨
        17 ≤ (cString msg).length % 64 ∧ (cString msg).length % 64 ≤ 48) := by
  have hdraws := newSsd_drawsOn hwide hnew
  have hfont := (hdraws.run_isSome_iff hsize labels).mp (by rw [hrun]; rfl)
  obtain ⟨t', hrun', hdraws'⟩ := hdraws.run hsize labels hfont
  obtain rfl := Option.some.inj (hrun.symm.trans hrun')
  have hplace := le_ssdStart_iff (cString msg)
  constructor
  · rintro ⟨hresult, hnothing⟩
    have hrow : line < 8 := by
      by_contra hrow
      rw [SsOled.printLine, if_neg hrow] at hresult
      exact absurd hresult (by simp)
    have hoff : ¬ OnDisplay (ssdLines devType) msg line := fun hon =>
      printLine_sends hdraws'.ready hsize hon hnothing
    rw [OnDisplay, not_and_or, Nat.not_lt, Nat.not_lt, hplace] at hoff
    exact ⟨hrow, hoff⟩
  · rintro ⟨hrow, hlost⟩
    have hoff : ¬ OnDisplay (ssdLines devType) msg line := by
      rw [OnDisplay, not_and_or, Nat.not_lt, Nat.not_lt, hplace]
      exact hlost
    obtain ⟨o', hprint, -⟩ := printLine_off hdraws'.ready hsize hoff
    refine ⟨?_, by rw [hprint]; rfl⟩
    rw [SsOled.printLine, if_pos hrow]

theorem printLine_lost_iff_seventeen :
    ∃ s, newSsd "ssd1306_128x64" (fun _ => 0) sh1106Env sh1106Module (fun _ => true) = some s ∧
      (s.ssoled.printLine 32 (List.replicate 17 65) 0).1 = .success ∧
        (s.ssoled.printLine 32 (List.replicate 17 65) 0).2.map Prod.snd = some [] := by
  obtain ⟨s, hnew⟩ := exists_newSsd
    (show (initDisplayNew "ssd1306_128x64" (fun _ => 0) sh1106Env).1 = .success by decide)
    sh1106Module fun _ => true
  have hlost := printLine_lost_iff (by decide) hnew (Nat.le_refl 32) (run_nil s)
    (List.replicate 17 65) 0
  exact ⟨s, hnew, hlost.mpr (by decide)⟩

end Runs

end Adav
end BrBox
