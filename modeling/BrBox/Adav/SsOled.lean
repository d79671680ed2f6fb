import BrBox.Lib.CText
import BrBox.Lib.PageDisplay

/-!
# The OLED library

`ss_oled` keeps a copy of the display's memory in a buffer, draws into both, and reads back
from neither.  A drawing is what a call leaves in the library's own data and what it writes
to the bus; it is none where the library would leave an array.

* `oledFill_spec`, `oledWriteString_spec`: what a call leaves in the buffer and in the module.
* `oledWriteString_isSome_iff`: when a text stays inside the font.
* `oledDumpBuffer_shows_iff`: when a dump, which leaves out what it thinks is there, is seen.
-/

namespace BrBox
namespace Adav

open CText
open Overlay
open PageDisplay

/-- `OLED_128x128` to `OLED_72x40`. -/
inductive OledType where
  | oled128x128
  | oled128x32
  | oled128x64
  | oled132x64
  | oled64x32
  | oled96x16
  | oled72x40
deriving DecidableEq, Repr

/-- `SSOLED`, without the numbers of the bus and the address. -/
structure SsOled where
  oledWrap : Bool
  oledFlip : Bool
  oledType : OledType
  /-- The back buffer; `ucBackBuf` has 1024 bytes. -/
  ucScreen : Option (Nat → Byte)
  cursorX : Nat
  cursorY : Nat
  oledX : Nat
  oledY : Nat
  screenOffset : Nat

/-- A call leaves this behind and has written this, unless it has left an array. -/
abbrev Drawing := Option (SsOled × List Transfer)

/-- One drawing behind the other. -/
def thenDraw (drawing : Drawing) (next : SsOled → Drawing) : Drawing :=
  match drawing with
  | none => none
  | some (o, sent) =>
      match next o with
      | none => none
      | some (o', more) => some (o', sent ++ more)

/-- A drawing for each of some numbers. -/
def drawEach (draw : SsOled → Nat → Drawing) : List Nat → SsOled → Drawing
  | [], o => some (o, [])
  | n :: ns, o => thenDraw (draw o n) (drawEach draw ns)

/-- `ucFont`, the 96 characters from the space on, seven columns each. -/
def ucFont : Bytes :=
  [
    0x00, 0x00, 0x00, 0x00, 0x00, 0x00, 0x00, 0x00, 0x00, 0x06, 0x5f, 0x5f, 0x06, 0x00,
    0x00, 0x07, 0x07, 0x00, 0x07, 0x07, 0x00, 0x14, 0x7f, 0x7f, 0x14, 0x7f, 0x7f, 0x14,
    0x24, 0x2e, 0x2a, 0x6b, 0x6b, 0x3a, 0x12, 0x46, 0x66, 0x30, 0x18, 0x0c, 0x66, 0x62,
    0x30, 0x7a, 0x4f, 0x5d, 0x37, 0x7a, 0x48, 0x00, 0x04, 0x07, 0x03, 0x00, 0x00, 0x00,
    0x00, 0x1c, 0x3e, 0x63, 0x41, 0x00, 0x00, 0x00, 0x41, 0x63, 0x3e, 0x1c, 0x00, 0x00,
    0x08, 0x2a, 0x3e, 0x1c, 0x3e, 0x2a, 0x08, 0x00, 0x08, 0x08, 0x3e, 0x3e, 0x08, 0x08,
    0x00, 0x00, 0x80, 0xe0, 0x60, 0x00, 0x00, 0x00, 0x08, 0x08, 0x08, 0x08, 0x08, 0x08,
    0x00, 0x00, 0x00, 0x60, 0x60, 0x00, 0x00, 0x60, 0x30, 0x18, 0x0c, 0x06, 0x03, 0x01,
    0x3e, 0x7f, 0x59, 0x4d, 0x47, 0x7f, 0x3e, 0x40, 0x42, 0x7f, 0x7f, 0x40, 0x40, 0x00,
    0x62, 0x73, 0x59, 0x49, 0x6f, 0x66, 0x00, 0x22, 0x63, 0x49, 0x49, 0x7f, 0x36, 0x00,
    0x18, 0x1c, 0x16, 0x53, 0x7f, 0x7f, 0x50, 0x27, 0x67, 0x45, 0x45, 0x7d, 0x39, 0x00,
    0x3c, 0x7e, 0x4b, 0x49, 0x79, 0x30, 0x00, 0x03, 0x03, 0x71, 0x79, 0x0f, 0x07, 0x00,
    0x36, 0x7f, 0x49, 0x49, 0x7f, 0x36, 0x00, 0x06, 0x4f, 0x49, 0x69, 0x3f, 0x1e, 0x00,
    0x00, 0x00, 0x00, 0x66, 0x66, 0x00, 0x00, 0x00, 0x00, 0x80, 0xe6, 0x66, 0x00, 0x00,
    0x08, 0x1c, 0x36, 0x63, 0x41, 0x00, 0x00, 0x00, 0x14, 0x14, 0x14, 0x14, 0x14, 0x14,
    0x00, 0x41, 0x63, 0x36, 0x1c, 0x08, 0x00, 0x00, 0x02, 0x03, 0x59, 0x5d, 0x07, 0x02,
    0x3e, 0x7f, 0x41, 0x5d, 0x5d, 0x5f, 0x0e, 0x7c, 0x7e, 0x13, 0x13, 0x7e, 0x7c, 0x00,
    0x41, 0x7f, 0x7f, 0x49, 0x49, 0x7f, 0x36, 0x1c, 0x3e, 0x63, 0x41, 0x41, 0x63, 0x22,
    0x41, 0x7f, 0x7f, 0x41, 0x63, 0x3e, 0x1c, 0x41, 0x7f, 0x7f, 0x49, 0x5d, 0x41, 0x63,
    0x41, 0x7f, 0x7f, 0x49, 0x1d, 0x01, 0x03, 0x1c, 0x3e, 0x63, 0x41, 0x51, 0x33, 0x72,
    0x7f, 0x7f, 0x08, 0x08, 0x7f, 0x7f, 0x00, 0x00, 0x41, 0x7f, 0x7f, 0x41, 0x00, 0x00,
    0x30, 0x70, 0x40, 0x41, 0x7f, 0x3f, 0x01, 0x41, 0x7f, 0x7f, 0x08, 0x1c, 0x77, 0x63,
    0x41, 0x7f, 0x7f, 0x41, 0x40, 0x60, 0x70, 0x7f, 0x7f, 0x0e, 0x1c, 0x0e, 0x7f, 0x7f,
    0x7f, 0x7f, 0x06, 0x0c, 0x18, 0x7f, 0x7f, 0x1c, 0x3e, 0x63, 0x41, 0x63, 0x3e, 0x1c,
    0x41, 0x7f, 0x7f, 0x49, 0x09, 0x0f, 0x06, 0x1e, 0x3f, 0x21, 0x31, 0x61, 0x7f, 0x5e,
    0x41, 0x7f, 0x7f, 0x09, 0x19, 0x7f, 0x66, 0x26, 0x6f, 0x4d, 0x49, 0x59, 0x73, 0x32,
    0x03, 0x41, 0x7f, 0x7f, 0x41, 0x03, 0x00, 0x7f, 0x7f, 0x40, 0x40, 0x7f, 0x7f, 0x00,
    0x1f, 0x3f, 0x60, 0x60, 0x3f, 0x1f, 0x00, 0x3f, 0x7f, 0x60, 0x30, 0x60, 0x7f, 0x3f,
    0x63, 0x77, 0x1c, 0x08, 0x1c, 0x77, 0x63, 0x07, 0x4f, 0x78, 0x78, 0x4f, 0x07, 0x00,
    0x47, 0x63, 0x71, 0x59, 0x4d, 0x67, 0x73, 0x00, 0x7f, 0x7f, 0x41, 0x41, 0x00, 0x00,
    0x01, 0x03, 0x06, 0x0c, 0x18, 0x30, 0x60, 0x00, 0x41, 0x41, 0x7f, 0x7f, 0x00, 0x00,
    0x08, 0x0c, 0x06, 0x03, 0x06, 0x0c, 0x08, 0x80, 0x80, 0x80, 0x80, 0x80, 0x80, 0x80,
    0x00, 0x00, 0x03, 0x07, 0x04, 0x00, 0x00, 0x20, 0x74, 0x54, 0x54, 0x3c, 0x78, 0x40,
    0x41, 0x7f, 0x3f, 0x48, 0x48, 0x78, 0x30, 0x38, 0x7c, 0x44, 0x44, 0x6c, 0x28, 0x00,
    0x30, 0x78, 0x48, 0x49, 0x3f, 0x7f, 0x40, 0x38, 0x7c, 0x54, 0x54, 0x5c, 0x18, 0x00,
    0x48, 0x7e, 0x7f, 0x49, 0x03, 0x06, 0x00, 0x98, 0xbc, 0xa4, 0xa4, 0xf8, 0x7c, 0x04,
    0x41, 0x7f, 0x7f, 0x08, 0x04, 0x7c, 0x78, 0x00, 0x44, 0x7d, 0x7d, 0x40, 0x00, 0x00,
    0x60, 0xe0, 0x80, 0x84, 0xfd, 0x7d, 0x00, 0x41, 0x7f, 0x7f, 0x10, 0x38, 0x6c, 0x44,
    0x00, 0x41, 0x7f, 0x7f, 0x40, 0x00, 0x00, 0x7c, 0x7c, 0x18, 0x78, 0x1c, 0x7c, 0x78,
    0x7c, 0x78, 0x04, 0x04, 0x7c, 0x78, 0x00, 0x38, 0x7c, 0x44, 0x44, 0x7c, 0x38, 0x00,
    0x84, 0xfc, 0xf8, 0xa4, 0x24, 0x3c, 0x18, 0x18, 0x3c, 0x24, 0xa4, 0xf8, 0xfc, 0x84,
    0x44, 0x7c, 0x78, 0x4c, 0x04, 0x0c, 0x18, 0x48, 0x5c, 0x54, 0x74, 0x64, 0x24, 0x00,
    0x04, 0x04, 0x3e, 0x7f, 0x44, 0x24, 0x00, 0x3c, 0x7c, 0x40, 0x40, 0x3c, 0x7c, 0x40,
    0x1c, 0x3c, 0x60, 0x60, 0x3c, 0x1c, 0x00, 0x3c, 0x7c, 0x60, 0x30, 0x60, 0x7c, 0x3c,
    0x44, 0x6c, 0x38, 0x10, 0x38, 0x6c, 0x44, 0x9c, 0xbc, 0xa0, 0xa0, 0xfc, 0x7c, 0x00,
    0x4c, 0x64, 0x74, 0x5c, 0x4c, 0x64, 0x00, 0x08, 0x08, 0x3e, 0x77, 0x41, 0x41, 0x00,
    0x00, 0x00, 0x00, 0x77, 0x77, 0x00, 0x00, 0x41, 0x41, 0x77, 0x3e, 0x08, 0x08, 0x00,
    0x02, 0x03, 0x01, 0x03, 0x02, 0x03, 0x01, 0x70, 0x78, 0x4c, 0x46, 0x4c, 0x78, 0x70]

/-- The start of the visible part in the memory of the controller. -/
def SsOled.visible (o : SsOled) (x y : Nat) : Nat × Nat :=
  match o.oledType with
  | .oled64x32 => (x + 32, if o.oledFlip then y else y + 4)
  | .oled132x64 => (x + 2, y)
  | .oled96x16 => if o.oledFlip then (x + 32, y) else (x, y + 2)
  | .oled72x40 => (x + 28, if o.oledFlip then y else y + 3)
  | _ => (x, y)

/-- The commands for a position. -/
def positionBytes (x y : Nat) : Transfer :=
  [0x00, UInt8.ofNat (0xB0 ||| y), UInt8.ofNat (x &&& 0xF), UInt8.ofNat (0x10 ||| x >>> 4)]

/-- `oledSetPosition`; all its callers pass a column and a row that are not negative. -/
def oledSetPosition (o : SsOled) (x y : Nat) (bRender : Bool) : SsOled × List Transfer :=
  ({ o with screenOffset := y * 128 + x },
    if bRender then [positionBytes (o.visible x y).1 (o.visible x y).2] else [])

/-- `oledWriteDataBlock`. -/
def oledWriteDataBlock (o : SsOled) (ucBuf : Bytes) (bRender : Bool) : Drawing :=
  if bRender = true ∧ 128 < ucBuf.length then
    -- `ucTemp` has 129 bytes
    none
  else
    let sent := if bRender then [0x40 :: ucBuf] else []
    match o.ucScreen with
    | none => some (o, sent)
    | some screen =>
        if 1024 < o.screenOffset + ucBuf.length then
          none
        else
          some
            ({ o with
                ucScreen := some (overlay screen o.screenOffset ucBuf)
                screenOffset := (o.screenOffset + ucBuf.length) % 1024 },
              sent)

/-- The blocks of one row of `oledFill`. -/
def fillRow (temp : Bytes) (bRender : Bool) (o : SsOled) (y : Nat) : Drawing :=
  thenDraw (some (oledSetPosition o 0 y bRender)) fun o =>
    thenDraw
      (drawEach (fun o _ => oledWriteDataBlock o temp bRender) (List.range (o.oledX / 16)) o)
      fun o =>
        -- 72 is not divisible by 16
        if o.oledType = .oled72x40 then
          oledWriteDataBlock o (temp.take 8) bRender
        else
          some (o, [])

/-- `oledFill`. -/
def oledFill (o : SsOled) (ucData : Byte) (bRender : Bool) : Drawing :=
  thenDraw
    (drawEach (fillRow (List.replicate 16 ucData) bRender) (List.range (o.oledY / 8))
      { o with cursorX := 0, cursorY := 0 })
    fun o =>
      match o.ucScreen with
      | none => some (o, [])
      | some screen =>
          if 1024 < o.oledX * o.oledY / 8 then
            none
          else
            some
              ({ o with
                  ucScreen :=
                    some (overlay screen 0 (List.replicate (o.oledX * o.oledY / 8) ucData)) },
                [])

/-- `InvertBytes`, if it is called. -/
def invertBytes (bInvert : Bool) (pData : Bytes) : Bytes :=
  if bInvert then pData.map fun b => ~~~ b else pData

/-- The columns of a character: a blank one, and seven out of `ucFont`. -/
def charColumns (c : Byte) : Option Bytes :=
  if 32 ≤ c.toNat ∧ (c.toNat - 32) * 7 + 7 ≤ ucFont.length then
    some (0 :: (ucFont.drop ((c.toNat - 32) * 7)).take 7)
  else
    none

/-- The word wrap of `oledWriteString`. -/
def wrapCursor (o : SsOled) (bRender : Bool) : SsOled × List Transfer :=
  if o.oledX ≤ o.cursorX + 7 ∧ o.oledWrap = true then
    oledSetPosition { o with cursorX := 0, cursorY := (o.cursorY + 1) % 256 } 0
      ((o.cursorY + 1) % 256) bRender
  else
    (o, [])

/-- The loop of `oledWriteString` for `FONT_8x8`. -/
def writeChars (bInvert bRender : Bool) :
    (iScroll : Int) → (iFontSkip : Nat) → Bytes → SsOled → Drawing
  | _, _, [], o => some (o, [])
  | iScroll, iFontSkip, c :: rest, o =>
      if o.cursorX < o.oledX ∧ c ≠ 0 ∧ o.cursorY < o.oledY / 8 then
        if iScroll < 8 then
          match charColumns c with
          | none => none
          | some columns =>
              -- clip right edge
              let iLen := min (8 - iFontSkip) (o.oledX - o.cursorX)
              thenDraw
                (oledWriteDataBlock o
                  (((invertBytes bInvert columns).drop iFontSkip).take iLen) bRender)
                fun o =>
                  thenDraw (some (wrapCursor { o with cursorX := o.cursorX + iLen } bRender))
                    (writeChars bInvert bRender (iScroll - 8) 0 rest)
        else
          writeChars bInvert bRender (iScroll - 8) iFontSkip rest o
      else
        some (o, [])

/-- The cursor of `oledWriteString`; its fields are bytes. -/
def SsOled.setCursor (o : SsOled) (x y : Int) : SsOled :=
  if x = -1 ∨ y = -1 then
    o
  else
    { o with cursorX := (x % 256).toNat, cursorY := (y % 256).toNat }

/-- `oledWriteString` for `FONT_8x8`, with what it returns. -/
def oledWriteString
    (o : SsOled) (iScroll x y : Int) (szMsg : Bytes) (bInvert bRender : Bool) :
    Int × Drawing :=
  let o := o.setCursor x y
  if o.oledX ≤ o.cursorX ∨ o.oledY / 8 ≤ o.cursorY then
    -- can't draw off the display
    (-1, some (o, []))
  else
    (0, thenDraw (some (oledSetPosition o o.cursorX o.cursorY bRender))
      (writeChars bInvert bRender iScroll (iScroll % 8).toNat szMsg))

/-- Sixteen bytes from an address on. -/
def blockAt (memory : Nat → Byte) (address : Nat) : Bytes :=
  (List.range 16).map fun i => memory (address + i)

/-- The back buffer, if there is one. -/
def SsOled.screen (o : SsOled) : Nat → Byte :=
  o.ucScreen.getD fun _ => 0

/-- One row of `oledDumpBuffer`; without a buffer it is the library's own. -/
def dumpRow (pBuffer : Option (Nat → Byte)) (y : Nat) :
    (cols : List Nat) → (bNeedPos : Bool) → (pSrc : Nat) → SsOled → Drawing
  | [], _, _, o => some (o, [])
  | x :: cols, bNeedPos, pSrc, o =>
      if o.ucScreen.isNone = true ∨ pBuffer.isNone = true ∨
          blockAt o.screen pSrc ≠ blockAt (pBuffer.getD o.screen) pSrc then
        thenDraw
          (some (if bNeedPos then oledSetPosition o (x * 16) y true else (o, [])))
          fun o' =>
            thenDraw (oledWriteDataBlock o' (blockAt (pBuffer.getD o.screen) pSrc) true)
              (dumpRow pBuffer y cols false (pSrc + 16))
      else
        -- the next block needs its position
        dumpRow pBuffer y cols true (pSrc + 16) o

/-- `oledDumpBuffer`. -/
def oledDumpBuffer (o : SsOled) (pBuffer : Option (Nat → Byte)) : Drawing :=
  if pBuffer.isNone = true ∧ o.ucScreen.isNone = true then
    some (o, [])
  else
    let iLines := o.oledY / 8
    let iCols := o.oledX / 16
    -- for narrow displays, skip to the next line
    let row := iCols * 16 + (128 - o.oledX)
    drawEach (fun o y => dumpRow pBuffer y (List.range iCols) true (y * row) o)
      (List.range iLines) o

/-! ## Starting up -/

/-- `oled128_initbuf` -/
def oled128Initbuf : Transfer :=
  [0x00, 0xAE, 0xDC, 0x00, 0x81, 0x40, 0xA1, 0xC8, 0xA8, 0x7F, 0xD5, 0x50, 0xD9, 0x22, 0xDB,
    0x35, 0xB0, 0xDA, 0x12, 0xA4, 0xA6, 0xAF]

/-- `oled64_initbuf` -/
def oled64Initbuf : Transfer :=
  [0x00, 0xAE, 0xA8, 0x3F, 0xD3, 0x00, 0x40, 0xA1, 0xC8, 0xDA, 0x12, 0x81, 0xFF, 0xA4, 0xA6,
    0xD5, 0x80, 0x8D, 0x14, 0xAF, 0x20, 0x02]

/-- `oled32_initbuf` -/
def oled32Initbuf : Transfer :=
  [0x00, 0xAE, 0xD5, 0x80, 0xA8, 0x1F, 0xD3, 0x00, 0x40, 0x8D, 0x14, 0xA1, 0xC8, 0xDA, 0x02,
    0x81, 0x7F, 0xD9, 0xF1, 0xDB, 0x40, 0xA4, 0xA6, 0xAF]

/-- `oled72_initbuf` -/
def oled72Initbuf : Transfer :=
  [0x00, 0xAE, 0xA8, 0x3F, 0xD3, 0x00, 0x40, 0xA1, 0xC8, 0xDA, 0x12, 0x81, 0xFF, 0xAD, 0x30,
    0xD9, 0xF1, 0xA4, 0xA6, 0xD5, 0x80, 0x8D, 0x14, 0xAF, 0x20, 0x02]

/-- What the bus answers while `oledInit` runs. -/
structure OledEnv where
  /-- `I2CTest` -/
  answers : Byte → Bool
  /-- The status register, or 0 if it cannot be read. -/
  status : Byte

/-- The address that `oledInit` takes. -/
def oledAddress (iAddr : Int) (env : OledEnv) : Option Byte :=
  if iAddr = -1 ∨ iAddr = 0 ∨ iAddr = 0xFF then
    if env.answers 0x3C then some 0x3C else if env.answers 0x3D then some 0x3D else none
  else if env.answers (UInt8.ofNat (iAddr % 256).toNat) then
    some (UInt8.ofNat (iAddr % 256).toNat)
  else
    none

/-- The controller that the status register tells: `rc`, and the type it stands for. -/
def detectOled (iType : OledType) (status : Byte) : Int × OledType :=
  let u := status &&& 0x0F
  if u = 0x7 ∨ u = 0xF then (4, .oled128x128)
  else if u = 0x8 then (2, .oled132x64)
  else if u = 3 ∨ u = 6 then (0, iType)
  else (-1, iType)

/-- The size of a display. -/
def OledType.size : OledType → Nat × Nat
  | .oled96x16 => (96, 16)
  | .oled128x32 => (128, 32)
  | .oled128x128 => (128, 128)
  | .oled64x32 => (64, 32)
  | .oled72x40 => (72, 40)
  | _ => (128, 64)

/-- The initialization sequence. -/
def OledType.initbuf : OledType → Transfer
  | .oled128x32 => oled32Initbuf
  | .oled96x16 => oled32Initbuf
  | .oled128x128 => oled128Initbuf
  | .oled72x40 => oled72Initbuf
  | _ => oled64Initbuf

/--
`oledInit`: what it returns, with the library's data and what has been written once there is
an address.
-/
def oledInit (iType : OledType) (iAddr : Int) (bFlip bInvert : Bool) (env : OledEnv) :
    Int × Drawing :=
  match oledAddress iAddr env with
  | none => (-1, none)
  | some address =>
      let (rc, oledType) := detectOled iType env.status
      -- the SH1107 has the other direction
      let bFlip' := if oledType = .oled128x128 ∧ rc = 4 then !bFlip else bFlip
      (if address = 0x3D then rc + 1 else rc,
        some
          ({  oledWrap := false
              oledFlip := bFlip
              oledType := oledType
              ucScreen := none
              cursorX := 0
              cursorY := 0
              oledX := iType.size.1
              oledY := iType.size.2
              screenOffset := 0 },
            [[0x00], iType.initbuf] ++
              (if bInvert then [[0x00, 0xA7]] else []) ++
              if bFlip' then [[0x00, 0xA0], [0x00, 0xC0]] else []))

/-- `oledSetBackBuffer`. -/
def oledSetBackBuffer (o : SsOled) (pBuffer : Option (Nat → Byte)) : SsOled :=
  { o with ucScreen := pBuffer }

/-! ## What a drawing leaves -/

@[simp] theorem thenDraw_some
    (o : SsOled)
    (sent : List Transfer)
    (next : SsOled → Drawing) :
    thenDraw (some (o, sent)) next = (next o).map fun r => (r.1, sent ++ r.2) := by
  rw [thenDraw]
  cases next o <;> rfl

/-- The library draws on this many rows of 128 columns, which start at this column. -/
structure Ready (o : SsOled) (shift lines : Nat) : Prop where
  screen : o.ucScreen.isSome = true
  width : o.oledX = 128
  height : o.oledY / 8 = lines
  size : o.oledX * o.oledY / 8 = 128 * lines
  lines_le : lines ≤ 8
  shift_le : shift ≤ 2
  noWrap : o.oledWrap = false
  visible : ∀ x y, o.visible x y = (x + shift, y)
  notNarrow : o.oledType ≠ .oled72x40

/-- The back buffer shows this. -/
def Buffered (o : SsOled) (lines : Nat) (picture : Nat → Nat → Byte) : Prop :=
  ∀ y < lines, ∀ x < 128, o.screen (y * 128 + x) = picture y x

/-- The memory of the module shows this. -/
def Displayed (m : Module) (shift lines : Nat) (picture : Nat → Nat → Byte) : Prop :=
  ∀ y < lines, ∀ x < 128, m.ram y (x + shift) = picture y x

/-- A picture with some columns of one row drawn over. -/
def paint (picture : Nat → Nat → Byte) (y x : Nat) (data : Bytes) : Nat → Nat → Byte :=
  Function.update picture y (overlay (picture y) x data)

/-- The module stands at this place. -/
structure Stands (m : Module) (shift y x : Nat) : Prop where
  wide : 128 + shift ≤ m.columns
  page : m.page = y
  column : m.column = x + shift

/-- From this place on the transfers draw these columns. -/
def Paints (sent : List Transfer) (shift y x : Nat) (data : Bytes) : Prop :=
  ∀ m : Module, Stands m shift y x →
    (sent.foldl Module.receive m).ram =
      Function.update m.ram y (overlay (m.ram y) (x + shift) data)

section Blocks

variable {o : SsOled}
variable {m : Module}
variable {shift lines x y : Nat}
variable {screen : Nat → Byte}

/-- What the calls change does not count. -/
theorem Ready.redrawn
    (hready : Ready o shift lines)
    (screen : Nat → Byte)
    (cursorX cursorY screenOffset : Nat) :
    Ready
      { o with
        ucScreen := some screen
        cursorX := cursorX
        cursorY := cursorY
        screenOffset := screenOffset }
      shift lines where
  screen := rfl
  width := hready.width
  height := hready.height
  size := hready.size
  lines_le := hready.lines_le
  shift_le := hready.shift_le
  noWrap := hready.noWrap
  visible := hready.visible
  notNarrow := hready.notNarrow

/-- Columns of a shifted row. -/
theorem overlay_shift
    (row : Nat → Byte)
    (data : Bytes)
    (x' : Nat) :
    overlay row (x + shift) data (x' + shift) =
      overlay (fun c => row (c + shift)) x data x' := by
  rw [overlay, overlay, Nat.add_sub_add_right]
  by_cases hle : x ≤ x'
  · rw [if_pos hle, if_pos (by omega)]
  · rw [if_neg hle, if_neg (by omega)]

theorem Displayed.paint
    {picture : Nat → Nat → Byte}
    (hshown : Displayed m shift lines picture)
    {m' : Module}
    {data : Bytes}
    (hram : m'.ram = Function.update m.ram y (overlay (m.ram y) (x + shift) data)) :
    Displayed m' shift lines (paint picture y x data) := by
  intro y' hy' x' hx'
  rw [hram, Adav.paint]
  by_cases hrow : y' = y
  · subst hrow
    rw [Function.update_self, Function.update_self, overlay_shift, overlay, overlay,
      hshown y' hy' x' hx']
  · rw [Function.update_of_ne hrow, Function.update_of_ne hrow, hshown y' hy' x' hx']

theorem Buffered.paint
    {picture : Nat → Nat → Byte}
    (hshown : Buffered o lines picture)
    {o' : SsOled}
    {data : Bytes}
    (hfit : x + data.length ≤ 128)
    (hscreen : o'.screen = overlay o.screen (y * 128 + x) data) :
    Buffered o' lines (paint picture y x data) := by
  intro y' hy' x' hx'
  rw [hscreen, Adav.paint]
  by_cases hrow : y' = y
  · subst hrow
    rw [Function.update_self, overlay, overlay, hshown y' hy' x' hx']
    by_cases hle : x ≤ x'
    · rw [if_pos hle, if_pos (by omega)]
      congr 2
      omega
    · rw [if_neg hle, if_neg (by omega)]
  · rw [Function.update_of_ne hrow, ← hshown y' hy' x' hx']
    rcases Nat.lt_or_gt_of_ne hrow with hlt | hgt
    · exact overlay_apply_of_lt _ _ _ (by omega)
    · exact overlay_apply_of_le _ _ _ (by omega)

/-- The position is set. -/
theorem receive_oledSetPosition
    (hready : Ready o shift lines)
    (hx : x < 128)
    (hy : y < 8) :
    (oledSetPosition o x y true).2.foldl Module.receive m =
      { m with page := y, column := x + shift } := by
  have hshift := hready.shift_le
  rw [oledSetPosition, if_pos rfl, hready.visible, List.foldl_cons, List.foldl_nil,
    positionBytes, Module.receive_position (by omega) (by omega)]

theorem Ready.oledSetPosition
    (hready : Ready o shift lines)
    (x y : Nat)
    (bRender : Bool) :
    Ready (oledSetPosition o x y bRender).1 shift lines := by
  obtain ⟨screen, hscreen⟩ := Option.isSome_iff_exists.mp hready.screen
  have hredrawn := hready.redrawn screen o.cursorX o.cursorY (y * 128 + x)
  rwa [← hscreen] at hredrawn

theorem oledWriteDataBlock_spec
    (hscreen : o.ucScreen = some screen)
    (hoffset : o.screenOffset = y * 128 + x)
    (hy : y < 8)
    (data : Bytes)
    (hfit : x + data.length ≤ 128) :
    oledWriteDataBlock o data true =
      some
        ({ o with
            ucScreen := some (overlay screen (y * 128 + x) data)
            screenOffset := (y * 128 + x + data.length) % 1024 },
          [0x40 :: data]) := by
  rw [oledWriteDataBlock, if_neg (by omega), hscreen, hoffset]
  simp only [if_true]
  rw [if_neg (by omega)]

/-- Short of the end of the row the module stands behind the block. -/
theorem Stands.block
    (hstands : Stands m shift y x)
    (data : Bytes)
    (hfit : x + data.length < 128) :
    Stands (m.receive (0x40 :: data)) shift y (x + data.length) := by
  have hwide := hstands.wide
  have hcolumn := hstands.column
  have hreceive := m.receive_data data (by omega) (by omega)
  rw [if_neg (by omega)] at hreceive
  refine ⟨?_, ?_, ?_⟩
  · rw [Module.columns_receive]
    exact hwide
  · rw [hreceive]
    exact hstands.page
  · rw [hreceive]
    show m.column + data.length = x + data.length + shift
    omega

theorem paints_nil : Paints [] shift y x [] := by
  intro m _
  rw [List.foldl_nil, overlay_nil, Function.update_eq_self]

/-- A block, and what follows if the row has not ended. -/
theorem paints_cons
    {block rest : Bytes}
    {sent : List Transfer}
    (hx : x < 128)
    (hfit : x + block.length ≤ 128)
    (hend : x + block.length = 128 → sent = [] ∧ rest = [])
    (hrest : x + block.length < 128 → Paints sent shift y (x + block.length) rest) :
    Paints ((0x40 :: block) :: sent) shift y x (block ++ rest) := by
  intro m hstands
  have hwide := hstands.wide
  have hcolumn := hstands.column
  have hblock : (m.receive (0x40 :: block)).ram =
      Function.update m.ram y (overlay (m.ram y) (x + shift) block) := by
    rw [m.receive_data block (by omega) (by omega), hstands.page, hcolumn]
  rw [List.foldl_cons]
  rcases Nat.lt_or_ge (x + block.length) 128 with hlt | hge
  · have hcolumns : x + block.length + shift = x + shift + block.length := by omega
    rw [hrest hlt _ (hstands.block block hlt), hblock, Function.update_self, Function.update_idem,
      hcolumns, overlay_append]
  · obtain ⟨rfl, rfl⟩ := hend (by omega)
    rw [List.foldl_nil, List.append_nil, hblock]

end Blocks

section Fill

variable {o : SsOled}
variable {shift lines x y : Nat}
variable {screen : Nat → Byte}
variable (c : Byte)

/-- Blocks of sixteen equal bytes, short of the end of the row. -/
theorem drawEach_blocks
    (ns : List Nat)
    (hscreen : o.ucScreen = some screen)
    (hoffset : ns ≠ [] → o.screenOffset = y * 128 + x)
    (hy : y < 8)
    (hfit : x + 16 * ns.length ≤ 128) :
    ∃ screenOffset sent,
      drawEach (fun o _ => oledWriteDataBlock o (List.replicate 16 c) true) ns o =
        some
          ({ o with
              ucScreen :=
                some (overlay screen (y * 128 + x) (List.replicate (16 * ns.length) c))
              screenOffset := screenOffset },
            sent) ∧
        ∀ shift, Paints sent shift y x (List.replicate (16 * ns.length) c) := by
  induction ns generalizing o x screen with
  | nil =>
      refine ⟨o.screenOffset, [], ?_, ?_⟩
      · simp only [List.length_nil, Nat.mul_zero, List.replicate_zero, overlay_nil, ← hscreen]
        rfl
      · exact fun shift => paints_nil
  | cons n ns ih =>
      rw [List.length_cons] at hfit
      have hlength : (List.replicate 16 c).length = 16 := List.length_replicate
      have hblock := oledWriteDataBlock_spec hscreen (hoffset (List.cons_ne_nil _ _)) hy
        (List.replicate 16 c) (by omega)
      rw [hlength] at hblock
      obtain ⟨screenOffset, sent, hdraw, hpaints⟩ := ih
        (o := { o with
          ucScreen := some (overlay screen (y * 128 + x) (List.replicate 16 c))
          screenOffset := (y * 128 + x + 16) % 1024 })
        (x := x + 16) rfl
        (by
          intro hne
          have hpos := List.length_pos_iff.mpr hne
          show (y * 128 + x + 16) % 1024 = y * 128 + (x + 16)
          omega)
        (by omega)
      have hsplit : List.replicate (16 * (n :: ns).length) c =
          List.replicate 16 c ++ List.replicate (16 * ns.length) c := by
        rw [List.replicate_append_replicate, List.length_cons]
        congr 1
        omega
      have hassoc : y * 128 + (x + 16) = y * 128 + x + 16 := by omega
      refine ⟨screenOffset, (0x40 :: List.replicate 16 c) :: sent, ?_, ?_⟩
      · rw [drawEach, hblock, thenDraw_some, hdraw, Option.map_some, hsplit, overlay_append,
          hlength, hassoc]
        rfl
      · intro shift
        rw [hsplit]
        refine paints_cons (by omega) (by omega) ?_ ?_
        · intro hend
          have hnil : ns = [] := List.eq_nil_of_length_eq_zero (by omega)
          subst hnil
          have hsent : sent = [] := by
            simp only [drawEach, Option.some.injEq, Prod.mk.injEq] at hdraw
            exact hdraw.2.symm
          exact ⟨hsent, rfl⟩
        · intro _
          rw [hlength]
          exact hpaints shift

/-- A row is filled, wherever the module has stood. -/
theorem fillRow_spec
    (hready : Ready o shift lines)
    (hy : y < lines) :
    ∃ screen screenOffset sent,
      fillRow (List.replicate 16 c) true o y =
        some ({ o with ucScreen := some screen, screenOffset := screenOffset }, sent) ∧
        ∀ m : Module, 128 + shift ≤ m.columns →
          (sent.foldl Module.receive m).ram =
            Function.update m.ram y (overlay (m.ram y) shift (List.replicate 128 c)) := by
  have hlines := hready.lines_le
  obtain ⟨screen, hscreen⟩ := Option.isSome_iff_exists.mp hready.screen
  obtain ⟨screenOffset, sent, hdraw, hpaints⟩ := drawEach_blocks c (List.range 8)
    (o := (oledSetPosition o 0 y true).1) (x := 0) (y := y) hscreen (fun _ => rfl) (by omega)
    (by simp)
  refine ⟨overlay screen (y * 128 + 0) (List.replicate (16 * (List.range 8).length) c),
    screenOffset, (oledSetPosition o 0 y true).2 ++ sent, ?_, ?_⟩
  · have hcols : (oledSetPosition o 0 y true).1.oledX / 16 = 8 := by
      rw [show (oledSetPosition o 0 y true).1.oledX = o.oledX from rfl, hready.width]
    have hnarrow : (oledSetPosition o 0 y true).1.oledType ≠ .oled72x40 := hready.notNarrow
    rw [fillRow, ← Prod.mk.eta (p := oledSetPosition o 0 y true), thenDraw_some, hcols, hdraw,
      thenDraw_some, if_neg hnarrow]
    simp only [Option.map_some, List.append_nil, oledSetPosition]
  · intro m hwide
    rw [List.foldl_append, receive_oledSetPosition hready (by decide) (by omega)]
    have hstands : Stands { m with page := y, column := 0 + shift } shift y 0 :=
      ⟨hwide, rfl, rfl⟩
    rw [hpaints shift _ hstands, Nat.zero_add]
    rfl

/-- Filling a row again leaves it filled. -/
theorem drawEach_fillRow
    (ns : List Nat)
    (hready : Ready o shift lines)
    (hns : ∀ n ∈ ns, n < lines) :
    ∃ screen screenOffset sent,
      drawEach (fillRow (List.replicate 16 c) true) ns o =
        some ({ o with ucScreen := some screen, screenOffset := screenOffset }, sent) ∧
        ∀ m : Module, 128 + shift ≤ m.columns →
          (∀ y ∈ ns, ∀ x < 128, (sent.foldl Module.receive m).ram y (x + shift) = c) ∧
            ∀ y ∉ ns, (sent.foldl Module.receive m).ram y = m.ram y := by
  induction ns generalizing o with
  | nil =>
      obtain ⟨screen, hscreen⟩ := Option.isSome_iff_exists.mp hready.screen
      refine ⟨screen, o.screenOffset, [], ?_, fun m _ => ⟨?_, fun y _ => rfl⟩⟩
      · rw [← hscreen]
        rfl
      · intro y hy
        exact absurd hy List.not_mem_nil
  | cons n ns ih =>
      obtain ⟨screen, screenOffset, sent, hrow, hram⟩ :=
        fillRow_spec c hready (hns n List.mem_cons_self)
      obtain ⟨screen', screenOffset', more, hdraw, hrest⟩ := ih
        (hready.redrawn screen o.cursorX o.cursorY screenOffset)
        fun k hk => hns k (List.mem_cons_of_mem n hk)
      refine ⟨screen', screenOffset', sent ++ more, ?_, fun m hwide => ?_⟩
      · rw [drawEach, hrow, thenDraw_some, hdraw]
        rfl
      · have hwide' : 128 + shift ≤ (sent.foldl Module.receive m).columns := by
          rw [← Module.receiveSome_true, Module.columns_receiveSome]
          exact hwide
        obtain ⟨hfilled, hframe⟩ := hrest _ hwide'
        rw [List.foldl_append]
        constructor
        · intro y hy x hx
          by_cases htail : y ∈ ns
          · exact hfilled y htail x hx
          · obtain rfl : y = n := (List.mem_cons.mp hy).resolve_right htail
            rw [hframe y htail, hram m hwide, Function.update_self, Nat.add_comm x,
              overlay_apply_add _ _ _ (by simpa using hx), List.getElem_replicate]
        · intro y hy
          rw [List.mem_cons, not_or] at hy
          rw [hframe y hy.2, hram m hwide, Function.update_of_ne hy.1]

/-- Whatever buffer and module have held, they show the byte everywhere. -/
theorem oledFill_spec
    (hready : Ready o shift lines) :
    ∃ o' sent,
      oledFill o c true = some (o', sent) ∧ Ready o' shift lines ∧
        Buffered o' lines (fun _ _ => c) ∧
        ∀ m : Module, 128 + shift ≤ m.columns →
          Displayed (sent.foldl Module.receive m) shift lines fun _ _ => c := by
  have hlines := hready.lines_le
  obtain ⟨screen, hscreen⟩ := Option.isSome_iff_exists.mp hready.screen
  have hstart : Ready { o with cursorX := 0, cursorY := 0 } shift lines := by
    have hredrawn := hready.redrawn screen 0 0 o.screenOffset
    rwa [← hscreen] at hredrawn
  obtain ⟨screen', screenOffset, sent, hdraw, hram⟩ :=
    drawEach_fillRow c (List.range lines) hstart fun n hn => List.mem_range.mp hn
  refine ⟨_, sent, ?_, hready.redrawn (overlay screen' 0 (List.replicate (128 * lines) c)) 0 0
    screenOffset, ?_, ?_⟩
  · have hsize := hready.size
    rw [oledFill, hready.height, hdraw, thenDraw_some]
    simp only [hsize]
    rw [if_neg (by omega), Option.map_some, List.append_nil]
  · intro y hy x hx
    show overlay screen' 0 _ (y * 128 + x) = c
    have hin : y * 128 + x < (List.replicate (128 * lines) c).length := by
      rw [List.length_replicate]
      omega
    have happly := overlay_apply_add screen' 0 _ hin
    rwa [Nat.zero_add, List.getElem_replicate] at happly
  · intro m hwide y hy x hx
    exact (hram m hwide).1 y (List.mem_range.mpr hy) x hx

end Fill

section Text

/-- The characters of `ucFont`. -/
def Printable (c : Byte) : Prop :=
  32 ≤ c.toNat ∧ c.toNat < 128

instance decidablePrintable (c : Byte) : Decidable (Printable c) :=
  inferInstanceAs (Decidable (_ ∧ _))

/-- The columns of a text, eight for each character. -/
def textColumns (bInvert : Bool) (szMsg : Bytes) : Bytes :=
  szMsg.flatMap fun c => invertBytes bInvert ((charColumns c).getD [])

set_option maxRecDepth 4000 in
theorem length_ucFont : ucFont.length = 672 := by
  rfl

/-- The font has the characters from the space to the last one below 128. -/
theorem charColumns_isSome_iff
    (c : Byte) :
    (charColumns c).isSome = true ↔ Printable c := by
  rw [charColumns, length_ucFont, Printable]
  split_ifs with hinside
  · exact iff_of_true rfl (by omega)
  · exact iff_of_false Bool.false_ne_true (by omega)

/-- A printable character has eight columns. -/
theorem exists_charColumns
    {c : Byte}
    (hc : Printable c) :
    ∃ columns, charColumns c = some columns ∧ columns.length = 8 := by
  obtain ⟨columns, hcolumns⟩ := Option.isSome_iff_exists.mp ((charColumns_isSome_iff c).mpr hc)
  refine ⟨columns, hcolumns, ?_⟩
  rw [charColumns] at hcolumns
  split_ifs at hcolumns with hinside
  obtain rfl := Option.some.inj hcolumns
  rw [List.length_cons, List.length_take, List.length_drop]
  omega

@[simp] theorem length_invertBytes
    (bInvert : Bool)
    (pData : Bytes) :
    (invertBytes bInvert pData).length = pData.length := by
  unfold invertBytes
  split_ifs
  · exact List.length_map _
  · rfl

theorem Printable.ne_zero
    {c : Byte}
    (hc : Printable c) :
    c ≠ 0 := by
  rintro rfl
  exact absurd hc.1 (by decide)

theorem textColumns_cons
    (bInvert : Bool)
    {c : Byte}
    {columns : Bytes}
    (hcolumns : charColumns c = some columns)
    (rest : Bytes) :
    textColumns bInvert (c :: rest) = invertBytes bInvert columns ++ textColumns bInvert rest := by
  rw [textColumns, List.flatMap_cons, hcolumns, Option.getD_some, textColumns]

/-- The part of a text that starts inside a character, clipped at the right edge. -/
theorem take_drop_textColumns
    {skip left : Nat}
    (hskip : skip ≤ 8)
    {block rest : Bytes}
    (hlength : block.length = 8) :
    ((block ++ rest).drop skip).take left =
      (block.drop skip).take (min (8 - skip) left) ++
        rest.take (left - min (8 - skip) left) := by
  have hdrop : (block.drop skip).length = 8 - skip := by
    rw [List.length_drop, hlength]
  rw [List.drop_append_of_le_length (by omega), List.take_append, hdrop]
  congr 1
  · rw [← hdrop, Nat.min_comm, List.take_eq_take_min]
  · congr 1
    omega

variable {o : SsOled}
variable {shift lines x : Nat}
variable {screen : Nat → Byte}
variable (bInvert : Bool)

/-- These columns are drawn in the row of the cursor. -/
def DrawsColumns
    (o : SsOled) (screen : Nat → Byte) (shift x : Nat) (drawing : Drawing) (data : Bytes) :
    Prop :=
  ∃ cursorX screenOffset sent,
    drawing =
      some
        ({ o with
            ucScreen := some (overlay screen (o.cursorY * 128 + x) data)
            cursorX := cursorX
            screenOffset := screenOffset },
          sent) ∧
      Paints sent shift o.cursorY x data

theorem drawsColumns_nil
    (hscreen : o.ucScreen = some screen) :
    DrawsColumns o screen shift x (some (o, [])) [] := by
  refine ⟨o.cursorX, o.screenOffset, [], ?_, paints_nil⟩
  rw [overlay_nil, ← hscreen]

theorem wrapCursor_of_noWrap
    (hwrap : o.oledWrap = false)
    (bRender : Bool) :
    wrapCursor o bRender = (o, []) := by
  rw [wrapCursor, if_neg]
  rw [hwrap]
  exact fun h => Bool.false_ne_true h.2

/-- Behind the right edge nothing is written. -/
theorem writeChars_of_end
    (hend : o.oledX ≤ o.cursorX)
    (bRender : Bool)
    (iScroll : Int)
    (skip : Nat)
    (szMsg : Bytes) :
    writeChars bInvert bRender iScroll skip szMsg o = some (o, []) := by
  cases szMsg with
  | nil =>
      rfl
  | cons c rest =>
      rw [writeChars, if_neg]
      omega

/-- The columns of a character that are on the display, from this one on. -/
def charBlock (bInvert : Bool) (columns : Bytes) (skip x : Nat) : Bytes :=
  ((invertBytes bInvert columns).drop skip).take (min (8 - skip) (128 - x))

theorem length_charBlock
    {columns : Bytes}
    (hlength : columns.length = 8)
    (skip x : Nat) :
    (charBlock bInvert columns skip x).length = min (8 - skip) (128 - x) := by
  rw [charBlock, List.length_take, List.length_drop, length_invertBytes, hlength]
  omega

/-- What the library has noted down behind a block. -/
def SsOled.behind (o : SsOled) (screen : Nat → Byte) (x : Nat) (block : Bytes) : SsOled :=
  { o with
    ucScreen := some (overlay screen (o.cursorY * 128 + x) block)
    cursorX := x + block.length
    screenOffset := (o.cursorY * 128 + x + block.length) % 1024 }

/-- A round of the loop, for a character that is at least partly visible. -/
theorem writeChars_visible
    (hready : Ready o shift lines)
    (hscreen : o.ucScreen = some screen)
    (hcursorX : o.cursorX = x)
    (hcursorY : o.cursorY < lines)
    (hx : x < 128)
    (hoffset : o.screenOffset = o.cursorY * 128 + x)
    {c : Byte}
    (hc : c ≠ 0)
    {columns : Bytes}
    (hcolumns : charColumns c = some columns)
    (hlength : columns.length = 8)
    {iScroll : Int}
    (hscroll : iScroll < 8)
    (skip : Nat)
    (rest : Bytes) :
    writeChars bInvert true iScroll skip (c :: rest) o =
      (writeChars bInvert true (iScroll - 8) 0 rest
        (o.behind screen x (charBlock bInvert columns skip x))).map fun r =>
          (r.1, (0x40 :: charBlock bInvert columns skip x) :: r.2) := by
  have hlines := hready.lines_le
  have hvisible : o.cursorX < o.oledX ∧ c ≠ 0 ∧ o.cursorY < o.oledY / 8 :=
    ⟨by rw [hcursorX, hready.width]; exact hx, hc, by rw [hready.height]; exact hcursorY⟩
  have hblocklen := length_charBlock bInvert hlength skip x
  have hwrite := oledWriteDataBlock_spec hscreen hoffset (by omega)
    (charBlock bInvert columns skip x) (by omega)
  have hcut : min (8 - skip) (o.oledX - o.cursorX) = min (8 - skip) (128 - x) := by
    rw [hready.width, hcursorX]
  rw [writeChars, if_pos hvisible, if_pos hscroll, hcolumns]
  simp only
  rw [hcut, ← charBlock, hwrite, thenDraw_some, ← hblocklen,
    wrapCursor_of_noWrap (by exact hready.noWrap), thenDraw_some, Option.map_map, hcursorX]
  rfl

theorem Ready.behind
    (hready : Ready o shift lines)
    (screen : Nat → Byte)
    (x : Nat)
    (block : Bytes) :
    Ready (o.behind screen x block) shift lines :=
  hready.redrawn _ _ _ _

theorem screenOffset_behind
    (hlines : lines ≤ 8)
    (hcursorY : o.cursorY < lines)
    {block : Bytes}
    (hin : x + block.length < 128) :
    (o.behind screen x block).screenOffset = o.cursorY * 128 + (x + block.length) := by
  show (o.cursorY * 128 + x + block.length) % 1024 = o.cursorY * 128 + (x + block.length)
  omega

/-- The loop from a character that is at least partly visible on. -/
theorem writeChars_spec
    (hready : Ready o shift lines)
    (hscreen : o.ucScreen = some screen)
    (hcursorX : o.cursorX = x)
    (hcursorY : o.cursorY < lines)
    (hoffset : x < 128 → o.screenOffset = o.cursorY * 128 + x)
    (szMsg : Bytes)
    (hprintable : ∀ c ∈ szMsg, Printable c)
    (iScroll : Int)
    (hscroll : iScroll < 8)
    (skip : Nat)
    (hskip : skip < 8) :
    DrawsColumns o screen shift x (writeChars bInvert true iScroll skip szMsg o)
      (((textColumns bInvert szMsg).drop skip).take (128 - x)) := by
  induction szMsg generalizing o x screen iScroll skip with
  | nil =>
      rw [textColumns, List.flatMap_nil, List.drop_nil, List.take_nil]
      exact drawsColumns_nil hscreen
  | cons c rest ih =>
      obtain ⟨columns, hcolumns, hlength⟩ := exists_charColumns (hprintable c List.mem_cons_self)
      rcases Nat.lt_or_ge x 128 with hlt | hge
      · have hblocklen := length_charBlock bInvert hlength skip x
        have hvisible := writeChars_visible bInvert hready hscreen hcursorX hcursorY
          hlt (hoffset hlt) (hprintable c List.mem_cons_self).ne_zero hcolumns hlength hscroll
          skip rest
        obtain ⟨cursorX, screenOffset, sent, hrest, hpaints⟩ := ih
          (hready.behind screen x (charBlock bInvert columns skip x)) rfl rfl hcursorY
          (screenOffset_behind hready.lines_le hcursorY)
          (fun c' hc' => hprintable c' (List.mem_cons_of_mem c hc')) (iScroll - 8) (by omega) 0
          (by decide)
        have hsplit : ((textColumns bInvert (c :: rest)).drop skip).take (128 - x) =
            charBlock bInvert columns skip x ++
              ((textColumns bInvert rest).drop 0).take
                (128 - (x + (charBlock bInvert columns skip x).length)) := by
          rw [textColumns_cons bInvert hcolumns, take_drop_textColumns (by omega)
            (by rw [length_invertBytes, hlength]), List.drop_zero, ← charBlock, hblocklen,
            Nat.sub_add_eq]
        have hassoc : o.cursorY * 128 + (x + (charBlock bInvert columns skip x).length) =
            o.cursorY * 128 + x + (charBlock bInvert columns skip x).length := by omega
        refine ⟨cursorX, screenOffset, (0x40 :: charBlock bInvert columns skip x) :: sent, ?_, ?_⟩
        · rw [hvisible, hrest, hsplit, overlay_append, ← hassoc]
          rfl
        · rw [hsplit]
          refine paints_cons hlt (by omega) ?_ fun _ => hpaints
          intro hend
          have hlast := hready.width.trans hend.symm
          rw [writeChars_of_end bInvert (Nat.le_of_eq hlast)] at hrest
          exact ⟨(congrArg Prod.snd (Option.some.inj hrest)).symm,
            by rw [Nat.sub_eq_zero_of_le (by omega), List.take_zero]⟩
      · rw [writeChars_of_end bInvert (by rw [hcursorX, hready.width]; exact hge),
          Nat.sub_eq_zero_of_le hge, List.take_zero]
        exact drawsColumns_nil hscreen

/-- The font is left if and only if one of the visible characters is not in it. -/
theorem writeChars_isSome_iff
    (hready : Ready o shift lines)
    (hcursorX : o.cursorX = x)
    (hcursorY : o.cursorY < lines)
    (hoffset : x < 128 → o.screenOffset = o.cursorY * 128 + x)
    (szMsg : Bytes)
    (hzero : (0 : Byte) ∉ szMsg)
    (iScroll : Int)
    (hscroll : iScroll < 8)
    (skip : Nat)
    (hskip : skip < 8)
    (hx : x < 128 ∨ skip = 0) :
    (writeChars bInvert true iScroll skip szMsg o).isSome = true ↔
      ∀ c ∈ szMsg.take ((128 - x + skip + 7) / 8), Printable c := by
  induction szMsg generalizing o x iScroll skip with
  | nil =>
      rw [List.take_nil]
      exact iff_of_true rfl fun c hc => absurd hc List.not_mem_nil
  | cons c rest ih =>
      rw [List.mem_cons, not_or] at hzero
      rcases Nat.lt_or_ge x 128 with hlt | hge
      · obtain ⟨screen, hscreen⟩ := Option.isSome_iff_exists.mp hready.screen
        have hcount : (128 - x + skip + 7) / 8 = (128 - x + skip + 7) / 8 - 1 + 1 := by omega
        rw [hcount, List.take_succ_cons, List.forall_mem_cons]
        by_cases hc : Printable c
        · obtain ⟨columns, hcolumns, hlength⟩ := exists_charColumns hc
          have hblocklen := length_charBlock bInvert hlength skip x
          have hnext : (128 - (x + (charBlock bInvert columns skip x).length) + 0 + 7) / 8 =
              (128 - x + skip + 7) / 8 - 1 := by
            rw [hblocklen]
            omega
          have hrest := ih (x := x + (charBlock bInvert columns skip x).length)
            (hready.behind screen x (charBlock bInvert columns skip x)) rfl hcursorY
            (screenOffset_behind hready.lines_le hcursorY) hzero.2
            (iScroll - 8) (by omega) 0 (by decide) (.inr rfl)
          rw [writeChars_visible bInvert hready hscreen hcursorX hcursorY hlt (hoffset hlt)
            hc.ne_zero hcolumns hlength hscroll, Option.isSome_map, hrest, hnext, and_iff_right hc]
        · have hnone : charColumns c = none :=
            Option.not_isSome_iff_eq_none.mp fun h => hc ((charColumns_isSome_iff c).mp h)
          have hvisible : o.cursorX < o.oledX ∧ c ≠ 0 ∧ o.cursorY < o.oledY / 8 :=
            ⟨by rw [hcursorX, hready.width]; exact hlt, fun h => hzero.1 h.symm,
              by rw [hready.height]; exact hcursorY⟩
          rw [writeChars, if_pos hvisible, if_pos hscroll, hnone]
          exact iff_of_false Bool.false_ne_true fun h => hc h.1
      · obtain rfl : skip = 0 := hx.resolve_left (by omega)
        have hcount : (128 - x + 0 + 7) / 8 = 0 := by omega
        rw [writeChars_of_end bInvert (by rw [hcursorX, hready.width]; exact hge), hcount,
          List.take_zero]
        exact iff_of_true rfl fun c hc => absurd hc List.not_mem_nil

/-- The characters behind the last visible one do not count. -/
theorem writeChars_take
    (hready : Ready o shift lines)
    (hcursorX : o.cursorX = x)
    (hcursorY : o.cursorY < lines)
    (hoffset : x < 128 → o.screenOffset = o.cursorY * 128 + x)
    (szMsg : Bytes)
    (iScroll : Int)
    (hscroll : iScroll < 8)
    (skip : Nat)
    (hskip : skip < 8)
    (hx : x < 128 ∨ skip = 0) :
    writeChars bInvert true iScroll skip (szMsg.take ((128 - x + skip + 7) / 8)) o =
      writeChars bInvert true iScroll skip szMsg o := by
  induction szMsg generalizing o x iScroll skip with
  | nil =>
      rw [List.take_nil]
  | cons c rest ih =>
      rcases Nat.lt_or_ge x 128 with hlt | hge
      · obtain ⟨screen, hscreen⟩ := Option.isSome_iff_exists.mp hready.screen
        have hcount : (128 - x + skip + 7) / 8 = (128 - x + skip + 7) / 8 - 1 + 1 := by omega
        rw [hcount, List.take_succ_cons]
        by_cases hc : Printable c
        · obtain ⟨columns, hcolumns, hlength⟩ := exists_charColumns hc
          have hblocklen := length_charBlock bInvert hlength skip x
          have hnext : (128 - (x + (charBlock bInvert columns skip x).length) + 0 + 7) / 8 =
              (128 - x + skip + 7) / 8 - 1 := by
            rw [hblocklen]
            omega
          have hrest := ih (x := x + (charBlock bInvert columns skip x).length)
            (hready.behind screen x (charBlock bInvert columns skip x)) rfl hcursorY
            (screenOffset_behind hready.lines_le hcursorY)
            (iScroll - 8) (by omega) 0 (by decide) (.inr rfl)
          rw [writeChars_visible bInvert hready hscreen hcursorX hcursorY hlt (hoffset hlt)
            hc.ne_zero hcolumns hlength hscroll, ← hnext, hrest,
            ← writeChars_visible bInvert hready hscreen hcursorX hcursorY hlt (hoffset hlt)
            hc.ne_zero hcolumns hlength hscroll]
        · have hnone : charColumns c = none :=
            Option.not_isSome_iff_eq_none.mp fun h => hc ((charColumns_isSome_iff c).mp h)
          rw [writeChars, writeChars, hnone, if_pos hscroll, if_pos hscroll]
      · obtain rfl : skip = 0 := hx.resolve_left (by omega)
        have hend : o.oledX ≤ o.cursorX := by
          rw [hcursorX, hready.width]
          exact hge
        rw [writeChars_of_end bInvert hend, writeChars_of_end bInvert hend]

/-- Characters that are scrolled out on the left are passed by. -/
theorem writeChars_scroll
    (hready : Ready o shift lines)
    (hcursorX : o.cursorX < 128)
    (hcursorY : o.cursorY < lines)
    (szMsg : Bytes)
    (hzero : (0 : Byte) ∉ szMsg)
    {iScroll : Int}
    (hscroll : 0 ≤ iScroll)
    (k skip : Nat) :
    writeChars bInvert true (iScroll + 8 * (k : Int)) skip szMsg o =
      writeChars bInvert true iScroll skip (szMsg.drop k) o := by
  induction k generalizing szMsg with
  | zero =>
      rw [List.drop_zero]
      simp
  | succ k ih =>
      cases szMsg with
      | nil =>
          rw [List.drop_nil, writeChars, writeChars]
      | cons c rest =>
          rw [List.mem_cons, not_or] at hzero
          have hvisible : o.cursorX < o.oledX ∧ c ≠ 0 ∧ o.cursorY < o.oledY / 8 :=
            ⟨by rw [hready.width]; exact hcursorX, fun h => hzero.1 h.symm,
              by rw [hready.height]; exact hcursorY⟩
          have hnext : iScroll + 8 * ((k + 1 : Nat) : Int) - 8 = iScroll + 8 * (k : Int) := by
            push_cast
            omega
          rw [writeChars, if_pos hvisible, if_neg (by push_cast; omega), hnext,
            List.drop_succ_cons, ih rest hzero.2]

theorem drop_textColumns
    {szMsg : Bytes}
    (hprintable : ∀ c ∈ szMsg, Printable c)
    (k : Nat) :
    (textColumns bInvert szMsg).drop (8 * k) = textColumns bInvert (szMsg.drop k) := by
  induction k generalizing szMsg with
  | zero =>
      rfl
  | succ k ih =>
      cases szMsg with
      | nil =>
          simp [textColumns]
      | cons c rest =>
          obtain ⟨columns, hcolumns, hlength⟩ :=
            exists_charColumns (hprintable c List.mem_cons_self)
          have hblock : (invertBytes bInvert columns).length = 8 := by
            rw [length_invertBytes, hlength]
          rw [textColumns_cons bInvert hcolumns, Nat.mul_add, Nat.mul_one, Nat.add_comm,
            ← List.drop_drop, ← hblock, List.drop_left, hblock, List.drop_succ_cons,
            ih fun c' hc' => hprintable c' (List.mem_cons_of_mem c hc')]

theorem Ready.setCursor
    (hready : Ready o shift lines)
    (x y : Int) :
    Ready (o.setCursor x y) shift lines := by
  rw [SsOled.setCursor]
  split_ifs
  · exact hready
  · obtain ⟨screen, hscreen⟩ := Option.isSome_iff_exists.mp hready.screen
    have hredrawn := hready.redrawn screen (x % 256).toNat (y % 256).toNat o.screenOffset
    rwa [← hscreen] at hredrawn

theorem screen_setCursor
    (o : SsOled)
    (x y : Int) :
    (o.setCursor x y).screen = o.screen := by
  rw [SsOled.setCursor]
  split_ifs <;> rfl

/-- A text that starts behind the right edge or below the last row is not drawn. -/
theorem oledWriteString_off
    (hready : Ready o shift lines)
    {x y : Int}
    (hoff : 128 ≤ (o.setCursor x y).cursorX ∨ lines ≤ (o.setCursor x y).cursorY)
    (iScroll : Int)
    (szMsg : Bytes)
    (bRender : Bool) :
    oledWriteString o iScroll x y szMsg bInvert bRender = (-1, some (o.setCursor x y, [])) := by
  have hcursor := hready.setCursor x y
  rw [oledWriteString, hcursor.width, hcursor.height, if_pos hoff]

/-- The loop that `oledWriteString` runs if the text starts on the display. -/
theorem oledWriteString_on
    (hready : Ready o shift lines)
    {x y : Int}
    (hx : (o.setCursor x y).cursorX < 128)
    (hy : (o.setCursor x y).cursorY < lines)
    (scroll : Nat)
    {szMsg : Bytes}
    (hzero : (0 : Byte) ∉ szMsg) :
    oledWriteString o scroll x y szMsg bInvert true =
      (0, thenDraw
        (some (oledSetPosition (o.setCursor x y) (o.setCursor x y).cursorX
          (o.setCursor x y).cursorY true))
        (writeChars bInvert true ((scroll % 8 : Nat) : Int) (scroll % 8)
          (szMsg.drop (scroll / 8)))) := by
  have hcursor := hready.setCursor x y
  have hposition := hcursor.oledSetPosition (o.setCursor x y).cursorX (o.setCursor x y).cursorY
    true
  have hloop := writeChars_scroll bInvert hposition hx hy szMsg hzero
    (Int.natCast_nonneg (scroll % 8)) (scroll / 8) (scroll % 8)
  have hscroll : ((scroll % 8 : Nat) : Int) + 8 * ((scroll / 8 : Nat) : Int) = scroll := by
    omega
  have hskip : ((scroll : Int) % 8).toNat = scroll % 8 := by
    omega
  rw [hscroll] at hloop
  rw [oledWriteString, hcursor.width, hcursor.height, if_neg (by omega), hskip,
    ← Prod.mk.eta (p := oledSetPosition (o.setCursor x y) (o.setCursor x y).cursorX
      (o.setCursor x y).cursorY true),
    thenDraw_some, thenDraw_some, hloop]

/-- The window of the text that is on the display is drawn. -/
theorem oledWriteString_spec
    (hready : Ready o shift lines)
    {x y : Int}
    (hx : (o.setCursor x y).cursorX < 128)
    (hy : (o.setCursor x y).cursorY < lines)
    {szMsg : Bytes}
    (hprintable : ∀ c ∈ szMsg, Printable c)
    (scroll : Nat) :
    ∃ o' sent,
      oledWriteString o scroll x y szMsg bInvert true = (0, some (o', sent)) ∧
        Ready o' shift lines ∧
        o'.screen =
          overlay o.screen ((o.setCursor x y).cursorY * 128 + (o.setCursor x y).cursorX)
            (((textColumns bInvert szMsg).drop scroll).take
              (128 - (o.setCursor x y).cursorX)) ∧
        ∀ m : Module, 128 + shift ≤ m.columns →
          (sent.foldl Module.receive m).ram =
            Function.update m.ram (o.setCursor x y).cursorY
              (overlay (m.ram (o.setCursor x y).cursorY) ((o.setCursor x y).cursorX + shift)
                (((textColumns bInvert szMsg).drop scroll).take
                  (128 - (o.setCursor x y).cursorX))) := by
  have hcursor := hready.setCursor x y
  have hlines := hready.lines_le
  have hzero : (0 : Byte) ∉ szMsg := fun h => (hprintable 0 h).ne_zero rfl
  obtain ⟨screen, hscreen⟩ := Option.isSome_iff_exists.mp hcursor.screen
  have hposition := hcursor.oledSetPosition (o.setCursor x y).cursorX (o.setCursor x y).cursorY
    true
  obtain ⟨cursorX, screenOffset, sent, hwrite, hpaints⟩ :=
    writeChars_spec bInvert hposition hscreen rfl hy (fun _ => rfl) (szMsg.drop (scroll / 8))
      (fun c hc => hprintable c (List.mem_of_mem_drop hc)) ((scroll % 8 : Nat) : Int) (by omega)
      (scroll % 8) (by omega)
  have hwindow : (textColumns bInvert (szMsg.drop (scroll / 8))).drop (scroll % 8) =
      (textColumns bInvert szMsg).drop scroll := by
    rw [← drop_textColumns bInvert hprintable, List.drop_drop]
    congr 1
    omega
  have hold : screen = o.screen := by
    rw [← screen_setCursor o x y, SsOled.screen, hscreen, Option.getD_some]
  rw [hwindow] at hwrite hpaints
  have hon := oledWriteString_on bInvert hready hx hy scroll hzero
  rw [← Prod.mk.eta (p := oledSetPosition (o.setCursor x y) (o.setCursor x y).cursorX
    (o.setCursor x y).cursorY true), thenDraw_some, hwrite, Option.map_some] at hon
  refine ⟨_, _, hon, hposition.redrawn _ cursorX (o.setCursor x y).cursorY screenOffset, ?_, ?_⟩
  · rw [← hold]
    rfl
  · intro m hwide
    rw [List.foldl_append, receive_oledSetPosition hcursor hx (by omega)]
    exact hpaints _ ⟨hwide, rfl, rfl⟩

/-- What is not seen of a text does not count. -/
theorem oledWriteString_take
    (hready : Ready o shift lines)
    (x y : Int)
    (szMsg : Bytes) :
    oledWriteString o 0 x y (szMsg.take ((128 - (o.setCursor x y).cursorX + 7) / 8)) bInvert
        true =
      oledWriteString o 0 x y szMsg bInvert true := by
  have hcursor := hready.setCursor x y
  by_cases hoff : 128 ≤ (o.setCursor x y).cursorX ∨ lines ≤ (o.setCursor x y).cursorY
  · rw [oledWriteString_off bInvert hready hoff, oledWriteString_off bInvert hready hoff]
  · rw [not_or, Nat.not_le, Nat.not_le] at hoff
    have hposition := hcursor.oledSetPosition (o.setCursor x y).cursorX (o.setCursor x y).cursorY
      true
    have hloop := writeChars_take bInvert hposition rfl hoff.2 (fun _ => rfl) szMsg 0 (by decide)
      0 (by decide) (.inr rfl)
    have hoff' : ¬ (128 ≤ (o.setCursor x y).cursorX ∨ lines ≤ (o.setCursor x y).cursorY) := by
      omega
    rw [oledWriteString, oledWriteString, hcursor.width, hcursor.height, if_neg hoff',
      if_neg hoff']
    rw [← Prod.mk.eta (p := oledSetPosition (o.setCursor x y) (o.setCursor x y).cursorX
      (o.setCursor x y).cursorY true), thenDraw_some, thenDraw_some]
    exact congrArg _ (congrArg _ hloop)

/-- A text stays inside the font if and only if the characters that are seen are in it. -/
theorem oledWriteString_isSome_iff
    (hready : Ready o shift lines)
    (x y : Int)
    (scroll : Nat)
    {szMsg : Bytes}
    (hzero : (0 : Byte) ∉ szMsg) :
    (oledWriteString o scroll x y szMsg bInvert true).2.isSome = true ↔
      128 ≤ (o.setCursor x y).cursorX ∨ lines ≤ (o.setCursor x y).cursorY ∨
        ∀ c ∈ (szMsg.drop (scroll / 8)).take
            ((128 - (o.setCursor x y).cursorX + scroll % 8 + 7) / 8),
          Printable c := by
  have hcursor := hready.setCursor x y
  by_cases hoff : 128 ≤ (o.setCursor x y).cursorX ∨ lines ≤ (o.setCursor x y).cursorY
  · rw [oledWriteString_off bInvert hready hoff]
    exact iff_of_true rfl (or_assoc.mp (.inl hoff))
  · rw [not_or, Nat.not_le, Nat.not_le] at hoff
    have hposition := hcursor.oledSetPosition (o.setCursor x y).cursorX (o.setCursor x y).cursorY
      true
    have hloop := writeChars_isSome_iff bInvert hposition rfl hoff.2 (fun _ => rfl)
      (szMsg.drop (scroll / 8)) (fun h => hzero (List.mem_of_mem_drop h))
      ((scroll % 8 : Nat) : Int) (by omega) (scroll % 8) (by omega) (.inl hoff.1)
    rw [oledWriteString_on bInvert hready hoff.1 hoff.2 scroll hzero, ← Prod.mk.eta (p :=
      oledSetPosition (o.setCursor x y) (o.setCursor x y).cursorX (o.setCursor x y).cursorY true),
      thenDraw_some, Option.isSome_map, hloop]
    constructor
    · intro hprintable
      exact .inr (.inr hprintable)
    · rintro (hx | hy | hprintable)
      · exact absurd hx (Nat.not_le.mpr hoff.1)
      · exact absurd hy (Nat.not_le.mpr hoff.2)
      · exact hprintable

end Text

section Dump

variable {o : SsOled}
variable {shift lines : Nat}
variable {base source : Nat → Byte}
variable {pBuffer : Option (Nat → Byte)}

theorem blockAt_eq_iff
    (f g : Nat → Byte)
    (address : Nat) :
    blockAt f address = blockAt g address ↔ ∀ i < 16, f (address + i) = g (address + i) := by
  simp only [blockAt, List.map_inj_left, List.mem_range]

/-- The block around this column is sent. -/
def Resent (pBuffer : Option (Nat → Byte)) (base : Nat → Byte) (y x : Nat) : Prop :=
  pBuffer = none ∨
    blockAt base (y * 128 + x / 16 * 16) ≠
      blockAt (pBuffer.getD base) (y * 128 + x / 16 * 16)

/-- A block laid over a memory. -/
theorem overlay_blockAt
    (memory : Nat → Byte)
    (start address a : Nat) :
    overlay memory start (blockAt source address) a =
      if start ≤ a ∧ a < start + 16 then source (address + (a - start)) else memory a := by
  have hblock : blockAt source address =
      (List.range 16).map fun i => (fun c => source (address + (c - start))) (start + i) := by
    simp only [blockAt, Nat.add_sub_cancel_left]
  rw [hblock]
  exact overlay_map_range memory start (fun c => source (address + (c - start))) 16 a

/-- The position for a block, if it needs one. -/
theorem dumpPosition
    (hready : Ready o shift lines)
    {y : Nat}
    (hy : y < lines)
    {k : Nat}
    (hk : k < 8)
    (bNeedPos : Bool)
    (hoffset : bNeedPos = false → o.screenOffset = y * 128 + k * 16) :
    ∃ sent,
      (if bNeedPos then oledSetPosition o (k * 16) y true else (o, [])) =
        ({ o with screenOffset := y * 128 + k * 16 }, sent) ∧
        ∀ m : Module, 128 + shift ≤ m.columns →
          (bNeedPos = false → Stands m shift y (k * 16)) →
            Stands (sent.foldl Module.receive m) shift y (k * 16) ∧
              (sent.foldl Module.receive m).ram = m.ram := by
  have hlines := hready.lines_le
  cases bNeedPos with
  | true =>
      refine ⟨(oledSetPosition o (k * 16) y true).2, rfl, fun m hwide _ => ?_⟩
      rw [receive_oledSetPosition hready (by omega) (by omega)]
      exact ⟨⟨hwide, rfl, rfl⟩, rfl⟩
  | false =>
      refine ⟨[], ?_, fun m _ hstands => ⟨hstands rfl, rfl⟩⟩
      rw [if_neg Bool.false_ne_true, ← hoffset rfl]

/-- A block of the picture is written where the module stands. -/
theorem receive_blockAt
    {m : Module}
    {y k : Nat}
    (hk : k < 8)
    (hstands : Stands m shift y (k * 16))
    (y' x : Nat) :
    (m.receive (0x40 :: blockAt source (y * 128 + k * 16))).ram y' (x + shift) =
      if y' = y ∧ k * 16 ≤ x ∧ x < (k + 1) * 16 then source (y * 128 + x)
      else m.ram y' (x + shift) := by
  have hwide := hstands.wide
  have hcolumn := hstands.column
  have hlength : (blockAt source (y * 128 + k * 16)).length = 16 := by
    rw [blockAt, List.length_map, List.length_range]
  rw [m.receive_data _ (by omega) (by omega), hstands.page, hcolumn]
  show Function.update m.ram y _ y' (x + shift) = _
  by_cases hrow : y' = y
  · subst hrow
    rw [Function.update_self, overlay_shift, overlay_blockAt]
    by_cases hin : k * 16 ≤ x ∧ x < k * 16 + 16
    · have haddress : y' * 128 + k * 16 + (x - k * 16) = y' * 128 + x := by omega
      rw [if_pos hin, if_pos (by omega), haddress]
    · rw [if_neg hin, if_neg (by omega)]
  · rw [Function.update_of_ne hrow, if_neg fun h => hrow h.1]

/-- A block that is sent, with its position if it needs one. -/
theorem dumpRow_send
    (hready : Ready o shift lines)
    {y : Nat}
    (hy : y < lines)
    {k : Nat}
    (hk : k < 8)
    (cols : List Nat)
    (bNeedPos : Bool)
    (hoffset : bNeedPos = false → o.screenOffset = y * 128 + k * 16)
    (hdata : blockAt (pBuffer.getD o.screen) (y * 128 + k * 16) =
      blockAt source (y * 128 + k * 16))
    (hsend : pBuffer = none ∨
      blockAt o.screen (y * 128 + k * 16) ≠ blockAt source (y * 128 + k * 16)) :
    ∃ sent,
      dumpRow pBuffer y (k :: cols) bNeedPos (y * 128 + k * 16) o =
        (dumpRow pBuffer y cols false (y * 128 + (k + 1) * 16)
          { o with
            ucScreen := some (overlay o.screen (y * 128 + k * 16)
              (blockAt source (y * 128 + k * 16)))
            screenOffset := (y * 128 + (k + 1) * 16) % 1024 }).map
          (fun r => (r.1, sent ++ r.2)) ∧
        ∀ m : Module, 128 + shift ≤ m.columns →
          (bNeedPos = false → Stands m shift y (k * 16)) →
            (k + 1 < 8 → Stands (sent.foldl Module.receive m) shift y ((k + 1) * 16)) ∧
              ∀ y' x, (sent.foldl Module.receive m).ram y' (x + shift) =
                if y' = y ∧ k * 16 ≤ x ∧ x < (k + 1) * 16 then source (y * 128 + x)
                else m.ram y' (x + shift) := by
  have hlines := hready.lines_le
  obtain ⟨screen, hscreen⟩ := Option.isSome_iff_exists.mp hready.screen
  have hold : o.screen = screen := by
    rw [SsOled.screen, hscreen, Option.getD_some]
  have hlength : (blockAt source (y * 128 + k * 16)).length = 16 := by
    rw [blockAt, List.length_map, List.length_range]
  have hnext : y * 128 + k * 16 + 16 = y * 128 + (k + 1) * 16 := by omega
  obtain ⟨sent, hposition, hstand⟩ := dumpPosition hready hy hk bNeedPos hoffset
  have hwrite := oledWriteDataBlock_spec
    (o := { o with screenOffset := y * 128 + k * 16 }) hscreen rfl (by omega)
    (blockAt source (y * 128 + k * 16)) (by omega)
  rw [hlength, hnext] at hwrite
  refine ⟨sent ++ [0x40 :: blockAt source (y * 128 + k * 16)], ?_, fun m hwide hstands => ?_⟩
  · rw [dumpRow, hdata, if_pos (.inr (hsend.imp_left fun h => by rw [h]; rfl)), hposition,
      thenDraw_some, hwrite, thenDraw_some, hnext, hold, Option.map_map]
    congr 1
    funext r
    simp only [Function.comp_apply, List.append_assoc]
  · obtain ⟨hstood, hkept⟩ := hstand m hwide hstands
    rw [List.foldl_append, List.foldl_cons, List.foldl_nil]
    refine ⟨fun hk' => ?_, fun y' x => ?_⟩
    · have hblock := hstood.block (blockAt source (y * 128 + k * 16)) (by omega)
      have hcolumn : k * 16 + 16 = (k + 1) * 16 := by omega
      rwa [hlength, hcolumn] at hblock
    · rw [receive_blockAt hk hstood, hkept]

/-- A block that is left out. -/
theorem dumpRow_skip
    (hready : Ready o shift lines)
    {y k : Nat}
    (cols : List Nat)
    (bNeedPos : Bool)
    (hdata : blockAt (pBuffer.getD o.screen) (y * 128 + k * 16) =
      blockAt source (y * 128 + k * 16))
    (hsend : ¬ (pBuffer = none ∨
      blockAt o.screen (y * 128 + k * 16) ≠ blockAt source (y * 128 + k * 16))) :
    dumpRow pBuffer y (k :: cols) bNeedPos (y * 128 + k * 16) o =
      dumpRow pBuffer y cols true (y * 128 + (k + 1) * 16) o := by
  have hnext : y * 128 + k * 16 + 16 = y * 128 + (k + 1) * 16 := by omega
  rw [dumpRow, hdata, hnext, if_neg]
  rintro (hnone | hnone | hne)
  · rw [Option.isNone_iff_eq_none] at hnone
    have hsome := hready.screen
    rw [hnone] at hsome
    exact Bool.false_ne_true hsome
  · exact hsend (.inl (Option.isNone_iff_eq_none.mp hnone))
  · exact hsend (.inr hne)

/-- A block is sent, and what is behind it in the row is done. -/
theorem row_eq_send
    (y : Nat)
    {k : Nat}
    (hk : k < 8)
    (picture memory : Nat → Byte)
    (a : Nat) :
    (if y * 128 + (k + 1) * 16 ≤ a ∧ a < y * 128 + 128 then picture a
      else overlay memory (y * 128 + k * 16) (blockAt picture (y * 128 + k * 16)) a) =
      if y * 128 + k * 16 ≤ a ∧ a < y * 128 + 128 then picture a else memory a := by
  rw [overlay_blockAt]
  by_cases hin : y * 128 + k * 16 ≤ a ∧ a < y * 128 + k * 16 + 16
  · have haddress : y * 128 + k * 16 + (a - (y * 128 + k * 16)) = a := by omega
    rw [if_neg (by omega), if_pos hin, if_pos (by omega), haddress]
  · have hiff : y * 128 + (k + 1) * 16 ≤ a ∧ a < y * 128 + 128 ↔
        y * 128 + k * 16 ≤ a ∧ a < y * 128 + 128 := by omega
    rw [if_neg hin]
    simp only [hiff]

/-- A block that is equal in both is left out. -/
theorem row_eq_skip
    (y : Nat)
    {k : Nat}
    (hk : k < 8)
    {picture memory : Nat → Byte}
    (hequal : blockAt memory (y * 128 + k * 16) = blockAt picture (y * 128 + k * 16))
    (a : Nat) :
    (if y * 128 + (k + 1) * 16 ≤ a ∧ a < y * 128 + 128 then picture a else memory a) =
      if y * 128 + k * 16 ≤ a ∧ a < y * 128 + 128 then picture a else memory a := by
  by_cases hin : y * 128 + k * 16 ≤ a ∧ a < y * 128 + k * 16 + 16
  · obtain ⟨i, rfl⟩ := Nat.exists_eq_add_of_le hin.1
    rw [if_neg (by omega), if_pos (by omega)]
    exact (blockAt_eq_iff _ _ _).mp hequal i (by omega)
  · have hiff : y * 128 + (k + 1) * 16 ≤ a ∧ a < y * 128 + 128 ↔
        y * 128 + k * 16 ≤ a ∧ a < y * 128 + 128 := by omega
    simp only [hiff]

section Columns

variable {Sent : Nat → Prop} [DecidablePred Sent]
variable {y y' k x : Nat}

/-- The columns that a block and the blocks behind it draw. -/
theorem columns_eq_send
    (hk : k < 8)
    (hthis : ∀ x, k * 16 ≤ x → x < (k + 1) * 16 → Sent x)
    (drawn kept : Byte) :
    (if y' = y ∧ (k + 1) * 16 ≤ x ∧ x < 128 ∧ Sent x then drawn
      else if y' = y ∧ k * 16 ≤ x ∧ x < (k + 1) * 16 then drawn else kept) =
      if y' = y ∧ k * 16 ≤ x ∧ x < 128 ∧ Sent x then drawn else kept := by
  by_cases hin : k * 16 ≤ x ∧ x < (k + 1) * 16
  · have hsent := hthis x hin.1 hin.2
    rw [if_neg (by omega)]
    by_cases hrow : y' = y
    · rw [if_pos ⟨hrow, hin⟩, if_pos ⟨hrow, hin.1, by omega, hsent⟩]
    · rw [if_neg fun h => hrow h.1, if_neg fun h => hrow h.1]
  · have hiff : (k + 1) * 16 ≤ x ↔ k * 16 ≤ x := by omega
    have hother : ¬ (y' = y ∧ k * 16 ≤ x ∧ x < (k + 1) * 16) := fun h => hin h.2
    rw [if_neg hother]
    simp only [hiff]

/-- A block that is left out draws no column. -/
theorem columns_eq_skip
    (hthis : ∀ x, k * 16 ≤ x → x < (k + 1) * 16 → ¬ Sent x)
    (drawn kept : Byte) :
    (if y' = y ∧ (k + 1) * 16 ≤ x ∧ x < 128 ∧ Sent x then drawn else kept) =
      if y' = y ∧ k * 16 ≤ x ∧ x < 128 ∧ Sent x then drawn else kept := by
  by_cases hin : k * 16 ≤ x ∧ x < (k + 1) * 16
  · rw [if_neg (by omega), if_neg fun h => hthis x hin.1 hin.2 h.2.2.2]
  · have hiff : (k + 1) * 16 ≤ x ↔ k * 16 ≤ x := by omega
    simp only [hiff]

end Columns

open Classical in
/-- The rest of a row, which has not been touched yet. -/
theorem dumpRow_spec
    (pBuffer : Option (Nat → Byte))
    (hready : Ready o shift lines)
    {y : Nat}
    (hy : y < lines)
    (n k : Nat)
    (hend : k + n = 8)
    (bNeedPos : Bool)
    (hoffset : bNeedPos = false → k < 8 → o.screenOffset = y * 128 + k * 16)
    (hbase : ∀ a, y * 128 + k * 16 ≤ a → o.screen a = base a) :
    ∃ screen screenOffset sent,
      dumpRow pBuffer y (List.range' k n) bNeedPos (y * 128 + k * 16) o =
        some ({ o with ucScreen := some screen, screenOffset := screenOffset }, sent) ∧
        (∀ a, screen a =
          if y * 128 + k * 16 ≤ a ∧ a < y * 128 + 128 then pBuffer.getD base a
          else o.screen a) ∧
        ∀ m : Module, 128 + shift ≤ m.columns →
          (bNeedPos = false → k < 8 → Stands m shift y (k * 16)) →
            ∀ y' x, (sent.foldl Module.receive m).ram y' (x + shift) =
              if y' = y ∧ k * 16 ≤ x ∧ x < 128 ∧ Resent pBuffer base y x then
                pBuffer.getD base (y * 128 + x)
              else
                m.ram y' (x + shift) := by
  have hlines := hready.lines_le
  induction n generalizing o k bNeedPos with
  | zero =>
      obtain ⟨screen, hscreen⟩ := Option.isSome_iff_exists.mp hready.screen
      refine ⟨screen, o.screenOffset, [], ?_, fun a => ?_, fun m _ _ y' x => ?_⟩
      · rw [← hscreen]
        rfl
      · rw [if_neg (by omega), SsOled.screen, hscreen, Option.getD_some]
      · rw [if_neg (by omega)]
        rfl
  | succ n ih =>
      have hshadow : blockAt o.screen (y * 128 + k * 16) = blockAt base (y * 128 + k * 16) :=
        (blockAt_eq_iff _ _ _).mpr fun i _ => hbase _ (Nat.le_add_right _ _)
      have hdata : blockAt (pBuffer.getD o.screen) (y * 128 + k * 16) =
          blockAt (pBuffer.getD base) (y * 128 + k * 16) := by
        cases pBuffer with
        | none =>
            exact hshadow
        | some buffer =>
            rfl
      have hresent : ∀ x, k * 16 ≤ x → x < (k + 1) * 16 →
          (Resent pBuffer base y x ↔ pBuffer = none ∨ blockAt o.screen (y * 128 + k * 16) ≠
            blockAt (pBuffer.getD base) (y * 128 + k * 16)) := by
        intro x hlow hhigh
        have hblock : x / 16 * 16 = k * 16 := by omega
        rw [Resent, hblock, hshadow]
      rw [List.range'_succ]
      by_cases hsend : pBuffer = none ∨ blockAt o.screen (y * 128 + k * 16) ≠
          blockAt (pBuffer.getD base) (y * 128 + k * 16)
      · obtain ⟨sent, hblock, hmodule⟩ := dumpRow_send hready hy (by omega)
          (List.range' (k + 1) n) bNeedPos (fun hneed => hoffset hneed (by omega)) hdata hsend
        obtain ⟨screen, screenOffset, more, hrest, hscreen, hram⟩ := ih
          (hready.redrawn (overlay o.screen (y * 128 + k * 16)
            (blockAt (pBuffer.getD base) (y * 128 + k * 16))) o.cursorX o.cursorY
            ((y * 128 + (k + 1) * 16) % 1024))
          (k + 1) (by omega) false
          (by
            intro _ hk
            show (y * 128 + (k + 1) * 16) % 1024 = y * 128 + (k + 1) * 16
            omega)
          (by
            intro a ha
            show overlay o.screen _ _ a = base a
            rw [overlay_blockAt, if_neg (by omega), hbase a (by omega)])
        refine ⟨screen, screenOffset, sent ++ more, ?_, fun a => ?_, fun m hwide hstands y' x => ?_⟩
        · rw [hblock, hrest, Option.map_some]
        · exact (hscreen a).trans (row_eq_send y (by omega) _ _ a)
        · obtain ⟨hstood, hsent⟩ := hmodule m hwide fun hneed => hstands hneed (by omega)
          have hwide' : 128 + shift ≤ (sent.foldl Module.receive m).columns := by
            rw [← Module.receiveSome_true, Module.columns_receiveSome]
            exact hwide
          rw [List.foldl_append, hram _ hwide' (fun _ => hstood) y' x, hsent]
          exact columns_eq_send (by omega) (fun x hlow hhigh => (hresent x hlow hhigh).mpr hsend)
            _ _
      · obtain ⟨screen, screenOffset, sent, hrest, hscreen, hram⟩ := ih hready (k + 1)
          (by omega) true (fun h => absurd h.symm Bool.false_ne_true)
          fun a ha => hbase a (by omega)
        refine ⟨screen, screenOffset, sent, ?_, fun a => ?_, fun m hwide _ y' x => ?_⟩
        · rw [dumpRow_skip hready _ bNeedPos hdata hsend, hrest]
        · have hequal := not_not.mp fun hne => hsend (.inr hne)
          exact (hscreen a).trans (row_eq_skip y (by omega) hequal a)
        · rw [hram m hwide (fun h => absurd h.symm Bool.false_ne_true) y' x]
          exact columns_eq_skip (fun x hlow hhigh h => hsend ((hresent x hlow hhigh).mp h)) _ _

open Classical in
/-- The rows from one on. -/
theorem drawEach_dumpRow
    (pBuffer : Option (Nat → Byte))
    (hready : Ready o shift lines)
    (n y : Nat)
    (hend : y + n = lines)
    (hbase : ∀ a, y * 128 ≤ a → o.screen a = base a) :
    ∃ screen screenOffset sent,
      drawEach (fun o y => dumpRow pBuffer y (List.range 8) true (y * 128) o)
          (List.range' y n) o =
        some ({ o with ucScreen := some screen, screenOffset := screenOffset }, sent) ∧
        (∀ a, screen a =
          if y * 128 ≤ a ∧ a < lines * 128 then pBuffer.getD base a else o.screen a) ∧
        ∀ m : Module, 128 + shift ≤ m.columns →
          ∀ y' x, (sent.foldl Module.receive m).ram y' (x + shift) =
            if y ≤ y' ∧ y' < lines ∧ x < 128 ∧ Resent pBuffer base y' x then
              pBuffer.getD base (y' * 128 + x)
            else
              m.ram y' (x + shift) := by
  induction n generalizing o y with
  | zero =>
      obtain ⟨screen, hscreen⟩ := Option.isSome_iff_exists.mp hready.screen
      refine ⟨screen, o.screenOffset, [], ?_, fun a => ?_, fun m _ y' x => ?_⟩
      · rw [← hscreen]
        rfl
      · rw [if_neg (by omega), SsOled.screen, hscreen, Option.getD_some]
      · rw [if_neg (by omega)]
        rfl
  | succ n ih =>
      obtain ⟨screen, screenOffset, sent, hrow, hscreen, hram⟩ :=
        dumpRow_spec pBuffer hready (y := y) (by omega) 8 0 rfl true
          (fun h => absurd h.symm Bool.false_ne_true) fun a ha => hbase a (by omega)
      rw [← List.range_eq_range', Nat.zero_mul, Nat.add_zero] at hrow
      obtain ⟨screen', screenOffset', more, hrest, hscreen', hram'⟩ := ih
        (hready.redrawn screen o.cursorX o.cursorY screenOffset) (y + 1) (by omega)
        (by
          intro a ha
          show screen a = base a
          rw [hscreen a, if_neg (by omega), hbase a (by omega)])
      refine ⟨screen', screenOffset', sent ++ more, ?_, fun a => ?_, fun m hwide y' x => ?_⟩
      · rw [List.range'_succ, drawEach, hrow, thenDraw_some]
        rw [hrest]
        rfl
      · rw [hscreen' a]
        show (if _ then _ else screen a) = _
        rw [hscreen a]
        by_cases hthis : y * 128 ≤ a ∧ a < (y + 1) * 128
        · rw [if_neg (by omega), if_pos (by omega), if_pos (by omega)]
        · by_cases hlater : (y + 1) * 128 ≤ a ∧ a < lines * 128
          · rw [if_pos hlater, if_pos (by omega)]
          · rw [if_neg hlater, if_neg (by omega), if_neg (by omega)]
      · have hwide' : 128 + shift ≤ (sent.foldl Module.receive m).columns := by
          rw [← Module.receiveSome_true, Module.columns_receiveSome]
          exact hwide
        rw [List.foldl_append, hram' _ hwide' y' x,
          hram m hwide (fun h => absurd h.symm Bool.false_ne_true) y' x]
        by_cases hrow : y' = y
        · subst hrow
          have hinrow : y' < lines := by omega
          rw [if_neg (by omega)]
          simp only [Nat.zero_mul, Nat.zero_le, true_and, Nat.le_refl, hinrow]
        · have hother : ¬ (y' = y ∧ 0 * 16 ≤ x ∧ x < 128 ∧ Resent pBuffer base y x) :=
            fun h => hrow h.1
          have hiff : y + 1 ≤ y' ↔ y ≤ y' := by omega
          rw [if_neg hother]
          simp only [hiff]

/-- A block that is not sent is the same in both pictures. -/
theorem eq_of_not_resent
    {y x : Nat}
    (hresent : ¬ Resent pBuffer base y x) :
    pBuffer.getD base (y * 128 + x) = base (y * 128 + x) := by
  rw [Resent, not_or, not_not, blockAt_eq_iff] at hresent
  have haddress : y * 128 + x / 16 * 16 + x % 16 = y * 128 + x := by omega
  rw [← haddress]
  exact (hresent.2 (x % 16) (Nat.mod_lt _ (by decide))).symm

/--
The buffer takes the picture.  The display shows it if and only if it has shown the old one
wherever a block is the same in both: only the other blocks are sent.
-/
theorem oledDumpBuffer_shows_iff
    (hready : Ready o shift lines)
    (pBuffer : Option (Nat → Byte)) :
    ∃ o' sent,
      oledDumpBuffer o pBuffer = some (o', sent) ∧ Ready o' shift lines ∧
        Buffered o' lines (fun y x => pBuffer.getD o.screen (y * 128 + x)) ∧
        ∀ m : Module, 128 + shift ≤ m.columns →
          (Displayed (sent.foldl Module.receive m) shift lines
              (fun y x => pBuffer.getD o.screen (y * 128 + x)) ↔
            ∀ y < lines, ∀ x < 128, ¬ Resent pBuffer o.screen y x →
              m.ram y (x + shift) = o.screen (y * 128 + x)) := by
  have hsome := hready.screen
  obtain ⟨screen, screenOffset, sent, hdraw, hscreen, hram⟩ :=
    drawEach_dumpRow pBuffer hready lines 0 (Nat.zero_add lines) fun a _ => rfl
  have hrows : oledDumpBuffer o pBuffer =
      drawEach (fun o y => dumpRow pBuffer y (List.range 8) true (y * 128) o)
        (List.range' 0 lines) o := by
    rw [oledDumpBuffer, if_neg, ← List.range_eq_range']
    · simp only [hready.width, hready.height]
    · rintro ⟨-, hnone⟩
      rw [Option.isNone_iff_eq_none] at hnone
      rw [hnone] at hsome
      exact Bool.false_ne_true hsome
  refine ⟨_, sent, hrows.trans hdraw,
    hready.redrawn screen o.cursorX o.cursorY screenOffset, ?_, ?_⟩
  · intro y hy x hx
    show screen (y * 128 + x) = _
    rw [hscreen, if_pos (by omega)]
  · intro m hwide
    constructor
    · intro hshown y hy x hx hresent
      have hcell := hshown y hy x hx
      rw [hram m hwide, if_neg fun h => hresent h.2.2.2] at hcell
      rw [hcell]
      exact eq_of_not_resent hresent
    · intro hold y hy x hx
      rw [hram m hwide]
      by_cases hresent : Resent pBuffer o.screen y x
      · rw [if_pos ⟨Nat.zero_le y, hy, hx, hresent⟩]
      · rw [if_neg fun h => hresent h.2.2.2, hold y hy x hx hresent]
        exact (eq_of_not_resent hresent).symm

/-- A display of 64 rows with an empty buffer. -/
def emptyOled : SsOled where
  oledWrap := false
  oledFlip := true
  oledType := .oled128x64
  ucScreen := some fun _ => 0
  cursorX := 0
  cursorY := 0
  oledX := 128
  oledY := 64
  screenOffset := 0

theorem emptyOled_ready : Ready emptyOled 0 8 where
  screen := rfl
  width := rfl
  height := rfl
  size := rfl
  lines_le := Nat.le_refl 8
  shift_le := Nat.zero_le 2
  noWrap := rfl
  visible := fun _ _ => rfl
  notNarrow := OledType.noConfusion

theorem oledDumpBuffer_shows_iff_corner :
    ∃ o' sent,
      oledDumpBuffer emptyOled (some fun a => if a = 1023 then 1 else 0) = some (o', sent) ∧
        Displayed
          (sent.foldl Module.receive { columns := 128, page := 3, column := 9, ram := fun _ _ => 0 })
          0 8 fun y x => if y * 128 + x = 1023 then 1 else 0 := by
  obtain ⟨o', sent, hdump, -, -, hshown⟩ := oledDumpBuffer_shows_iff emptyOled_ready
    (some fun a => if a = 1023 then 1 else 0)
  exact ⟨o', sent, hdump, (hshown _ (Nat.le_refl 128)).mpr fun _ _ _ _ _ => rfl⟩

end Dump

end Adav
end BrBox
