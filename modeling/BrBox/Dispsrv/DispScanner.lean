import BrBox.Lib.CxxText
import BrBox.Lib.LabelledRun

/-!
# The display scanner

Every three seconds `DispScanner` looks for a display at three addresses on the
i2c nodes of the board, and creates or deletes the display object of the
service.  `timerNotification` is the callback of the 100 ms timer.

Two things of a scan decide what is seen: the probing of an address ends at the
first node that cannot be opened, and an object that exists is kept as long as
some address answers.  `displayOk_scan_iff` says for one scan, and
`displayOk_run_iff` for a whole run, when the display object is nevertheless
the one that belongs to the hardware.
-/

namespace BrBox
namespace Dispsrv

open CText
open CxxText
open LabelledRun

/-- `ADLIB_DISPLAY_TYPE`. -/
inductive DisplayType where
  | ssd1306x32
  | ssd1306x64
  | ssd1306x32Pi
  | ssd1306x64Pi
  | dualPcf1602
  | pcf1602
  | pcf2002
  | pcf2004
  | pcf1604
  | unknown
  | none
deriving DecidableEq, Repr

/-- `ADLIB_DISPLAY_TYPE_TABL`. -/
def displayTypeTabl : List (DisplayType × Bytes) :=
  [ (.ssd1306x32, text "ssd1306_128x32"),
    (.ssd1306x64, text "ssd1306_128x64"),
    (.ssd1306x32Pi, text "ssd1306_128x32_pi"),
    (.ssd1306x64Pi, text "ssd1306_128x64_pi"),
    (.dualPcf1602, text "1602_dual_pcf"),
    (.pcf1602, text "1602_pcf"),
    (.pcf2002, text "2002_pcf"),
    (.pcf2004, text "2004_pcf"),
    (.pcf1604, text "1604_pcf"),
    (.unknown, text "unknown"),
    (.none, text "none") ]

/-- The entry of the table for a type. -/
def DisplayType.name (t : DisplayType) : Bytes :=
  ((displayTypeTabl.find? fun row => row.1 = t).map Prod.snd).getD []

/-- `string_to_enum`: only the entries before `unknown` are compared. -/
def stringToEnum (name : Bytes) : DisplayType :=
  (((displayTypeTabl.take 9).find? fun row => row.2 = name).map Prod.fst).getD .unknown

/-- The classes of display objects. -/
inductive Driver where
  | i2cSsd1306
  | dispAccess
  | i2cPcfLcd
deriving DecidableEq, Repr

/-- The class that is created for a type; none for the types that have no class. -/
def DisplayType.driver : DisplayType → Option Driver
  | .ssd1306x32 => some .i2cSsd1306
  | .ssd1306x64 => some .i2cSsd1306
  | .ssd1306x32Pi => some .dispAccess
  | .ssd1306x64Pi => some .dispAccess
  | .dualPcf1602 => some .i2cPcfLcd
  | .pcf1602 => some .i2cPcfLcd
  | .pcf2002 => some .i2cPcfLcd
  | .pcf2004 => some .i2cPcfLcd
  | .pcf1604 => some .i2cPcfLcd
  | .unknown => Option.none
  | .none => Option.none

/-- A display object, with the text it has been told to show.  Its class is the
    one of its type. -/
structure DisplayDevice where
  driver : Driver
  devNode : Bytes
  devType : DisplayType
  lines : List Bytes
  driver_devType : devType.driver = some driver
deriving DecidableEq

/-- `create_display_device`. -/
def createDisplayDevice (devNode typeName : Bytes) : Option DisplayDevice :=
  match hdriver : (stringToEnum typeName).driver with
  | none => none
  | some driver =>
      some
        { driver := driver
          devNode := devNode
          devType := stringToEnum typeName
          lines := []
          driver_devType := hdriver }

/-- One i2c device node at the time of a scan. -/
structure I2cNode where
  path : Bytes
  /-- `open` succeeds. -/
  openable : Bool
  /-- A kernel driver holds the address: `ioctl` with `I2C_SLAVE` fails. -/
  busy : Byte → Bool
  /-- A byte can be read at the address. -/
  acks : Byte → Bool

/-- A device answers at the address of the node. -/
def I2cNode.Answers (node : I2cNode) (addr : Byte) : Prop :=
  node.openable = true ∧ node.busy addr = false ∧ node.acks addr = true

instance (node : I2cNode) (addr : Byte) : Decidable (node.Answers addr) :=
  inferInstanceAs (Decidable (_ ∧ _ ∧ _))

/-- `probe_i2c_addr`. -/
def probeI2cAddr (node : I2cNode) (addr : Byte) : Int :=
  if node.openable = false then -1
  else if node.busy addr = true then -1
  else if node.acks addr = false then 1
  else 0

/-- `check_for_i2c_addr`: the result, and what is left in `node`. -/
def checkForI2cAddr (nodes : List I2cNode) (addr : Byte) (node : Bytes) : Int × Bytes :=
  match nodes with
  | [] => (-1, node)
  | entry :: rest =>
      let res := probeI2cAddr entry addr
      -- The case of an unopenable node falls through to the case of a device.
      if res = -1 ∨ res = 0 then (res, entry.path)
      else checkForI2cAddr rest addr node

/-- The type chosen for a display that answers at an address. -/
def chosenType (preferred : DisplayType) (addr : Byte) : DisplayType :=
  if addr = 0x3c then
    if preferred = .ssd1306x64 ∨ preferred = .ssd1306x32 then preferred else .ssd1306x32
  else if addr = 0x3f then
    .pcf1602
  else
    if preferred = .pcf2002 ∨ preferred = .pcf2004 then preferred else .dualPcf1602

/-- What the three checks of a scan leave behind. -/
structure Detected where
  lastFoundDev : Byte
  dispType : DisplayType
  node : Bytes
deriving DecidableEq, Repr

/-- The three checks of `timer_notification`. -/
def detect (preferred : DisplayType) (nodes : List I2cNode) : Detected :=
  let r1 := checkForI2cAddr nodes 0x3c []
  if r1.1 = 0 then
    { lastFoundDev := 0x3c, dispType := chosenType preferred 0x3c, node := r1.2 }
  else
    let r2 := checkForI2cAddr nodes 0x3f r1.2
    if r2.1 = 0 then
      { lastFoundDev := 0x3f, dispType := chosenType preferred 0x3f, node := r2.2 }
    else
      let r3 := checkForI2cAddr nodes 0x27 r2.2
      if r3.1 = 0 then
        { lastFoundDev := 0x27, dispType := chosenType preferred 0x27, node := r3.2 }
      else
        { lastFoundDev := 0, dispType := preferred, node := r3.2 }

/-- The scanner together with the `pDisplay` it shares with the service. -/
structure Scanner where
  timerCount : UInt32
  lastFoundDev : Byte
  lastIp : Bytes
  pDisplay : Option DisplayDevice
deriving DecidableEq

/-- One call of the timer: the nodes of the board and the own address. -/
structure ScanCall where
  nodes : List I2cNode
  ipaddr : Bytes

/-- The text of a scanner that has shown no address. -/
def textNone : Bytes := text "none"

/-- A display that has been unplugged is deleted. -/
def unplug (s : Scanner) : Scanner :=
  if s.pDisplay ≠ none ∧ s.lastFoundDev = 0 then
    { s with pDisplay := none, lastIp := textNone }
  else
    s

/-- A display that has been plugged is created. -/
def plug (found : Detected) (s : Scanner) : Scanner :=
  if s.pDisplay = none ∧ s.lastFoundDev ≠ 0 then
    match createDisplayDevice found.node found.dispType.name with
    | none => s
    | some display => { s with pDisplay := some display, lastIp := textNone }
  else
    s

/-- The address is printed again when it has changed. -/
def showIpaddr (ipaddr : Bytes) (s : Scanner) : Scanner :=
  match s.pDisplay with
  | none => s
  | some display =>
      if ipaddr = s.lastIp then
        s
      else
        { s with
          pDisplay := some { display with lines := [text "Welcome", ipaddr] }
          lastIp := ipaddr }

/-- The body of a scan. -/
def scan (preferred : DisplayType) (call : ScanCall) (s : Scanner) : Scanner :=
  let found := detect preferred call.nodes
  showIpaddr call.ipaddr (plug found (unplug { s with lastFoundDev := found.lastFoundDev }))

/-- The next call of the timer is a scan: `DISP_SCAN_DURATION` is 30. -/
def Scanner.ScanDue (s : Scanner) : Prop :=
  (s.timerCount + 1) % 30 = 0

instance (s : Scanner) : Decidable s.ScanDue :=
  inferInstanceAs (Decidable (_ = _))

/-- `timer_notification`. -/
def timerNotification
    (preferred : DisplayType) (call : ScanCall) (s : Scanner) : Scanner :=
  let counted := { s with timerCount := s.timerCount + 1 }
  if s.ScanDue then scan preferred call counted else counted

/-- The type preferred by the user, as `main` reads it from the command line. -/
def preferredType (typeName : Bytes) : DisplayType :=
  stringToEnum typeName

/-- The scanner at start: `main` creates the display the user asked for. -/
def Scanner.start (devNode typeName : Bytes) : Scanner :=
  { timerCount := 0
    lastFoundDev := 0
    lastIp := textNone
    pDisplay := createDisplayDevice devNode typeName }

/-- The addresses in the order they are looked at. -/
def scanAddrs : List Byte := [0x3c, 0x3f, 0x27]

/-- Some node answers at the address. -/
def Answered (nodes : List I2cNode) (addr : Byte) : Prop :=
  ∃ node ∈ nodes, node.Answers addr

instance (nodes : List I2cNode) (addr : Byte) : Decidable (Answered nodes addr) :=
  inferInstanceAs (Decidable (∃ node ∈ nodes, _))

/-- The first address at which something answers. -/
def firstAnswered (nodes : List I2cNode) : Option Byte :=
  scanAddrs.find? fun addr => Answered nodes addr

/-- The display object belongs to what answers at an address now. -/
def Suits
    (preferred : DisplayType) (nodes : List I2cNode) (addr : Byte)
    (display : DisplayDevice) : Prop :=
  display.devType = chosenType preferred addr ∧
    ∃ node ∈ nodes, node.path = display.devNode ∧ node.Answers addr

/-- There is a display object exactly when something answers, and it belongs to
    the first address that answers. -/
def DisplayOk (preferred : DisplayType) (nodes : List I2cNode) (s : Scanner) : Prop :=
  (s.pDisplay ≠ none ↔ ∃ addr ∈ scanAddrs, Answered nodes addr) ∧
    ∀ display addr, s.pDisplay = some display → firstAnswered nodes = some addr →
      Suits preferred nodes addr display

/-- A device answers at the address, and no node before it blocks the probing. -/
def Reached (nodes : List I2cNode) (addr : Byte) : Prop :=
  ∃ before node after, nodes = before ++ node :: after ∧ node.Answers addr ∧
    ∀ other ∈ before, other.openable = true ∧ other.busy addr = false

/-- What has to be true before a scan, so that it leaves the right object behind:
    with no object, the first address that answers is reached; with one, some
    address is reached and the object is the right one already. -/
def ScanCond (preferred : DisplayType) (nodes : List I2cNode) (s : Scanner) : Prop :=
  ∀ addr, firstAnswered nodes = some addr →
    match s.pDisplay with
    | none => Reached nodes addr
    | some display =>
        (∃ reached ∈ scanAddrs, Reached nodes reached) ∧
          Suits preferred nodes addr display

section Detect

variable {preferred : DisplayType} {nodes : List I2cNode} {addr : Byte}

/-- The probing of an address succeeds exactly when the address is reached. -/
theorem checkForI2cAddr_eq_zero_iff
    (buf : Bytes) :
    (checkForI2cAddr nodes addr buf).1 = 0 ↔ Reached nodes addr := by
  induction nodes with
  | nil =>
      constructor
      · intro hres
        simp [checkForI2cAddr] at hres
      · rintro ⟨before, node, after, hnodes, -⟩
        cases before <;> cases hnodes
  | cons entry rest ih =>
      unfold checkForI2cAddr
      by_cases hblock : entry.openable = false ∨ entry.busy addr = true
      · have hres : probeI2cAddr entry addr = -1 := by
          unfold probeI2cAddr
          rcases hblock with hopen | hbusy
          · rw [if_pos hopen]
          · rw [if_pos hbusy, ite_self]
        simp only [hres, true_or, if_true]
        constructor
        · intro hzero
          exact absurd hzero (by decide)
        · rintro ⟨before, node, after, hnodes, hanswers, hbefore⟩
          cases before with
          | nil =>
              cases hnodes
              simp_all [I2cNode.Answers]
          | cons head before =>
              cases hnodes
              have := hbefore entry (by simp)
              simp_all
      · have hopen : entry.openable = true := by simp_all
        have hbusy : entry.busy addr = false := by simp_all
        by_cases hacks : entry.acks addr = true
        · have hres : probeI2cAddr entry addr = 0 := by
            simp [probeI2cAddr, hopen, hbusy, hacks]
          simp only [hres, or_true, if_true, true_iff]
          exact ⟨[], entry, rest, rfl, ⟨hopen, hbusy, hacks⟩, by simp⟩
        · have hres : probeI2cAddr entry addr = 1 := by
            simp [probeI2cAddr, hopen, hbusy, hacks]
          rw [hres, if_neg (by decide), ih]
          constructor
          · rintro ⟨before, node, after, rfl, hanswers, hbefore⟩
            refine ⟨entry :: before, node, after, rfl, hanswers, ?_⟩
            intro other hother
            rcases List.mem_cons.mp hother with rfl | hother
            · exact ⟨hopen, hbusy⟩
            · exact hbefore other hother
          · rintro ⟨before, node, after, hnodes, hanswers, hbefore⟩
            cases before with
            | nil =>
                cases hnodes
                exact absurd hanswers.2.2 hacks
            | cons head before =>
                cases hnodes
                exact ⟨before, node, after, rfl, hanswers,
                  fun other hother => hbefore other (by simp [hother])⟩

/-- A successful probing leaves the path of a node that answers. -/
theorem checkForI2cAddr_node
    {buf : Bytes}
    (hres : (checkForI2cAddr nodes addr buf).1 = 0) :
    ∃ node ∈ nodes, node.path = (checkForI2cAddr nodes addr buf).2 ∧ node.Answers addr := by
  induction nodes with
  | nil => simp [checkForI2cAddr] at hres
  | cons entry rest ih =>
      unfold checkForI2cAddr at hres ⊢
      by_cases hstop : probeI2cAddr entry addr = -1 ∨ probeI2cAddr entry addr = 0
      · simp only [if_pos hstop] at hres ⊢
        refine ⟨entry, by simp, rfl, ?_⟩
        unfold probeI2cAddr at hres
        split at hres
        · exact absurd hres (by decide)
        split at hres
        · exact absurd hres (by decide)
        split at hres
        · exact absurd hres (by decide)
        · simp_all [I2cNode.Answers]
      · simp only [if_neg hstop] at hres ⊢
        obtain ⟨node, hnode, hpath, hanswers⟩ := ih hres
        exact ⟨node, List.mem_cons_of_mem _ hnode, hpath, hanswers⟩

theorem Reached.answered
    (hreached : Reached nodes addr) :
    Answered nodes addr := by
  obtain ⟨before, node, after, rfl, hanswers, -⟩ := hreached
  exact ⟨node, by simp, hanswers⟩

/-- A scan in which no address is reached finds nothing. -/
theorem detect_of_not_reached
    (preferred : DisplayType)
    (hnone : ∀ addr ∈ scanAddrs, ¬ Reached nodes addr) :
    (detect preferred nodes).lastFoundDev = 0 := by
  have h1 := hnone 0x3c (by decide)
  have h2 := hnone 0x3f (by decide)
  have h3 := hnone 0x27 (by decide)
  simp only [detect, checkForI2cAddr_eq_zero_iff, h1, h2, h3, if_false]

/-- What a scan finds is an address that is reached, with its type and a node
    that answers there. -/
theorem detect_of_reached
    (preferred : DisplayType)
    (hsome : ∃ addr ∈ scanAddrs, Reached nodes addr) :
    ∃ addr ∈ scanAddrs,
      Reached nodes addr ∧
      (detect preferred nodes).lastFoundDev = addr ∧
      (detect preferred nodes).dispType = chosenType preferred addr ∧
      (∃ node ∈ nodes, node.path = (detect preferred nodes).node ∧ node.Answers addr) ∧
      ∀ first, firstAnswered nodes = some first → Reached nodes first → addr = first := by
  by_cases h1 : Reached nodes 0x3c
  · have hres := (checkForI2cAddr_eq_zero_iff []).mpr h1
    refine ⟨0x3c, by decide, h1, ?_⟩
    simp only [detect, if_pos hres, true_and]
    refine ⟨checkForI2cAddr_node hres, ?_⟩
    intro first hfirst _
    simpa [firstAnswered, scanAddrs, h1.answered] using hfirst
  have hres1 := mt (checkForI2cAddr_eq_zero_iff []).mp h1
  by_cases h2 : Reached nodes 0x3f
  · have hres := (checkForI2cAddr_eq_zero_iff (checkForI2cAddr nodes 0x3c []).2).mpr h2
    refine ⟨0x3f, by decide, h2, ?_⟩
    simp only [detect, if_neg hres1, if_pos hres, true_and]
    refine ⟨checkForI2cAddr_node hres, ?_⟩
    intro first hfirst hreached
    by_cases ha : Answered nodes 0x3c
    · have : first = 0x3c := by simpa [firstAnswered, scanAddrs, ha, eq_comm] using hfirst
      exact absurd (this ▸ hreached) h1
    · simpa [firstAnswered, scanAddrs, ha, h2.answered] using hfirst
  have hres2 :=
    mt (checkForI2cAddr_eq_zero_iff (checkForI2cAddr nodes 0x3c []).2).mp h2
  have h3 : Reached nodes 0x27 := by
    obtain ⟨addr, haddr, hreached⟩ := hsome
    simp only [scanAddrs, List.mem_cons, List.not_mem_nil, or_false] at haddr
    rcases haddr with rfl | rfl | rfl
    · exact absurd hreached h1
    · exact absurd hreached h2
    · exact hreached
  have hres := (checkForI2cAddr_eq_zero_iff
    (checkForI2cAddr nodes 0x3f (checkForI2cAddr nodes 0x3c []).2).2).mpr h3
  refine ⟨0x27, by decide, h3, ?_⟩
  simp only [detect, if_neg hres1, if_neg hres2, if_pos hres, true_and]
  refine ⟨checkForI2cAddr_node hres, ?_⟩
  intro first hfirst hreached
  have hmem := List.mem_of_find?_eq_some hfirst
  simp only [scanAddrs, List.mem_cons, List.not_mem_nil, or_false] at hmem
  rcases hmem with rfl | rfl | rfl
  · exact absurd hreached h1
  · exact absurd hreached h2
  · rfl

end Detect

/-- Every chosen type has a class, and its name leads back to it. -/
theorem stringToEnum_chosenType
    (preferred : DisplayType) (addr : Byte) :
    stringToEnum (chosenType preferred addr).name = chosenType preferred addr := by
  unfold chosenType
  split_ifs with _ hpreferred _ hpreferred
  · rcases hpreferred with rfl | rfl <;> decide
  · decide
  · decide
  · rcases hpreferred with rfl | rfl <;> decide
  · decide

theorem chosenType_driver
    (preferred : DisplayType) (addr : Byte) :
    ∃ driver, (chosenType preferred addr).driver = some driver := by
  unfold chosenType
  split_ifs with _ hpreferred _ hpreferred
  · rcases hpreferred with rfl | rfl <;> exact ⟨_, rfl⟩
  · exact ⟨_, rfl⟩
  · exact ⟨_, rfl⟩
  · rcases hpreferred with rfl | rfl <;> exact ⟨_, rfl⟩
  · exact ⟨_, rfl⟩

/-- The types of the three addresses are different. -/
theorem chosenType_injective
    {preferred : DisplayType} {a b : Byte}
    (ha : a ∈ scanAddrs)
    (hb : b ∈ scanAddrs)
    (heq : chosenType preferred a = chosenType preferred b) :
    a = b := by
  simp only [scanAddrs, List.mem_cons, List.not_mem_nil, or_false] at ha hb
  rcases ha with rfl | rfl | rfl <;> rcases hb with rfl | rfl | rfl <;>
    first
      | rfl
      | (cases preferred <;> exact absurd heq (by decide))

/-- A display of a chosen type can be created. -/
theorem createDisplayDevice_chosenType
    (preferred : DisplayType) (addr : Byte) (devNode : Bytes) :
    ∃ display,
      createDisplayDevice devNode (chosenType preferred addr).name = some display ∧
      display.devNode = devNode ∧
      display.devType = chosenType preferred addr := by
  have hname := stringToEnum_chosenType preferred addr
  obtain ⟨driver, hdriver⟩ := chosenType_driver preferred addr
  unfold createDisplayDevice
  split
  next hnone =>
    rw [hname, hdriver] at hnone
    cases hnone
  next found hfound => exact ⟨_, rfl, rfl, hname⟩

section Scan

variable {preferred : DisplayType} {call : ScanCall} {s : Scanner}

/-- Printing the address keeps the object, up to what it shows. -/
theorem showIpaddr_pDisplay_none
    (ipaddr : Bytes)
    (hnone : s.pDisplay = none) :
    (showIpaddr ipaddr s).pDisplay = none := by
  simp [showIpaddr, hnone]

theorem showIpaddr_pDisplay_some
    (ipaddr : Bytes)
    {display : DisplayDevice}
    (hsome : s.pDisplay = some display) :
    ∃ lines, (showIpaddr ipaddr s).pDisplay = some { display with lines := lines } := by
  unfold showIpaddr
  rw [hsome]
  simp only
  split
  · exact ⟨display.lines, hsome⟩
  · exact ⟨_, rfl⟩

/-- A scan that reaches no address leaves no object. -/
theorem scan_of_not_reached
    (hnone : ∀ addr ∈ scanAddrs, ¬ Reached call.nodes addr) :
    (scan preferred call s).pDisplay = none := by
  have hfound := detect_of_not_reached preferred hnone
  apply showIpaddr_pDisplay_none
  cases s.pDisplay <;> simp [plug, unplug, hfound]

/-- A scan that reaches an address keeps the object there is. -/
theorem scan_of_display
    (preferred : DisplayType)
    {display : DisplayDevice}
    (hdisplay : s.pDisplay = some display)
    (hsome : ∃ addr ∈ scanAddrs, Reached call.nodes addr) :
    ∃ lines, (scan preferred call s).pDisplay = some { display with lines := lines } := by
  obtain ⟨addr, haddr, -, hfound, -⟩ := detect_of_reached preferred hsome
  have hne : addr ≠ 0 := by
    rintro rfl
    exact absurd haddr (by decide)
  apply showIpaddr_pDisplay_some
  simp [plug, unplug, hfound, hne, hdisplay]

/-- A scan that reaches an address creates an object when there is none. -/
theorem scan_of_no_display
    (preferred : DisplayType)
    (hdisplay : s.pDisplay = none)
    (hsome : ∃ addr ∈ scanAddrs, Reached call.nodes addr) :
    ∃ addr ∈ scanAddrs, ∃ display,
      Reached call.nodes addr ∧
      (scan preferred call s).pDisplay = some display ∧
      Suits preferred call.nodes addr display ∧
      ∀ first, firstAnswered call.nodes = some first → Reached call.nodes first →
        addr = first := by
  obtain ⟨addr, haddr, hreached, hfound, htype, hnode, hfirst⟩ :=
    detect_of_reached preferred hsome
  have hne : addr ≠ 0 := by
    rintro rfl
    exact absurd haddr (by decide)
  obtain ⟨display, hcreate, hdevNode, hdevType⟩ :=
    createDisplayDevice_chosenType preferred addr (detect preferred call.nodes).node
  have hplug :
      (plug (detect preferred call.nodes)
        (unplug { s with lastFoundDev := (detect preferred call.nodes).lastFoundDev })).pDisplay =
        some display := by
    simp [plug, unplug, hfound, htype, hne, hdisplay, hcreate]
  obtain ⟨lines, hlines⟩ := showIpaddr_pDisplay_some call.ipaddr hplug
  refine ⟨addr, haddr, _, hreached, hlines, ⟨hdevType, ?_⟩, hfirst⟩
  rw [← hdevNode] at hnode
  exact hnode

theorem firstAnswered_mem
    {nodes : List I2cNode} {addr : Byte}
    (hfirst : firstAnswered nodes = some addr) :
    addr ∈ scanAddrs ∧ Answered nodes addr := by
  refine ⟨List.mem_of_find?_eq_some hfirst, ?_⟩
  simpa using List.find?_some hfirst

theorem firstAnswered_eq_none_iff
    {nodes : List I2cNode} :
    firstAnswered nodes = none ↔ ¬ ∃ addr ∈ scanAddrs, Answered nodes addr := by
  simp [firstAnswered]

/-- One scan leaves the right object exactly when it was due to. -/
theorem displayOk_scan_iff :
    DisplayOk preferred call.nodes (scan preferred call s) ↔
      ScanCond preferred call.nodes s := by
  cases hfirst : firstAnswered call.nodes with
  | none =>
      have hnone := firstAnswered_eq_none_iff.mp hfirst
      have hscan : (scan preferred call s).pDisplay = none :=
        scan_of_not_reached fun addr haddr hreached =>
          hnone ⟨addr, haddr, hreached.answered⟩
      simp [DisplayOk, ScanCond, hscan, hfirst, hnone]
  | some first =>
      obtain ⟨hmem, hanswered⟩ := firstAnswered_mem hfirst
      have hsome : ∃ addr ∈ scanAddrs, Answered call.nodes addr := ⟨first, hmem, hanswered⟩
      by_cases hreached : ∃ addr ∈ scanAddrs, Reached call.nodes addr
      · cases hdisplay : s.pDisplay with
        | none =>
            obtain ⟨addr, haddr, display, hreach, hscan, hsuits, haddrFirst⟩ :=
              scan_of_no_display preferred hdisplay hreached
            constructor
            · intro hok other hother
              rw [hfirst] at hother
              cases hother
              have htype : chosenType preferred addr = chosenType preferred first :=
                hsuits.1.symm.trans (hok.2 display first hscan hfirst).1
              rw [hdisplay]
              exact chosenType_injective haddr hmem htype ▸ hreach
            · intro hcond
              have hreachFirst : Reached call.nodes first := by
                have := hcond first hfirst
                rwa [hdisplay] at this
              refine ⟨by simp [hscan, hsome], ?_⟩
              intro other at' hother hat'
              rw [hscan] at hother
              rw [hfirst] at hat'
              cases hother
              cases hat'
              exact haddrFirst first hfirst hreachFirst ▸ hsuits
        | some display =>
            obtain ⟨lines, hscan⟩ :=
              scan_of_display preferred hdisplay hreached
            simp [DisplayOk, ScanCond, hscan, hfirst, hsome, hdisplay, hreached, Suits]
      · have hscan : (scan preferred call s).pDisplay = none := by
          apply scan_of_not_reached
          intro addr haddr hreach
          exact hreached ⟨addr, haddr, hreach⟩
        constructor
        · intro hok
          exact absurd hscan (hok.1.mpr hsome)
        · intro hcond
          have := hcond first hfirst
          cases hdisplay : s.pDisplay with
          | none =>
              rw [hdisplay] at this
              exact absurd ⟨first, hmem, this⟩ hreached
          | some display =>
              rw [hdisplay] at this
              exact absurd this.1 hreached

end Scan

/-- The scanner, with the nodes that were there at its last scan. -/
structure ScannerRun where
  scanner : Scanner
  seen : Option (List I2cNode)

/-- The service at start has not scanned yet. -/
def ScannerRun.start (devNode typeName : Bytes) : ScannerRun :=
  { scanner := Scanner.start devNode typeName, seen := none }

/-- One call of the timer. -/
def scannerStep
    (preferred : DisplayType) (r : ScannerRun) (call : ScanCall) : Option ScannerRun :=
  some
    { scanner := timerNotification preferred call r.scanner
      seen := if r.scanner.ScanDue then some call.nodes else r.seen }

/-- The display object is the one that belongs to the last scan. -/
def ScannerRun.Ok (preferred : DisplayType) (r : ScannerRun) : Prop :=
  ∀ nodes, r.seen = some nodes → DisplayOk preferred nodes r.scanner

/-- A call that is a scan finds what the scan needs. -/
def ScanDueCond (preferred : DisplayType) (r : ScannerRun) (call : ScanCall) : Prop :=
  r.scanner.ScanDue → ScanCond preferred call.nodes r.scanner

/-- One call of the timer: a call that is no scan changes nothing. -/
theorem ok_scannerStep_iff
    {preferred : DisplayType} {r r' : ScannerRun} {call : ScanCall}
    (hok : r.Ok preferred)
    (hstep : scannerStep preferred r call = some r') :
    r'.Ok preferred ↔ ScanDueCond preferred r call := by
  cases hstep
  unfold ScannerRun.Ok ScanDueCond timerNotification
  by_cases hdue : r.scanner.ScanDue
  · simp only [hdue, if_true, Option.some.injEq, forall_eq', forall_const]
    exact displayOk_scan_iff
  · simp only [hdue, if_false, false_implies, iff_true]
    exact hok

/-- The timer can always call. -/
theorem exists_scannerStep
    (preferred : DisplayType) (r : ScannerRun) (call : ScanCall) :
    ∃ r', scannerStep preferred r call = some r' :=
  ⟨_, rfl⟩

/-- After every scan of a run the display object is the right one, exactly when
    every scan of the run finds what it needs. -/
theorem displayOk_run_iff
    (devNode typeName : Bytes)
    (calls : List ScanCall) :
    (∀ pre t, pre <+: calls →
      run (scannerStep (preferredType typeName)) (ScannerRun.start devNode typeName) pre =
        some t →
      t.Ok (preferredType typeName)) ↔
    Meets (scannerStep (preferredType typeName)) (ScanDueCond (preferredType typeName))
      (ScannerRun.start devNode typeName) calls := by
  obtain ⟨u, hrun⟩ :=
    exists_run_of_total (exists_scannerStep (preferredType typeName))
      (ScannerRun.start devNode typeName) calls
  refine forall_prefix_iff_meets ?_ (fun s hs => hs) ?_ ?_ hrun
  · intro s call t hs hcond hstep
    exact (ok_scannerStep_iff hs hstep).mpr hcond
  · intro s call t hs hstep ht
    exact (ok_scannerStep_iff hs hstep).mp ht
  · intro nodes hseen
    cases hseen

/-- A node on which one address answers. -/
def sampleNode (addr : Byte) : I2cNode :=
  { path := text "/dev/i2c-1"
    openable := true
    busy := fun _ => false
    acks := fun a => a = addr }

/-- Three seconds with a 16x2 display, then three with an OLED in its place. -/
def swapCalls : List ScanCall :=
  List.replicate 30 { nodes := [sampleNode 0x27], ipaddr := text "unknownip" } ++
    List.replicate 30 { nodes := [sampleNode 0x3c], ipaddr := text "unknownip" }

/-- A display that is swapped for another between two scans keeps the object of
    the first one. -/
theorem not_displayOk_swap :
    ¬ ∀ pre t, pre <+: swapCalls →
      run (scannerStep (preferredType [])) (ScannerRun.start [] []) pre = some t →
      t.Ok (preferredType []) := by
  intro hall
  obtain ⟨u, hrun⟩ :=
    exists_run_of_total (exists_scannerStep (preferredType [])) (ScannerRun.start [] []) swapCalls
  have hseen :
      ((run (scannerStep (preferredType [])) (ScannerRun.start [] []) swapCalls).bind
        ScannerRun.seen).map (fun nodes => firstAnswered nodes) = some (some 0x3c) := by
    decide +kernel
  have htype :
      ((run (scannerStep (preferredType [])) (ScannerRun.start [] []) swapCalls).bind
        fun t => t.scanner.pDisplay).map DisplayDevice.devType = some .dualPcf1602 := by
    decide +kernel
  rw [hrun] at hseen htype
  simp only [Option.bind_some, Option.map_eq_some_iff] at hseen htype
  obtain ⟨nodes, hnodes, hfirst⟩ := hseen
  obtain ⟨display, hdisplay, hdevType⟩ := htype
  have hsuits := (hall swapCalls u (List.prefix_refl _) hrun nodes hnodes).2 display 0x3c
    hdisplay hfirst
  rw [hsuits.1] at hdevType
  exact absurd hdevType (by decide)

end Dispsrv
end BrBox
