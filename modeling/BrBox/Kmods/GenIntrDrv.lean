import BrBox.Kmods.KernelChainRuns
import BrBox.Lib.DecimalText

/-!
# Subscriptions of the interrupt driver

The subscribe and interrupt nodes of `genintrdrv.c` over the chain of
subscribers.  A chain element points at an entry, and an entry is deactivated
in place when its process is found dead.

`SubscriberTable` is what the two nodes are for: a write that is a triple adds
it unless it is active, an interrupt signals the active entries of its number
whose process lives and deactivates the others.

A subscribe write is scanned into one global record, which keeps the values of
earlier writes where the text gives none.  `driverOk_run_iff` says when this
does no harm.
-/

namespace BrBox
namespace Kmods

open Adav (Holder baseChain)
open CText
open LinkedHeap
open LabelledRun

section Scan

/-- `isspace` of the kernel, which also knows the no-break space. -/
def kernelSpace (c : Byte) : Bool :=
  isSpace c || c == 160

/-- `%d` of the kernel's `sscanf`: blanks, an optional minus and digits. -/
def scanD (s : Bytes) : Option (Int × Bytes) :=
  let t := s.dropWhile kernelSpace
  let digits := if t.head? = some 45 then t.tail else t
  if digits.takeWhile isDigit = [] then
    none
  else
    some (wrapInt32 (if t.head? = some 45 then -(digitsValue digits : Int)
        else digitsValue digits),
      digits.dropWhile isDigit)

/-- `sscanf` with `%d,%d,..`: the values it converts. -/
def scanList : (count : Nat) → Bytes → List Int
  | 0, _ => []
  | count + 1, s =>
      match scanD s with
      | none => []
      | some (value, []) => [value]
      | some (value, c :: rest) =>
          if c = 44 then value :: scanList count rest else [value]

end Scan

section Model

/-- `GENINTDRV_SIGINFO`. -/
structure SigInfo where
  intr : Int
  sig : Int
  pid : Int
  active : Int
deriving DecidableEq, Repr

namespace SigInfo

/-- `sscanf` into the members of a record. -/
def scan (info : SigInfo) : List Int → SigInfo
  | [] => info
  | [intr] => { info with intr := intr }
  | [intr, sig] => { info with intr := intr, sig := sig }
  | intr :: sig :: pid :: _ => { info with intr := intr, sig := sig, pid := pid }

/-- An active entry with the triple of a record. -/
def sameActive (info entry : SigInfo) : Bool :=
  entry.intr == info.intr && entry.sig == info.sig && entry.pid == info.pid &&
    entry.active == 1

end SigInfo

/-- What the driver does to its subscribers; `index` is the entry's position. -/
inductive DriverEvent
  | signalled (index : Nat) (intr sig pid : Int)
  | deactivated (index : Nat)
deriving DecidableEq, Repr

/-- The globals of the module, the entries by address and what was done so far. -/
structure Driver where
  sigList : SigInfo
  interruptflag : Int
  sigcounter : Int
  subscribersList : KernelChain Int Nat
  memory : Nat → Option SigInfo
  events : List DriverEvent

namespace Driver

/-- The loop of `find_duplicate_entry`. -/
def findDuplicateLoop
    (chainSizeFn : Nat) (d : Driver) (info : SigInfo) :
    (remaining i : Nat) → Option Bool
  | 0, _ => some false
  | remaining + 1, i =>
      (d.subscribersList.chainGetByIndex chainSizeFn i).bind fun pEntry =>
        match pEntry with
        | none => some false
        | some a =>
            (d.memory a).bind fun entry =>
              if info.sameActive entry then
                some true
              else
                findDuplicateLoop chainSizeFn d info remaining (i + 1)

/-- `find_duplicate_entry`: the chain is locked around the loop. -/
def findDuplicateEntry
    (chainSizeFn : Nat) (d : Driver) (info : SigInfo) : Option (Int × Driver) :=
  d.subscribersList.chainSizeOf.bind fun size =>
  (size.2.acquire sema).bind fun c =>
  (({ d with subscribersList := c } : Driver).findDuplicateLoop chainSizeFn info
      size.1.toNat 0).map
    fun found =>
      (if found then 0 else -1, { d with subscribersList := c.giveBack sema })

/-- `add_subscriber_to_list`: `kmalloc` gives the entry at `a`, and the chain its
holder. -/
def addSubscriberToList
    (d : Driver) (newEntry : SigInfo) (a : Nat) (holder : Nat × Holder Nat) :
    Option (Int × Driver) :=
  (d.subscribersList.chainPut (some a) (some holder)).map fun t =>
    if t.1 ≠ 0 then
      (-1, { d with subscribersList := t.2 })
    else
      (0, { d with
            subscribersList := t.2
            memory := Function.update d.memory a (some newEntry) })

/-- `send_signal_to_process`: `alive` says which processes there are. -/
def sendSignalToProcess
    (alive : Int → Bool) (d : Driver) (index : Nat) (entry : SigInfo) : Int × Driver :=
  if alive entry.pid then
    (0, { d with
          sigcounter := wrapInt32 (d.sigcounter + 1)
          events := d.events ++ [.signalled index entry.intr entry.sig entry.pid] })
  else
    (-1, d)

/-- The loop of `send_signal_to_subscribers`. -/
def sendLoop
    (chainSizeFn : Nat) (alive : Int → Bool) (interrupt : Int) :
    (remaining i : Nat) → Driver → Option Driver
  | 0, _, d => some d
  | remaining + 1, i, d =>
      (d.subscribersList.chainGetByIndex chainSizeFn i).bind fun pEntry =>
        match pEntry with
        | none => sendLoop chainSizeFn alive interrupt remaining (i + 1) d
        | some a =>
            (d.memory a).bind fun entry =>
              if entry.intr = interrupt ∧ entry.active = 1 then
                let sent := d.sendSignalToProcess alive i entry
                if sent.1 ≠ 0 then
                  sendLoop chainSizeFn alive interrupt remaining (i + 1)
                    { sent.2 with
                      memory := Function.update sent.2.memory a
                        (some { entry with active := 0 })
                      events := sent.2.events ++ [.deactivated i] }
                else
                  sendLoop chainSizeFn alive interrupt remaining (i + 1) sent.2
              else
                sendLoop chainSizeFn alive interrupt remaining (i + 1) d

/-- `send_signal_to_subscribers`. -/
def sendSignalToSubscribers
    (chainSizeFn : Nat) (alive : Int → Bool) (d : Driver) (interrupt : Int) :
    Option Driver :=
  d.subscribersList.chainSizeOf.bind fun size =>
  (size.2.acquire sema).bind fun c =>
  (sendLoop chainSizeFn alive interrupt size.1.toNat 0 { d with subscribersList := c }).map
    fun d => { d with subscribersList := d.subscribersList.giveBack sema }

/-- `interruptflag_store`. -/
def interruptflagStore
    (chainSizeFn : Nat) (alive : Int → Bool) (d : Driver) (buf : Bytes) : Option Driver :=
  let d := { d with interruptflag := (scanList 1 buf).headD d.interruptflag }
  d.sendSignalToSubscribers chainSizeFn alive d.interruptflag

/-- `intrsubscribe_store`: the result of `sscanf` is not looked at. -/
def intrsubscribeStore
    (chainSizeFn : Nat) (d : Driver) (buf : Bytes) (a : Nat) (holder : Nat × Holder Nat) :
    Option Driver :=
  let d := { d with sigList := d.sigList.scan (scanList 3 buf) }
  (d.findDuplicateEntry chainSizeFn d.sigList).bind fun t =>
    if t.1 ≠ 0 then
      let d := { t.2 with sigList := { t.2.sigList with active := 1 } }
      (d.addSubscriberToList d.sigList a holder).map Prod.snd
    else
      some t.2

/-- The loop of `intrsubscribe_show`: the entries it prints. -/
def showLoop
    (chainSizeFn : Nat) (d : Driver) : (remaining i : Nat) → Option (List (Nat × SigInfo))
  | 0, _ => some []
  | remaining + 1, i =>
      (d.subscribersList.chainGetByIndex chainSizeFn i).bind fun pEntry =>
        match pEntry with
        | none => showLoop chainSizeFn d remaining (i + 1)
        | some a =>
            (d.memory a).bind fun entry =>
              (showLoop chainSizeFn d remaining (i + 1)).map fun rest =>
                if entry.active = 1 then (i, entry) :: rest else rest

/-- The line of an entry: `%d,%d,%d`. -/
def entryLine (entry : SigInfo) : Bytes :=
  decimalText entry.intr ++ 44 :: decimalText entry.sig ++ 44 :: decimalText entry.pid ++ [10]

/-- `intrsubscribe_show`, with the positions of the entries it prints. -/
def intrsubscribeShow
    (chainSizeFn : Nat) (d : Driver) : Option (List (Nat × SigInfo) × Bytes × Driver) :=
  d.subscribersList.chainSizeOf.bind fun size =>
  (size.2.acquire sema).bind fun c =>
  (({ d with subscribersList := c } : Driver).showLoop chainSizeFn size.1.toNat 0).map
    fun shown =>
    (shown, shown.flatMap fun x => entryLine x.2,
      { d with subscribersList := c.giveBack sema })

/-- The global `SubscribersList` before its init. -/
def zeroChain : KernelChain Int Nat :=
  { heap :=
      { cells := fun a => if a = baseChain then some ⟨none, none, none⟩ else none
        live := 0 }
    chainSize := 0
    chainPeakSize := 0
    initFlag := 0
    lock := 0
    lockCalls := [] }

/-- The module after `genintrdrv_init`. -/
def genintrdrvInit : Option Driver :=
  zeroChain.chainInit.map fun t =>
    { sigList := ⟨0, 0, 0, 0⟩
      interruptflag := 0
      sigcounter := 0
      subscribersList := t.2
      memory := fun _ => none
      events := [] }

end Driver

/-- The subscriptions as the two nodes promise them. -/
structure SubscriberTable where
  entries : List SigInfo
  interruptflag : Int
  events : List DriverEvent
deriving DecidableEq, Repr

namespace SubscriberTable

/-- A write to the subscribe node adds the triple that it is, unless the triple is
active. -/
def subscribe (t : SubscriberTable) : List Int → SubscriberTable
  | [intr, sig, pid] =>
      if t.entries.any (SigInfo.sameActive ⟨intr, sig, pid, 1⟩) then
        t
      else
        { t with entries := t.entries ++ [⟨intr, sig, pid, 1⟩] }
  | _ => t

/-- Signal or deactivate the active entries of an interrupt, from a position on. -/
def sweep
    (alive : Int → Bool) (interrupt : Int) :
    (i : Nat) → List SigInfo → List SigInfo × List DriverEvent
  | _, [] => ([], [])
  | i, entry :: entries =>
      let rest := sweep alive interrupt (i + 1) entries
      if entry.intr = interrupt ∧ entry.active = 1 then
        if alive entry.pid then
          (entry :: rest.1, .signalled i entry.intr entry.sig entry.pid :: rest.2)
        else
          ({ entry with active := 0 } :: rest.1, .deactivated i :: rest.2)
      else
        (entry :: rest.1, rest.2)

/-- A write to the interrupt node; without a number it repeats the last one. -/
def interrupt (alive : Int → Bool) (t : SubscriberTable) (values : List Int) :
    SubscriberTable :=
  let flag := values.headD t.interruptflag
  { entries := (sweep alive flag 0 t.entries).1
    interruptflag := flag
    events := t.events ++ (sweep alive flag 0 t.entries).2 }

end SubscriberTable

/-- A write to a node, with the memory that it is given, or a change of the
processes. -/
inductive DriverLabel
  | subscribe (buf : Bytes) (a : Nat) (holder : Nat × Holder Nat)
  | interrupt (buf : Bytes)
  | processes (alive : Int → Bool)

/-- The driver beside the table; the driver is none once it has failed. -/
structure DriverRun where
  driver : Option Driver
  table : SubscriberTable
  alive : Int → Bool

namespace DriverRun

/-- The driver and the table at the start. -/
def start (alive : Int → Bool) : DriverRun :=
  { driver := Driver.genintrdrvInit
    table := { entries := [], interruptflag := 0, events := [] }
    alive := alive }

/-- One write, to the driver and to the table. -/
def driverStep
    (chainSizeFn : Nat) (t : DriverRun) (l : DriverLabel) : Option DriverRun :=
  match t.driver, l with
  | none, _ => none
  | some d, .subscribe buf a holder =>
      if (d.memory a).isNone ∧ (d.subscribersList.heap.cells holder.1).isNone then
        some { t with
          driver := d.intrsubscribeStore chainSizeFn buf a holder
          table := t.table.subscribe (scanList 3 buf) }
      else
        none
  | some d, .interrupt buf =>
      some { t with
        driver := d.interruptflagStore chainSizeFn t.alive buf
        table := t.table.interrupt t.alive (scanList 1 buf) }
  | some _, .processes alive => some { t with alive := alive }

end DriverRun

/-- The chain points at the entries, in order and one by one. -/
def Driver.Entries (d : Driver) (entries : List SigInfo) : Prop :=
  ∃ nodes : List (Nat × Option Nat),
    Linked d.subscribersList.heap.cells baseChain nodes ∧
    nodes.map (fun x => x.2.bind d.memory) = entries.map some ∧
    (nodes.map Prod.snd).Nodup

/-- The driver has done what the table says. -/
structure DriverOk (chainSizeFn : Nat) (t : DriverRun) (d : Driver) : Prop where
  driver : t.driver = some d
  entries : d.Entries t.table.entries
  events : d.events = t.table.events
  interruptflag : d.interruptflag = t.table.interruptflag
  distinct : (t.table.entries.filter fun entry => entry.active = 1).Nodup
  retired : t.table.events.Pairwise fun e f =>
    ∀ i, e = .deactivated i →
      f ≠ .deactivated i ∧ ∀ intr sig pid, f ≠ .signalled i intr sig pid
  shown : ∀ shown text d', d.intrsubscribeShow chainSizeFn = some (shown, text, d') →
    ∀ x ∈ shown, t.table.entries[x.1]? = some x.2 ∧ x.2.active = 1 ∧
      .deactivated x.1 ∉ t.table.events

/-- The writes that the driver and a table with these entries answer alike. -/
def Driver.AnswersAlike
    (chainSizeFn : Nat) (d : Driver) (entries : List SigInfo) : DriverLabel → Prop
  | .subscribe buf _ _ =>
      let info := d.sigList.scan (scanList 3 buf)
      if (scanList 3 buf).length = 3 then
        (entries.any info.sameActive = true →
          (entries.take chainSizeFn).any info.sameActive = true) ∧
        (entries.any info.sameActive = false → entries.length < 2 ^ 31 - 1)
      else
        (entries.take chainSizeFn).any info.sameActive = true
  | .interrupt buf =>
      ∀ entry ∈ entries.drop chainSizeFn,
        ¬ (entry.intr = (scanList 1 buf).headD d.interruptflag ∧ entry.active = 1)
  | .processes _ => True

instance decidableAnswersAlike
    (chainSizeFn : Nat) (d : Driver) (entries : List SigInfo) :
    ∀ l, Decidable (d.AnswersAlike chainSizeFn entries l)
  | .subscribe buf _ _ =>
      inferInstanceAs (Decidable
        (if (scanList 3 buf).length = 3 then
          (entries.any (d.sigList.scan (scanList 3 buf)).sameActive = true →
            (entries.take chainSizeFn).any
              (d.sigList.scan (scanList 3 buf)).sameActive = true) ∧
          (entries.any (d.sigList.scan (scanList 3 buf)).sameActive = false →
            entries.length < 2 ^ 31 - 1)
        else
          (entries.take chainSizeFn).any
            (d.sigList.scan (scanList 3 buf)).sameActive = true))
  | .interrupt buf =>
      inferInstanceAs (Decidable
        (∀ entry ∈ entries.drop chainSizeFn,
          ¬ (entry.intr = (scanList 1 buf).headD d.interruptflag ∧ entry.active = 1)))
  | .processes _ => isTrue trivial

/-- The writes that the driver answers as the table does. -/
def Harmless (chainSizeFn : Nat) (t : DriverRun) (l : DriverLabel) : Prop :=
  ∀ d ∈ t.driver, d.AnswersAlike chainSizeFn t.table.entries l

instance decidableHarmless
    (chainSizeFn : Nat) (t : DriverRun) (l : DriverLabel) :
    Decidable (Harmless chainSizeFn t l) :=
  inferInstanceAs (Decidable (∀ d ∈ t.driver, d.AnswersAlike chainSizeFn t.table.entries l))

end Model

end Kmods
end BrBox
