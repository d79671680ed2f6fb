import BrBox.Adav.LinkedChain

/-!
# The chains of the interrupt driver

`chain.c` and `sl_chain.c` of `genintrdrv`: the same list code, once under a
semaphore and once under a spinlock.  The shared bodies take the lock as a
parameter, and each function of the two files is such a body at its lock.

An operation returns none where it follows a null or freed pointer, waits for
a lock that is never given back, or moves a counter out of its range.

`KernelQueue` is what a chain is for: the data that was put and not removed, in
order of insertion.  `chain_run_iff` says which calls keep `chain.c` to it: the
comparison of `chain_get_by_index` is against the address of the function
`chain_size`, so the walk is not stopped by the size of the chain.
-/

namespace BrBox
namespace Kmods

open Adav (Holder baseChain increment decrement)
open LinkedHeap
open LabelledRun

universe u v w

section Model

variable {κ : Type w}
variable {α : Type u}
variable {β : Type v}

/-- A lock: its state when free and when taken, and what taking it and giving
it back do.  Taking it has no result if the caller waits for ever. -/
structure LockOps (κ : Type w) where
  free : κ
  taken : κ
  lock : κ → Option κ
  unlock : κ → κ
  lock_free : lock free = some taken
  unlock_taken : unlock taken = free

/-- A semaphore after `sema_init(.., 1)`, with `down` and `up`. -/
def sema : LockOps Int :=
  { free := 1
    taken := 0
    lock := fun count => if 0 < count then some (count - 1) else none
    unlock := fun count => count + 1
    lock_free := rfl
    unlock_taken := rfl }

/-- A spinlock, with `spin_lock_irqsave` and `spin_unlock_irqrestore`. -/
def spinlock : LockOps Bool :=
  { free := false
    taken := true
    lock := fun held => if held then none else some true
    unlock := fun _ => false
    lock_free := rfl
    unlock_taken := rfl }

/-- A call on the lock of a chain. -/
inductive LockCall
  | lock
  | unlock
deriving DecidableEq, Repr

/-- `chain` and `sl_chain`, with the calls made on the lock so far. -/
structure KernelChain (κ : Type w) (α : Type u) where
  heap : Heap (Option α)
  chainSize : Int
  chainPeakSize : Int
  initFlag : Int
  lock : κ
  lockCalls : List LockCall

/-- `datIdfunc_t`, `dbdatIdfunc_t` and `tpdatIdfunc_t`; the data may be null. -/
abbrev DatId (α : Type u) := Option α → Int → Int
abbrev DbDatId (α : Type u) := Option α → Int → Int → Int
abbrev TpDatId (α : Type u) := Option α → Int → Int → Int → Int

namespace KernelChain

/-- Take the lock. -/
def acquire (k : LockOps κ) (s : KernelChain κ α) : Option (KernelChain κ α) :=
  (k.lock s.lock).map fun l =>
    { s with lock := l, lockCalls := s.lockCalls ++ [.lock] }

/-- Give the lock back. -/
def giveBack (k : LockOps κ) (s : KernelChain κ α) : KernelChain κ α :=
  { s with lock := k.unlock s.lock, lockCalls := s.lockCalls ++ [.unlock] }

/-- `base_chain.pNext`. -/
def baseNext (s : KernelChain κ α) : Option (Option Nat) :=
  (s.heap.cells baseChain).map Node.next

/-- The body of the two init functions. -/
def initWith
    (k : LockOps κ) (s : KernelChain κ α) : Option (Int × KernelChain κ α) :=
  (s.heap.modify baseChain fun n => { n with next := none }).map fun h =>
    (0, { s with
          heap := h
          chainSize := 0
          chainPeakSize := 0
          initFlag := 1
          lock := k.free })

/-- `chain_add` and `sl_chain_add`: `kmalloc` is the block, if there is one. -/
def chainAdd
    (s : KernelChain κ α) (data : Option α)
    (kmalloc : Option (Nat × Holder α)) : Option (Int × KernelChain κ α) :=
  match kmalloc with
  | none => some (-1, s)
  | some (a, contents) =>
      (s.heap.pushBack baseChain a contents data).bind fun h =>
      (increment s.chainSize).map fun size =>
        (0, { s with
              heap := h
              chainSize := size
              chainPeakSize :=
                if size > s.chainPeakSize then size else s.chainPeakSize })

/-- The body of the two put functions. -/
def putWith
    (k : LockOps κ) (s : KernelChain κ α) (data : Option α)
    (kmalloc : Option (Nat × Holder α)) : Option (Int × KernelChain κ α) :=
  (s.acquire k).bind fun s =>
    if s.initFlag = 0 then
      some (-1, s.giveBack k)
    else
      (s.chainAdd data kmalloc).map fun t => (t.1, t.2.giveBack k)

/-- Unlink a holder, free it and count down. -/
def unlinkHolder (s : KernelChain κ α) (a : Nat) : Option (KernelChain κ α) :=
  (s.heap.unlink a).bind fun h =>
  (decrement s.chainSize).map fun size =>
    { s with heap := h, chainSize := size }

/-- `chain_remove` and `sl_chain_remove`: the first element. -/
def chainRemove (s : KernelChain κ α) : Option (Int × KernelChain κ α) :=
  s.baseNext.bind fun pHolder =>
    match pHolder with
    | none => some (-1, s)
    | some a => (s.unlinkHolder a).map fun t => (0, t)

/-- The body of the two get functions: the very first is the oldest. -/
def getWith
    (k : LockOps κ) (s : KernelChain κ α) :
    Option (Option α × KernelChain κ α) :=
  (s.acquire k).bind fun s =>
    if s.initFlag = 0 then
      some (none, s.giveBack k)
    else
      s.baseNext.bind fun pHolder =>
        match pHolder with
        | none => some (none, s.giveBack k)
        | some a =>
            (s.heap.cells a).bind fun n =>
            s.chainRemove.map fun t => (n.data, t.2.giveBack k)

/-- The reading of the first element, without the lock. -/
def firstData (s : KernelChain κ α) : Option (Option α) :=
  if s.initFlag = 0 then
    some none
  else
    s.baseNext.bind fun pHolder =>
      match pHolder with
      | none => some none
      | some a => (s.heap.cells a).map Node.data

/-- The body of the functions that remove by ident; `found` is the caller's
comparison, if there is one. -/
def removeWith
    (k : LockOps κ) (s : KernelChain κ α) (found : Option (Option α → Bool)) :
    Option (Option α × KernelChain κ α) :=
  (s.acquire k).bind fun s =>
  s.baseNext.bind fun pHolder =>
    if s.initFlag = 0 then
      some (none, s.giveBack k)
    else
      match pHolder, found with
      | none, _ => some (none, s.giveBack k)
      | some _, none => some (none, s.giveBack k)
      | some _, some found =>
          (s.heap.findFrom found s.heap.live pHolder).bind fun pFound =>
            match pFound with
            | none => some (none, s.giveBack k)
            | some a =>
                (s.heap.cells a).bind fun n =>
                (s.unlinkHolder a).map fun t => (n.data, t.giveBack k)

/-- The body of the functions that read by ident: no lock, no test of the
init flag. -/
def getBy
    (s : KernelChain κ α) (found : Option (Option α → Bool)) :
    Option (Option α) :=
  s.baseNext.bind fun pHolder =>
    match pHolder, found with
    | none, _ => some none
    | some _, none => some none
    | some _, some found =>
        (s.heap.findFrom found s.heap.live pHolder).bind fun pFound =>
          match pFound with
          | none => some none
          | some a => (s.heap.cells a).map Node.data

/-- A counter read under the lock. -/
def readWith
    (k : LockOps κ) (s : KernelChain κ α) (counter : KernelChain κ α → Int) :
    Option (Int × KernelChain κ α) :=
  (s.acquire k).map fun s => (counter s, s.giveBack k)

/-- `chain_remove_all` and `sl_chain_remove_all`, with the data freed. -/
def removeAll :
    (fuel : Nat) → KernelChain κ α →
      Option (List (Option α) × KernelChain κ α)
  | 0, s =>
      s.baseNext.bind fun pHolder =>
        match pHolder with
        | none => some ([], s)
        | some _ => none
  | fuel + 1, s =>
      s.baseNext.bind fun pHolder =>
        match pHolder with
        | none => some ([], s)
        | some a =>
            (s.heap.cells a).bind fun n =>
            s.chainRemove.bind fun t =>
            (removeAll fuel t.2).map fun rest => (n.data :: rest.1, rest.2)

/-- The body of the two release functions. -/
def releaseWith
    (k : LockOps κ) (s : KernelChain κ α) :
    Option (List (Option α) × KernelChain κ α) :=
  (s.acquire k).bind fun s =>
  (removeAll s.heap.live s).map fun t =>
    (t.1, ({ t.2 with initFlag := 0 } : KernelChain κ α).giveBack k)

/-- The data has the ident, for the caller's comparison. -/
def sameIdent (func : Option (DatId α)) (ident : Int) : Option (Option α → Bool) :=
  func.map fun f data => f data ident == 0

def sameDoubleIdent
    (func : Option (DbDatId α)) (ident1 ident2 : Int) : Option (Option α → Bool) :=
  func.map fun f data => f data ident1 ident2 == 0

def sameTripleIdent
    (func : Option (TpDatId α)) (ident1 ident2 ident3 : Int) :
    Option (Option α → Bool) :=
  func.map fun f data => f data ident1 ident2 ident3 == 0

/-! The functions of `chain.c`. -/

def chainInit (s : KernelChain Int α) : Option (Int × KernelChain Int α) :=
  s.initWith sema

def chainRelease
    (s : KernelChain Int α) : Option (List (Option α) × KernelChain Int α) :=
  s.releaseWith sema

def chainPut
    (s : KernelChain Int α) (data : Option α)
    (kmalloc : Option (Nat × Holder α)) : Option (Int × KernelChain Int α) :=
  s.putWith sema data kmalloc

def chainGet (s : KernelChain Int α) : Option (Option α × KernelChain Int α) :=
  s.getWith sema

/-- `chain_get_top` does not take the lock. -/
def chainGetTop (s : KernelChain Int α) : Option (Option α) :=
  s.firstData

def chainSizeOf (s : KernelChain Int α) : Option (Int × KernelChain Int α) :=
  s.readWith sema chainSize

def chainPeakSizeOf (s : KernelChain Int α) : Option (Int × KernelChain Int α) :=
  s.readWith sema chainPeakSize

def chainRemoveByIdent
    (s : KernelChain Int α) (ident : Int) (func : Option (DatId α)) :
    Option (Option α × KernelChain Int α) :=
  s.removeWith sema (sameIdent func ident)

def chainRemoveByDoubleIdent
    (s : KernelChain Int α) (ident1 ident2 : Int) (func : Option (DbDatId α)) :
    Option (Option α × KernelChain Int α) :=
  s.removeWith sema (sameDoubleIdent func ident1 ident2)

def chainRemoveByTripleIdent
    (s : KernelChain Int α) (ident1 ident2 ident3 : Int)
    (func : Option (TpDatId α)) : Option (Option α × KernelChain Int α) :=
  s.removeWith sema (sameTripleIdent func ident1 ident2 ident3)

def chainGetByIdent
    (s : KernelChain Int α) (ident : Int) (func : Option (DatId α)) :
    Option (Option α) :=
  s.getBy (sameIdent func ident)

def chainGetByDoubleIdent
    (s : KernelChain Int α) (ident1 ident2 : Int) (func : Option (DbDatId α)) :
    Option (Option α) :=
  s.getBy (sameDoubleIdent func ident1 ident2)

/-- `chain_get_by_index` for an index that is not negative.  The test reads
`index >= chain_size` without `pChain->`, so it compares with the address of
the function `chain_size`. -/
def chainGetByIndex
    (chainSizeFn : Nat) (s : KernelChain Int α) (index : Nat) :
    Option (Option α) :=
  s.baseNext.bind fun pHolder =>
    match pHolder with
    | none => some none
    | some _ =>
        if index ≥ chainSizeFn then
          some none
        else
          (s.heap.advance index pHolder).bind fun pFound =>
            match pFound with
            | none => some none
            | some a => (s.heap.cells a).map Node.data

/-! The functions of `sl_chain.c`. -/

def slChainInit (s : KernelChain Bool α) : Option (Int × KernelChain Bool α) :=
  s.initWith spinlock

def slChainRelease
    (s : KernelChain Bool α) : Option (List (Option α) × KernelChain Bool α) :=
  s.releaseWith spinlock

def slChainPut
    (s : KernelChain Bool α) (data : Option α)
    (kmalloc : Option (Nat × Holder α)) : Option (Int × KernelChain Bool α) :=
  s.putWith spinlock data kmalloc

def slChainGet
    (s : KernelChain Bool α) : Option (Option α × KernelChain Bool α) :=
  s.getWith spinlock

/-- `sl_chain_get_top` takes the lock, unlike its sibling. -/
def slChainGetTop
    (s : KernelChain Bool α) : Option (Option α × KernelChain Bool α) :=
  (s.acquire spinlock).bind fun s =>
    s.firstData.map fun data => (data, s.giveBack spinlock)

def slChainSize (s : KernelChain Bool α) : Option (Int × KernelChain Bool α) :=
  s.readWith spinlock chainSize

def slChainPeakSize (s : KernelChain Bool α) : Option (Int × KernelChain Bool α) :=
  s.readWith spinlock chainPeakSize

def slChainRemoveByIdent
    (s : KernelChain Bool α) (ident : Int) (func : Option (DatId α)) :
    Option (Option α × KernelChain Bool α) :=
  s.removeWith spinlock (sameIdent func ident)

def slChainGetByDoubleIdent
    (s : KernelChain Bool α) (ident1 ident2 : Int) (func : Option (DbDatId α)) :
    Option (Option α) :=
  s.getBy (sameDoubleIdent func ident1 ident2)

end KernelChain

/-- The operations of a caller; `β` is what a `kmalloc` that succeeds gives. -/
inductive ChainCall (β : Type v) (α : Type u)
  | init
  | release
  | put (data : Option α) (kmalloc : Option β)
  | get
  | getTop
  | size
  | peakSize
  | removeByIdent (ident : Int) (func : Option (DatId α))
  | removeByDoubleIdent (ident1 ident2 : Int) (func : Option (DbDatId α))
  | removeByTripleIdent (ident1 ident2 ident3 : Int) (func : Option (TpDatId α))
  | getByIdent (ident : Int) (func : Option (DatId α))
  | getByDoubleIdent (ident1 ident2 : Int) (func : Option (DbDatId α))
  | getByIndex (index : Nat)

/-- What an operation returns; a release also tells which data it freed. -/
inductive CallResult (α : Type u)
  | int (n : Int)
  | pointer (data : Option α)
  | released (freed : List (Option α))
deriving DecidableEq, Repr

namespace ChainCall

/-- The call without the address that `kmalloc` chose. -/
def erase : ChainCall β α → ChainCall Unit α
  | init => init
  | release => release
  | put data kmalloc => put data (kmalloc.map fun _ => ())
  | get => get
  | getTop => getTop
  | size => size
  | peakSize => peakSize
  | removeByIdent ident func => removeByIdent ident func
  | removeByDoubleIdent ident1 ident2 func => removeByDoubleIdent ident1 ident2 func
  | removeByTripleIdent ident1 ident2 ident3 func =>
      removeByTripleIdent ident1 ident2 ident3 func
  | getByIdent ident func => getByIdent ident func
  | getByDoubleIdent ident1 ident2 func => getByDoubleIdent ident1 ident2 func
  | getByIndex index => getByIndex index

/-- The operations of `chain.c` that take the lock. -/
def locks : ChainCall β α → Bool
  | release | put _ _ | get | size | peakSize
  | removeByIdent _ _ | removeByDoubleIdent _ _ _ | removeByTripleIdent _ _ _ _ => true
  | init | getTop | getByIdent _ _ | getByDoubleIdent _ _ _ | getByIndex _ => false

/-- The operations of `sl_chain.c` that take the lock. -/
def slLocks : ChainCall β α → Bool
  | getTop => true
  | call => call.locks

end ChainCall

namespace KernelChain

/-- One operation of `chain.c`. -/
def perform
    (chainSizeFn : Nat) (s : KernelChain Int α) :
    ChainCall (Nat × Holder α) α → Option (CallResult α × KernelChain Int α)
  | .init => s.chainInit.map fun t => (.int t.1, t.2)
  | .release => s.chainRelease.map fun t => (.released t.1, t.2)
  | .put data kmalloc => (s.chainPut data kmalloc).map fun t => (.int t.1, t.2)
  | .get => s.chainGet.map fun t => (.pointer t.1, t.2)
  | .getTop => s.chainGetTop.map fun data => (.pointer data, s)
  | .size => s.chainSizeOf.map fun t => (.int t.1, t.2)
  | .peakSize => s.chainPeakSizeOf.map fun t => (.int t.1, t.2)
  | .removeByIdent ident func =>
      (s.chainRemoveByIdent ident func).map fun t => (.pointer t.1, t.2)
  | .removeByDoubleIdent ident1 ident2 func =>
      (s.chainRemoveByDoubleIdent ident1 ident2 func).map fun t => (.pointer t.1, t.2)
  | .removeByTripleIdent ident1 ident2 ident3 func =>
      (s.chainRemoveByTripleIdent ident1 ident2 ident3 func).map fun t =>
        (.pointer t.1, t.2)
  | .getByIdent ident func =>
      (s.chainGetByIdent ident func).map fun data => (.pointer data, s)
  | .getByDoubleIdent ident1 ident2 func =>
      (s.chainGetByDoubleIdent ident1 ident2 func).map fun data => (.pointer data, s)
  | .getByIndex index =>
      (s.chainGetByIndex chainSizeFn index).map fun data => (.pointer data, s)

/-- The operation is one that `sl_chain.c` offers. -/
def slOffers : ChainCall β α → Bool
  | .removeByDoubleIdent _ _ _ | .removeByTripleIdent _ _ _ _ | .getByIdent _ _
  | .getByIndex _ => false
  | _ => true

/-- One operation of `sl_chain.c`. -/
def slPerform
    (s : KernelChain Bool α) :
    ChainCall (Nat × Holder α) α → Option (CallResult α × KernelChain Bool α)
  | .init => s.slChainInit.map fun t => (.int t.1, t.2)
  | .release => s.slChainRelease.map fun t => (.released t.1, t.2)
  | .put data kmalloc => (s.slChainPut data kmalloc).map fun t => (.int t.1, t.2)
  | .get => s.slChainGet.map fun t => (.pointer t.1, t.2)
  | .getTop => s.slChainGetTop.map fun t => (.pointer t.1, t.2)
  | .size => s.slChainSize.map fun t => (.int t.1, t.2)
  | .peakSize => s.slChainPeakSize.map fun t => (.int t.1, t.2)
  | .removeByIdent ident func =>
      (s.slChainRemoveByIdent ident func).map fun t => (.pointer t.1, t.2)
  | .getByDoubleIdent ident1 ident2 func =>
      (s.slChainGetByDoubleIdent ident1 ident2 func).map fun data => (.pointer data, s)
  | _ => none

/-- `kmalloc` gives no block that is in use. -/
def canAnswer (s : KernelChain κ α) : ChainCall (Nat × Holder α) α → Bool
  | .put _ (some (a, _)) => (s.heap.cells a).isNone
  | _ => true

end KernelChain

/-- A chain in use, the calls so far and what they returned.  The code is none
once an operation has followed a null pointer or left a counter's range. -/
structure ChainRun (κ : Type w) (α : Type u) where
  code : Option (KernelChain κ α)
  calls : List (ChainCall Unit α)
  results : List (CallResult α)

namespace ChainRun

/-- What is left after a call. -/
def after
    (t : ChainRun κ α) (call : ChainCall Unit α) :
    Option (CallResult α × KernelChain κ α) → ChainRun κ α
  | some (result, s) =>
      { code := some s, calls := t.calls ++ [call], results := t.results ++ [result] }
  | none => { code := none, calls := t.calls ++ [call], results := t.results }

/-- A call on `chain.c`. -/
def chainStep
    (chainSizeFn : Nat) (t : ChainRun Int α) (call : ChainCall (Nat × Holder α) α) :
    Option (ChainRun Int α) :=
  match t.code with
  | none => none
  | some s =>
      if s.canAnswer call then
        some (t.after call.erase (s.perform chainSizeFn call))
      else
        none

/-- A call on `sl_chain.c`. -/
def slChainStep
    (t : ChainRun Bool α) (call : ChainCall (Nat × Holder α) α) :
    Option (ChainRun Bool α) :=
  match t.code with
  | none => none
  | some s =>
      if s.canAnswer call && KernelChain.slOffers call then
        some (t.after call.erase (s.slPerform call))
      else
        none

/-- The object with whatever its memory holds, after its first init. -/
def start
    (k : LockOps κ) (mem : KernelChain κ α) (base : Holder α) : ChainRun κ α :=
  { code :=
      (({ mem with
          heap :=
            { cells := fun a => if a = baseChain then some base else none
              live := 0 }
          lockCalls := [] } : KernelChain κ α).initWith k).map Prod.snd
    calls := [.init]
    results := [.int 0] }

end ChainRun

/-- The data put and not removed, the most there has been since the last init,
and whether the queue takes data. -/
structure KernelQueue (α : Type u) where
  elems : List (Option α)
  peak : Nat
  opened : Bool

namespace KernelQueue

/-- Take out the first element that is found. -/
def removeBy
    (q : KernelQueue α) (found : Option (Option α → Bool)) :
    CallResult α × KernelQueue α :=
  match found with
  | none => (.pointer none, q)
  | some found =>
      (.pointer (q.elems.find? found).join, { q with elems := q.elems.eraseP found })

/-- The first element that is found. -/
def getBy
    (q : KernelQueue α) (found : Option (Option α → Bool)) : CallResult α :=
  match found with
  | none => .pointer none
  | some found => .pointer (q.elems.find? found).join

/-- What each call means for the queue. -/
def queueOp (q : KernelQueue α) : ChainCall Unit α → CallResult α × KernelQueue α
  | .init => (.int 0, { elems := [], peak := 0, opened := true })
  | .release => (.released q.elems, { q with elems := [], opened := false })
  | .put data (some _) =>
      if q.opened then
        (.int 0,
          { q with
            elems := q.elems ++ [data]
            peak := max q.peak (q.elems.length + 1) })
      else
        (.int (-1), q)
  | .put _ none => (.int (-1), q)
  | .get => (.pointer q.elems.head?.join, { q with elems := q.elems.tail })
  | .getTop => (.pointer q.elems.head?.join, q)
  | .size => (.int q.elems.length, q)
  | .peakSize => (.int q.peak, q)
  | .removeByIdent ident func => q.removeBy (KernelChain.sameIdent func ident)
  | .removeByDoubleIdent ident1 ident2 func =>
      q.removeBy (KernelChain.sameDoubleIdent func ident1 ident2)
  | .removeByTripleIdent ident1 ident2 ident3 func =>
      q.removeBy (KernelChain.sameTripleIdent func ident1 ident2 ident3)
  | .getByIdent ident func => (q.getBy (KernelChain.sameIdent func ident), q)
  | .getByDoubleIdent ident1 ident2 func =>
      (q.getBy (KernelChain.sameDoubleIdent func ident1 ident2), q)
  | .getByIndex index => (.pointer q.elems[index]?.join, q)

/-- The queue after a sequence of calls, and their results. -/
def queueRun (calls : List (ChainCall Unit α)) : KernelQueue α × List (CallResult α) :=
  calls.foldl
    (fun q call => ((q.1.queueOp call).2, q.2 ++ [(q.1.queueOp call).1]))
    ({ elems := [], peak := 0, opened := false }, [])

end KernelQueue

/-- The queue that the calls so far have made. -/
def ChainRun.queue (t : ChainRun κ α) : KernelQueue α :=
  (KernelQueue.queueRun t.calls).1

/-- The sizes the queue has had since the last init. -/
def sizesSinceInit (calls : List (ChainCall Unit α)) : Set Int :=
  { n | ∃ pre post, calls = pre ++ post ∧ .init ∈ pre ∧ .init ∉ post ∧
      n = ((KernelQueue.queueRun pre).1.elems.length : Int) }

end Model

end Kmods
end BrBox
