import BrBox.Adav.GenericChain
import BrBox.Lib.LabelledRun
import BrBox.Lib.LinkedHeap
import BrBox.Lib.Slots
import Mathlib.Data.List.Induction
import Mathlib.Order.Bounds.Basic

/-!
# The linked representation of the generic chain

`ADGenericChain.cpp` with its nodes, links and counters, and the proof that it
is the queue of `GenericChain`.

The base node is a member of the object and is never freed; it stands at
address zero.  `malloc` returns any address that is not in use, with arbitrary
contents.  An operation returns none where the C code has no defined
behaviour: a null or freed pointer is followed, a walk does not end, or a
counter leaves the range of an `int`.

* `Represents.performOp`: one operation of the code is one operation of the
  list, with the same result.
* `Represents.performOp_eq_none_iff`: the only operation without a result is a
  `chain_put` into a chain of `INT_MAX` elements.
* `refinesList_run`: the same for every sequence of operations.
-/

namespace BrBox
namespace Adav

open CText
open LinkedHeap
open LabelledRun

universe u v

section Model

variable {μ : Type v}
variable {α : Type u}

/-- A `chain_holder`; its data pointer may be null. -/
abbrev Holder (α : Type u) := Node (Option α)

/-- `ADChainConsumer`: what the helper answers for the memory it looks at. -/
structure ChainHelper (μ : Type v) (α : Type u) where
  identifyChainElement : μ → Option α → Int → Int
  doubleIdentifyChainElement : μ → Option α → Int → Int → Int

/-- The members of an `ADGenericChain`. -/
structure LinkedChain (μ : Type v) (α : Type u) where
  pConsumer : Option (ChainHelper μ α)
  disableAutoremove : Int
  heap : Heap (Option α)
  chainPeakSize : Int
  chainSize : Int
  identGenerator : Int
  initFlag : Bool

/-- The address of `base_chain`. -/
def baseChain : Nat := 0

/-- `n++` on an `int`; no result on overflow. -/
def increment (n : Int) : Option Int :=
  if n < 2 ^ 31 - 1 then some (n + 1) else none

/-- `n--` on an `int`; no result on overflow. -/
def decrement (n : Int) : Option Int :=
  if -2 ^ 31 < n then some (n - 1) else none

namespace LinkedChain

/-- The constructor; the base node's other fields are left as they were. -/
def new (base : Holder α) : LinkedChain μ α :=
  { pConsumer := none
    disableAutoremove := 0
    heap :=
      { cells := fun a =>
          if a = baseChain then some { base with next := none } else none
        live := 0 }
    chainPeakSize := 0
    chainSize := 0
    identGenerator := 0
    initFlag := true }

/-- `attach_helper`: only one helper is accepted. -/
def attachHelper
    (s : LinkedChain μ α) (helper : ChainHelper μ α) : LinkedChain μ α :=
  match s.pConsumer with
  | none => { s with pConsumer := some helper }
  | some _ => s

/-- `is_helper_attached`. -/
def isHelperAttached (s : LinkedChain μ α) : Int :=
  match s.pConsumer with
  | none => -1
  | some _ => 0

/-- `identify_chain_element` of the producer. -/
def identifyChainElement
    (s : LinkedChain μ α) (mem : μ) (element : Option α) (ident : Int) : Int :=
  match s.pConsumer with
  | none => -1
  | some helper => helper.identifyChainElement mem element ident

/-- `double_identify_chain_element` of the producer. -/
def doubleIdentifyChainElement
    (s : LinkedChain μ α) (mem : μ) (element : Option α)
    (ident1 ident2 : Int) : Int :=
  match s.pConsumer with
  | none => -1
  | some helper =>
      helper.doubleIdentifyChainElement mem element ident1 ident2

/-- `base_chain.pNext`. -/
def baseNext (s : LinkedChain μ α) : Option (Option Nat) :=
  (s.heap.cells baseChain).map Node.next

/-- `chain_add`: `malloc` is the block that was allocated, if any. -/
def chainAdd
    (s : LinkedChain μ α) (data : Option α)
    (malloc : Option (Nat × Holder α)) : Option (Int × LinkedChain μ α) :=
  match malloc with
  | none => some (-1, s)
  | some (a, contents) =>
      (s.heap.alloc a contents).bind fun h₁ =>
      (h₁.modify a fun n => { n with data := data }).bind fun h₂ =>
      (h₂.lastFrom (h₂.live + 1) baseChain).bind fun last =>
      (h₂.modify last fun n => { n with next := some a }).bind fun h₃ =>
      (h₃.modify a fun n => { n with prev := some last }).bind fun h₄ =>
      (h₄.modify a fun n => { n with next := none }).bind fun h₅ =>
      (increment s.chainSize).map fun size =>
        (0, { s with
              heap := h₅
              chainSize := size
              chainPeakSize :=
                if size > s.chainPeakSize then size else s.chainPeakSize })

/-- `chain_put`. -/
def chainPut
    (s : LinkedChain μ α) (data : Option α)
    (malloc : Option (Nat × Holder α)) : Option (Int × LinkedChain μ α) :=
  if s.initFlag = false then
    some (-1, s)
  else
    s.chainAdd data malloc

/-- The unlink code that every removal repeats. -/
def unlinkHolder
    (s : LinkedChain μ α) (a : Nat) : Option (LinkedChain μ α) :=
  (s.heap.unlink a).bind fun h =>
  (decrement s.chainSize).map fun size =>
    { s with heap := h, chainSize := size }

/-- The walk of the two reading functions by ident. -/
def getBy
    (s : LinkedChain μ α) (found : Option α → Bool) : Option (Option α) :=
  s.baseNext.bind fun pHolder =>
    match pHolder with
    | none => some none
    | some _ =>
        if s.isHelperAttached ≠ 0 then
          some none
        else
          (s.heap.findFrom found s.heap.live pHolder).bind fun pFound =>
            match pFound with
            | none => some none
            | some a => (s.heap.cells a).map Node.data

/-- The walk of the two removing functions by ident. -/
def removeBy
    (s : LinkedChain μ α) (found : Option α → Bool) :
    Option (Option α × LinkedChain μ α) :=
  s.baseNext.bind fun pHolder =>
    if s.initFlag = false then
      some (none, s)
    else
      match pHolder with
      | none => some (none, s)
      | some _ =>
          if s.isHelperAttached ≠ 0 then
            some (none, s)
          else
            (s.heap.findFrom found s.heap.live pHolder).bind fun pFound =>
              match pFound with
              | none => some (none, s)
              | some a =>
                  (s.heap.cells a).bind fun n =>
                  (s.unlinkHolder a).map fun t => (n.data, t)

/-- `chain_get_by_ident`. -/
def chainGetByIdent
    (s : LinkedChain μ α) (mem : μ) (ident : Int) : Option (Option α) :=
  s.getBy fun data => s.identifyChainElement mem data ident == 0

/-- `chain_get_by_double_ident`. -/
def chainGetByDoubleIdent
    (s : LinkedChain μ α) (mem : μ) (ident1 ident2 : Int) :
    Option (Option α) :=
  s.getBy fun data => s.doubleIdentifyChainElement mem data ident1 ident2 == 0

/-- `chain_remove_by_ident`. -/
def chainRemoveByIdent
    (s : LinkedChain μ α) (mem : μ) (ident : Int) :
    Option (Option α × LinkedChain μ α) :=
  s.removeBy fun data => s.identifyChainElement mem data ident == 0

/-- `chain_remove_by_double_ident`. -/
def chainRemoveByDoubleIdent
    (s : LinkedChain μ α) (mem : μ) (ident1 ident2 : Int) :
    Option (Option α × LinkedChain μ α) :=
  s.removeBy fun data =>
    s.doubleIdentifyChainElement mem data ident1 ident2 == 0

/-- `chain_get_by_index`: the walk relies on `chain_size`. -/
def chainGetByIndex
    (s : LinkedChain μ α) (index : Int) : Option (Option α) :=
  s.baseNext.bind fun pHolder =>
    match pHolder with
    | none => some none
    | some _ =>
        if index ≥ s.chainSize then
          some none
        else
          (s.heap.advance index.toNat pHolder).bind fun pFound =>
            match pFound with
            | none => some none
            | some a => (s.heap.cells a).map Node.data

/-- The common body of `chain_remove` and `remove`. -/
def removeFirst
    (s : LinkedChain μ α) : Option (Int × LinkedChain μ α) :=
  s.baseNext.bind fun pHolder =>
    match pHolder with
    | none => some (-1, s)
    | some a => (s.unlinkHolder a).map fun t => (0, t)

/-- `chain_remove`. -/
def chainRemove
    (s : LinkedChain μ α) : Option (Int × LinkedChain μ α) :=
  s.removeFirst

/-- The private `remove`. -/
def remove
    (s : LinkedChain μ α) : Option (Int × LinkedChain μ α) :=
  s.removeFirst

/-- `chain_get`: the very first is the oldest. -/
def chainGet
    (s : LinkedChain μ α) : Option (Option α × LinkedChain μ α) :=
  if s.initFlag = false then
    some (none, s)
  else
    s.baseNext.bind fun pHolder =>
      match pHolder with
      | none => some (none, s)
      | some a =>
          (s.heap.cells a).bind fun n =>
          s.chainRemove.map fun t => (n.data, t.2)

/-- `get_top`. -/
def getTop (s : LinkedChain μ α) : Option (Option α) :=
  if s.initFlag = false then
    some none
  else
    s.baseNext.bind fun pHolder =>
      match pHolder with
      | none => some none
      | some a => (s.heap.cells a).map Node.data

/-- The data of the first element is freed unless another chain owns it. -/
def freeFirstData
    (s : LinkedChain μ α) (a : Nat) :
    Option (List (Option α) × LinkedChain μ α) :=
  if s.disableAutoremove = 0 then
    (s.heap.cells a).bind fun n =>
    (s.heap.modify a fun n => { n with data := none }).map fun h =>
      ([n.data], { s with heap := h })
  else
    some ([], s)

/-- The loop of `remove_all`, with the data pointers it frees. -/
def removeAllLoop :
    (fuel : Nat) → LinkedChain μ α →
      Option (List (Option α) × LinkedChain μ α)
  | 0, s =>
      s.baseNext.bind fun pHolder =>
        match pHolder with
        | none => some ([], s)
        | some _ => none
  | fuel + 1, s =>
      s.baseNext.bind fun pHolder =>
        match pHolder with
        | none => some ([], s)
        | some a =>
            (s.freeFirstData a).bind fun freed =>
            freed.2.remove.bind fun t =>
            (removeAllLoop fuel t.2).map fun rest =>
              (freed.1 ++ rest.1, rest.2)

/-- `remove_all`. -/
def removeAll
    (s : LinkedChain μ α) : Option (List (Option α) × LinkedChain μ α) :=
  removeAllLoop s.heap.live s

/-- `chain_empty`. -/
def chainEmpty
    (s : LinkedChain μ α) : Option (List (Option α) × LinkedChain μ α) :=
  s.removeAll.map fun t => (t.1, { t.2 with identGenerator := 0 })

/-- `chain_generate_ident`. -/
def chainGenerateIdent (s : LinkedChain μ α) : Int × LinkedChain μ α :=
  (wrapInt32 (s.identGenerator + 1),
    { s with identGenerator := wrapInt32 (s.identGenerator + 1) })

end LinkedChain

/-- The operations of a client; the helper looks at the memory `mem`. -/
inductive ChainOp (μ : Type v) (α : Type u)
  | chainPut (data : Option α) (malloc : Option (Nat × Holder α))
  | chainGet
  | chainRemoveByIdent (mem : μ) (ident : Int)
  | chainRemoveByDoubleIdent (mem : μ) (ident1 ident2 : Int)
  | chainGetByIdent (mem : μ) (ident : Int)
  | chainGetByDoubleIdent (mem : μ) (ident1 ident2 : Int)
  | chainGetByIndex (index : Int)
  | getTop
  | getChainSize
  | chainEmpty
  | removeAll
  | chainGenerateIdent
  | disableAutoRemove
  | enableAutoRemove

/-- What an operation returns; emptying also tells which data it freed. -/
inductive ChainResult (α : Type u)
  | pointer (data : Option α)
  | int (n : Int)
  | emptied (freed : List (Option α))
deriving DecidableEq, Repr

namespace LinkedChain

/-- One operation of the code. -/
def performOp
    (s : LinkedChain μ α) :
    ChainOp μ α → Option (ChainResult α × LinkedChain μ α)
  | .chainPut data malloc =>
      (s.chainPut data malloc).map fun t => (.int t.1, t.2)
  | .chainGet =>
      s.chainGet.map fun t => (.pointer t.1, t.2)
  | .chainRemoveByIdent mem ident =>
      (s.chainRemoveByIdent mem ident).map fun t => (.pointer t.1, t.2)
  | .chainRemoveByDoubleIdent mem ident1 ident2 =>
      (s.chainRemoveByDoubleIdent mem ident1 ident2).map fun t =>
        (.pointer t.1, t.2)
  | .chainGetByIdent mem ident =>
      (s.chainGetByIdent mem ident).map fun data => (.pointer data, s)
  | .chainGetByDoubleIdent mem ident1 ident2 =>
      (s.chainGetByDoubleIdent mem ident1 ident2).map fun data =>
        (.pointer data, s)
  | .chainGetByIndex index =>
      (s.chainGetByIndex index).map fun data => (.pointer data, s)
  | .getTop =>
      s.getTop.map fun data => (.pointer data, s)
  | .getChainSize =>
      some (.int s.chainSize, s)
  | .chainEmpty =>
      s.chainEmpty.map fun t => (.emptied t.1, t.2)
  | .removeAll =>
      s.removeAll.map fun t => (.emptied t.1, t.2)
  | .chainGenerateIdent =>
      some (.int s.chainGenerateIdent.1, s.chainGenerateIdent.2)
  | .disableAutoRemove =>
      some (.int 0, { s with disableAutoremove := 1 })
  | .enableAutoRemove =>
      some (.int 0, { s with disableAutoremove := 0 })

/-- One operation; the results so far are kept. -/
def chainStep
    (s : LinkedChain μ α × List (ChainResult α)) (op : ChainOp μ α) :
    Option (LinkedChain μ α × List (ChainResult α)) :=
  (s.1.performOp op).map fun t => (t.2, s.2 ++ [t.1])

end LinkedChain

end Model

section Refinement

variable {μ : Type v}
variable {α : Type u}

/-- The list a chain stands for, with the largest size it had. -/
structure ListChain (α : Type u) where
  chain : GenericChain (Option α)
  peak : Nat
  disableAutoremove : Int

namespace ListChain

/-- The list of a constructed chain. -/
def new : ListChain α :=
  { chain := GenericChain.new, peak := 0, disableAutoremove := 0 }

/-- The data freed when the list is emptied. -/
def freed (c : ListChain α) : List (Option α) :=
  if c.disableAutoremove = 0 then c.chain.elems else []

/-- What each operation means for the list. -/
def listOp
    (helper : ChainHelper μ α) (c : ListChain α) :
    ChainOp μ α → ChainResult α × ListChain α
  | .chainPut data (some _) =>
      (.int 0,
        { c with
          chain := c.chain.chainPut data
          peak := max c.peak (c.chain.elems.length + 1) })
  | .chainPut _ none => (.int (-1), c)
  | .chainGet =>
      (.pointer c.chain.chainGet.1.join, { c with chain := c.chain.chainGet.2 })
  | .chainRemoveByIdent mem ident =>
      let removed := c.chain.chainRemoveByIdent fun data =>
        helper.identifyChainElement mem data ident == 0
      (.pointer removed.1.join, { c with chain := removed.2 })
  | .chainRemoveByDoubleIdent mem ident1 ident2 =>
      let removed := c.chain.chainRemoveByIdent fun data =>
        helper.doubleIdentifyChainElement mem data ident1 ident2 == 0
      (.pointer removed.1.join, { c with chain := removed.2 })
  | .chainGetByIdent mem ident =>
      (.pointer (c.chain.chainGetByIdent fun data =>
        helper.identifyChainElement mem data ident == 0).join, c)
  | .chainGetByDoubleIdent mem ident1 ident2 =>
      (.pointer (c.chain.chainGetByIdent fun data =>
        helper.doubleIdentifyChainElement mem data ident1 ident2 == 0).join, c)
  | .chainGetByIndex index =>
      (.pointer c.chain.elems[index.toNat]?.join, c)
  | .getTop => (.pointer c.chain.elems.head?.join, c)
  | .getChainSize => (.int c.chain.elems.length, c)
  | .chainEmpty => (.emptied c.freed, { c with chain := c.chain.chainEmpty })
  | .removeAll =>
      (.emptied c.freed, { c with chain := { c.chain with elems := [] } })
  | .chainGenerateIdent =>
      (.int c.chain.chainGenerateIdent.1,
        { c with chain := c.chain.chainGenerateIdent.2 })
  | .disableAutoRemove => (.int 0, { c with disableAutoremove := 1 })
  | .enableAutoRemove => (.int 0, { c with disableAutoremove := 0 })

/-- One operation on the list; the results so far are kept. -/
def listStep
    (helper : ChainHelper μ α)
    (c : ListChain α × List (ChainResult α)) (op : ChainOp μ α) :
    ListChain α × List (ChainResult α) :=
  ((c.1.listOp helper op).2, c.2 ++ [(c.1.listOp helper op).1])

/-- The list after a sequence of operations, and their results. -/
def listRun
    (helper : ChainHelper μ α) (ops : List (ChainOp μ α)) :
    ListChain α × List (ChainResult α) :=
  ops.foldl (listStep helper) (new, [])

end ListChain

namespace LinkedChain

/-- The nodes, links and counters of a chain stand for a list. -/
structure Represents
    (helper : ChainHelper μ α)
    (s : LinkedChain μ α)
    (nodes : List (Nat × Option α))
    (c : ListChain α) : Prop where
  elems : nodes.map Prod.snd = c.chain.elems
  links : Linked s.heap.cells baseChain nodes
  distinct : (baseChain :: nodes.map Prod.fst).Nodup
  live : s.heap.live = nodes.length
  size : s.chainSize = nodes.length
  peak : s.chainPeakSize = c.peak
  ident : s.identGenerator = c.chain.identGenerator
  auto : s.disableAutoremove = c.disableAutoremove
  init : s.initFlag = true
  helperAttached : s.pConsumer = some helper

variable {helper : ChainHelper μ α}
variable {s : LinkedChain μ α}
variable {nodes : List (Nat × Option α)}
variable {c : ListChain α}

/-- A constructed chain with its helper is the empty list. -/
theorem represents_new
    (helper : ChainHelper μ α) (base : Holder α) :
    Represents helper ((new base).attachHelper helper) [] ListChain.new := by
  constructor
  · rfl
  · exact ⟨{ base with next := none }, rfl, rfl⟩
  · simp
  · rfl
  · rfl
  · rfl
  · rfl
  · rfl
  · rfl
  · rfl

theorem Represents.baseNext
    (hrep : Represents helper s nodes c) :
    s.baseNext = some (nodes.head?.map Prod.fst) := by
  obtain ⟨n, hn, hnext⟩ := hrep.links.base
  simp [LinkedChain.baseNext, hn, hnext]

theorem Represents.isHelperAttached
    (hrep : Represents helper s nodes c) :
    s.isHelperAttached = 0 := by
  simp [LinkedChain.isHelperAttached, hrep.helperAttached]

/-- The data pointer read through a node's address. -/
theorem Represents.dataAt
    (hrep : Represents helper s nodes c)
    {x : Nat × Option α} (hx : x ∈ nodes) :
    (s.heap.cells x.1).map Node.data = some x.2 := by
  obtain ⟨m, hm, hdata⟩ := hrep.links.node hx
  simp [hm, hdata]

/-- The unlink code takes one element out of the list. -/
theorem Represents.unlinkHolder
    {pre post : List (Nat × Option α)} {a : Nat} {d : Option α}
    (hrep : Represents helper s (pre ++ (a, d) :: post) c) :
    ∃ t, s.unlinkHolder a = some t ∧
      Represents helper t (pre ++ post)
        { c with chain :=
          { c.chain with elems := (pre ++ post).map Prod.snd } } := by
  obtain ⟨h', hunlink, hlive, hlinks, -, -⟩ :=
    unlink_linked hrep.links hrep.distinct
  have hpos : (0 : Int) < s.chainSize := by
    rw [hrep.size]
    simp
    omega
  have hdec : decrement s.chainSize = some (s.chainSize - 1) := by
    unfold decrement
    rw [if_pos (by omega)]
  refine ⟨{ s with heap := h', chainSize := s.chainSize - 1 }, ?_, ?_⟩
  · simp [LinkedChain.unlinkHolder, hunlink, hdec]
  · constructor
    · rfl
    · exact hlinks
    · have hsub : List.Sublist (pre ++ post) (pre ++ (a, d) :: post) :=
        List.Sublist.append_left (List.sublist_cons_self _ _) pre
      exact hrep.distinct.sublist ((hsub.map Prod.fst).cons_cons _)
    · rw [hlive, hrep.live]
      simp
    · show s.chainSize - 1 = _
      rw [hrep.size]
      simp
      omega
    · exact hrep.peak
    · exact hrep.ident
    · exact hrep.auto
    · exact hrep.init
    · exact hrep.helperAttached

/-- Searching the nodes is searching the list. -/
theorem Represents.find
    (hrep : Represents helper s nodes c) (found : Option α → Bool) :
    c.chain.elems.find? found =
      (nodes.find? fun x => found x.2).map Prod.snd := by
  rw [← hrep.elems, List.find?_map]
  rfl

/-- Reading by ident returns the first element that is identified. -/
theorem Represents.getBy
    (hrep : Represents helper s nodes c) (found : Option α → Bool) :
    s.getBy found = some (c.chain.elems.find? found).join := by
  have hfind := findFrom_linked found hrep.links (le_of_eq hrep.live.symm)
  unfold LinkedChain.getBy
  rw [hrep.baseNext, hrep.find, Option.bind_some]
  cases nodes with
  | nil =>
      rfl
  | cons x nodes =>
      simp only [List.head?_cons, Option.map_some] at hfind ⊢
      rw [if_neg (by simp [hrep.isHelperAttached]), hfind, Option.bind_some]
      cases hx : (x :: nodes).find? fun x => found x.2 with
      | none =>
          rfl
      | some y =>
          simpa using hrep.dataAt (List.mem_of_find?_eq_some hx)

/-- Removing by ident takes out the first element that is identified. -/
theorem Represents.removeBy
    (hrep : Represents helper s nodes c) (found : Option α → Bool) :
    ∃ t nodes',
      s.removeBy found = some ((c.chain.elems.find? found).join, t) ∧
      Represents helper t nodes'
        { c with chain := (c.chain.chainRemoveByIdent found).2 } := by
  have hfind := findFrom_linked found hrep.links (le_of_eq hrep.live.symm)
  unfold LinkedChain.removeBy
  rw [hrep.baseNext, Option.bind_some, if_neg (by simp [hrep.init])]
  cases hx : nodes.find? fun x => found x.2 with
  | none =>
      have hnone : c.chain.elems.find? found = none := by
        rw [hrep.find, hx]
        rfl
      refine ⟨s, nodes, ?_, ?_⟩
      · rw [hnone]
        cases nodes with
        | nil =>
            rfl
        | cons y nodes =>
            rw [hx] at hfind
            simp only [List.head?_cons, Option.map_some] at hfind ⊢
            rw [if_neg (by simp [hrep.isHelperAttached]), hfind]
            rfl
      · have herase : c.chain.elems.eraseP found = c.chain.elems := by
          apply List.eraseP_of_forall_not
          simpa using List.find?_eq_none.mp hnone
        have hsame : (c.chain.chainRemoveByIdent found).2 = c.chain := by
          simp [GenericChain.chainRemoveByIdent, herase]
        rw [hsame]
        exact hrep
  | some y =>
      obtain ⟨a, d⟩ := y
      obtain ⟨pre, post, rfl, hfound, hpre, herase⟩ := Slots.split_find hx
      obtain ⟨t, hunlink, hrep'⟩ := hrep.unlinkHolder
      have hdata := hrep.dataAt (x := (a, d)) (by simp)
      obtain ⟨n, hn, hnd⟩ := Option.map_eq_some_iff.mp hdata
      refine ⟨t, pre ++ post, ?_, ?_⟩
      · rw [hrep.find, hx]
        obtain ⟨b, hhead⟩ : ∃ b,
            (pre ++ (a, d) :: post).head?.map Prod.fst = some b := by
          cases pre with
          | nil =>
              exact ⟨a, rfl⟩
          | cons x pre =>
              exact ⟨x.1, rfl⟩
        rw [hx] at hfind
        rw [hhead] at hfind ⊢
        simp [hrep.isHelperAttached, hfind, hn, hunlink, hnd]
      · have helems : c.chain.elems.eraseP found = (pre ++ post).map Prod.snd := by
          rw [← hrep.elems, List.eraseP_map, ← herase]
          rfl
        simpa [GenericChain.chainRemoveByIdent, helems] using hrep'

/-- Taking the first element. -/
theorem Represents.removeFirst
    {a : Nat} {d : Option α}
    (hrep : Represents helper s ((a, d) :: nodes) c) :
    ∃ t, s.removeFirst = some (0, t) ∧
      Represents helper t nodes
        { c with chain := { c.chain with elems := nodes.map Prod.snd } } := by
  have hfirst : Represents helper s ([] ++ (a, d) :: nodes) c := hrep
  obtain ⟨t, hunlink, hrep'⟩ := hfirst.unlinkHolder
  refine ⟨t, ?_, hrep'⟩
  simp [LinkedChain.removeFirst, hrep.baseNext, hunlink]

/-- `chain_get` takes the oldest element. -/
theorem Represents.chainGet
    (hrep : Represents helper s nodes c) :
    ∃ t nodes',
      s.chainGet = some (c.chain.chainGet.1.join, t) ∧
      Represents helper t nodes' { c with chain := c.chain.chainGet.2 } := by
  have hbase := hrep.baseNext
  have helems := hrep.elems
  cases nodes with
  | nil =>
      have hempty : c.chain.chainGet = (none, c.chain) := by
        simp [GenericChain.chainGet, ← helems]
      refine ⟨s, [], ?_, ?_⟩
      · rw [hempty]
        simp [LinkedChain.chainGet, hrep.init, hbase]
      · rw [hempty]
        exact hrep
  | cons x nodes =>
      obtain ⟨a, d⟩ := x
      obtain ⟨t, hremove, hrep'⟩ := hrep.removeFirst
      obtain ⟨n, hn, hnd⟩ :=
        Option.map_eq_some_iff.mp (hrep.dataAt (List.mem_cons_self))
      have hget : c.chain.chainGet =
          (some d, { c.chain with elems := nodes.map Prod.snd }) := by
        simp [GenericChain.chainGet, ← helems]
      refine ⟨t, nodes, ?_, ?_⟩
      · rw [hget]
        simp [LinkedChain.chainGet, LinkedChain.chainRemove, hrep.init, hbase,
          hn, hremove, hnd]
      · rw [hget]
        exact hrep'

/-- `get_top` reads the oldest element. -/
theorem Represents.getTop
    (hrep : Represents helper s nodes c) :
    s.getTop = some c.chain.elems.head?.join := by
  have hbase := hrep.baseNext
  rw [← hrep.elems]
  cases nodes with
  | nil =>
      simp [LinkedChain.getTop, hrep.init, hbase]
  | cons x nodes =>
      have hdata := hrep.dataAt (List.mem_cons_self)
      simp [LinkedChain.getTop, hrep.init, hbase, hdata]

/-- `chain_get_by_index` reads the element at its position. -/
theorem Represents.chainGetByIndex
    (hrep : Represents helper s nodes c) (index : Int) :
    s.chainGetByIndex index = some c.chain.elems[index.toNat]?.join := by
  have hbase := hrep.baseNext
  rw [← hrep.elems]
  cases hnodes : nodes with
  | nil =>
      rw [hnodes] at hbase
      simp [LinkedChain.chainGetByIndex, hbase]
  | cons x rest =>
      rw [← hnodes]
      have hhead : nodes.head?.map Prod.fst = some x.1 := by
        simp [hnodes]
      by_cases hindex : index ≥ s.chainSize
      · have hout : nodes.length ≤ index.toNat := by
          have := hrep.size
          omega
        simp [LinkedChain.chainGetByIndex, hbase, hhead, hindex, hout]
      · have hpos : 0 < nodes.length := by simp [hnodes]
        have hin : index.toNat < nodes.length := by
          have := hrep.size
          omega
        have hadvance := advance_linked hrep.links (Nat.le_of_lt hin)
        have hdata := hrep.dataAt (List.getElem_mem hin)
        rw [hhead] at hadvance
        simp [LinkedChain.chainGetByIndex, hbase, hhead, hindex, hadvance, hin, hdata]

/-- Freeing the first element's data changes no link. -/
theorem Represents.freeFirstData
    {a : Nat} {d : Option α}
    (hrep : Represents helper s ((a, d) :: nodes) c) :
    ∃ t d', s.freeFirstData a =
        some (if c.disableAutoremove = 0 then [d] else [], t) ∧
      Represents helper t ((a, d') :: nodes)
        { c with chain := { c.chain with elems := d' :: nodes.map Prod.snd } } := by
  by_cases hauto : c.disableAutoremove = 0
  · obtain ⟨⟨n, hn, hnext⟩, ⟨m, hm, hdata, hprev⟩, htail⟩ := hrep.links
    have hdistinct := hrep.distinct
    simp only [List.map_cons, List.nodup_cons, List.mem_cons, not_or] at hdistinct
    obtain ⟨⟨hba, -⟩, ha, -⟩ := hdistinct
    refine ⟨{ s with heap :=
      { s.heap with cells :=
          Function.update s.heap.cells a (some { m with data := none }) } },
      none, ?_, ?_⟩
    · simp [LinkedChain.freeFirstData, hrep.auto, hauto, hm, hdata, Heap.modify]
    · refine { hrep with elems := rfl, links := ?_, distinct := hrep.distinct }
      refine ⟨⟨n, by simp [hba, hn], hnext⟩, ⟨{ m with data := none }, by simp, rfl, hprev⟩, ?_⟩
      apply htail.congr
      · intro k hk
        obtain rfl : m = k := Option.some.inj (hm.symm.trans hk)
        exact ⟨{ m with data := none }, by simp, rfl⟩
      · intro x hx
        have hxa : x ≠ a := by
          rintro rfl
          exact ha hx
        simp [hxa]
  · refine ⟨s, d, ?_, ?_⟩
    · simp [LinkedChain.freeFirstData, hrep.auto, hauto]
    · refine { hrep with elems := rfl }

/-- The loop of `remove_all` frees and unlinks every element. -/
theorem Represents.removeAllLoop
    (hrep : Represents helper s nodes c) :
    ∃ t, removeAllLoop nodes.length s = some (c.freed, t) ∧
      Represents helper t []
        { c with chain := { c.chain with elems := [] } } := by
  induction nodes generalizing s c with
  | nil =>
      have helems : c.chain.elems = [] := by simp [← hrep.elems]
      refine ⟨s, ?_, { hrep with elems := rfl }⟩
      simp [LinkedChain.removeAllLoop, hrep.baseNext, ListChain.freed, helems]
  | cons x nodes ih =>
      obtain ⟨a, d⟩ := x
      obtain ⟨t₁, d', hfree, hrep₁⟩ := hrep.freeFirstData
      obtain ⟨t₂, hremove, hrep₂⟩ := hrep₁.removeFirst
      obtain ⟨t₃, hloop, hrep₃⟩ := ih hrep₂
      refine ⟨t₃, ?_, hrep₃⟩
      have helems : c.chain.elems = d :: nodes.map Prod.snd := by
        simp [← hrep.elems]
      simp only [List.length_cons, LinkedChain.removeAllLoop, hrep.baseNext,
        List.head?_cons, Option.map_some, Option.bind_some, hfree,
        LinkedChain.remove, hremove, hloop, ListChain.freed, helems]
      by_cases hauto : c.disableAutoremove = 0 <;> simp [hauto]

/-- `remove_all`. -/
theorem Represents.removeAll
    (hrep : Represents helper s nodes c) :
    ∃ t, s.removeAll = some (c.freed, t) ∧
      Represents helper t []
        { c with chain := { c.chain with elems := [] } } := by
  unfold LinkedChain.removeAll
  rw [hrep.live]
  exact hrep.removeAllLoop

/-- The new node is linked behind the last one. -/
theorem chainAdd_eq
    (s : LinkedChain μ α) (data : Option α) (a : Nat) (contents : Holder α) :
    s.chainAdd data (some (a, contents)) =
      (s.heap.pushBack baseChain a contents data).bind fun h =>
      (increment s.chainSize).map fun size =>
        (0, { s with
              heap := h
              chainSize := size
              chainPeakSize :=
                if size > s.chainPeakSize then size else s.chainPeakSize }) := by
  simp only [LinkedChain.chainAdd, Heap.pushBack, Option.bind_assoc]

/-- `chain_add` links a new node behind the last one. -/
theorem Represents.chainAdd
    (hrep : Represents helper s nodes c)
    (data : Option α) {a : Nat} (contents : Holder α)
    (hfree : s.heap.cells a = none)
    (hroom : s.chainSize < 2 ^ 31 - 1) :
    ∃ t, s.chainAdd data (some (a, contents)) = some (0, t) ∧
      Represents helper t (nodes ++ [(a, data)])
        { c with
          chain := c.chain.chainPut data
          peak := max c.peak (c.chain.elems.length + 1) } := by
  obtain ⟨h, hpush, hlive, hlinks, hdistinct⟩ :=
    pushBack_linked hrep.links hrep.distinct contents data hfree (le_of_eq hrep.live.symm)
  have hinc : increment s.chainSize = some (s.chainSize + 1) := by
    unfold increment
    rw [if_pos hroom]
  have hsize : s.chainSize + 1 = ((nodes.length + 1 : Nat) : Int) := by
    rw [hrep.size]
    rfl
  have hlength : c.chain.elems.length = nodes.length := by
    simp [← hrep.elems]
  refine ⟨{ s with
    heap := h
    chainSize := s.chainSize + 1
    chainPeakSize :=
      if s.chainSize + 1 > s.chainPeakSize then s.chainSize + 1
      else s.chainPeakSize }, ?_, ?_⟩
  · simp [chainAdd_eq, hpush, hinc]
  · constructor
    · simp [hrep.elems]
    · exact hlinks
    · exact hdistinct
    · simp [hlive, hrep.live]
    · simpa using hsize
    · show (if s.chainSize + 1 > s.chainPeakSize then s.chainSize + 1
        else s.chainPeakSize) = _
      rw [hrep.peak, hsize, hlength]
      push_cast
      split <;> omega
    · exact hrep.ident
    · exact hrep.auto
    · exact hrep.init
    · exact hrep.helperAttached

/-- The identification the code asks for is the helper's. -/
theorem Represents.identify
    (hrep : Represents helper s nodes c) (mem : μ) (ident : Int) :
    (fun data => s.identifyChainElement mem data ident == 0) =
      fun data => helper.identifyChainElement mem data ident == 0 := by
  simp [LinkedChain.identifyChainElement, hrep.helperAttached]

theorem Represents.doubleIdentify
    (hrep : Represents helper s nodes c) (mem : μ) (ident1 ident2 : Int) :
    (fun data => s.doubleIdentifyChainElement mem data ident1 ident2 == 0) =
      fun data =>
        helper.doubleIdentifyChainElement mem data ident1 ident2 == 0 := by
  simp [LinkedChain.doubleIdentifyChainElement, hrep.helperAttached]

/-- The only operation without a result: a put of a block that is in use, or
of one element more than an `int` can count. -/
def Refused (s : LinkedChain μ α) : ChainOp μ α → Prop
  | .chainPut _ (some (a, _)) =>
      s.heap.cells a ≠ none ∨ 2 ^ 31 - 1 ≤ s.chainSize
  | _ => False

/-- One operation of the code is one operation of the list. -/
theorem Represents.performOp
    (hrep : Represents helper s nodes c) (op : ChainOp μ α)
    (hok : ¬ s.Refused op) :
    ∃ t nodes',
      s.performOp op = some ((c.listOp helper op).1, t) ∧
      Represents helper t nodes' (c.listOp helper op).2 := by
  cases op with
  | chainPut data malloc =>
      cases malloc with
      | none =>
          refine ⟨s, nodes, ?_, hrep⟩
          simp [LinkedChain.performOp, LinkedChain.chainPut, hrep.init,
            LinkedChain.chainAdd, ListChain.listOp]
      | some block =>
          obtain ⟨a, contents⟩ := block
          simp only [Refused, not_or, not_not, not_le] at hok
          obtain ⟨t, hadd, hrep'⟩ :=
            hrep.chainAdd data contents hok.1 hok.2
          refine ⟨t, _, ?_, hrep'⟩
          simp [LinkedChain.performOp, LinkedChain.chainPut, hrep.init, hadd,
            ListChain.listOp]
  | chainGet =>
      obtain ⟨t, nodes', hget, hrep'⟩ := hrep.chainGet
      exact ⟨t, nodes', by simp [LinkedChain.performOp, hget, ListChain.listOp], hrep'⟩
  | chainRemoveByIdent mem ident =>
      obtain ⟨t, nodes', hremove, hrep'⟩ := hrep.removeBy fun data =>
        helper.identifyChainElement mem data ident == 0
      refine ⟨t, nodes', ?_, hrep'⟩
      simp [LinkedChain.performOp, LinkedChain.chainRemoveByIdent,
        hrep.identify, hremove, ListChain.listOp]
  | chainRemoveByDoubleIdent mem ident1 ident2 =>
      obtain ⟨t, nodes', hremove, hrep'⟩ := hrep.removeBy fun data =>
        helper.doubleIdentifyChainElement mem data ident1 ident2 == 0
      refine ⟨t, nodes', ?_, hrep'⟩
      simp [LinkedChain.performOp, LinkedChain.chainRemoveByDoubleIdent,
        hrep.doubleIdentify, hremove, ListChain.listOp]
  | chainGetByIdent mem ident =>
      refine ⟨s, nodes, ?_, hrep⟩
      simp [LinkedChain.performOp, LinkedChain.chainGetByIdent,
        hrep.identify, hrep.getBy, ListChain.listOp, GenericChain.chainGetByIdent]
  | chainGetByDoubleIdent mem ident1 ident2 =>
      refine ⟨s, nodes, ?_, hrep⟩
      simp [LinkedChain.performOp, LinkedChain.chainGetByDoubleIdent,
        hrep.doubleIdentify, hrep.getBy, ListChain.listOp,
        GenericChain.chainGetByIdent]
  | chainGetByIndex index =>
      refine ⟨s, nodes, ?_, hrep⟩
      simp [LinkedChain.performOp, hrep.chainGetByIndex, ListChain.listOp]
  | getTop =>
      refine ⟨s, nodes, ?_, hrep⟩
      simp [LinkedChain.performOp, hrep.getTop, ListChain.listOp]
  | getChainSize =>
      refine ⟨s, nodes, ?_, hrep⟩
      simp [LinkedChain.performOp, hrep.size, ListChain.listOp, ← hrep.elems]
  | chainEmpty =>
      obtain ⟨t, hremove, hrep'⟩ := hrep.removeAll
      refine ⟨{ t with identGenerator := 0 }, [], ?_, ?_⟩
      · simp [LinkedChain.performOp, LinkedChain.chainEmpty, hremove,
          ListChain.listOp]
      · exact { hrep' with ident := rfl }
  | removeAll =>
      obtain ⟨t, hremove, hrep'⟩ := hrep.removeAll
      refine ⟨t, [], ?_, hrep'⟩
      simp [LinkedChain.performOp, hremove, ListChain.listOp]
  | chainGenerateIdent =>
      refine ⟨s.chainGenerateIdent.2, nodes, ?_, ?_⟩
      · simp [LinkedChain.performOp, ListChain.listOp,
          LinkedChain.chainGenerateIdent, GenericChain.chainGenerateIdent,
          hrep.ident]
      · refine { hrep with ident := ?_ }
        simp [LinkedChain.chainGenerateIdent, ListChain.listOp,
          GenericChain.chainGenerateIdent, hrep.ident]
  | disableAutoRemove =>
      exact ⟨{ s with disableAutoremove := 1 }, nodes, rfl, { hrep with auto := rfl }⟩
  | enableAutoRemove =>
      exact ⟨{ s with disableAutoremove := 0 }, nodes, rfl, { hrep with auto := rfl }⟩

/-- A refused put has no result. -/
theorem Represents.performOp_refused
    (hrep : Represents helper s nodes c) {op : ChainOp μ α}
    (hrefused : s.Refused op) :
    s.performOp op = none := by
  cases op with
  | chainPut data malloc =>
      cases malloc with
      | none =>
          cases hrefused
      | some block =>
          obtain ⟨a, contents⟩ := block
          rcases hrefused with hused | hfull
          · obtain ⟨n, hn⟩ := Option.ne_none_iff_exists'.mp hused
            simp [LinkedChain.performOp, LinkedChain.chainPut, hrep.init,
              LinkedChain.chainAdd, Heap.alloc, hn]
          · have hinc : increment s.chainSize = none := by
              unfold increment
              rw [if_neg (by omega)]
            simp [LinkedChain.performOp, LinkedChain.chainPut, hrep.init,
              LinkedChain.chainAdd, hinc]
  | _ =>
      cases hrefused

/-- An operation has no result exactly if it is refused. -/
theorem Represents.performOp_eq_none_iff
    (hrep : Represents helper s nodes c) (op : ChainOp μ α) :
    s.performOp op = none ↔ s.Refused op := by
  constructor
  · intro hnone
    by_contra hok
    obtain ⟨t, nodes', hop, -⟩ := hrep.performOp op hok
    rw [hnone] at hop
    cases hop
  · exact hrep.performOp_refused

end LinkedChain

/-- The sizes a list had in the course of a sequence of operations. -/
def sizesReached
    (helper : ChainHelper μ α) (ops : List (ChainOp μ α)) : Set Int :=
  { n | ∃ pre, pre <+: ops ∧
      n = ((ListChain.listRun helper pre).1.chain.elems.length : Int) }

/-- The linked chain after a sequence of operations is the list after it. -/
structure RefinesList
    (helper : ChainHelper μ α)
    (ops : List (ChainOp μ α))
    (s : LinkedChain μ α)
    (results : List (ChainResult α)) : Prop where
  nodes : ∃ nodes : List (Nat × Option α),
    nodes.map Prod.snd = (ListChain.listRun helper ops).1.chain.elems ∧
    Linked s.heap.cells baseChain nodes ∧
    (baseChain :: nodes.map Prod.fst).Nodup ∧
    s.chainSize = nodes.length
  peak : IsGreatest (sizesReached helper ops) s.chainPeakSize
  results : results = (ListChain.listRun helper ops).2
  defined : ∀ op, s.performOp op = none ↔ s.Refused op

namespace ListChain

theorem listRun_append_singleton
    (helper : ChainHelper μ α) (ops : List (ChainOp μ α)) (op : ChainOp μ α) :
    listRun helper (ops ++ [op]) = listStep helper (listRun helper ops) op := by
  simp [listRun]

/-- Only a put raises the peak, and only to the new size. -/
theorem listOp_peak
    (helper : ChainHelper μ α) (c : ListChain α) (op : ChainOp μ α)
    (hle : c.chain.elems.length ≤ c.peak) :
    (c.listOp helper op).2.peak =
      max c.peak (c.listOp helper op).2.chain.elems.length := by
  have herase : ∀ found : Option α → Bool,
      (c.chain.elems.eraseP found).length ≤ c.peak := by
    intro found
    exact le_trans List.length_eraseP_le hle
  cases op with
  | chainPut data malloc =>
      cases malloc <;> simp [listOp, hle]
  | chainGet =>
      rcases c.chain.chainGet_cases with ⟨-, hget⟩ | ⟨data, rest, helems, hget⟩
      · simp [listOp, hget, hle]
      · have hrest : rest.length ≤ c.peak := by
          rw [helems, List.length_cons] at hle
          omega
        simp [listOp, hget, hrest]
  | _ =>
      simp [listOp, herase, hle, GenericChain.chainEmpty]

/-- The sizes after one more operation. -/
theorem sizesReached_append_singleton
    (helper : ChainHelper μ α) (ops : List (ChainOp μ α)) (op : ChainOp μ α) :
    sizesReached helper (ops ++ [op]) =
      insert ((listRun helper (ops ++ [op])).1.chain.elems.length : Int)
        (sizesReached helper ops) := by
  ext n
  simp only [sizesReached, List.prefix_concat_iff, Set.mem_ofPred_eq,
    Set.mem_insert_iff]
  constructor
  · rintro ⟨pre, rfl | hpre, hn⟩
    · exact Or.inl hn
    · exact Or.inr ⟨pre, hpre, hn⟩
  · rintro (hn | ⟨pre, hpre, hn⟩)
    · exact ⟨ops ++ [op], Or.inl rfl, hn⟩
    · exact ⟨pre, Or.inr hpre, hn⟩

/-- The peak is the largest size reached. -/
theorem listRun_peak
    (helper : ChainHelper μ α) (ops : List (ChainOp μ α)) :
    IsGreatest (sizesReached helper ops) ((listRun helper ops).1.peak : Int) := by
  induction ops using List.reverseRecOn with
  | nil =>
      have hsizes : sizesReached helper ([] : List (ChainOp μ α)) = {0} := by
        ext n
        simp [sizesReached, listRun, new]
      rw [hsizes]
      exact isGreatest_singleton
  | append_singleton ops op ih =>
      have hle : (listRun helper ops).1.chain.elems.length ≤
          (listRun helper ops).1.peak := by
        have := ih.2 ⟨ops, List.prefix_refl ops, rfl⟩
        omega
      have hpeak := listOp_peak helper (listRun helper ops).1 op hle
      rw [sizesReached_append_singleton, listRun_append_singleton]
      simp only [listStep]
      have hcast : ∀ m n : Nat, ((max m n : Nat) : Int) = max (n : Int) m := by
        omega
      rw [hpeak, hcast]
      exact ih.insert _

end ListChain

namespace LinkedChain

/-- The list a run of the code stands for. -/
theorem represents_run
    (helper : ChainHelper μ α) (base : Holder α)
    (ops : List (ChainOp μ α))
    (s : LinkedChain μ α) (results : List (ChainResult α))
    (hrun : run chainStep ((new base).attachHelper helper, []) ops =
      some (s, results)) :
    (∃ nodes, Represents helper s nodes (ListChain.listRun helper ops).1) ∧
      results = (ListChain.listRun helper ops).2 := by
  induction ops using List.reverseRecOn generalizing s results with
  | nil =>
      simp only [run_nil, Option.some.injEq, Prod.mk.injEq] at hrun
      obtain ⟨rfl, rfl⟩ := hrun
      exact ⟨⟨[], represents_new helper base⟩, rfl⟩
  | append_singleton ops op ih =>
      obtain ⟨⟨t, earlier⟩, hrun', hlast⟩ := run_prefix hrun
      obtain ⟨⟨nodes, hrep⟩, rfl⟩ := ih t earlier hrun'
      obtain ⟨u, hstep, hnil⟩ := run_cons_success hlast
      simp only [run_nil, Option.some.injEq] at hnil
      subst hnil
      obtain ⟨⟨result, s'⟩, hop, heq⟩ := Option.map_eq_some_iff.mp hstep
      obtain ⟨rfl, rfl⟩ := Prod.mk.inj heq
      have hok : ¬ t.Refused op := by
        rw [← hrep.performOp_eq_none_iff]
        simp [hop]
      obtain ⟨t', nodes', hop', hrep'⟩ := hrep.performOp op hok
      rw [hop, Option.some.injEq, Prod.mk.injEq] at hop'
      obtain ⟨rfl, rfl⟩ := hop'
      rw [ListChain.listRun_append_singleton]
      exact ⟨⟨nodes', hrep'⟩, rfl⟩

/-- Every run of a constructed chain with a helper is a run of the list. -/
theorem refinesList_run
    (helper : ChainHelper μ α) (base : Holder α)
    (ops : List (ChainOp μ α))
    (s : LinkedChain μ α) (results : List (ChainResult α))
    (hrun : run chainStep ((new base).attachHelper helper, []) ops =
      some (s, results)) :
    RefinesList helper ops s results := by
  obtain ⟨⟨nodes, hrep⟩, hresults⟩ :=
    represents_run helper base ops s results hrun
  constructor
  · exact ⟨nodes, hrep.elems, hrep.links, hrep.distinct, hrep.size⟩
  · rw [hrep.peak]
    exact ListChain.listRun_peak helper ops
  · exact hresults
  · exact hrep.performOp_eq_none_iff

/-- A helper that identifies a number by its value. -/
def numberHelper : ChainHelper Unit Nat :=
  { identifyChainElement := fun _ data ident =>
      if data.map Int.ofNat = some ident then 0 else -1
    doubleIdentifyChainElement := fun _ data ident1 ident2 =>
      if data.map Int.ofNat = some (ident1 + ident2) then 0 else -1 }

/-- Three puts, one of them in the block of a removed element. -/
def sampleOps : List (ChainOp Unit Nat) :=
  [.chainPut (some 5) (some (8, ⟨some 3, none, some 8⟩)),
    .chainPut (some 6) (some (16, ⟨none, none, none⟩)),
    .chainRemoveByIdent () 5,
    .chainPut (some 7) (some (8, ⟨none, some 16, none⟩)),
    .chainGetByIndex 1,
    .chainGetByDoubleIdent () 4 2,
    .chainGet,
    .chainEmpty]

theorem refinesList_sampleOps :
    ∃ s results,
      run chainStep ((new ⟨none, none, none⟩).attachHelper numberHelper, [])
          sampleOps = some (s, results) ∧
      results = [.int 0, .int 0, .pointer (some 5), .int 0, .pointer (some 7),
        .pointer (some 6), .pointer (some 6), .emptied [some 7]] ∧
      RefinesList numberHelper sampleOps s results :=
  ⟨_, _, rfl, rfl, refinesList_run numberHelper _ sampleOps _ _ rfl⟩

end LinkedChain

end Refinement

end Adav
end BrBox
