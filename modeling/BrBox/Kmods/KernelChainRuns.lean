import BrBox.Kmods.KernelChain

/-!
# What the chains of the interrupt driver keep

`Represents` ties the nodes, links and counters of a chain to its queue, and
each body of `KernelChain` has one lemma about it, for both locks.

* `Represents.perform`, `Represents.slPerform`: one call of the code is one
  call on the queue, with the lock free again.
* `perform_full`, `chainGetByIndex_beyond`: the calls that leave the queue.
* `chain_run_iff`: the runs of `chain.c` that stay a queue, and `sl_chain.c`
  beside them.
-/

namespace BrBox
namespace Kmods

open Adav (Holder baseChain increment decrement)
open LinkedHeap
open LabelledRun

universe u v w

section Refinement

variable {κ : Type w}
variable {α : Type u}
variable {β : Type v}

namespace KernelChain

/-- The nodes, links and counters of a chain stand for a queue. -/
structure Represents
    (s : KernelChain κ α)
    (nodes : List (Nat × Option α))
    (q : KernelQueue α) : Prop where
  elems : nodes.map Prod.snd = q.elems
  links : Linked s.heap.cells baseChain nodes
  distinct : (baseChain :: nodes.map Prod.fst).Nodup
  live : nodes.length ≤ s.heap.live
  size : s.chainSize = nodes.length
  peak : s.chainPeakSize = q.peak
  init : s.initFlag = if q.opened then 1 else 0
  closed : q.opened = false → q.elems = []

variable {k : LockOps κ}
variable {s : KernelChain κ α}
variable {nodes : List (Nat × Option α)}
variable {q : KernelQueue α}

/-- The lock is taken when it is free. -/
theorem acquire_eq
    (hfree : s.lock = k.free) :
    s.acquire k = some { s with lock := k.taken, lockCalls := s.lockCalls ++ [.lock] } := by
  simp [acquire, hfree, k.lock_free]

/-- Where a call has left the chain: its queue, its lock and the calls made on
the lock. -/
structure Settled
    (k : LockOps κ) (s t : KernelChain κ α) (q : KernelQueue α)
    (calls : List LockCall) : Prop where
  queue : ∃ nodes, Represents t nodes q
  free : t.lock = k.free
  lockCalls : t.lockCalls = s.lockCalls ++ calls

/-- The lock is no part of the queue. -/
theorem Represents.relock
    (hrep : Represents s nodes q) (l : κ) (calls : List LockCall) :
    Represents { s with lock := l, lockCalls := calls } nodes q :=
  { hrep with init := hrep.init }

/-- Taking the lock does not change the queue. -/
theorem Represents.taken
    (hrep : Represents s nodes q) (k : LockOps κ) :
    Represents { s with lock := k.taken, lockCalls := s.lockCalls ++ [.lock] } nodes q :=
  hrep.relock _ _

/-- Giving the lock back after the body of a call. -/
theorem Represents.giveBack
    {t : KernelChain κ α}
    (hrep : Represents t nodes q)
    (hlock : t.lock = k.taken)
    (hcalls : t.lockCalls = s.lockCalls ++ [.lock]) :
    Settled k s (t.giveBack k) q [.lock, .unlock] := by
  constructor
  · exact ⟨nodes, hrep.relock _ _⟩
  · simp [KernelChain.giveBack, hlock, k.unlock_taken]
  · simp [KernelChain.giveBack, hcalls]

theorem Represents.baseNext
    (hrep : Represents s nodes q) :
    s.baseNext = some (nodes.head?.map Prod.fst) := by
  obtain ⟨n, hn, hnext⟩ := hrep.links.base
  simp [KernelChain.baseNext, hn, hnext]

/-- The init flag is set while the queue takes data. -/
theorem Represents.initFlag_eq_zero_iff
    (hrep : Represents s nodes q) :
    s.initFlag = 0 ↔ q.opened = false := by
  rw [hrep.init]
  cases q.opened <;> simp

/-- The data pointer read through a node's address. -/
theorem Represents.dataAt
    (hrep : Represents s nodes q)
    {x : Nat × Option α} (hx : x ∈ nodes) :
    (s.heap.cells x.1).map Node.data = some x.2 := by
  obtain ⟨m, hm, hdata⟩ := hrep.links.node hx
  simp [hm, hdata]

/-- Searching the nodes is searching the queue. -/
theorem Represents.find
    (hrep : Represents s nodes q) (found : Option α → Bool) :
    q.elems.find? found = (nodes.find? fun x => found x.2).map Prod.snd := by
  rw [← hrep.elems, List.find?_map]
  rfl

/-- The init functions leave an empty queue, whatever was there. -/
theorem initWith_eq
    {n : Holder α} (hbase : s.heap.cells baseChain = some n) :
    ∃ t, s.initWith k = some (0, t) ∧
      Settled k s t { elems := [], peak := 0, opened := true } [] := by
  refine ⟨{ s with
    heap :=
      { s.heap with cells :=
          Function.update s.heap.cells baseChain (some { n with next := none }) }
    chainSize := 0
    chainPeakSize := 0
    initFlag := 1
    lock := k.free }, by simp [initWith, Heap.modify, hbase], ⟨[], ?_⟩, rfl, by simp⟩
  constructor
  · rfl
  · exact ⟨{ n with next := none }, by simp, rfl⟩
  · simp
  · simp
  · rfl
  · rfl
  · rfl
  · simp

/-- The unlink code takes one element out of the queue. -/
theorem Represents.unlinkHolder
    {pre post : List (Nat × Option α)} {a : Nat} {d : Option α}
    (hrep : Represents s (pre ++ (a, d) :: post) q) :
    ∃ h size, s.unlinkHolder a = some { s with heap := h, chainSize := size } ∧
      Represents { s with heap := h, chainSize := size } (pre ++ post)
        { q with elems := (pre ++ post).map Prod.snd } := by
  obtain ⟨h, hunlink, hlive, hlinks, -, -⟩ :=
    unlink_linked hrep.links hrep.distinct
  have hlength := hrep.live
  have hsize := hrep.size
  simp only [List.length_append, List.length_cons] at hlength hsize
  have hdec : decrement s.chainSize = some (s.chainSize - 1) := by
    unfold decrement
    rw [if_pos (by omega)]
  refine ⟨h, s.chainSize - 1, ?_, ?_⟩
  · simp [KernelChain.unlinkHolder, hunlink, hdec]
  · have hsub : List.Sublist (pre ++ post) (pre ++ (a, d) :: post) :=
      List.Sublist.append_left (List.sublist_cons_self _ _) pre
    constructor
    · rfl
    · exact hlinks
    · exact hrep.distinct.sublist ((hsub.map Prod.fst).cons_cons _)
    · rw [hlive]
      simp only [List.length_append]
      omega
    · simp only [List.length_append]
      omega
    · exact hrep.peak
    · exact hrep.init
    · intro hclosed
      have hnone := hrep.closed hclosed
      simp [← hrep.elems] at hnone

/-- Removing the first element. -/
theorem Represents.chainRemove
    {a : Nat} {d : Option α}
    (hrep : Represents s ((a, d) :: nodes) q) :
    ∃ h size, s.chainRemove = some (0, { s with heap := h, chainSize := size }) ∧
      Represents { s with heap := h, chainSize := size } nodes
        { q with elems := nodes.map Prod.snd } := by
  have hfirst : Represents s ([] ++ (a, d) :: nodes) q := hrep
  obtain ⟨h, size, hunlink, hrep'⟩ := hfirst.unlinkHolder
  refine ⟨h, size, ?_, hrep'⟩
  simp [KernelChain.chainRemove, hrep.baseNext, hunlink]

/-- An element is put at the end when there is memory for it. -/
theorem Represents.chainAdd
    (hrep : Represents s nodes q)
    (data : Option α) {a : Nat} (contents : Holder α)
    (hopen : q.opened = true)
    (hfree : s.heap.cells a = none)
    (hroom : q.elems.length < 2 ^ 31 - 1) :
    ∃ h size peak,
      s.chainAdd data (some (a, contents)) =
        some (0, { s with heap := h, chainSize := size, chainPeakSize := peak }) ∧
      Represents { s with heap := h, chainSize := size, chainPeakSize := peak }
        (nodes ++ [(a, data)])
        { q with
          elems := q.elems ++ [data]
          peak := max q.peak (q.elems.length + 1) } := by
  obtain ⟨h, hpush, hlive, hlinks, hdistinct⟩ :=
    pushBack_linked hrep.links hrep.distinct contents data hfree hrep.live
  have hlength : q.elems.length = nodes.length := by
    simp [← hrep.elems]
  have hinc : increment s.chainSize = some (s.chainSize + 1) := by
    unfold increment
    rw [if_pos (by rw [hrep.size]; omega)]
  refine ⟨h, s.chainSize + 1,
    if s.chainSize + 1 > s.chainPeakSize then s.chainSize + 1 else s.chainPeakSize,
    ?_, ?_⟩
  · simp [KernelChain.chainAdd, hpush, hinc]
  · constructor
    · simp [hrep.elems]
    · exact hlinks
    · exact hdistinct
    · have := hrep.live
      simp [hlive, this]
    · simp [hrep.size]
    · simp only [hrep.peak, hrep.size, hlength]
      split <;> omega
    · exact hrep.init
    · simp [hopen]

/-- A put. -/
theorem Represents.putWith
    (hrep : Represents s nodes q) (hfree : s.lock = k.free)
    (data : Option α) (kmalloc : Option (Nat × Holder α))
    (hcan : s.canAnswer (.put data kmalloc) = true)
    (hfits : q.opened = true → kmalloc ≠ none → q.elems.length < 2 ^ 31 - 1) :
    ∃ n t, s.putWith k data kmalloc = some (n, t) ∧
      (q.queueOp (.put data (kmalloc.map fun _ => ()))).1 = .int n ∧
      Settled k s t (q.queueOp (.put data (kmalloc.map fun _ => ()))).2
        [.lock, .unlock] := by
  unfold KernelChain.putWith
  rw [acquire_eq hfree, Option.bind_some]
  by_cases hopen : q.opened = true
  · have hflag : s.initFlag ≠ 0 := by
      rw [Ne, hrep.initFlag_eq_zero_iff]
      simp [hopen]
    simp only [if_neg hflag]
    cases kmalloc with
    | none =>
        exact ⟨-1, _, rfl, rfl, (hrep.relock _ _).giveBack rfl rfl⟩
    | some block =>
        obtain ⟨a, contents⟩ := block
        have hcell : s.heap.cells a = none := by simpa [canAnswer] using hcan
        obtain ⟨h, size, peak, hadd, hqueue⟩ :=
          (hrep.taken k).chainAdd data contents hopen hcell (hfits hopen (by simp))
        refine ⟨0, _, by rw [hadd, Option.map_some], ?_, ?_⟩
        · simp [KernelQueue.queueOp, hopen]
        · have hop : (q.queueOp (.put data ((some (a, contents)).map fun _ => ()))).2 =
              { q with
                elems := q.elems ++ [data]
                peak := max q.peak (q.elems.length + 1) } := by
            simp [KernelQueue.queueOp, hopen]
          rw [hop]
          exact hqueue.giveBack rfl rfl
  · have hclosed : q.opened = false := by simpa using hopen
    have hflag : s.initFlag = 0 := hrep.initFlag_eq_zero_iff.mpr hclosed
    have hop : q.queueOp (.put data (kmalloc.map fun _ => ())) = (.int (-1), q) := by
      cases kmalloc <;> simp [KernelQueue.queueOp, hclosed]
    simp only [if_pos hflag, hop]
    exact ⟨-1, _, rfl, rfl, (hrep.relock _ _).giveBack rfl rfl⟩

/-- A counter is read under the lock. -/
theorem Represents.readWith
    (hrep : Represents s nodes q) (hfree : s.lock = k.free)
    (counter : KernelChain κ α → Int) :
    ∃ t, s.readWith k counter =
        some (counter { s with lock := k.taken, lockCalls := s.lockCalls ++ [.lock] }, t) ∧
      Settled k s t q [.lock, .unlock] := by
  refine ⟨_, by simp [KernelChain.readWith, acquire_eq hfree]; rfl, ?_⟩
  exact (hrep.relock _ _).giveBack rfl rfl

/-- The oldest element. -/
theorem Represents.firstData
    (hrep : Represents s nodes q) :
    s.firstData = some q.elems.head?.join := by
  have hbase := hrep.baseNext
  unfold KernelChain.firstData
  by_cases hflag : s.initFlag = 0
  · rw [if_pos hflag, hrep.closed (hrep.initFlag_eq_zero_iff.mp hflag)]
    rfl
  · rw [if_neg hflag, hbase, Option.bind_some, ← hrep.elems]
    cases nodes with
    | nil =>
        rfl
    | cons x nodes =>
        simpa using hrep.dataAt List.mem_cons_self

/-- A get takes the oldest element. -/
theorem Represents.getWith
    (hrep : Represents s nodes q) (hfree : s.lock = k.free) :
    ∃ t, s.getWith k = some (q.elems.head?.join, t) ∧
      Settled k s t { q with elems := q.elems.tail } [.lock, .unlock] := by
  unfold KernelChain.getWith
  rw [acquire_eq hfree, Option.bind_some]
  have hrep' := hrep.taken k
  have hempty : q.elems = [] → { q with elems := q.elems.tail } = q := by
    intro hnil
    cases q
    simp only at hnil
    simp [hnil]
  by_cases hflag : s.initFlag = 0
  · have hnil := hrep.closed (hrep.initFlag_eq_zero_iff.mp hflag)
    rw [if_pos hflag, hempty hnil, hnil]
    exact ⟨_, rfl, hrep'.giveBack rfl rfl⟩
  · simp only [if_neg hflag, hrep'.baseNext, Option.bind_some]
    cases nodes with
    | nil =>
        have hnil : q.elems = [] := by simp [← hrep.elems]
        refine ⟨_, by simp [hnil]; rfl, ?_⟩
        rw [hempty hnil]
        exact hrep'.giveBack rfl rfl
    | cons x nodes =>
        obtain ⟨a, d⟩ := x
        obtain ⟨h, size, hremove, hqueue⟩ := hrep'.chainRemove
        obtain ⟨n, hn, hnd⟩ :=
          Option.map_eq_some_iff.mp (hrep.dataAt List.mem_cons_self)
        refine ⟨_, by simp [hremove, hn, ← hrep.elems, hnd]; rfl, ?_⟩
        rw [← hrep.elems]
        exact hqueue.giveBack rfl rfl

/-- Reading by ident. -/
theorem Represents.getBy
    (hrep : Represents s nodes q) (found : Option (Option α → Bool)) :
    ∃ data, s.getBy found = some data ∧ q.getBy found = .pointer data := by
  unfold KernelChain.getBy KernelQueue.getBy
  rw [hrep.baseNext, Option.bind_some]
  cases nodes with
  | nil =>
      have hnil : q.elems = [] := by simp [← hrep.elems]
      cases found <;> simp [hnil]
  | cons x nodes =>
      cases found with
      | none =>
          exact ⟨none, rfl, rfl⟩
      | some found =>
          have hfind := findFrom_linked found hrep.links hrep.live
          refine ⟨_, ?_, rfl⟩
          rw [hrep.find]
          simp only [List.head?_cons, Option.map_some] at hfind ⊢
          rw [hfind, Option.bind_some]
          cases hx : (x :: nodes).find? fun x => found x.2 with
          | none =>
              rfl
          | some y =>
              simpa using hrep.dataAt (List.mem_of_find?_eq_some hx)

/-- Removing by ident takes out the first element that is found. -/
theorem Represents.removeFound
    (hrep : Represents s nodes q) (hfree : s.lock = k.free)
    (found : Option α → Bool) (hopen : q.opened = true) :
    ∃ t, s.removeWith k (some found) = some ((q.elems.find? found).join, t) ∧
      Settled k s t { q with elems := q.elems.eraseP found } [.lock, .unlock] := by
  have hflag : s.initFlag ≠ 0 := by
    rw [Ne, hrep.initFlag_eq_zero_iff]
    simp [hopen]
  have hrep' := hrep.taken k
  have hfind := findFrom_linked found hrep.links hrep.live
  unfold KernelChain.removeWith
  rw [acquire_eq hfree, Option.bind_some, hrep'.baseNext, Option.bind_some, if_neg hflag]
  cases hx : nodes.find? fun x => found x.2 with
  | none =>
      have hnone : q.elems.find? found = none := by
        rw [hrep.find, hx]
        rfl
      have herase : q.elems.eraseP found = q.elems := by
        apply List.eraseP_of_forall_not
        simpa using List.find?_eq_none.mp hnone
      rw [hnone, herase]
      cases nodes with
      | nil =>
          exact ⟨_, rfl, hrep'.giveBack rfl rfl⟩
      | cons y nodes =>
          rw [hx] at hfind
          simp only [List.head?_cons, Option.map_some, Option.map_none] at hfind ⊢
          exact ⟨_, by rw [hfind]; rfl, hrep'.giveBack rfl rfl⟩
  | some y =>
      obtain ⟨a, d⟩ := y
      obtain ⟨pre, post, rfl, hfound, hpre, herase⟩ := Slots.split_find hx
      obtain ⟨h, size, hunlink, hqueue⟩ := hrep'.unlinkHolder
      obtain ⟨n, hn, hnd⟩ :=
        Option.map_eq_some_iff.mp (hrep.dataAt (x := (a, d)) (by simp))
      obtain ⟨b, hhead⟩ : ∃ b, (pre ++ (a, d) :: post).head?.map Prod.fst = some b := by
        cases pre with
        | nil =>
            exact ⟨a, rfl⟩
        | cons x pre =>
            exact ⟨x.1, rfl⟩
      have helems : q.elems.eraseP found = (pre ++ post).map Prod.snd := by
        rw [← hrep.elems, List.eraseP_map, ← herase]
        rfl
      rw [hx] at hfind
      rw [hhead] at hfind ⊢
      refine ⟨_, by simp [hrep.find, hx, hfind, hn, hunlink, hnd]; rfl, ?_⟩
      rw [helems]
      exact hqueue.giveBack rfl rfl

/-- A remove by ident, with or without a comparison. -/
theorem Represents.removeWith
    (hrep : Represents s nodes q) (hfree : s.lock = k.free)
    (found : Option (Option α → Bool)) :
    ∃ data t, s.removeWith k found = some (data, t) ∧
      (q.removeBy found).1 = .pointer data ∧
      Settled k s t (q.removeBy found).2 [.lock, .unlock] := by
  have hrep' := hrep.taken k
  by_cases hflag : s.initFlag = 0
  · have hnil := hrep.closed (hrep.initFlag_eq_zero_iff.mp hflag)
    have hop : q.removeBy found = (.pointer none, q) := by
      cases found with
      | none =>
          rfl
      | some found =>
          cases q
          simp only at hnil
          simp [KernelQueue.removeBy, hnil]
    rw [hop]
    refine ⟨none, _, ?_, rfl, hrep'.giveBack rfl rfl⟩
    simp only [KernelChain.removeWith, acquire_eq hfree, Option.bind_some,
      hrep'.baseNext, if_pos hflag]
  · have hopen : q.opened = true := by
      simpa using mt hrep.initFlag_eq_zero_iff.mpr hflag
    cases found with
    | none =>
        refine ⟨none, _, ?_, rfl, hrep'.giveBack rfl rfl⟩
        simp only [KernelChain.removeWith, acquire_eq hfree, Option.bind_some,
          hrep'.baseNext, if_neg hflag]
        cases nodes <;> rfl
    | some found =>
        obtain ⟨t, hremove, hsettled⟩ := hrep.removeFound hfree found hopen
        exact ⟨_, t, hremove, rfl, hsettled⟩

/-- The loop of a release frees and unlinks every element. -/
theorem Represents.removeAll
    {fuel : Nat}
    (hrep : Represents s nodes q) (hfuel : nodes.length ≤ fuel) :
    ∃ h size,
      KernelChain.removeAll fuel s =
        some (q.elems, { s with heap := h, chainSize := size }) ∧
      Represents { s with heap := h, chainSize := size } [] { q with elems := [] } := by
  induction nodes generalizing s q fuel with
  | nil =>
      have hnil : q.elems = [] := by simp [← hrep.elems]
      refine ⟨s.heap, s.chainSize, ?_, { hrep with elems := rfl, closed := fun _ => rfl }⟩
      cases fuel <;> simp [KernelChain.removeAll, hrep.baseNext, hnil]
  | cons x nodes ih =>
      obtain ⟨a, d⟩ := x
      obtain ⟨fuel, rfl⟩ : ∃ n, fuel = n + 1 := ⟨fuel - 1, by simp at hfuel; omega⟩
      obtain ⟨n, hn, hnd⟩ :=
        Option.map_eq_some_iff.mp (hrep.dataAt List.mem_cons_self)
      obtain ⟨h₁, size₁, hremove, hrep₁⟩ := hrep.chainRemove
      have hfuel' : nodes.length ≤ fuel := by simpa using hfuel
      obtain ⟨h₂, size₂, hloop, hrep₂⟩ := ih hrep₁ hfuel'
      refine ⟨h₂, size₂, ?_, hrep₂⟩
      simp [KernelChain.removeAll, hrep.baseNext, hn, hremove, hloop, hnd, ← hrep.elems]

/-- A release. -/
theorem Represents.releaseWith
    (hrep : Represents s nodes q) (hfree : s.lock = k.free) :
    ∃ t, s.releaseWith k = some (q.elems, t) ∧
      Settled k s t { q with elems := [], opened := false } [.lock, .unlock] := by
  have hrep' := hrep.taken k
  obtain ⟨h, size, hloop, hqueue⟩ := hrep'.removeAll hrep.live
  refine ⟨_, by simp [KernelChain.releaseWith, acquire_eq hfree, hloop]; rfl, ?_⟩
  apply Represents.giveBack
  · exact { hqueue with init := rfl, closed := fun _ => rfl }
  · rfl
  · rfl

end KernelChain

namespace KernelQueue

/-- A put does not bring the queue to more elements than an `int` counts. -/
def Fits (q : KernelQueue α) : ChainCall β α → Prop
  | .put _ (some _) => q.opened = true → q.elems.length < 2 ^ 31 - 1
  | _ => True

/-- The index is refused only where there is no data, and one that is not
refused is not beyond the size of a queue that has elements. -/
def IndexOk (chainSizeFn : Nat) (q : KernelQueue α) : ChainCall β α → Prop
  | .getByIndex index =>
      if index ≥ chainSizeFn then
        q.elems[index]?.join = none
      else
        index ≤ q.elems.length ∨ q.elems = []
  | _ => True

theorem fits_erase
    (q : KernelQueue α) (call : ChainCall β α) :
    q.Fits call.erase ↔ q.Fits call := by
  cases call with
  | put data kmalloc =>
      cases kmalloc <;> rfl
  | _ =>
      rfl

end KernelQueue

namespace ChainCall

@[simp] theorem locks_erase
    (call : ChainCall β α) :
    call.erase.locks = call.locks := by
  cases call <;> rfl

@[simp] theorem slLocks_erase
    (call : ChainCall β α) :
    call.erase.slLocks = call.slLocks := by
  cases call <;> rfl

end ChainCall

namespace KernelChain

variable {k : LockOps κ}
variable {nodes : List (Nat × Option α)}
variable {q : KernelQueue α}

@[simp] theorem slOffers_erase
    (call : ChainCall β α) :
    slOffers call.erase = slOffers call := by
  cases call <;> rfl

/-- The calls on the lock that one operation makes. -/
def lockPair (locks : Bool) : List LockCall :=
  if locks then [.lock, .unlock] else []

/-- An operation that changes nothing. -/
theorem Represents.settled
    {s : KernelChain κ α}
    (hrep : Represents s nodes q) (hfree : s.lock = k.free) :
    Settled k s s q [] :=
  ⟨⟨nodes, hrep⟩, hfree, by simp⟩

/-- An index up to the size reads the element at its position, unless the
comparison refuses it. -/
theorem Represents.chainGetByIndex_eq
    {s : KernelChain Int α} {chainSizeFn index : Nat}
    (hrep : Represents s nodes q)
    (hle : index ≤ q.elems.length) :
    s.chainGetByIndex chainSizeFn index =
      some (if index ≥ chainSizeFn then none else q.elems[index]?.join) := by
  have helems := hrep.elems
  unfold KernelChain.chainGetByIndex
  rw [hrep.baseNext, Option.bind_some]
  cases hnodes : nodes with
  | nil =>
      simp [← helems, hnodes]
  | cons x rest =>
      have hhead : nodes.head?.map Prod.fst = some x.1 := by simp [hnodes]
      have hle' : index ≤ nodes.length := by simpa [← helems] using hle
      have hwalk := advance_linked hrep.links hle'
      rw [← hnodes, hhead]
      rw [hhead] at hwalk
      by_cases hfn : index ≥ chainSizeFn
      · simp [hfn]
      · simp only [if_neg hfn, hwalk, Option.bind_some, ← helems, List.getElem?_map]
        cases hx : nodes[index]? with
        | none =>
            rfl
        | some y =>
            simpa using hrep.dataAt (List.mem_of_getElem? hx)

/-- An index that is allowed reads the element at its position. -/
theorem Represents.chainGetByIndex
    {s : KernelChain Int α} {chainSizeFn index : Nat}
    (hrep : Represents s nodes q)
    (hok : q.IndexOk chainSizeFn (.getByIndex index : ChainCall β α)) :
    s.chainGetByIndex chainSizeFn index = some q.elems[index]?.join := by
  simp only [KernelQueue.IndexOk] at hok
  by_cases hnil : q.elems = []
  · have hnodes : nodes = [] := by simpa [hnil] using hrep.elems
    simp [KernelChain.chainGetByIndex, hrep.baseNext, hnodes, hnil]
  · by_cases hle : index ≤ q.elems.length
    · rw [hrep.chainGetByIndex_eq hle]
      by_cases hfn : index ≥ chainSizeFn
      · rw [if_pos hfn] at hok ⊢
        rw [hok]
      · rw [if_neg hfn]
    · have hfn : index ≥ chainSizeFn := by
        by_contra hfn
        rw [if_neg hfn] at hok
        exact hok.elim hle hnil
      obtain ⟨x, rest, rfl⟩ : ∃ x rest, nodes = x :: rest := by
        cases nodes with
        | nil => exact absurd hrep.elems.symm hnil
        | cons x rest => exact ⟨x, rest, rfl⟩
      rw [if_pos hfn] at hok
      simp [KernelChain.chainGetByIndex, hrep.baseNext, hfn, hok]

/-- Any other index is answered wrongly, or the walk leaves the chain. -/
theorem Represents.chainGetByIndex_beyond
    {s : KernelChain Int α} {chainSizeFn index : Nat}
    (hrep : Represents s nodes q)
    (hbad : ¬ q.IndexOk chainSizeFn (.getByIndex index : ChainCall β α)) :
    s.chainGetByIndex chainSizeFn index ≠ some q.elems[index]?.join := by
  have helems := hrep.elems
  simp only [KernelQueue.IndexOk] at hbad
  unfold KernelChain.chainGetByIndex
  rw [hrep.baseNext, Option.bind_some]
  cases hnodes : nodes with
  | nil =>
      simp [← helems, hnodes] at hbad
  | cons x rest =>
      have hhead : nodes.head?.map Prod.fst = some x.1 := by simp [hnodes]
      rw [← hnodes, hhead]
      by_cases hfn : index ≥ chainSizeFn
      · rw [if_pos hfn] at hbad
        simp only [if_pos hfn, ne_eq, Option.some.injEq]
        exact fun heq => hbad heq.symm
      · rw [if_neg hfn, not_or, not_le] at hbad
        have hlt : nodes.length < index := by simpa [← helems] using hbad.1
        have hwalk := advance_linked_beyond hrep.links hlt
        rw [hhead] at hwalk
        simp [hfn, hwalk]

/-- A put into a chain that the counter cannot count further. -/
theorem Represents.putWith_full
    {s : KernelChain κ α}
    (hrep : Represents s nodes q) (hfree : s.lock = k.free)
    (data : Option α) (block : Nat × Holder α)
    (hopen : q.opened = true) (hfull : 2 ^ 31 - 1 ≤ q.elems.length) :
    s.putWith k data (some block) = none := by
  have hflag : s.initFlag ≠ 0 := by
    rw [Ne, hrep.initFlag_eq_zero_iff]
    simp [hopen]
  have hlength : q.elems.length = nodes.length := by
    simp [← hrep.elems]
  have hinc : increment s.chainSize = none := by
    unfold increment
    rw [if_neg (by rw [hrep.size]; omega)]
  simp [KernelChain.putWith, acquire_eq hfree, hflag, KernelChain.chainAdd, hinc]

/-- One call on `chain.c` is one call on the queue. -/
theorem Represents.perform
    {s : KernelChain Int α} {chainSizeFn : Nat}
    (hrep : Represents s nodes q) (hfree : s.lock = sema.free)
    (call : ChainCall (Nat × Holder α) α)
    (hcan : s.canAnswer call = true)
    (hfits : q.Fits call) (hindex : q.IndexOk chainSizeFn call) :
    ∃ t, s.perform chainSizeFn call = some ((q.queueOp call.erase).1, t) ∧
      Settled sema s t (q.queueOp call.erase).2 (lockPair call.locks) := by
  cases call with
  | init =>
      obtain ⟨n, hn, -⟩ := hrep.links.base
      obtain ⟨t, hinit, hsettled⟩ := initWith_eq (k := sema) hn
      exact ⟨t, by simp [KernelChain.perform, chainInit, hinit]; rfl, hsettled⟩
  | release =>
      obtain ⟨t, hrelease, hsettled⟩ := hrep.releaseWith hfree
      exact ⟨t, by simp [KernelChain.perform, chainRelease, hrelease]; rfl, hsettled⟩
  | put data kmalloc =>
      obtain ⟨n, t, hput, hop, hsettled⟩ := hrep.putWith hfree data kmalloc hcan (by
        intro hopen hsome
        obtain ⟨block, rfl⟩ := Option.ne_none_iff_exists'.mp hsome
        exact hfits hopen)
      refine ⟨t, ?_, hsettled⟩
      simp only [KernelChain.perform, chainPut, hput, Option.map_some, ChainCall.erase, hop]
  | get =>
      obtain ⟨t, hget, hsettled⟩ := hrep.getWith hfree
      exact ⟨t, by simp [KernelChain.perform, chainGet, hget]; rfl, hsettled⟩
  | getTop =>
      refine ⟨s, ?_, hrep.settled hfree⟩
      simp [KernelChain.perform, chainGetTop, hrep.firstData]
      rfl
  | size =>
      obtain ⟨t, hread, hsettled⟩ := hrep.readWith hfree KernelChain.chainSize
      refine ⟨t, ?_, hsettled⟩
      simp [KernelChain.perform, chainSizeOf, hread, hrep.size, ChainCall.erase,
        KernelQueue.queueOp, ← hrep.elems]
  | peakSize =>
      obtain ⟨t, hread, hsettled⟩ := hrep.readWith hfree KernelChain.chainPeakSize
      refine ⟨t, ?_, hsettled⟩
      simp [KernelChain.perform, chainPeakSizeOf, hread, hrep.peak, ChainCall.erase,
        KernelQueue.queueOp]
  | removeByIdent ident func =>
      obtain ⟨data, t, hremove, hop, hsettled⟩ :=
        hrep.removeWith hfree (sameIdent func ident)
      refine ⟨t, ?_, hsettled⟩
      simp [KernelChain.perform, chainRemoveByIdent, hremove, ChainCall.erase,
        KernelQueue.queueOp, hop]
  | removeByDoubleIdent ident1 ident2 func =>
      obtain ⟨data, t, hremove, hop, hsettled⟩ :=
        hrep.removeWith hfree (sameDoubleIdent func ident1 ident2)
      refine ⟨t, ?_, hsettled⟩
      simp [KernelChain.perform, chainRemoveByDoubleIdent, hremove, ChainCall.erase,
        KernelQueue.queueOp, hop]
  | removeByTripleIdent ident1 ident2 ident3 func =>
      obtain ⟨data, t, hremove, hop, hsettled⟩ :=
        hrep.removeWith hfree (sameTripleIdent func ident1 ident2 ident3)
      refine ⟨t, ?_, hsettled⟩
      simp [KernelChain.perform, chainRemoveByTripleIdent, hremove, ChainCall.erase,
        KernelQueue.queueOp, hop]
  | getByIdent ident func =>
      obtain ⟨data, hget, hop⟩ := hrep.getBy (sameIdent func ident)
      refine ⟨s, ?_, hrep.settled hfree⟩
      simp [KernelChain.perform, chainGetByIdent, hget, ChainCall.erase,
        KernelQueue.queueOp, hop]
  | getByDoubleIdent ident1 ident2 func =>
      obtain ⟨data, hget, hop⟩ := hrep.getBy (sameDoubleIdent func ident1 ident2)
      refine ⟨s, ?_, hrep.settled hfree⟩
      simp [KernelChain.perform, chainGetByDoubleIdent, hget, ChainCall.erase,
        KernelQueue.queueOp, hop]
  | getByIndex index =>
      refine ⟨s, ?_, hrep.settled hfree⟩
      simp [KernelChain.perform, hrep.chainGetByIndex hindex, ChainCall.erase,
        KernelQueue.queueOp]

/-- One call on `sl_chain.c` is one call on the queue. -/
theorem Represents.slPerform
    {s : KernelChain Bool α}
    (hrep : Represents s nodes q) (hfree : s.lock = spinlock.free)
    (call : ChainCall (Nat × Holder α) α)
    (hcan : s.canAnswer call = true) (hoffers : slOffers call = true)
    (hfits : q.Fits call) :
    ∃ t, s.slPerform call = some ((q.queueOp call.erase).1, t) ∧
      Settled spinlock s t (q.queueOp call.erase).2 (lockPair call.slLocks) := by
  cases call with
  | init =>
      obtain ⟨n, hn, -⟩ := hrep.links.base
      obtain ⟨t, hinit, hsettled⟩ := initWith_eq (k := spinlock) hn
      exact ⟨t, by simp [KernelChain.slPerform, slChainInit, hinit]; rfl, hsettled⟩
  | release =>
      obtain ⟨t, hrelease, hsettled⟩ := hrep.releaseWith hfree
      exact ⟨t, by simp [KernelChain.slPerform, slChainRelease, hrelease]; rfl, hsettled⟩
  | put data kmalloc =>
      obtain ⟨n, t, hput, hop, hsettled⟩ := hrep.putWith hfree data kmalloc hcan (by
        intro hopen hsome
        obtain ⟨block, rfl⟩ := Option.ne_none_iff_exists'.mp hsome
        exact hfits hopen)
      refine ⟨t, ?_, hsettled⟩
      simp only [KernelChain.slPerform, slChainPut, hput, Option.map_some,
        ChainCall.erase, hop]
  | get =>
      obtain ⟨t, hget, hsettled⟩ := hrep.getWith hfree
      exact ⟨t, by simp [KernelChain.slPerform, slChainGet, hget]; rfl, hsettled⟩
  | getTop =>
      have hrep' := hrep.taken spinlock
      refine ⟨_, ?_, hrep'.giveBack rfl rfl⟩
      simp [KernelChain.slPerform, slChainGetTop, acquire_eq hfree, hrep'.firstData]
      rfl
  | size =>
      obtain ⟨t, hread, hsettled⟩ := hrep.readWith hfree KernelChain.chainSize
      refine ⟨t, ?_, hsettled⟩
      simp [KernelChain.slPerform, slChainSize, hread, hrep.size, ChainCall.erase,
        KernelQueue.queueOp, ← hrep.elems]
  | peakSize =>
      obtain ⟨t, hread, hsettled⟩ := hrep.readWith hfree KernelChain.chainPeakSize
      refine ⟨t, ?_, hsettled⟩
      simp [KernelChain.slPerform, slChainPeakSize, hread, hrep.peak, ChainCall.erase,
        KernelQueue.queueOp]
  | removeByIdent ident func =>
      obtain ⟨data, t, hremove, hop, hsettled⟩ :=
        hrep.removeWith hfree (sameIdent func ident)
      refine ⟨t, ?_, hsettled⟩
      simp [KernelChain.slPerform, slChainRemoveByIdent, hremove, ChainCall.erase,
        KernelQueue.queueOp, hop]
  | getByDoubleIdent ident1 ident2 func =>
      obtain ⟨data, hget, hop⟩ := hrep.getBy (sameDoubleIdent func ident1 ident2)
      refine ⟨s, ?_, hrep.settled hfree⟩
      simp [KernelChain.slPerform, slChainGetByDoubleIdent, hget, ChainCall.erase,
        KernelQueue.queueOp, hop]
  | removeByDoubleIdent _ _ _ =>
      cases hoffers
  | removeByTripleIdent _ _ _ _ =>
      cases hoffers
  | getByIdent _ _ =>
      cases hoffers
  | getByIndex _ =>
      cases hoffers

end KernelChain

namespace KernelQueue

@[simp] theorem queueRun_append_singleton
    (calls : List (ChainCall Unit α)) (call : ChainCall Unit α) :
    queueRun (calls ++ [call]) =
      (((queueRun calls).1.queueOp call).2,
        (queueRun calls).2 ++ [((queueRun calls).1.queueOp call).1]) := by
  simp [queueRun]

/-- Between two inits only a put raises the peak, and only to the new size. -/
theorem queueOp_peak
    (q : KernelQueue α) (call : ChainCall Unit α)
    (hinit : call ≠ .init) (hle : q.elems.length ≤ q.peak) :
    (q.queueOp call).2.peak = max q.peak (q.queueOp call).2.elems.length := by
  have hremove : ∀ found : Option (Option α → Bool),
      (q.removeBy found).2.peak = max q.peak (q.removeBy found).2.elems.length := by
    intro found
    cases found with
    | none =>
        simp [removeBy, hle]
    | some found =>
        have herase := le_trans (List.length_eraseP_le (l := q.elems) (p := found)) hle
        simp [removeBy, herase]
  cases call with
  | init =>
      exact absurd rfl hinit
  | put data kmalloc =>
      cases kmalloc with
      | none =>
          simp [queueOp, hle]
      | some _ =>
          by_cases hopen : q.opened = true <;> simp [queueOp, hopen, hle]
  | get =>
      simp only [queueOp, List.length_tail]
      omega
  | removeByIdent ident func => exact hremove _
  | removeByDoubleIdent ident1 ident2 func => exact hremove _
  | removeByTripleIdent ident1 ident2 ident3 func => exact hremove _
  | _ =>
      simp [queueOp, hle]

/-- After an init there has been no size but zero. -/
theorem sizesSinceInit_init
    (calls : List (ChainCall Unit α)) :
    sizesSinceInit (calls ++ [.init]) = {0} := by
  ext n
  simp only [sizesSinceInit, Set.mem_ofPred_eq, Set.mem_singleton_iff]
  constructor
  · rintro ⟨pre, post, hsplit, -, hpost, hn⟩
    rcases List.eq_nil_or_concat' post with rfl | ⟨post, call, rfl⟩
    · rw [List.append_nil] at hsplit
      subst hsplit
      simpa [queueOp] using hn
    · rw [← List.append_assoc] at hsplit
      obtain ⟨-, hcall⟩ := List.append_inj' hsplit rfl
      obtain rfl : ChainCall.init = call := by simpa using hcall
      simp at hpost
  · rintro rfl
    exact ⟨calls ++ [ChainCall.init], [], by simp, by simp, by simp, by simp [queueOp]⟩

/-- Any other call adds the size it leaves. -/
theorem sizesSinceInit_append
    (calls : List (ChainCall Unit α)) (call : ChainCall Unit α)
    (hcall : call ≠ .init) (hstarted : .init ∈ calls) :
    sizesSinceInit (calls ++ [call]) =
      insert ((queueRun (calls ++ [call])).1.elems.length : Int)
        (sizesSinceInit calls) := by
  ext n
  simp only [sizesSinceInit, Set.mem_ofPred_eq, Set.mem_insert_iff]
  constructor
  · rintro ⟨pre, post, hsplit, hpre, hpost, hn⟩
    rcases List.eq_nil_or_concat' post with rfl | ⟨post, last, rfl⟩
    · rw [List.append_nil] at hsplit
      exact Or.inl (hsplit ▸ hn)
    · rw [← List.append_assoc] at hsplit
      obtain ⟨hcalls, -⟩ := List.append_inj' hsplit rfl
      refine Or.inr ⟨pre, post, hcalls, hpre, ?_, hn⟩
      intro hmem
      exact hpost (by simp [hmem])
  · rintro (hn | ⟨pre, post, rfl, hpre, hpost, hn⟩)
    · exact ⟨calls ++ [call], [], by simp, by simp [hstarted], by simp, hn⟩
    · refine ⟨pre, post ++ [call], by simp, hpre, ?_, hn⟩
      simp only [List.mem_append, List.mem_singleton, not_or]
      exact ⟨hpost, fun heq => hcall heq.symm⟩

/-- The peak is the largest size since the last init. -/
theorem queueRun_peak
    (calls : List (ChainCall Unit α)) (hstarted : .init ∈ calls) :
    IsGreatest (sizesSinceInit calls) ((queueRun calls).1.peak : Int) := by
  induction calls using List.reverseRecOn with
  | nil =>
      simp at hstarted
  | append_singleton calls call ih =>
      by_cases hcall : call = .init
      · subst hcall
        rw [sizesSinceInit_init]
        simp [queueOp]
      · have hstarted' : .init ∈ calls := by
          simp only [List.mem_append, List.mem_singleton] at hstarted
          rcases hstarted with h | h
          · exact h
          · exact absurd h.symm hcall
        have hgreatest := ih hstarted'
        have hle : (queueRun calls).1.elems.length ≤ (queueRun calls).1.peak := by
          have := hgreatest.2 ⟨calls, [], by simp, hstarted', by simp, rfl⟩
          omega
        rw [sizesSinceInit_append calls call hcall hstarted', queueRun_append_singleton]
        simp only
        rw [queueOp_peak _ call hcall hle]
        have hcast : ∀ m n : Nat, ((max m n : Nat) : Int) = max (n : Int) m := by
          omega
        rw [hcast]
        exact hgreatest.insert _

end KernelQueue

open KernelChain (Represents Settled)

/-- The calls on the lock that a sequence of operations makes. -/
def lockTrace
    (locks : ChainCall Unit α → Bool) (calls : List (ChainCall Unit α)) : List LockCall :=
  calls.flatMap fun call => KernelChain.lockPair (locks call)

/-- A chain is the queue that the calls on it have made: its links enumerate the
elements in order, its counters count them, every result so far was the queue's,
and each operation that took the lock gave it back once. -/
structure IsQueue
    (k : LockOps κ) (locks : ChainCall Unit α → Bool)
    (t : ChainRun κ α) (s : KernelChain κ α) : Prop where
  nodes : ∃ nodes : List (Nat × Option α),
    nodes.map Prod.snd = t.queue.elems ∧
    Linked s.heap.cells baseChain nodes ∧
    (baseChain :: nodes.map Prod.fst).Nodup ∧
    s.chainSize = nodes.length
  peak : IsGreatest (sizesSinceInit t.calls) s.chainPeakSize
  results : t.results = (KernelQueue.queueRun t.calls).2
  free : s.lock = k.free
  lockCalls : s.lockCalls = lockTrace locks t.calls
  failedPut : ∀ data,
    s.putWith k data none =
      some (-1, { s with lockCalls := s.lockCalls ++ [.lock, .unlock] })
  refused : t.queue.opened = false →
    s.chainSize = 0 ∧
    s.getWith k = some (none, { s with lockCalls := s.lockCalls ++ [.lock, .unlock] }) ∧
    ∀ data kmalloc, s.putWith k data kmalloc =
      some (-1, { s with lockCalls := s.lockCalls ++ [.lock, .unlock] })

/-- The code has not failed and its chain is the queue. -/
def RefinesQueue
    (k : LockOps κ) (locks : ChainCall Unit α → Bool) (t : ChainRun κ α) : Prop :=
  ∃ s, t.code = some s ∧ IsQueue k locks t s

/-- What every allowed call keeps. -/
structure Keeps
    (k : LockOps κ) (locks : ChainCall Unit α → Bool)
    (t : ChainRun κ α) (s : KernelChain κ α) : Prop where
  code : t.code = some s
  queue : ∃ nodes, Represents s nodes t.queue
  results : t.results = (KernelQueue.queueRun t.calls).2
  free : s.lock = k.free
  lockCalls : s.lockCalls = lockTrace locks t.calls
  started : .init ∈ t.calls

section Runs

variable {k : LockOps κ}
variable {locks : ChainCall Unit α → Bool}
variable {t : ChainRun κ α}
variable {s : KernelChain κ α}

/-- A put without memory gives the lock back and changes nothing else. -/
theorem Keeps.failedPut
    (hkeeps : Keeps k locks t s) (data : Option α) :
    s.putWith k data none =
      some (-1, { s with lockCalls := s.lockCalls ++ [.lock, .unlock] }) := by
  by_cases hflag : s.initFlag = 0 <;>
    simp [KernelChain.putWith, KernelChain.acquire_eq hkeeps.free, hflag,
      KernelChain.chainAdd, KernelChain.giveBack, k.unlock_taken, hkeeps.free]

/-- A released chain is empty and refuses every put and get. -/
theorem Keeps.refused
    (hkeeps : Keeps k locks t s) (hclosed : t.queue.opened = false) :
    s.chainSize = 0 ∧
    s.getWith k = some (none, { s with lockCalls := s.lockCalls ++ [.lock, .unlock] }) ∧
    ∀ data kmalloc, s.putWith k data kmalloc =
      some (-1, { s with lockCalls := s.lockCalls ++ [.lock, .unlock] }) := by
  obtain ⟨nodes, hrep⟩ := hkeeps.queue
  have hflag : s.initFlag = 0 := hrep.initFlag_eq_zero_iff.mpr hclosed
  have hnil : nodes = [] := by
    simpa [hrep.closed hclosed] using hrep.elems
  refine ⟨?_, ?_, ?_⟩
  · simp [hrep.size, hnil]
  · simp [KernelChain.getWith, KernelChain.acquire_eq hkeeps.free, hflag,
      KernelChain.giveBack, k.unlock_taken, hkeeps.free]
  · intro data kmalloc
    simp [KernelChain.putWith, KernelChain.acquire_eq hkeeps.free, hflag,
      KernelChain.giveBack, k.unlock_taken, hkeeps.free]

/-- What is kept is enough for the chain to be the queue. -/
theorem Keeps.isQueue
    (hkeeps : Keeps k locks t s) :
    IsQueue k locks t s := by
  obtain ⟨nodes, hrep⟩ := hkeeps.queue
  constructor
  · exact ⟨nodes, hrep.elems, hrep.links, hrep.distinct, hrep.size⟩
  · rw [hrep.peak]
    exact KernelQueue.queueRun_peak t.calls hkeeps.started
  · exact hkeeps.results
  · exact hkeeps.free
  · exact hkeeps.lockCalls
  · exact hkeeps.failedPut
  · exact hkeeps.refused

/-- A call that does what the queue does keeps it. -/
theorem Keeps.after
    {s' : KernelChain κ α} {call : ChainCall Unit α}
    (hkeeps : Keeps k locks t s)
    (hsettled : Settled k s s' (t.queue.queueOp call).2 (KernelChain.lockPair (locks call))) :
    Keeps k locks (t.after call (some ((t.queue.queueOp call).1, s'))) s' := by
  constructor
  · rfl
  · obtain ⟨nodes, hrep⟩ := hsettled.queue
    refine ⟨nodes, ?_⟩
    simpa [ChainRun.after, ChainRun.queue] using hrep
  · simp [ChainRun.after, ChainRun.queue, hkeeps.results]
  · exact hsettled.free
  · simp [ChainRun.after, hsettled.lockCalls, hkeeps.lockCalls, lockTrace]
  · simp [ChainRun.after, hkeeps.started]

/-- An object after its first init. -/
theorem keeps_start
    (k : LockOps κ) (locks : ChainCall Unit α → Bool)
    (hlocks : locks .init = false)
    (mem : KernelChain κ α) (base : Holder α) :
    ∃ s, Keeps k locks (ChainRun.start k mem base) s := by
  obtain ⟨s, hinit, hsettled⟩ := KernelChain.initWith_eq (k := k)
    (s := { mem with
      heap :=
        { cells := fun a => if a = baseChain then some base else none
          live := 0 }
      lockCalls := [] }) (n := base) (by simp)
  refine ⟨s, ?_⟩
  constructor
  · simp [ChainRun.start, hinit]
  · exact hsettled.queue
  · rfl
  · exact hsettled.free
  · rw [hsettled.lockCalls]
    simp [ChainRun.start, lockTrace, hlocks, KernelChain.lockPair]
  · simp [ChainRun.start]

end Runs

/-- The calls that keep `chain.c` to its queue. -/
def Allowed
    (chainSizeFn : Nat) (t : ChainRun Int α) (call : ChainCall (Nat × Holder α) α) : Prop :=
  t.queue.Fits call ∧ t.queue.IndexOk chainSizeFn call

/-- An allowed call keeps the queue. -/
theorem Keeps.chainStep
    {chainSizeFn : Nat} {t t' : ChainRun Int α} {s : KernelChain Int α}
    {call : ChainCall (Nat × Holder α) α}
    (hkeeps : Keeps sema ChainCall.locks t s)
    (hallowed : Allowed chainSizeFn t call)
    (hstep : t.chainStep chainSizeFn call = some t') :
    ∃ s', Keeps sema ChainCall.locks t' s' := by
  simp only [ChainRun.chainStep, hkeeps.code] at hstep
  split at hstep
  · rename_i hcan
    obtain ⟨nodes, hrep⟩ := hkeeps.queue
    obtain ⟨s', hperform, hsettled⟩ :=
      hrep.perform hkeeps.free call hcan hallowed.1 hallowed.2
    obtain rfl := Option.some.inj hstep
    refine ⟨s', ?_⟩
    rw [hperform]
    exact hkeeps.after (by simpa using hsettled)
  · cases hstep

/-- A call after which the chain is still the queue was allowed. -/
theorem Keeps.allowed
    {chainSizeFn : Nat} {t t' : ChainRun Int α} {s : KernelChain Int α}
    {call : ChainCall (Nat × Holder α) α}
    (hkeeps : Keeps sema ChainCall.locks t s)
    (hstep : t.chainStep chainSizeFn call = some t')
    (hqueue : RefinesQueue sema ChainCall.locks t') :
    Allowed chainSizeFn t call := by
  obtain ⟨nodes, hrep⟩ := hkeeps.queue
  obtain ⟨s', hcode, hisQueue⟩ := hqueue
  have hresults := hisQueue.results
  simp only [ChainRun.chainStep, hkeeps.code] at hstep
  split at hstep
  · obtain rfl := Option.some.inj hstep
    cases call with
    | put data kmalloc =>
        refine ⟨?_, trivial⟩
        cases kmalloc with
        | none =>
            trivial
        | some block =>
            intro hopen
            by_contra hfull
            have hnone := hrep.putWith_full hkeeps.free data block hopen (by omega)
            simp [KernelChain.perform, KernelChain.chainPut, hnone, ChainRun.after] at hcode
    | getByIndex index =>
        refine ⟨trivial, ?_⟩
        by_contra hbad
        have hwrong := hrep.chainGetByIndex_beyond hbad
        cases hget : s.chainGetByIndex chainSizeFn index with
        | none =>
            simp [KernelChain.perform, hget, ChainRun.after] at hcode
        | some data =>
            simp only [KernelChain.perform, hget, Option.map_some, ChainRun.after,
              KernelQueue.queueRun_append_singleton, hkeeps.results,
              List.append_cancel_left_eq, List.cons.injEq, and_true] at hresults
            apply hwrong
            rw [hget]
            simpa [ChainCall.erase, KernelQueue.queueOp, ChainRun.queue] using hresults
    | _ =>
        exact ⟨trivial, trivial⟩
  · cases hstep

/-- The two files after the same calls: both chains are the queue of these
calls, or both have failed in the last of them. -/
structure Beside (u : ChainRun Int α) (u' : ChainRun Bool α) : Prop where
  calls : u'.calls = u.calls
  results : u'.results = u.results
  code :
    (∃ s s', Keeps sema ChainCall.locks u s ∧ Keeps spinlock ChainCall.slLocks u' s') ∨
    (u.code = none ∧ u'.code = none)

/-- One call that both files offer. -/
theorem Beside.step
    {chainSizeFn : Nat} {u v : ChainRun Int α} {u' v' : ChainRun Bool α}
    {call call' : ChainCall (Nat × Holder α) α}
    (hbeside : Beside u u')
    (hsame : call'.erase = call.erase)
    (hstep : u.chainStep chainSizeFn call = some v)
    (hstep' : u'.slChainStep call' = some v') :
    Beside v v' := by
  rcases hbeside.code with ⟨s, s', hkeeps, hkeeps'⟩ | ⟨hnone, -⟩
  · have hqueue : u'.queue = u.queue := by
      simp [ChainRun.queue, hbeside.calls]
    obtain ⟨nodes, hrep⟩ := hkeeps.queue
    obtain ⟨nodes', hrep'⟩ := hkeeps'.queue
    rw [hqueue] at hrep'
    simp only [ChainRun.chainStep, hkeeps.code] at hstep
    simp only [ChainRun.slChainStep, hkeeps'.code, Bool.and_eq_true] at hstep'
    split at hstep
    · rename_i hcan
      split at hstep'
      · rename_i hcan'
        obtain ⟨hcan', hoffers'⟩ := hcan'
        have hoffers : KernelChain.slOffers call = true := by
          rw [← KernelChain.slOffers_erase, ← hsame, KernelChain.slOffers_erase]
          exact hoffers'
        obtain rfl := Option.some.inj hstep
        obtain rfl := Option.some.inj hstep'
        by_cases hfits : u.queue.Fits call
        · have hindex : u.queue.IndexOk chainSizeFn call := by
            cases call with
            | getByIndex index => cases hoffers
            | _ => trivial
          have hfits' : u.queue.Fits call' := by
            rw [← KernelQueue.fits_erase, hsame, KernelQueue.fits_erase]
            exact hfits
          obtain ⟨w, hperform, hsettled⟩ := hrep.perform hkeeps.free call hcan hfits hindex
          obtain ⟨w', hperform', hsettled'⟩ :=
            hrep'.slPerform hkeeps'.free call' hcan' hoffers' hfits'
          rw [hperform, hperform', hsame]
          refine ⟨by simp [ChainRun.after, hbeside.calls],
            by simp [ChainRun.after, hbeside.results], Or.inl ⟨w, w', ?_, ?_⟩⟩
          · exact hkeeps.after (by simpa using hsettled)
          · rw [← hqueue]
            apply hkeeps'.after
            rw [← hsame, hqueue]
            simpa using hsettled'
        · obtain ⟨data, block, rfl, hopen, hfull⟩ :
              ∃ data block, call = .put data (some block) ∧ u.queue.opened = true ∧
                2 ^ 31 - 1 ≤ u.queue.elems.length := by
            cases call with
            | put data kmalloc =>
                cases kmalloc with
                | none => exact absurd trivial hfits
                | some block =>
                    simp only [KernelQueue.Fits, Classical.not_imp, not_lt] at hfits
                    exact ⟨data, block, rfl, hfits⟩
            | _ => exact absurd trivial hfits
          obtain ⟨block', rfl⟩ : ∃ block', call' = .put data (some block') := by
            cases call' with
            | put data' kmalloc' =>
                cases kmalloc' with
                | none => simp [ChainCall.erase] at hsame
                | some block' =>
                    obtain rfl : data' = data := by simpa [ChainCall.erase] using hsame
                    exact ⟨block', rfl⟩
            | _ => simp [ChainCall.erase] at hsame
          have hnone := hrep.putWith_full hkeeps.free data block hopen hfull
          have hnone' := hrep'.putWith_full hkeeps'.free data block' hopen hfull
          constructor
          · simp [KernelChain.perform, KernelChain.slPerform, KernelChain.chainPut,
              KernelChain.slChainPut, hnone, hnone', ChainRun.after, hbeside.calls,
              ChainCall.erase]
          · simp [KernelChain.perform, KernelChain.slPerform, KernelChain.chainPut,
              KernelChain.slChainPut, hnone, hnone', ChainRun.after, hbeside.results]
          · right
            simp [KernelChain.perform, KernelChain.slPerform, KernelChain.chainPut,
              KernelChain.slChainPut, hnone, hnone', ChainRun.after]
      · cases hstep'
    · cases hstep
  · simp [ChainRun.chainStep, hnone] at hstep

/-- The same calls on the two files. -/
theorem Beside.run
    {chainSizeFn : Nat} {u v : ChainRun Int α} {u' v' : ChainRun Bool α}
    {ops ops' : List (ChainCall (Nat × Holder α) α)}
    (hbeside : Beside u u')
    (hsame : ops'.map ChainCall.erase = ops.map ChainCall.erase)
    (hrun : run (ChainRun.chainStep chainSizeFn) u ops = some v)
    (hrun' : run ChainRun.slChainStep u' ops' = some v') :
    Beside v v' := by
  induction ops generalizing u u' ops' with
  | nil =>
      obtain rfl : ops' = [] := by simpa using hsame
      obtain rfl := Option.some.inj hrun
      obtain rfl := Option.some.inj hrun'
      exact hbeside
  | cons call ops ih =>
      cases ops' with
      | nil =>
          simp at hsame
      | cons call' ops' =>
          simp only [List.map_cons, List.cons.injEq] at hsame
          obtain ⟨w, hstep, htail⟩ := run_cons_success hrun
          obtain ⟨w', hstep', htail'⟩ := run_cons_success hrun'
          exact ih (hbeside.step hsame.1 hstep hstep') hsame.2 htail htail'

/-- A chain of `chain.c` is its queue in every state of a run if and only if every
call of the run is allowed; and `sl_chain.c` returns the same values for the same
calls, and is the queue until a call fails. -/
theorem chain_run_iff
    (chainSizeFn : Nat)
    (mem : KernelChain Int α) (base : Holder α)
    (ops : List (ChainCall (Nat × Holder α) α))
    (u : ChainRun Int α)
    (hrun : run (ChainRun.chainStep chainSizeFn) (ChainRun.start sema mem base) ops =
      some u) :
    ((∀ pre t, pre <+: ops →
        run (ChainRun.chainStep chainSizeFn) (ChainRun.start sema mem base) pre = some t →
        RefinesQueue sema ChainCall.locks t) ↔
      Meets (ChainRun.chainStep chainSizeFn) (Allowed chainSizeFn)
        (ChainRun.start sema mem base) ops) ∧
    ∀ (slMem : KernelChain Bool α) (slBase : Holder α)
      (slOps : List (ChainCall (Nat × Holder α) α)) (u' : ChainRun Bool α),
      run ChainRun.slChainStep (ChainRun.start spinlock slMem slBase) slOps = some u' →
      slOps.map ChainCall.erase = ops.map ChainCall.erase →
      u'.results = u.results ∧
        ∀ s, u'.code = some s → IsQueue spinlock ChainCall.slLocks u' s := by
  obtain ⟨s, hkeeps⟩ := keeps_start sema ChainCall.locks rfl mem base
  constructor
  · exact forall_prefix_iff_meets
      (I := fun t => ∃ s, Keeps sema ChainCall.locks t s)
      (fun _ _ _ ⟨_, hs⟩ hallowed hstep => hs.chainStep hallowed hstep)
      (fun _ ⟨s, hs⟩ => ⟨s, hs.code, hs.isQueue⟩)
      (fun _ _ _ ⟨_, hs⟩ hstep hqueue => hs.allowed hstep hqueue)
      ⟨s, hkeeps⟩ hrun
  · intro slMem slBase slOps u' hrun' hsame
    obtain ⟨s', hkeeps'⟩ := keeps_start spinlock ChainCall.slLocks rfl slMem slBase
    have hstart : Beside (ChainRun.start sema mem base)
        (ChainRun.start spinlock slMem slBase) :=
      ⟨rfl, rfl, Or.inl ⟨s, s', hkeeps, hkeeps'⟩⟩
    have hbeside := hstart.run hsame hrun hrun'
    refine ⟨hbeside.results, ?_⟩
    intro w hcode
    rcases hbeside.code with ⟨_, w', -, hw'⟩ | ⟨-, hnone⟩
    · obtain rfl : w' = w := Option.some.inj (hw'.code.symm.trans hcode)
      exact hw'.isQueue
    · rw [hnone] at hcode
      cases hcode

/-- The memory of a chain object before its init. -/
def zeroed (lock : κ) : KernelChain κ Nat :=
  { heap := { cells := fun _ => none, live := 0 }
    chainSize := 0
    chainPeakSize := 0
    initFlag := 0
    lock := lock
    lockCalls := [] }

/-- An address that `chain_size` can have in a module. -/
def moduleAddr : Nat := 0xbf000000

/-- A put that fails, two that do not, reads and removes, and a release. -/
def sampleCalls : List (ChainCall (Nat × Holder Nat) Nat) :=
  [.put (some 5) none,
    .put (some 5) (some (8, ⟨some 3, none, some 8⟩)),
    .put (some 6) (some (16, ⟨none, none, none⟩)),
    .getTop,
    .removeByIdent 5 (some fun data ident => if data.map Int.ofNat = some ident then 0 else 1),
    .size,
    .release,
    .get]

theorem chain_run_iff_sampleCalls :
    ∃ u u',
      run (ChainRun.chainStep moduleAddr) (ChainRun.start sema (zeroed 0) ⟨none, none, none⟩)
        sampleCalls = some u ∧
      u.results = [.int 0, .int (-1), .int 0, .int 0, .pointer (some 5), .pointer (some 5),
        .int 1, .released [some 6], .pointer none] ∧
      RefinesQueue sema ChainCall.locks u ∧
      run ChainRun.slChainStep (ChainRun.start spinlock (zeroed true) ⟨none, none, none⟩)
        sampleCalls = some u' ∧
      u'.results = u.results := by
  have hboth := chain_run_iff moduleAddr (zeroed 0) ⟨none, none, none⟩ sampleCalls _ rfl
  have hallowed : Meets (ChainRun.chainStep moduleAddr) (Allowed moduleAddr)
      (ChainRun.start sema (zeroed 0) ⟨none, none, none⟩) sampleCalls := by
    refine ⟨⟨trivial, trivial⟩, ⟨?_, trivial⟩, ⟨?_, trivial⟩, ?_⟩
    · intro _
      decide
    · intro _
      decide
    · exact ⟨⟨trivial, trivial⟩, ⟨trivial, trivial⟩, ⟨trivial, trivial⟩,
        ⟨trivial, trivial⟩, ⟨trivial, trivial⟩, trivial⟩
  refine ⟨_, _, rfl, rfl, hboth.1.mpr hallowed sampleCalls _ List.prefix_rfl rfl, rfl, ?_⟩
  exact (hboth.2 (zeroed true) ⟨none, none, none⟩ sampleCalls _ rfl rfl).1

/-- One element, and an index behind the end: the walk follows the null link of
the last holder's successor. -/
theorem not_refinesQueue_index :
    ¬ ∀ (chainSizeFn : Nat) (ops : List (ChainCall (Nat × Holder Nat) Nat))
        (u : ChainRun Int Nat),
      run (ChainRun.chainStep chainSizeFn)
        (ChainRun.start sema (zeroed 0) ⟨none, none, none⟩) ops = some u →
      RefinesQueue sema ChainCall.locks u := by
  intro hall
  obtain ⟨s, hcode, -⟩ := hall moduleAddr
    [.put (some 5) (some (8, ⟨none, none, none⟩)), .getByIndex 2] _ rfl
  cases hcode

end Refinement

end Kmods
end BrBox
