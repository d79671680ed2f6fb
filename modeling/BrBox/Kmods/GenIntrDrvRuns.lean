import BrBox.Kmods.GenIntrDrv

/-!
# Runs of the interrupt driver

`Driver.Holds` ties the chain of subscribers and the memory it points into to a
list of entries.  Each loop over the chain has one lemma: what it does to the
entries in front of it.

* `SubscriberTable.Sound`: what the table keeps by itself.
* `Keeps.step`, `Keeps.harmless`: the writes that the driver and the table
  answer alike, and no others.
* `driverOk_run_iff`: the runs on which the driver does what the table says.
-/

namespace BrBox
namespace Kmods

open Adav (Holder baseChain)
open CText
open LinkedHeap
open LabelledRun
open KernelChain (Represents)

section Table

/-- The position an event is about. -/
def DriverEvent.index : DriverEvent → Nat
  | .signalled index _ _ _ => index
  | .deactivated index => index

namespace SubscriberTable

variable {alive : Int → Bool}
variable {flag : Int}

/-- The end of the walk. -/
@[simp] theorem sweep_nil
    (alive : Int → Bool) (flag : Int) (i : Nat) :
    sweep alive flag i [] = ([], []) := by
  rfl

/-- One entry, then the entries behind it. -/
theorem sweep_cons
    (alive : Int → Bool) (flag : Int) (i : Nat) (x : SigInfo) (xs : List SigInfo) :
    sweep alive flag i (x :: xs) =
      if x.intr = flag ∧ x.active = 1 then
        if alive x.pid then
          (x :: (sweep alive flag (i + 1) xs).1,
            .signalled i x.intr x.sig x.pid :: (sweep alive flag (i + 1) xs).2)
        else
          ({ x with active := 0 } :: (sweep alive flag (i + 1) xs).1,
            .deactivated i :: (sweep alive flag (i + 1) xs).2)
      else
        (x :: (sweep alive flag (i + 1) xs).1, (sweep alive flag (i + 1) xs).2) := by
  rfl

/-- Sweeping two parts of a list. -/
theorem sweep_append
    (alive : Int → Bool) (flag : Int) (i : Nat) (xs ys : List SigInfo) :
    sweep alive flag i (xs ++ ys) =
      ((sweep alive flag i xs).1 ++ (sweep alive flag (i + xs.length) ys).1,
        (sweep alive flag i xs).2 ++ (sweep alive flag (i + xs.length) ys).2) := by
  induction xs generalizing i with
  | nil =>
      simp
  | cons x xs ih =>
      have hlength : i + 1 + xs.length = i + (x :: xs).length := by
        simp only [List.length_cons]
        omega
      rw [List.cons_append, sweep_cons, ih, hlength]
      by_cases hx : x.intr = flag ∧ x.active = 1
      · by_cases halive : alive x.pid = true <;> simp [sweep_cons, hx, halive]
      · simp [sweep_cons, hx]

/-- Nothing is done exactly if no active entry has the interrupt. -/
theorem sweep_events_eq_nil_iff
    (i : Nat) (xs : List SigInfo) :
    (sweep alive flag i xs).2 = [] ↔ ∀ x ∈ xs, ¬ (x.intr = flag ∧ x.active = 1) := by
  induction xs generalizing i with
  | nil =>
      simp
  | cons x xs ih =>
      by_cases hx : x.intr = flag ∧ x.active = 1
      · by_cases halive : alive x.pid = true <;> simp [sweep_cons, hx, halive]
      · simp only [sweep_cons, if_neg hx, ih, List.forall_mem_cons]
        exact ⟨fun h => ⟨hx, h⟩, fun h => h.2⟩

/-- Entries that the interrupt does not concern are left as they are. -/
theorem sweep_of_forall
    (i : Nat) {xs : List SigInfo}
    (hnone : ∀ x ∈ xs, ¬ (x.intr = flag ∧ x.active = 1)) :
    sweep alive flag i xs = (xs, []) := by
  induction xs generalizing i with
  | nil =>
      rfl
  | cons x xs ih =>
      obtain ⟨hx, hxs⟩ := List.forall_mem_cons.mp hnone
      simp [sweep_cons, hx, ih _ hxs]

/-- A sweep makes no entry active. -/
theorem sweep_filter_sublist
    (i : Nat) (xs : List SigInfo) :
    List.Sublist ((sweep alive flag i xs).1.filter fun entry => entry.active = 1)
      (xs.filter fun entry => entry.active = 1) := by
  induction xs generalizing i with
  | nil =>
      simp
  | cons x xs ih =>
      by_cases hx : x.intr = flag ∧ x.active = 1
      · by_cases halive : alive x.pid = true
        · simpa [sweep_cons, hx, halive] using ih (i + 1)
        · simpa [sweep_cons, hx, halive] using (ih (i + 1)).trans (List.sublist_cons_self _ _)
      · by_cases hactive : x.active = 1
        · have hintr : x.intr ≠ flag := fun heq => hx ⟨heq, hactive⟩
          simpa [sweep_cons, hintr, hactive] using ih (i + 1)
        · simpa [sweep_cons, hx, hactive] using ih (i + 1)

/-- A sweep leaves an entry that is not active alone. -/
theorem sweep_getElem?
    (i : Nat) {xs : List SigInfo} {k : Nat} {x : SigInfo}
    (hget : xs[k]? = some x) (hx : x.active ≠ 1) :
    (sweep alive flag i xs).1[k]? = some x := by
  induction xs generalizing i k with
  | nil =>
      simp at hget
  | cons y xs ih =>
      cases k with
      | zero =>
          obtain rfl : y = x := by simpa using hget
          simp [sweep_cons, hx]
      | succ k =>
          have htail := ih (i + 1) (by simpa using hget)
          by_cases hy : y.intr = flag ∧ y.active = 1
          · by_cases halive : alive y.pid = true <;> simpa [sweep_cons, hy, halive] using htail
          · simpa [sweep_cons, hy] using htail

/-- Every event of a sweep is about an active entry, and an entry that is
deactivated is not active afterwards. -/
theorem sweep_events
    (i : Nat) (xs : List SigInfo) {f : DriverEvent}
    (hf : f ∈ (sweep alive flag i xs).2) :
    ∃ k x, f.index = i + k ∧ xs[k]? = some x ∧ x.active = 1 ∧
      (f = .deactivated (i + k) →
        ∃ y, (sweep alive flag i xs).1[k]? = some y ∧ y.active = 0) := by
  induction xs generalizing i with
  | nil =>
      simp at hf
  | cons x xs ih =>
      have htail : f ∈ (sweep alive flag (i + 1) xs).2 →
          ∃ k y, f.index = i + k ∧ (x :: xs)[k]? = some y ∧ y.active = 1 ∧
            (f = .deactivated (i + k) →
              ∃ z, (sweep alive flag i (x :: xs)).1[k]? = some z ∧ z.active = 0) := by
        intro hmem
        obtain ⟨k, y, hindex, hget, hactive, hgone⟩ := ih (i + 1) hmem
        have hshift : i + 1 + k = i + (k + 1) := by omega
        refine ⟨k + 1, y, hindex.trans hshift, by simpa using hget, hactive, ?_⟩
        intro heq
        obtain ⟨z, hz, hz0⟩ := hgone (hshift ▸ heq)
        refine ⟨z, ?_, hz0⟩
        by_cases hx : x.intr = flag ∧ x.active = 1
        · by_cases halive : alive x.pid = true <;> simpa [sweep_cons, hx, halive] using hz
        · simpa [sweep_cons, hx] using hz
      by_cases hx : x.intr = flag ∧ x.active = 1
      · by_cases halive : alive x.pid = true
        · simp only [sweep_cons, if_pos hx, if_pos halive, List.mem_cons] at hf
          rcases hf with rfl | hf
          · exact ⟨0, x, rfl, rfl, hx.2, by simp⟩
          · exact htail hf
        · simp only [sweep_cons, if_pos hx, if_neg halive, List.mem_cons] at hf
          rcases hf with rfl | hf
          · refine ⟨0, x, rfl, rfl, hx.2, fun _ => ?_⟩
            exact ⟨{ x with active := 0 }, by simp [sweep_cons, hx, halive], rfl⟩
          · exact htail hf
      · simp only [sweep_cons, if_neg hx] at hf
        exact htail hf

/-- The events of a sweep are about different entries. -/
theorem sweep_pairwise
    (i : Nat) (xs : List SigInfo) :
    (sweep alive flag i xs).2.Pairwise fun e f => e.index < f.index := by
  induction xs generalizing i with
  | nil =>
      simp
  | cons x xs ih =>
      have hbehind : ∀ f ∈ (sweep alive flag (i + 1) xs).2, i < f.index := by
        intro f hf
        obtain ⟨k, -, hindex, -⟩ := sweep_events (i + 1) xs hf
        omega
      by_cases hx : x.intr = flag ∧ x.active = 1
      · by_cases halive : alive x.pid = true
        · simp only [sweep_cons, if_pos hx, if_pos halive, List.pairwise_cons]
          exact ⟨hbehind, ih (i + 1)⟩
        · simp only [sweep_cons, if_pos hx, if_neg halive, List.pairwise_cons]
          exact ⟨hbehind, ih (i + 1)⟩
      · simpa [sweep_cons, hx] using ih (i + 1)

/-- What the table keeps: the active entries differ, and an entry that was
deactivated stays so and is not in a later event. -/
structure Sound (t : SubscriberTable) : Prop where
  distinct : (t.entries.filter fun entry => entry.active = 1).Nodup
  retired : t.events.Pairwise fun e f =>
    ∀ i, e = .deactivated i →
      f ≠ .deactivated i ∧ ∀ intr sig pid, f ≠ .signalled i intr sig pid
  gone : ∀ i, .deactivated i ∈ t.events → ∃ x, t.entries[i]? = some x ∧ x.active = 0

/-- A write to the subscribe node keeps the table sound. -/
theorem Sound.subscribe
    {t : SubscriberTable} (hsound : t.Sound) (values : List Int) :
    (t.subscribe values).Sound := by
  unfold SubscriberTable.subscribe
  split
  · rename_i intr sig pid
    split
    · exact hsound
    · rename_i hnew
      constructor
      · rw [List.filter_append]
        refine List.nodup_append'.mpr ⟨hsound.distinct, by simp, ?_⟩
        intro x hx hx'
        obtain rfl : x = ⟨intr, sig, pid, 1⟩ := by simpa using hx'
        apply hnew
        rw [List.any_eq_true]
        exact ⟨_, (List.mem_filter.mp hx).1, by simp [SigInfo.sameActive]⟩
      · exact hsound.retired
      · intro i hi
        obtain ⟨x, hx, hx0⟩ := hsound.gone i hi
        obtain ⟨hlt, -⟩ := List.getElem?_eq_some_iff.mp hx
        exact ⟨x, by rw [List.getElem?_append_left hlt, hx], hx0⟩
  · exact hsound

/-- A write to the interrupt node keeps the table sound. -/
theorem Sound.interrupt
    {t : SubscriberTable} (hsound : t.Sound) (alive : Int → Bool) (values : List Int) :
    (t.interrupt alive values).Sound := by
  have hfresh : ∀ e ∈ t.events,
      ∀ f ∈ (sweep alive (values.headD t.interruptflag) 0 t.entries).2,
        ∀ i, e = .deactivated i → f.index ≠ i := by
    rintro e he f hf i rfl hindex
    obtain ⟨x, hx, hx0⟩ := hsound.gone i he
    obtain ⟨k, y, hk, hy, hy1, -⟩ := sweep_events 0 t.entries hf
    obtain rfl : k = i := by omega
    obtain rfl : x = y := Option.some.inj (hx.symm.trans hy)
    rw [hx0] at hy1
    cases hy1
  have hdiffer : ∀ (f : DriverEvent) (i : Nat), f.index ≠ i →
      f ≠ .deactivated i ∧ ∀ intr sig pid, f ≠ .signalled i intr sig pid := by
    intro f i hne
    exact ⟨fun heq => hne (heq ▸ rfl), fun _ _ _ heq => hne (heq ▸ rfl)⟩
  constructor
  · exact hsound.distinct.sublist (sweep_filter_sublist 0 t.entries)
  · refine List.pairwise_append.mpr ⟨hsound.retired, ?_, ?_⟩
    · apply (sweep_pairwise 0 t.entries).imp
      rintro e f hlt i rfl
      apply hdiffer
      exact Nat.ne_of_gt hlt
    · intro e he f hf i heq
      exact hdiffer f i (hfresh e he f hf i heq)
  · intro i hi
    rcases List.mem_append.mp hi with hi | hi
    · obtain ⟨x, hx, hx0⟩ := hsound.gone i hi
      exact ⟨x, sweep_getElem? 0 hx (by omega), hx0⟩
    · obtain ⟨k, x, hindex, -, -, hgone⟩ := sweep_events 0 t.entries hi
      obtain rfl : i = k := by simpa [DriverEvent.index] using hindex
      exact hgone (by simp)

end SubscriberTable

end Table

section Runs

namespace Driver

/-- The chain of subscribers points at a list of entries. -/
def Holds (d : Driver) (l : List SigInfo) : Prop :=
  ∃ nodes q, Represents d.subscribersList nodes q ∧ q.opened = true ∧
    nodes.map (fun x => x.2.bind d.memory) = l.map some ∧
    (nodes.map Prod.snd).Nodup

variable {d : Driver}
variable {l pre post : List SigInfo}
variable {entry : SigInfo}
variable {chainSizeFn : Nat}

theorem Holds.entries
    (hholds : d.Holds l) :
    d.Entries l := by
  obtain ⟨nodes, q, hrep, -, hmap, hnodup⟩ := hholds
  exact ⟨nodes, hrep.links, hmap, hnodup⟩

/-- The chain of the module is empty at first. -/
theorem holds_genintrdrvInit :
    ∃ d, genintrdrvInit = some d ∧ d.Holds [] ∧ d.subscribersList.lock = sema.free ∧
      d.interruptflag = 0 ∧ d.events = [] := by
  obtain ⟨c, hinit, ⟨nodes, hrep⟩, hfree, -⟩ := KernelChain.initWith_eq
    (k := sema) (s := zeroChain) (n := ⟨none, none, none⟩) rfl
  refine ⟨{ sigList := ⟨0, 0, 0, 0⟩
            interruptflag := 0
            sigcounter := 0
            subscribersList := c
            memory := fun _ => none
            events := [] }, ?_, ?_, hfree, rfl, rfl⟩
  · simp [genintrdrvInit, KernelChain.chainInit, hinit]
  · obtain rfl : nodes = [] := by simpa using hrep.elems
    exact ⟨[], _, hrep, rfl, rfl, by simp⟩

theorem Holds.chainSize
    (hholds : d.Holds l) :
    d.subscribersList.chainSize = l.length := by
  obtain ⟨nodes, q, hrep, -, hmap, -⟩ := hholds
  have hlength := congrArg List.length hmap
  simp only [List.length_map] at hlength
  rw [hrep.size, hlength]

/-- Only the nodes and counters of the chain count. -/
theorem Holds.relock
    (hholds : d.Holds l) (lock : Int) (calls : List LockCall) :
    ({ d with subscribersList :=
      { d.subscribersList with lock := lock, lockCalls := calls } } : Driver).Holds l := by
  obtain ⟨nodes, q, hrep, hopen, hmap, hnodup⟩ := hholds
  exact ⟨nodes, q, hrep.relock lock calls, hopen, hmap, hnodup⟩

/-- The number of the last interrupt is no part of the subscriptions. -/
theorem Holds.withFlag
    (hholds : d.Holds l) (flag : Int) :
    ({ d with interruptflag := flag } : Driver).Holds l := by
  obtain ⟨nodes, q, hrep, hopen, hmap, hnodup⟩ := hholds
  exact ⟨nodes, q, hrep, hopen, hmap, hnodup⟩

/-- An entry is read at its position, and written there alone. -/
theorem Holds.entryAt
    (chainSizeFn : Nat)
    (hholds : d.Holds (pre ++ entry :: post)) :
    ∃ a, d.memory a = some entry ∧
      d.subscribersList.chainGetByIndex chainSizeFn pre.length =
        some (if pre.length ≥ chainSizeFn then none else some a) ∧
      ∀ (entry' : SigInfo) (d' : Driver),
        d'.subscribersList = d.subscribersList →
        d'.memory = Function.update d.memory a (some entry') →
        d'.Holds (pre ++ entry' :: post) := by
  obtain ⟨nodes, q, hrep, hopen, hmap, hnodup⟩ := hholds
  rw [List.map_append, List.map_cons] at hmap
  obtain ⟨npre, rest, rfl, hpre, hrest⟩ := List.map_eq_append_iff.mp hmap
  obtain ⟨x, npost, rfl, hx, hpost⟩ := List.map_eq_cons_iff.mp hrest
  obtain ⟨a, ha, hentry⟩ := Option.bind_eq_some_iff.mp hx
  have hlength : npre.length = pre.length := by
    simpa using congrArg List.length hpre
  have hget : q.elems[pre.length]? = some (some a) := by
    rw [← hrep.elems, ← hlength]
    simp [ha]
  have hle : pre.length ≤ q.elems.length := by
    rw [← hrep.elems]
    simp only [List.length_map, List.length_append, hlength]
    omega
  refine ⟨a, hentry, ?_, ?_⟩
  · rw [hrep.chainGetByIndex_eq hle, hget]
    rfl
  · intro entry' d' hchain hmemory
    have hout : ∀ y, y ∈ npre ∨ y ∈ npost → y.2 ≠ some a := by
      simp only [List.map_append, List.map_cons, ha] at hnodup
      have hnotin := (List.nodup_middle.mp hnodup)
      rw [List.nodup_cons] at hnotin
      intro y hy heq
      apply hnotin.1
      rw [← List.map_append]
      exact List.mem_map.mpr ⟨y, List.mem_append.mpr hy, heq⟩
    have hsame : ∀ y, y ∈ npre ∨ y ∈ npost → y.2.bind d'.memory = y.2.bind d.memory := by
      intro y hy
      cases hy2 : y.2 with
      | none =>
          rfl
      | some b =>
          have hb : b ≠ a := by
            rintro rfl
            exact hout y hy hy2
          simp [hmemory, hb]
    refine ⟨npre ++ x :: npost, q, hchain ▸ hrep, hopen, ?_, hnodup⟩
    rw [List.map_append, List.map_cons, List.map_append, List.map_cons, ← hpre, ← hpost]
    congr 1
    · exact List.map_congr_left fun y hy => hsame y (Or.inl hy)
    · congr 1
      · simp [ha, hmemory]
      · exact List.map_congr_left fun y hy => hsame y (Or.inr hy)

/-- The search finds an active entry with the triple at the positions that the
index walk can reach. -/
theorem Holds.findDuplicateLoop
    (chainSizeFn : Nat) (info : SigInfo) (hholds : d.Holds (pre ++ post)) :
    d.findDuplicateLoop chainSizeFn info post.length pre.length =
      some ((post.take (chainSizeFn - pre.length)).any info.sameActive) := by
  induction post generalizing pre with
  | nil =>
      simp [Driver.findDuplicateLoop]
  | cons entry post ih =>
      obtain ⟨a, ha, hget, -⟩ := hholds.entryAt chainSizeFn
      have hafter : d.Holds ((pre ++ [entry]) ++ post) := by simpa using hholds
      have htail := ih hafter
      simp only [List.length_append, List.length_cons, List.length_nil, Nat.zero_add]
        at htail
      rw [List.length_cons, Driver.findDuplicateLoop, hget, Option.bind_some]
      by_cases hfn : pre.length ≥ chainSizeFn
      · simp [hfn]
      · have hroom : chainSizeFn - pre.length = (chainSizeFn - (pre.length + 1)) + 1 := by
          omega
        rw [if_neg hfn, hroom, List.take_succ_cons, List.any_cons]
        simp only [ha, Option.bind_some]
        by_cases hsame : info.sameActive entry = true
        · simp [hsame]
        · rw [if_neg hsame, htail]
          simp [hsame]

/-- The walk over the subscribers is the sweep of the positions that the index
walk can reach. -/
theorem Holds.sendLoop
    (chainSizeFn : Nat) (alive : Int → Bool) (flag : Int)
    (hholds : d.Holds (pre ++ post)) :
    ∃ d', Driver.sendLoop chainSizeFn alive flag post.length pre.length d = some d' ∧
      d'.Holds (pre ++
        ((SubscriberTable.sweep alive flag pre.length
            (post.take (chainSizeFn - pre.length))).1 ++
          post.drop (chainSizeFn - pre.length))) ∧
      d'.events = d.events ++ (SubscriberTable.sweep alive flag pre.length
        (post.take (chainSizeFn - pre.length))).2 ∧
      d'.subscribersList = d.subscribersList ∧
      d'.interruptflag = d.interruptflag := by
  induction post generalizing pre d with
  | nil =>
      refine ⟨d, rfl, ?_, ?_, rfl, rfl⟩
      · simpa using hholds
      · simp
  | cons entry post ih =>
      obtain ⟨a, ha, hget, hset⟩ := hholds.entryAt chainSizeFn
      have hlength : (pre ++ [entry]).length = pre.length + 1 := by simp
      rw [List.length_cons, Driver.sendLoop, hget, Option.bind_some]
      by_cases hfn : pre.length ≥ chainSizeFn
      · have hzero : chainSizeFn - pre.length = 0 := by omega
        have hzero' : chainSizeFn - (pre.length + 1) = 0 := by omega
        obtain ⟨d', hloop, hholds', hevents, hchain, hflag⟩ :=
          ih (show d.Holds ((pre ++ [entry]) ++ post) by simpa using hholds)
        rw [hlength, hzero'] at hholds' hevents
        rw [hlength] at hloop
        refine ⟨d', by simpa [hfn] using hloop, ?_, ?_, hchain, hflag⟩
        · rw [hzero]
          simpa using hholds'
        · rw [hzero]
          simpa using hevents
      · have hroom : chainSizeFn - pre.length = (chainSizeFn - (pre.length + 1)) + 1 := by
          omega
        rw [if_neg hfn, hroom, List.take_succ_cons, List.drop_succ_cons]
        simp only [ha, Option.bind_some]
        -- the entry as the step leaves it, and the loop behind it
        have hrest : ∀ (entry' : SigInfo) (d₁ : Driver),
            d₁.Holds (pre ++ entry' :: post) →
            ∃ d', Driver.sendLoop chainSizeFn alive flag post.length (pre.length + 1) d₁ =
                some d' ∧
              d'.Holds (pre ++ (entry' ::
                (SubscriberTable.sweep alive flag (pre.length + 1)
                  (post.take (chainSizeFn - (pre.length + 1)))).1 ++
                post.drop (chainSizeFn - (pre.length + 1)))) ∧
              d'.events = d₁.events ++ (SubscriberTable.sweep alive flag (pre.length + 1)
                (post.take (chainSizeFn - (pre.length + 1)))).2 ∧
              d'.subscribersList = d₁.subscribersList ∧
              d'.interruptflag = d₁.interruptflag := by
          intro entry' d₁ hholds₁
          obtain ⟨d', hloop, hholds', hevents, hchain, hflag⟩ :=
            ih (show d₁.Holds ((pre ++ [entry']) ++ post) by simpa using hholds₁)
          have hlength' : (pre ++ [entry']).length = pre.length + 1 := by simp
          rw [hlength'] at hloop hholds' hevents
          exact ⟨d', hloop, by simpa using hholds', hevents, hchain, hflag⟩
        by_cases hmatch : entry.intr = flag ∧ entry.active = 1
        · by_cases halive : alive entry.pid = true
          · obtain ⟨d', hloop, hholds', hevents, hchain, hflag⟩ :=
              hrest entry (d.sendSignalToProcess alive pre.length entry).2 (by
                rw [Driver.sendSignalToProcess, if_pos halive]
                obtain ⟨nodes, q, hrep, hopen, hmap, hnodup⟩ := hholds
                exact ⟨nodes, q, hrep, hopen, hmap, hnodup⟩)
            refine ⟨d', ?_, ?_, ?_, ?_, ?_⟩
            · simpa [hmatch, Driver.sendSignalToProcess, halive] using hloop
            · simpa [SubscriberTable.sweep_cons, hmatch, halive] using hholds'
            · rw [hevents]
              simp [SubscriberTable.sweep_cons, hmatch, halive, Driver.sendSignalToProcess]
            · simpa [Driver.sendSignalToProcess, halive] using hchain
            · simpa [Driver.sendSignalToProcess, halive] using hflag
          · obtain ⟨d', hloop, hholds', hevents, hchain, hflag⟩ :=
              hrest { entry with active := 0 }
                { d with
                  memory := Function.update d.memory a (some { entry with active := 0 })
                  events := d.events ++ [DriverEvent.deactivated pre.length] }
                (hset _ _ rfl rfl)
            refine ⟨d', ?_, ?_, ?_, hchain, hflag⟩
            · simpa [hmatch, Driver.sendSignalToProcess, halive] using hloop
            · simpa [SubscriberTable.sweep_cons, hmatch, halive] using hholds'
            · rw [hevents]
              simp [SubscriberTable.sweep_cons, hmatch, halive]
        · obtain ⟨d', hloop, hholds', hevents, hchain, hflag⟩ := hrest entry d hholds
          refine ⟨d', by simpa [hmatch] using hloop, ?_, ?_, hchain, hflag⟩
          · simpa [SubscriberTable.sweep_cons, hmatch] using hholds'
          · simpa [SubscriberTable.sweep_cons, hmatch] using hevents

/-- Only active entries are printed. -/
theorem Holds.showLoop
    {shown : List (Nat × SigInfo)}
    (hholds : d.Holds (pre ++ post))
    (hshow : d.showLoop chainSizeFn post.length pre.length = some shown) :
    ∀ x ∈ shown, (pre ++ post)[x.1]? = some x.2 ∧ x.2.active = 1 := by
  induction post generalizing pre shown with
  | nil =>
      obtain rfl : [] = shown := by simpa [Driver.showLoop] using hshow
      simp
  | cons entry post ih =>
      obtain ⟨a, ha, hget, -⟩ := hholds.entryAt chainSizeFn
      have htail : ∀ rest, d.showLoop chainSizeFn post.length (pre.length + 1) = some rest →
          ∀ x ∈ rest, (pre ++ entry :: post)[x.1]? = some x.2 ∧ x.2.active = 1 := by
        intro rest hrest
        have hafter : d.Holds ((pre ++ [entry]) ++ post) := by simpa using hholds
        have hmem := ih hafter (by simpa using hrest)
        simpa using hmem
      rw [List.length_cons, Driver.showLoop, hget, Option.bind_some] at hshow
      by_cases hfn : pre.length ≥ chainSizeFn
      · rw [if_pos hfn] at hshow
        exact htail shown hshow
      · rw [if_neg hfn] at hshow
        simp only [ha, Option.bind_some] at hshow
        obtain ⟨rest, hrest, rfl⟩ := Option.map_eq_some_iff.mp hshow
        intro x hx
        by_cases hactive : entry.active = 1
        · rw [if_pos hactive] at hx
          rcases List.mem_cons.mp hx with rfl | hx
          · exact ⟨by simp, hactive⟩
          · exact htail rest hrest x hx
        · rw [if_neg hactive] at hx
          exact htail rest hrest x hx

/-- Reading the size and locking the chain, as every walk begins. -/
theorem Holds.locked
    (hholds : d.Holds l) (hfree : d.subscribersList.lock = sema.free) :
    ∃ c calls, d.subscribersList.chainSizeOf = some ((l.length : Int), c) ∧
      c.acquire sema = some
        { d.subscribersList with lock := sema.taken, lockCalls := calls } := by
  refine ⟨({ d.subscribersList with
      lock := sema.taken
      lockCalls := d.subscribersList.lockCalls ++ [LockCall.lock] } :
        KernelChain Int Nat).giveBack sema,
    d.subscribersList.lockCalls ++ [LockCall.lock] ++ [LockCall.unlock] ++ [LockCall.lock],
    ?_, ?_⟩
  · simp only [KernelChain.chainSizeOf, KernelChain.readWith,
      KernelChain.acquire_eq hfree, Option.map_some, hholds.chainSize]
  · exact KernelChain.acquire_eq sema.unlock_taken

/-- `find_duplicate_entry`. -/
theorem Holds.findDuplicateEntry
    (chainSizeFn : Nat) (info : SigInfo)
    (hholds : d.Holds l) (hfree : d.subscribersList.lock = sema.free) :
    ∃ c, d.findDuplicateEntry chainSizeFn info =
        some (if (l.take chainSizeFn).any info.sameActive then 0 else -1,
          { d with subscribersList := c }) ∧
      ({ d with subscribersList := c } : Driver).Holds l ∧ c.lock = sema.free ∧
      c.heap = d.subscribersList.heap := by
  obtain ⟨c, calls, hsize, hacquire⟩ := hholds.locked hfree
  have hloop := Holds.findDuplicateLoop chainSizeFn info
    ((List.nil_append l).symm ▸ hholds.relock sema.taken calls)
  refine ⟨({ d.subscribersList with
    lock := sema.taken
    lockCalls := calls } : KernelChain Int Nat).giveBack sema, ?_,
    hholds.relock _ _, sema.unlock_taken, rfl⟩
  simp only [List.length_nil, Nat.sub_zero] at hloop
  simp only [Driver.findDuplicateEntry, hsize, Option.bind_some, hacquire,
    Int.toNat_natCast, hloop, Option.map_some]

/-- `send_signal_to_subscribers`. -/
theorem Holds.sendSignalToSubscribers
    (chainSizeFn : Nat) (alive : Int → Bool) (flag : Int)
    (hholds : d.Holds l) (hfree : d.subscribersList.lock = sema.free) :
    ∃ d', d.sendSignalToSubscribers chainSizeFn alive flag = some d' ∧
      d'.Holds ((SubscriberTable.sweep alive flag 0 (l.take chainSizeFn)).1 ++
        l.drop chainSizeFn) ∧
      d'.events = d.events ++ (SubscriberTable.sweep alive flag 0 (l.take chainSizeFn)).2 ∧
      d'.interruptflag = d.interruptflag ∧ d'.subscribersList.lock = sema.free := by
  obtain ⟨c, calls, hsize, hacquire⟩ := hholds.locked hfree
  obtain ⟨d', hloop, hholds', hevents, hchain, hflag⟩ :=
    Holds.sendLoop chainSizeFn alive flag
      ((List.nil_append l).symm ▸ hholds.relock sema.taken calls)
  refine ⟨{ d' with subscribersList := d'.subscribersList.giveBack sema }, ?_,
    hholds'.relock _ _, hevents, hflag, ?_⟩
  · simp only [List.length_nil] at hloop
    simp only [Driver.sendSignalToSubscribers, hsize, Option.bind_some, hacquire,
      Int.toNat_natCast, hloop, Option.map_some]
  · simp [KernelChain.giveBack, hchain, sema.unlock_taken]

/-- A new entry is put at the end of the chain while the counter has room. -/
theorem Holds.addSubscriberToList
    (newEntry : SigInfo) {a : Nat} {holder : Nat × Holder Nat}
    (hholds : d.Holds l) (hfree : d.subscribersList.lock = sema.free)
    (ha : d.memory a = none)
    (hholder : d.subscribersList.heap.cells holder.1 = none)
    (hroom : l.length < 2 ^ 31 - 1) :
    ∃ n d', d.addSubscriberToList newEntry a holder = some (n, d') ∧
      d'.Holds (l ++ [newEntry]) ∧ d'.events = d.events ∧
      d'.interruptflag = d.interruptflag ∧ d'.subscribersList.lock = sema.free := by
  obtain ⟨nodes, q, hrep, hopen, hmap, hnodup⟩ := hholds
  have hlength : q.elems.length = l.length := by
    rw [← hrep.elems, List.length_map]
    simpa using congrArg List.length hmap
  obtain ⟨n, c, hput, hop, ⟨nodes', hrep'⟩, hfree', -⟩ :=
    hrep.putWith hfree (some a) (some holder) (by simp [KernelChain.canAnswer, hholder])
      (fun _ _ => by omega)
  have hop' : q.queueOp (.put (some a) ((some holder).map fun _ => ())) =
      (.int 0, { q with
        elems := q.elems ++ [some a]
        peak := max q.peak (q.elems.length + 1) }) := by
    simp [KernelQueue.queueOp, hopen]
  rw [hop'] at hop hrep'
  obtain rfl : (0 : Int) = n := by simpa using hop
  refine ⟨0, { d with
      subscribersList := c
      memory := Function.update d.memory a (some newEntry) }, ?_, ?_, rfl, rfl, hfree'⟩
  · simp [Driver.addSubscriberToList, KernelChain.chainPut, hput]
  · have hout : some a ∉ nodes.map Prod.snd := by
      intro hmem
      obtain ⟨x, hx, hxa⟩ := List.mem_map.mp hmem
      have hbound : x.2.bind d.memory ∈ l.map some := by
        rw [← hmap]
        exact List.mem_map_of_mem hx
      rw [hxa] at hbound
      simp [ha] at hbound
    have hsnd : nodes'.map Prod.snd = nodes.map Prod.snd ++ [some a] := by
      rw [hrep'.elems, hrep.elems]
    refine ⟨nodes', _, hrep', hopen, ?_, ?_⟩
    · have hcomp : ∀ (memory : Nat → Option SigInfo) (ns : List (Nat × Option Nat)),
          ns.map (fun x => x.2.bind memory) =
            (ns.map Prod.snd).map fun p => p.bind memory := by
        intro memory ns
        simp
      rw [hcomp, hsnd, List.map_append, List.map_append, ← hmap, hcomp]
      congr 1
      · apply List.map_congr_left
        intro p hp
        cases p with
        | none =>
            rfl
        | some b =>
            have hb : b ≠ a := by
              rintro rfl
              exact hout hp
            simp [hb]
      · simp
    · rw [hsnd]
      exact List.nodup_append'.mpr ⟨hnodup, by simp, by simpa using hout⟩

/-- A chain that is full does not take another entry. -/
theorem Holds.addSubscriberToList_full
    (newEntry : SigInfo) {a : Nat} {holder : Nat × Holder Nat}
    (hholds : d.Holds l) (hfree : d.subscribersList.lock = sema.free)
    (hfull : 2 ^ 31 - 1 ≤ l.length) :
    d.addSubscriberToList newEntry a holder = none := by
  obtain ⟨nodes, q, hrep, hopen, hmap, -⟩ := hholds
  have hlength : q.elems.length = l.length := by
    rw [← hrep.elems, List.length_map]
    simpa using congrArg List.length hmap
  have hnone := hrep.putWith_full hfree (some a) holder hopen (by omega)
  simp [Driver.addSubscriberToList, KernelChain.chainPut, hnone]

/-- What a write to the subscribe node does, by whether the record has an active
duplicate in reach. -/
theorem Holds.intrsubscribeStore_eq
    (chainSizeFn : Nat) (buf : Bytes) (a : Nat) (holder : Nat × Holder Nat)
    (hholds : d.Holds l) (hfree : d.subscribersList.lock = sema.free) :
    ∃ c, c.lock = sema.free ∧ c.heap = d.subscribersList.heap ∧
      (∀ info, ({ d with sigList := info, subscribersList := c } : Driver).Holds l) ∧
      d.intrsubscribeStore chainSizeFn buf a holder =
        if (l.take chainSizeFn).any (d.sigList.scan (scanList 3 buf)).sameActive then
          some { d with
            sigList := d.sigList.scan (scanList 3 buf)
            subscribersList := c }
        else
          (({ d with
              sigList := { d.sigList.scan (scanList 3 buf) with active := 1 }
              subscribersList := c } : Driver).addSubscriberToList
            { d.sigList.scan (scanList 3 buf) with active := 1 } a holder).map Prod.snd := by
  have hscanned : ∀ info, ({ d with sigList := info } : Driver).Holds l := by
    intro info
    obtain ⟨nodes, q, hrep, hopen, hmap, hnodup⟩ := hholds
    exact ⟨nodes, q, hrep, hopen, hmap, hnodup⟩
  obtain ⟨c, hdup, hholds', hfree', hheap⟩ :=
    Holds.findDuplicateEntry chainSizeFn
      (d.sigList.scan (scanList 3 buf)) (hscanned (d.sigList.scan (scanList 3 buf))) hfree
  refine ⟨c, hfree', hheap, ?_, ?_⟩
  · intro info
    obtain ⟨nodes, q, hrep, hopen, hmap, hnodup⟩ := hholds'
    exact ⟨nodes, q, hrep, hopen, hmap, hnodup⟩
  · simp only [Driver.intrsubscribeStore, hdup, Option.bind_some]
    cases (l.take chainSizeFn).any (d.sigList.scan (scanList 3 buf)).sameActive <;> rfl

/-- A write whose record has an active duplicate in reach adds nothing. -/
theorem Holds.intrsubscribeStore_seen
    (buf : Bytes) (a : Nat) (holder : Nat × Holder Nat)
    (hholds : d.Holds l) (hfree : d.subscribersList.lock = sema.free)
    (hseen : (l.take chainSizeFn).any (d.sigList.scan (scanList 3 buf)).sameActive = true) :
    ∃ d', d.intrsubscribeStore chainSizeFn buf a holder = some d' ∧ d'.Holds l ∧
      d'.events = d.events ∧ d'.interruptflag = d.interruptflag ∧
      d'.subscribersList.lock = sema.free := by
  obtain ⟨c, hfree', -, hholds', hstore⟩ :=
    hholds.intrsubscribeStore_eq chainSizeFn buf a holder hfree
  rw [if_pos hseen] at hstore
  exact ⟨_, hstore, hholds' _, rfl, rfl, hfree'⟩

/-- Any other write adds the record, as the scan has left it. -/
theorem Holds.intrsubscribeStore_new
    (buf : Bytes) {a : Nat} {holder : Nat × Holder Nat}
    (hholds : d.Holds l) (hfree : d.subscribersList.lock = sema.free)
    (ha : d.memory a = none)
    (hholder : d.subscribersList.heap.cells holder.1 = none)
    (hnew : (l.take chainSizeFn).any (d.sigList.scan (scanList 3 buf)).sameActive = false)
    (hroom : l.length < 2 ^ 31 - 1) :
    ∃ d', d.intrsubscribeStore chainSizeFn buf a holder = some d' ∧
      d'.Holds (l ++ [{ d.sigList.scan (scanList 3 buf) with active := 1 }]) ∧
      d'.events = d.events ∧ d'.interruptflag = d.interruptflag ∧
      d'.subscribersList.lock = sema.free := by
  obtain ⟨c, hfree', hheap, hholds', hstore⟩ :=
    hholds.intrsubscribeStore_eq chainSizeFn buf a holder hfree
  rw [if_neg (by simp [hnew])] at hstore
  obtain ⟨n, d', hadd, hholds'', hevents, hflag, hfree''⟩ :=
    (hholds' { d.sigList.scan (scanList 3 buf) with active := 1 }).addSubscriberToList
      { d.sigList.scan (scanList 3 buf) with active := 1 }
      hfree' ha (by simpa [hheap] using hholder) hroom
  rw [hadd, Option.map_some] at hstore
  exact ⟨d', hstore, hholds'', hevents, hflag, hfree''⟩

/-- A write that would add to a full chain has no result. -/
theorem Holds.intrsubscribeStore_full
    (buf : Bytes) (a : Nat) (holder : Nat × Holder Nat)
    (hholds : d.Holds l) (hfree : d.subscribersList.lock = sema.free)
    (hnew : (l.take chainSizeFn).any (d.sigList.scan (scanList 3 buf)).sameActive = false)
    (hfull : 2 ^ 31 - 1 ≤ l.length) :
    d.intrsubscribeStore chainSizeFn buf a holder = none := by
  obtain ⟨c, hfree', -, hholds', hstore⟩ :=
    hholds.intrsubscribeStore_eq chainSizeFn buf a holder hfree
  rw [if_neg (by simp [hnew]),
    (hholds' { d.sigList.scan (scanList 3 buf) with active := 1 }).addSubscriberToList_full
      _ hfree' hfull] at hstore
  exact hstore

/-- The driver shows active entries only. -/
theorem Holds.intrsubscribeShow
    {shown : List (Nat × SigInfo)} {text : Bytes} {d' : Driver}
    (hholds : d.Holds l) (hfree : d.subscribersList.lock = sema.free)
    (hshow : d.intrsubscribeShow chainSizeFn = some (shown, text, d')) :
    ∀ x ∈ shown, l[x.1]? = some x.2 ∧ x.2.active = 1 := by
  obtain ⟨c, calls, hsize, hacquire⟩ := hholds.locked hfree
  simp only [Driver.intrsubscribeShow, hsize, Option.bind_some, hacquire,
    Int.toNat_natCast] at hshow
  obtain ⟨rest, hloop, heq⟩ := Option.map_eq_some_iff.mp hshow
  obtain rfl : rest = shown := congrArg Prod.fst heq
  exact Holds.showLoop ((List.nil_append l).symm ▸ hholds.relock sema.taken calls) hloop

end Driver

/-- What every harmless write keeps. -/
structure DriverKeeps (t : DriverRun) (d : Driver) : Prop where
  driver : t.driver = some d
  holds : d.Holds t.table.entries
  free : d.subscribersList.lock = sema.free
  events : d.events = t.table.events
  interruptflag : d.interruptflag = t.table.interruptflag
  sound : t.table.Sound

variable {t t' : DriverRun}
variable {d : Driver}
variable {chainSizeFn : Nat}

/-- What is kept is what the driver promises. -/
theorem DriverKeeps.driverOk
    (hkeeps : DriverKeeps t d) :
    DriverOk chainSizeFn t d := by
  constructor
  · exact hkeeps.driver
  · exact hkeeps.holds.entries
  · exact hkeeps.events
  · exact hkeeps.interruptflag
  · exact hkeeps.sound.distinct
  · exact hkeeps.sound.retired
  · intro shown text d' hshow x hx
    obtain ⟨hget, hactive⟩ := hkeeps.holds.intrsubscribeShow hkeeps.free hshow x hx
    refine ⟨hget, hactive, ?_⟩
    intro hgone
    obtain ⟨y, hy, hy0⟩ := hkeeps.sound.gone x.1 hgone
    obtain rfl : x.2 = y := Option.some.inj (hget.symm.trans hy)
    omega

/-- The module after its init. -/
theorem driverKeeps_start
    (alive : Int → Bool) :
    ∃ d, DriverKeeps (DriverRun.start alive) d := by
  obtain ⟨d, hinit, hholds, hfree, hflag, hevents⟩ := Driver.holds_genintrdrvInit
  refine ⟨d, hinit, hholds, hfree, hevents, hflag, ?_⟩
  constructor
  · simp [DriverRun.start]
  · simp [DriverRun.start]
  · simp [DriverRun.start]

/-- Three values that are scanned are the record, whatever was in it. -/
theorem subscribe_of_triple
    (table : SubscriberTable) (info : SigInfo) {values : List Int}
    (hlength : values.length = 3) :
    table.subscribe values =
      if table.entries.any (info.scan values).sameActive then
        table
      else
        { table with
          entries := table.entries ++ [{ info.scan values with active := 1 }] } := by
  obtain ⟨intr, sig, pid, rfl⟩ : ∃ intr sig pid, values = [intr, sig, pid] := by
    match values, hlength with
    | [intr, sig, pid], _ => exact ⟨intr, sig, pid, rfl⟩
  rfl

/-- Fewer values are no triple. -/
theorem subscribe_of_short
    (table : SubscriberTable) {values : List Int} (hlength : values.length ≠ 3) :
    table.subscribe values = table := by
  unfold SubscriberTable.subscribe
  split
  · simp at hlength
  · rfl

theorem DriverKeeps.subscribeStep
    {buf : Bytes} {a : Nat} {holder : Nat × Holder Nat}
    (hkeeps : DriverKeeps t d)
    (hharmless : Harmless chainSizeFn t (.subscribe buf a holder))
    (ha : d.memory a = none)
    (hholder : d.subscribersList.heap.cells holder.1 = none) :
    ∃ d', DriverKeeps
      { t with
        driver := d.intrsubscribeStore chainSizeFn buf a holder
        table := t.table.subscribe (scanList 3 buf) } d' := by
  have hcond := hharmless d hkeeps.driver
  have hsound := hkeeps.sound.subscribe (scanList 3 buf)
  simp only [Driver.AnswersAlike] at hcond
  by_cases hseen : (t.table.entries.take chainSizeFn).any
      (d.sigList.scan (scanList 3 buf)).sameActive = true
  · have hsame : t.table.subscribe (scanList 3 buf) = t.table := by
      by_cases hlength : (scanList 3 buf).length = 3
      · obtain ⟨x, hx, hxa⟩ := List.any_eq_true.mp hseen
        rw [subscribe_of_triple t.table d.sigList hlength, if_pos]
        exact List.any_eq_true.mpr ⟨x, List.mem_of_mem_take hx, hxa⟩
      · exact subscribe_of_short t.table hlength
    obtain ⟨d', hstore, hholds, hevents, hflag, hfree⟩ :=
      hkeeps.holds.intrsubscribeStore_seen buf a holder hkeeps.free hseen
    rw [hsame]
    exact ⟨d', hstore, hholds, hfree, hevents.trans hkeeps.events,
      hflag.trans hkeeps.interruptflag, hkeeps.sound⟩
  · by_cases hlength : (scanList 3 buf).length = 3
    · rw [if_pos hlength] at hcond
      have hnew : t.table.entries.any
          (d.sigList.scan (scanList 3 buf)).sameActive = false := by
        by_contra hany
        exact hseen (hcond.1 (by simpa using hany))
      obtain ⟨d', hstore, hholds, hevents, hflag, hfree⟩ :=
        hkeeps.holds.intrsubscribeStore_new buf hkeeps.free ha hholder (by simpa using hseen)
          (hcond.2 hnew)
      rw [subscribe_of_triple t.table d.sigList hlength, if_neg (by simp [hnew])] at hsound ⊢
      exact ⟨d', hstore, hholds, hfree, hevents.trans hkeeps.events,
        hflag.trans hkeeps.interruptflag, hsound⟩
    · rw [if_neg hlength] at hcond
      exact absurd hcond hseen

theorem DriverKeeps.interruptStep
    {buf : Bytes}
    (hkeeps : DriverKeeps t d)
    (hharmless : Harmless chainSizeFn t (.interrupt buf)) :
    ∃ d', DriverKeeps
      { t with
        driver := d.interruptflagStore chainSizeFn t.alive buf
        table := t.table.interrupt t.alive (scanList 1 buf) } d' := by
  have hcond := hharmless d hkeeps.driver
  have hsound := hkeeps.sound.interrupt t.alive (scanList 1 buf)
  simp only [Driver.AnswersAlike, hkeeps.interruptflag] at hcond
  have hholds := hkeeps.holds.withFlag ((scanList 1 buf).headD t.table.interruptflag)
  obtain ⟨d', hsend, hholds', hevents, hflag, hfree⟩ :=
    hholds.sendSignalToSubscribers chainSizeFn t.alive
      ((scanList 1 buf).headD t.table.interruptflag) hkeeps.free
  have hsweep : ∀ i, SubscriberTable.sweep t.alive
      ((scanList 1 buf).headD t.table.interruptflag) i
        (t.table.entries.drop chainSizeFn) = (t.table.entries.drop chainSizeFn, []) :=
    fun i => SubscriberTable.sweep_of_forall i hcond
  have hsplit := SubscriberTable.sweep_append t.alive
    ((scanList 1 buf).headD t.table.interruptflag) 0
    (t.table.entries.take chainSizeFn) (t.table.entries.drop chainSizeFn)
  rw [List.take_append_drop, hsweep] at hsplit
  refine ⟨d', ?_, ?_, hfree, ?_, ?_, hsound⟩
  · simpa [Driver.interruptflagStore, hkeeps.interruptflag] using hsend
  · simp only [SubscriberTable.interrupt, hsplit]
    exact hholds'
  · simp only [SubscriberTable.interrupt, hsplit, hevents, hkeeps.events, List.append_nil]
  · simp [SubscriberTable.interrupt, hflag]

/-- A harmless write keeps the driver and the table alike. -/
theorem DriverKeeps.step
    {l : DriverLabel}
    (hkeeps : DriverKeeps t d)
    (hharmless : Harmless chainSizeFn t l)
    (hstep : t.driverStep chainSizeFn l = some t') :
    ∃ d', DriverKeeps t' d' := by
  cases l with
  | subscribe buf a holder =>
      simp only [DriverRun.driverStep, hkeeps.driver] at hstep
      split at hstep
      · rename_i hfresh
        obtain rfl := Option.some.inj hstep
        exact hkeeps.subscribeStep hharmless (by simpa using hfresh.1) (by simpa using hfresh.2)
      · cases hstep
  | interrupt buf =>
      simp only [DriverRun.driverStep, hkeeps.driver, Option.some.injEq] at hstep
      subst hstep
      exact hkeeps.interruptStep hharmless
  | processes alive =>
      simp only [DriverRun.driverStep, hkeeps.driver, Option.some.injEq] at hstep
      subst hstep
      exact ⟨d, { hkeeps with driver := rfl }⟩

/-- A write that adds an entry which the table does not add is noticed. -/
theorem DriverKeeps.not_driverOk_of_added
    (chainSizeFn : Nat) (buf : Bytes) (a : Nat) (holder : Nat × Holder Nat) (d' : Driver)
    (hkeeps : DriverKeeps t d)
    (ha : d.memory a = none)
    (hholder : d.subscribersList.heap.cells holder.1 = none)
    (hnew : (t.table.entries.take chainSizeFn).any
      (d.sigList.scan (scanList 3 buf)).sameActive = false)
    (hsame : t.table.subscribe (scanList 3 buf) = t.table) :
    ¬ DriverOk chainSizeFn
      { t with
        driver := d.intrsubscribeStore chainSizeFn buf a holder
        table := t.table.subscribe (scanList 3 buf) } d' := by
  intro hok
  by_cases hroom : t.table.entries.length < 2 ^ 31 - 1
  · obtain ⟨d'', hstore, hholds, -⟩ :=
      hkeeps.holds.intrsubscribeStore_new buf hkeeps.free ha hholder hnew hroom
    obtain rfl : d'' = d' := by
      have hdriver := hok.driver
      simp only [hstore] at hdriver
      exact Option.some.inj hdriver
    obtain ⟨nodes, hlinks, hmap, -⟩ := hok.entries
    obtain ⟨nodes', hlinks', hmap', -⟩ := hholds.entries
    obtain rfl := hlinks.unique hlinks'
    rw [hmap, hsame] at hmap'
    have hlength := congrArg List.length hmap'
    simp at hlength
  · have hnone := hkeeps.holds.intrsubscribeStore_full buf a holder hkeeps.free hnew (by omega)
    have hdriver := hok.driver
    simp [hnone] at hdriver

/-- A subscribe write that leaves the driver in order was answered like the table. -/
theorem DriverKeeps.subscribe_alike
    {buf : Bytes} {a : Nat} {holder : Nat × Holder Nat} {d' : Driver}
    (hkeeps : DriverKeeps t d)
    (hstep : t.driverStep chainSizeFn (.subscribe buf a holder) = some t')
    (hok : DriverOk chainSizeFn t' d') :
    d.AnswersAlike chainSizeFn t.table.entries (.subscribe buf a holder) := by
  simp only [DriverRun.driverStep, hkeeps.driver] at hstep
  split at hstep
  · rename_i hfresh
    obtain rfl := Option.some.inj hstep
    have hadded := hkeeps.not_driverOk_of_added chainSizeFn buf a holder d'
      (by simpa using hfresh.1) (by simpa using hfresh.2)
    simp only [Driver.AnswersAlike]
    split
    · rename_i hlength
      constructor
      · intro hany
        by_contra hnew
        refine hadded (by simpa using hnew) ?_ hok
        rw [subscribe_of_triple t.table d.sigList hlength, if_pos hany]
      · intro hnone
        by_contra hfull
        have hnew : (t.table.entries.take chainSizeFn).any
            (d.sigList.scan (scanList 3 buf)).sameActive = false := by
          rw [List.any_eq_false] at hnone ⊢
          exact fun x hx => hnone x (List.mem_of_mem_take hx)
        have hstore := hkeeps.holds.intrsubscribeStore_full buf a holder hkeeps.free hnew
          (by omega)
        have hdriver := hok.driver
        simp [hstore] at hdriver
    · rename_i hlength
      by_contra hnew
      exact hadded (by simpa using hnew) (subscribe_of_short t.table hlength) hok
  · cases hstep

/-- So was an interrupt. -/
theorem DriverKeeps.interrupt_alike
    {buf : Bytes} {d' : Driver}
    (hkeeps : DriverKeeps t d)
    (hstep : t.driverStep chainSizeFn (.interrupt buf) = some t')
    (hok : DriverOk chainSizeFn t' d') :
    d.AnswersAlike chainSizeFn t.table.entries (.interrupt buf) := by
  simp only [DriverRun.driverStep, hkeeps.driver, Option.some.injEq] at hstep
  subst hstep
  simp only [Driver.AnswersAlike, hkeeps.interruptflag]
  have hholds := hkeeps.holds.withFlag ((scanList 1 buf).headD t.table.interruptflag)
  obtain ⟨d'', hsend, -, hevents, -, -⟩ :=
    hholds.sendSignalToSubscribers chainSizeFn t.alive
      ((scanList 1 buf).headD t.table.interruptflag) hkeeps.free
  obtain rfl : d'' = d' := by
    have hdriver := hok.driver
    simp only [Driver.interruptflagStore, hkeeps.interruptflag] at hdriver
    rw [hsend] at hdriver
    exact Option.some.inj hdriver
  have hsplit := SubscriberTable.sweep_append t.alive
    ((scanList 1 buf).headD t.table.interruptflag) 0
    (t.table.entries.take chainSizeFn) (t.table.entries.drop chainSizeFn)
  rw [List.take_append_drop] at hsplit
  have hsame := hok.events
  simp only [SubscriberTable.interrupt, hsplit, hevents, hkeeps.events,
    List.append_cancel_left_eq, List.self_eq_append_right] at hsame
  exact (SubscriberTable.sweep_events_eq_nil_iff _ _).mp hsame

/-- A write after which the driver and the table are alike was harmless. -/
theorem DriverKeeps.harmless
    {l : DriverLabel} {d' : Driver}
    (hkeeps : DriverKeeps t d)
    (hstep : t.driverStep chainSizeFn l = some t')
    (hok : DriverOk chainSizeFn t' d') :
    Harmless chainSizeFn t l := by
  intro d₀ hd₀
  obtain rfl : d = d₀ := Option.some.inj
    (hkeeps.driver.symm.trans (Option.mem_def.mp hd₀))
  cases l with
  | subscribe buf a holder => exact hkeeps.subscribe_alike hstep hok
  | interrupt buf => exact hkeeps.interrupt_alike hstep hok
  | processes alive => trivial

/-- The driver has done what its two nodes promise in every state of a run if and
only if every write of the run is harmless. -/
theorem driverOk_run_iff
    (chainSizeFn : Nat) (alive : Int → Bool)
    (ls : List DriverLabel) (u : DriverRun)
    (hrun : run (DriverRun.driverStep chainSizeFn) (DriverRun.start alive) ls = some u) :
    (∀ pre t, pre <+: ls →
        run (DriverRun.driverStep chainSizeFn) (DriverRun.start alive) pre = some t →
        ∃ d, DriverOk chainSizeFn t d) ↔
      Meets (DriverRun.driverStep chainSizeFn) (Harmless chainSizeFn)
        (DriverRun.start alive) ls := by
  obtain ⟨d, hkeeps⟩ := driverKeeps_start alive
  exact forall_prefix_iff_meets
    (I := fun t => ∃ d, DriverKeeps t d)
    (fun _ _ _ ⟨_, hd⟩ hharmless hstep => hd.step hharmless hstep)
    (fun _ ⟨d, hd⟩ => ⟨d, hd.driverOk⟩)
    (fun _ _ _ ⟨_, hd⟩ hstep ⟨_, hok⟩ => hd.harmless hstep hok)
    ⟨d, hkeeps⟩ hrun

/-- Two subscriptions of `0,15,7` and `0,15,8`, the death of the process 7 and an
interrupt. -/
def sampleWrites : List DriverLabel :=
  [.subscribe [48, 44, 49, 53, 44, 55, 10] 100 (8, ⟨none, none, none⟩),
    .subscribe [48, 44, 49, 53, 44, 56, 10] 200 (16, ⟨none, none, none⟩),
    .processes fun pid => pid = 8,
    .interrupt [48, 10]]

theorem driverOk_run_iff_sampleWrites :
    ∃ u d,
      run (DriverRun.driverStep moduleAddr) (DriverRun.start fun _ => true) sampleWrites =
        some u ∧
      u.table.events = [.deactivated 0, .signalled 1 0 15 8] ∧
      DriverOk moduleAddr u d := by
  have hiff := driverOk_run_iff moduleAddr (fun _ => true) sampleWrites _ rfl
  obtain ⟨d, hok⟩ := hiff.mpr (by decide +kernel) sampleWrites _ List.prefix_rfl rfl
  exact ⟨_, d, rfl, rfl, hok⟩

/-- A subscription of `0,15,7`. -/
def firstWrite : DriverLabel :=
  .subscribe [48, 44, 49, 53, 44, 55, 10] 100 (8, ⟨none, none, none⟩)

/-- The text `4` after it subscribes the process 7 to the interrupt 4. -/
theorem not_driverOk_short :
    ∃ u,
      run (DriverRun.driverStep moduleAddr) (DriverRun.start fun _ => true)
        [firstWrite, .subscribe [52, 10] 200 (16, ⟨none, none, none⟩)] = some u ∧
      ¬ ∃ d, DriverOk moduleAddr u d := by
  refine ⟨_, rfl, ?_⟩
  rintro ⟨d, hok⟩
  obtain ⟨d₀, hstart⟩ := driverKeeps_start fun _ => true
  obtain ⟨t, hfirst⟩ : ∃ t,
      (DriverRun.start fun _ => true).driverStep moduleAddr firstWrite = some t := ⟨_, rfl⟩
  have hharmless : Harmless moduleAddr (DriverRun.start fun _ => true) firstWrite := by
    decide +kernel
  obtain ⟨d₁, hkeeps⟩ := hstart.step hharmless hfirst
  obtain rfl := Option.some.inj hfirst
  exact absurd (hkeeps.harmless
    (l := .subscribe [52, 10] 200 (16, ⟨none, none, none⟩)) rfl hok) (by decide +kernel)

end Runs

end Kmods
end BrBox
