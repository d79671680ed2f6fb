import Mathlib.Data.List.Nodup
import Mathlib.Logic.Function.Basic

/-!
# Doubly linked lists in a heap

Nodes with a data field and two links, stored in a heap of addresses.  Reading
or writing through a null or freed pointer is undefined behaviour; here such
an operation returns none.

A walk is bounded by the number of nodes that are allocated: a walk that is
longer than that has met a node twice and never ends, so it returns none too.
An operation that returns a value has therefore stayed inside allocated memory
and has terminated.

`Linked cells p nodes` says that the forward links from the node at `p` visit
exactly `nodes`, and that each node's backward link is its predecessor.  The
node at `p` is the list's base: it has no data of its own and its backward
link is never read.
-/

namespace BrBox
namespace LinkedHeap

universe u

/-- A node; a null link is none. -/
structure Node (α : Type u) where
  data : α
  prev : Option Nat
  next : Option Nat
deriving DecidableEq, Repr

/-- The memory and the number of blocks allocated in it. -/
structure Heap (α : Type u) where
  cells : Nat → Option (Node α)
  live : Nat

namespace Heap

variable {α : Type u}

/-- Allocate the block at a free address with the contents it happens to have. -/
def alloc (h : Heap α) (a : Nat) (n : Node α) : Option (Heap α) :=
  match h.cells a with
  | some _ => none
  | none =>
      some { cells := Function.update h.cells a (some n), live := h.live + 1 }

/-- Write through a pointer. -/
def modify (h : Heap α) (a : Nat) (f : Node α → Node α) : Option (Heap α) :=
  match h.cells a with
  | none => none
  | some n =>
      some { h with cells := Function.update h.cells a (some (f n)) }

/-- Return a block to the heap. -/
def free (h : Heap α) (a : Nat) : Option (Heap α) :=
  match h.cells a with
  | none => none
  | some _ =>
      some { cells := Function.update h.cells a none, live := h.live - 1 }

/-- Follow the forward links to the last node. -/
def lastFrom (h : Heap α) : (fuel : Nat) → Nat → Option Nat
  | 0, _ => none
  | fuel + 1, a =>
      match h.cells a with
      | none => none
      | some n =>
          match n.next with
          | none => some a
          | some b => lastFrom h fuel b

/-- Follow the forward links to the first node whose data has a property. -/
def findFrom (h : Heap α) (p : α → Bool) :
    (fuel : Nat) → Option Nat → Option (Option Nat)
  | _, none => some none
  | 0, some _ => none
  | fuel + 1, some a =>
      match h.cells a with
      | none => none
      | some n => if p n.data then some (some a) else findFrom h p fuel n.next

/-- Follow a number of forward links. -/
def advance (h : Heap α) : (count : Nat) → Option Nat → Option (Option Nat)
  | 0, q => some q
  | _ + 1, none => none
  | count + 1, some a =>
      match h.cells a with
      | none => none
      | some n => advance h count n.next

/-- Put a new block with its data behind the last node of a list. -/
def pushBack
    (h : Heap α) (p a : Nat) (contents : Node α) (d : α) : Option (Heap α) :=
  (h.alloc a contents).bind fun h₁ =>
  (h₁.modify a fun n => { n with data := d }).bind fun h₂ =>
  (h₂.lastFrom (h₂.live + 1) p).bind fun last =>
  (h₂.modify last fun n => { n with next := some a }).bind fun h₃ =>
  (h₃.modify a fun n => { n with prev := some last }).bind fun h₄ =>
  h₄.modify a fun n => { n with next := none }

/-- Take a node out of its list and free it. -/
def unlink (h : Heap α) (a : Nat) : Option (Heap α) :=
  (h.cells a).bind fun n =>
  n.prev.bind fun p =>
  (match n.next with
    | some b =>
        (h.modify p fun m => { m with next := some b }).bind fun h₁ =>
          h₁.modify b fun m => { m with prev := some p }
    | none => h.modify p fun m => { m with next := none }).bind fun h₂ =>
  h₂.free a

/-- Unlinking a last node. -/
theorem unlink_last
    {h : Heap α} {p a : Nat} {n m : Node α}
    (hpa : p ≠ a)
    (hp : h.cells p = some n) (ha : h.cells a = some m)
    (hprev : m.prev = some p) (hnext : m.next = none) :
    h.unlink a = some
      { cells := Function.update
          (Function.update h.cells p (some { n with next := none })) a none,
        live := h.live - 1 } := by
  simp [unlink, ha, hprev, hnext, modify, hp, free, hpa.symm]

/-- Unlinking a node with a successor. -/
theorem unlink_middle
    {h : Heap α} {p a b : Nat} {n m k : Node α}
    (hpa : p ≠ a) (hpb : p ≠ b) (hab : a ≠ b)
    (hp : h.cells p = some n) (ha : h.cells a = some m) (hb : h.cells b = some k)
    (hprev : m.prev = some p) (hnext : m.next = some b) :
    h.unlink a = some
      { cells := Function.update
          (Function.update
            (Function.update h.cells p (some { n with next := some b }))
            b (some { k with prev := some p })) a none,
        live := h.live - 1 } := by
  simp [unlink, ha, hprev, hnext, modify, hp, hb, free, hpa.symm, hpb.symm, hab]

end Heap

section Linked

variable {α : Type u}

/-- The nodes behind the one at an address, with their data. -/
def Linked (cells : Nat → Option (Node α)) : Nat → List (Nat × α) → Prop
  | p, [] => ∃ n, cells p = some n ∧ n.next = none
  | p, (a, d) :: nodes =>
      (∃ n, cells p = some n ∧ n.next = some a) ∧
      (∃ m, cells a = some m ∧ m.data = d ∧ m.prev = some p) ∧
      Linked cells a nodes

/-- The address of the last node. -/
def lastAddr : Nat → List (Nat × α) → Nat
  | p, [] => p
  | _, (a, _) :: nodes => lastAddr a nodes

variable {cells cells' : Nat → Option (Node α)}

/-- The base of a list is allocated. -/
theorem Linked.base
    {p : Nat} {nodes : List (Nat × α)}
    (hl : Linked cells p nodes) :
    ∃ n, cells p = some n ∧ n.next = nodes.head?.map Prod.fst := by
  cases nodes with
  | nil =>
      obtain ⟨n, hn, hnext⟩ := hl
      exact ⟨n, hn, by simp [hnext]⟩
  | cons x nodes =>
      obtain ⟨⟨n, hn, hnext⟩, -, -⟩ := hl
      exact ⟨n, hn, by simp [hnext]⟩

/-- A list depends on its own nodes and on the forward link of its base. -/
theorem Linked.congr
    {p : Nat} {nodes : List (Nat × α)}
    (hl : Linked cells p nodes)
    (hbase : ∀ n, cells p = some n → ∃ n', cells' p = some n' ∧ n'.next = n.next)
    (hnodes : ∀ x ∈ nodes.map Prod.fst, cells' x = cells x) :
    Linked cells' p nodes := by
  induction nodes generalizing p with
  | nil =>
      obtain ⟨n, hn, hnext⟩ := hl
      obtain ⟨n', hn', hsame⟩ := hbase n hn
      exact ⟨n', hn', hsame.trans hnext⟩
  | cons x nodes ih =>
      obtain ⟨a, d⟩ := x
      obtain ⟨⟨n, hn, hnext⟩, ⟨m, hm, hdata, hprev⟩, htail⟩ := hl
      obtain ⟨n', hn', hsame⟩ := hbase n hn
      have ha : cells' a = cells a := hnodes a (by simp)
      refine ⟨⟨n', hn', hsame.trans hnext⟩, ⟨m, ha.trans hm, hdata, hprev⟩, ?_⟩
      apply ih htail
      · intro k hk
        exact ⟨k, ha.trans hk, rfl⟩
      · intro y hy
        exact hnodes y (by simp [hy])

/-- Every node of a list is allocated. -/
theorem Linked.node
    {p : Nat} {nodes : List (Nat × α)}
    (hl : Linked cells p nodes)
    {x : Nat × α} (hx : x ∈ nodes) :
    ∃ m, cells x.1 = some m ∧ m.data = x.2 := by
  induction nodes generalizing p with
  | nil =>
      simp at hx
  | cons y nodes ih =>
      obtain ⟨-, ⟨m, hm, hdata, -⟩, htail⟩ := hl
      rcases List.mem_cons.mp hx with rfl | hx
      · exact ⟨m, hm, hdata⟩
      · exact ih htail hx

/-- The links determine the nodes. -/
theorem Linked.unique
    {p : Nat} {nodes nodes' : List (Nat × α)}
    (hl : Linked cells p nodes) (hl' : Linked cells p nodes') :
    nodes = nodes' := by
  induction nodes generalizing p nodes' with
  | nil =>
      obtain ⟨n, hn, hnext⟩ := hl
      cases nodes' with
      | nil =>
          rfl
      | cons y nodes' =>
          obtain ⟨⟨n', hn', hnext'⟩, -, -⟩ := hl'
          obtain rfl : n = n' := Option.some.inj (hn.symm.trans hn')
          rw [hnext] at hnext'
          cases hnext'
  | cons x nodes ih =>
      obtain ⟨a, d⟩ := x
      obtain ⟨⟨n, hn, hnext⟩, ⟨m, hm, rfl, -⟩, htail⟩ := hl
      cases nodes' with
      | nil =>
          obtain ⟨n', hn', hnext'⟩ := hl'
          obtain rfl : n = n' := Option.some.inj (hn.symm.trans hn')
          rw [hnext] at hnext'
          cases hnext'
      | cons y nodes' =>
          obtain ⟨b, e⟩ := y
          obtain ⟨⟨n', hn', hnext'⟩, ⟨m', hm', rfl, -⟩, htail'⟩ := hl'
          obtain rfl : n = n' := Option.some.inj (hn.symm.trans hn')
          obtain rfl : a = b := Option.some.inj (hnext.symm.trans hnext')
          obtain rfl : m = m' := Option.some.inj (hm.symm.trans hm')
          rw [ih htail htail']

/-- The last node is allocated. -/
theorem Linked.last
    {p : Nat} {nodes : List (Nat × α)}
    (hl : Linked cells p nodes) :
    ∃ n, cells (lastAddr p nodes) = some n := by
  induction nodes generalizing p with
  | nil =>
      obtain ⟨n, hn, -⟩ := hl
      exact ⟨n, hn⟩
  | cons x nodes ih =>
      obtain ⟨-, -, htail⟩ := hl
      exact ih htail

/-- The last node is the base or one of the nodes. -/
theorem lastAddr_mem
    (p : Nat) (nodes : List (Nat × α)) :
    lastAddr p nodes ∈ p :: nodes.map Prod.fst := by
  induction nodes generalizing p with
  | nil =>
      simp [lastAddr]
  | cons x nodes ih =>
      exact List.mem_cons_of_mem p (ih x.1)

/-- The walk to the end finds the last node. -/
theorem lastFrom_linked
    {h : Heap α} {p : Nat} {nodes : List (Nat × α)} {fuel : Nat}
    (hl : Linked h.cells p nodes)
    (hfuel : nodes.length < fuel) :
    h.lastFrom fuel p = some (lastAddr p nodes) := by
  induction nodes generalizing p fuel with
  | nil =>
      obtain ⟨n, hn, hnext⟩ := hl
      obtain ⟨k, rfl⟩ := Nat.exists_eq_succ_of_ne_zero (Nat.ne_of_gt hfuel)
      simp [Heap.lastFrom, hn, hnext, lastAddr]
  | cons x nodes ih =>
      obtain ⟨a, d⟩ := x
      obtain ⟨⟨n, hn, hnext⟩, -, htail⟩ := hl
      obtain ⟨k, rfl⟩ : ∃ k, fuel = k + 1 := ⟨fuel - 1, by omega⟩
      have hk : nodes.length < k := by
        simp only [List.length_cons] at hfuel
        omega
      simp [Heap.lastFrom, hn, hnext, lastAddr, ih htail hk]

/-- The searching walk finds the first node with the property. -/
theorem findFrom_linked
    {h : Heap α} {p : Nat} {nodes : List (Nat × α)} {fuel : Nat}
    (q : α → Bool)
    (hl : Linked h.cells p nodes)
    (hfuel : nodes.length ≤ fuel) :
    h.findFrom q fuel (nodes.head?.map Prod.fst) =
      some ((nodes.find? fun x => q x.2).map Prod.fst) := by
  induction nodes generalizing p fuel with
  | nil =>
      cases fuel <;> rfl
  | cons x nodes ih =>
      obtain ⟨a, d⟩ := x
      obtain ⟨-, ⟨m, hm, rfl, -⟩, htail⟩ := hl
      obtain ⟨k, rfl⟩ : ∃ k, fuel = k + 1 := ⟨fuel - 1, by simp at hfuel; omega⟩
      have hk : nodes.length ≤ k := by
        simp only [List.length_cons] at hfuel
        omega
      obtain ⟨m', hm', hnext⟩ := htail.base
      obtain rfl : m = m' := Option.some.inj (hm.symm.trans hm')
      by_cases hq : q m.data = true
      · simp [Heap.findFrom, hm, hq]
      · simp [Heap.findFrom, hm, hq, hnext, ih htail hk]

/-- The counting walk reaches the node at its position. -/
theorem advance_linked
    {h : Heap α} {p : Nat} {nodes : List (Nat × α)} {count : Nat}
    (hl : Linked h.cells p nodes)
    (hcount : count ≤ nodes.length) :
    h.advance count (nodes.head?.map Prod.fst) =
      some (nodes[count]?.map Prod.fst) := by
  induction count generalizing p nodes with
  | zero =>
      simp [Heap.advance, List.head?_eq_getElem?]
  | succ count ih =>
      cases nodes with
      | nil =>
          simp at hcount
      | cons x nodes =>
          obtain ⟨a, d⟩ := x
          obtain ⟨-, ⟨m, hm, -, -⟩, htail⟩ := hl
          obtain ⟨m', hm', hnext⟩ := htail.base
          obtain rfl : m = m' := Option.some.inj (hm.symm.trans hm')
          have hcount' : count ≤ nodes.length := by simpa using hcount
          simp [Heap.advance, hm, hnext, ih htail hcount']

/-- The counting walk that goes on behind the last node follows a null link. -/
theorem advance_linked_beyond
    {h : Heap α} {p : Nat} {nodes : List (Nat × α)} {count : Nat}
    (hl : Linked h.cells p nodes)
    (hcount : nodes.length < count) :
    h.advance count (nodes.head?.map Prod.fst) = none := by
  induction count generalizing p nodes with
  | zero =>
      simp at hcount
  | succ count ih =>
      cases nodes with
      | nil =>
          rfl
      | cons x nodes =>
          obtain ⟨a, d⟩ := x
          obtain ⟨-, ⟨m, hm, -, -⟩, htail⟩ := hl
          obtain ⟨m', hm', hnext⟩ := htail.base
          obtain rfl : m = m' := Option.some.inj (hm.symm.trans hm')
          have hcount' : nodes.length < count := by simpa using hcount
          simp [Heap.advance, hm, hnext, ih htail hcount']

/-- A block that is not allocated is none of the nodes. -/
theorem Linked.ne_of_free
    {p a : Nat} {nodes : List (Nat × α)}
    (hl : Linked cells p nodes) (hfree : cells a = none) :
    ∀ x ∈ p :: nodes.map Prod.fst, x ≠ a := by
  intro x hx heq
  rcases List.mem_cons.mp hx with rfl | hx
  · obtain ⟨n, hn, -⟩ := hl.base
    rw [heq, hfree] at hn
    cases hn
  · obtain ⟨y, hy, rfl⟩ := List.mem_map.mp hx
    obtain ⟨m, hm, -⟩ := hl.node hy
    rw [heq, hfree] at hm
    cases hm

/-- A new node behind the last one extends the list. -/
theorem Linked.append
    {p a : Nat} {d : α} {nodes : List (Nat × α)}
    (hl : Linked cells p nodes)
    (hnodup : (p :: nodes.map Prod.fst).Nodup)
    (hfresh : a ∉ p :: nodes.map Prod.fst)
    (hlast : ∀ n, cells (lastAddr p nodes) = some n →
      cells' (lastAddr p nodes) = some { n with next := some a })
    (hnew : cells' a = some { data := d, prev := some (lastAddr p nodes), next := none })
    (hframe : ∀ x, x ≠ lastAddr p nodes → x ≠ a → cells' x = cells x) :
    Linked cells' p (nodes ++ [(a, d)]) := by
  induction nodes generalizing p with
  | nil =>
      obtain ⟨n, hn, -⟩ := hl
      exact ⟨⟨_, hlast n hn, rfl⟩, ⟨_, hnew, rfl, rfl⟩, ⟨_, hnew, rfl⟩⟩
  | cons x nodes ih =>
      obtain ⟨b, e⟩ := x
      obtain ⟨⟨n, hn, hnext⟩, ⟨m, hm, hdata, hprev⟩, htail⟩ := hl
      have hpb : p ∉ b :: nodes.map Prod.fst := (List.nodup_cons.mp hnodup).1
      have hplast : p ≠ lastAddr b nodes := by
        intro heq
        exact hpb (heq ▸ lastAddr_mem b nodes)
      have hpa : p ≠ a := by
        intro heq
        exact hfresh (by simp [heq])
      refine ⟨⟨n, (hframe p hplast hpa).trans hn, hnext⟩, ?_, ?_⟩
      · by_cases hb : b = lastAddr b nodes
        · exact ⟨{ m with next := some a }, hb ▸ hlast m (hb ▸ hm), hdata, hprev⟩
        · refine ⟨m, (hframe b hb ?_).trans hm, hdata, hprev⟩
          intro heq
          exact hfresh (by simp [heq])
      · refine ih htail (List.nodup_cons.mp hnodup).2 ?_ hlast hnew hframe
        intro ha
        exact hfresh (List.mem_cons_of_mem p ha)

/-- What putting a block behind the last node leaves in the heap. -/
theorem pushBack_eq
    {h : Heap α} {p a : Nat} {nodes : List (Nat × α)} {n : Node α}
    (hl : Linked h.cells p nodes)
    (contents : Node α) (d : α)
    (hfree : h.cells a = none)
    (hlive : nodes.length ≤ h.live)
    (hn : h.cells (lastAddr p nodes) = some n) :
    h.pushBack p a contents d = some
      { cells := Function.update
          (Function.update
            (Function.update h.cells a (some { contents with data := d }))
            (lastAddr p nodes) (some { n with next := some a }))
          a (some { data := d, prev := some (lastAddr p nodes), next := none })
        live := h.live + 1 } := by
  have hout := hl.ne_of_free hfree
  have hlastne : lastAddr p nodes ≠ a := hout _ (lastAddr_mem p nodes)
  have halloc : h.alloc a contents =
      some { cells := Function.update h.cells a (some contents)
             live := h.live + 1 } := by
    simp [Heap.alloc, hfree]
  have hwalk : Linked
      (Function.update h.cells a (some { contents with data := d })) p nodes := by
    apply hl.congr
    · intro k hk
      exact ⟨k, by simp [hout p List.mem_cons_self, hk], rfl⟩
    · intro x hx
      simp [hout x (List.mem_cons_of_mem _ hx)]
  have hlast : Heap.lastFrom
      ⟨Function.update h.cells a (some { contents with data := d }), h.live + 1⟩
      (h.live + 1 + 1) p = some (lastAddr p nodes) :=
    lastFrom_linked hwalk (by omega)
  simp [Heap.pushBack, halloc, Heap.modify, hlast, hlastne, hlastne.symm, hn]

/-- Putting a block behind the last node extends the list. -/
theorem pushBack_linked
    {h : Heap α} {p a : Nat} {nodes : List (Nat × α)}
    (hl : Linked h.cells p nodes)
    (hnodup : (p :: nodes.map Prod.fst).Nodup)
    (contents : Node α) (d : α)
    (hfree : h.cells a = none)
    (hlive : nodes.length ≤ h.live) :
    ∃ h', h.pushBack p a contents d = some h' ∧ h'.live = h.live + 1 ∧
      Linked h'.cells p (nodes ++ [(a, d)]) ∧
      (p :: (nodes ++ [(a, d)]).map Prod.fst).Nodup := by
  have hout := hl.ne_of_free hfree
  have hlastne : lastAddr p nodes ≠ a := hout _ (lastAddr_mem p nodes)
  obtain ⟨n, hn⟩ := hl.last
  refine ⟨_, pushBack_eq hl contents d hfree hlive hn, rfl, ?_, ?_⟩
  · apply hl.append hnodup
    · intro hmem
      exact hout a hmem rfl
    · intro k hk
      obtain rfl : n = k := Option.some.inj (hn.symm.trans hk)
      simp [hlastne]
    · simp
    · intro x hxlast hxa
      simp [hxlast, hxa]
  · rw [List.map_append, ← List.cons_append]
    simp only [List.map_cons, List.map_nil]
    refine List.nodup_append'.mpr ⟨hnodup, by simp, ?_⟩
    intro x hx hxa
    exact hout x hx (by simpa using hxa)

/-- The first node unlinked when it is the last one too. -/
theorem unlink_only
    {h : Heap α} {p a : Nat} {d : α}
    (hl : Linked h.cells p [(a, d)]) (hpa : p ≠ a) :
    ∃ h', h.unlink a = some h' ∧ h'.live = h.live - 1 ∧
      Linked h'.cells p [] ∧
      (∀ n, h.cells p = some n →
        ∃ n', h'.cells p = some n' ∧ n'.data = n.data ∧ n'.prev = n.prev) ∧
      (∀ x, x ∉ [p, a] → h'.cells x = h.cells x) := by
  obtain ⟨⟨n, hn, hnext⟩, ⟨m, hm, hdata, hprev⟩, m', hm', hlast⟩ := hl
  obtain rfl : m = m' := Option.some.inj (hm.symm.trans hm')
  refine ⟨_, Heap.unlink_last hpa hn hm hprev hlast, rfl, ?_, ?_, ?_⟩
  · simp [Linked, hpa]
  · intro k hk
    obtain rfl : n = k := Option.some.inj (hn.symm.trans hk)
    exact ⟨{ n with next := none }, by simp [hpa], rfl, rfl⟩
  · intro x hx
    have hx' : x ≠ p ∧ x ≠ a := by simpa using hx
    simp [hx'.1, hx'.2]

/-- The first node unlinked when another one follows it. -/
theorem unlink_first
    {h : Heap α} {p a b : Nat} {d e : α} {post : List (Nat × α)}
    (hl : Linked h.cells p ((a, d) :: (b, e) :: post))
    (hnodup : (p :: a :: b :: post.map Prod.fst).Nodup) :
    ∃ h', h.unlink a = some h' ∧ h'.live = h.live - 1 ∧
      Linked h'.cells p ((b, e) :: post) ∧
      (∀ n, h.cells p = some n →
        ∃ n', h'.cells p = some n' ∧ n'.data = n.data ∧ n'.prev = n.prev) ∧
      (∀ x, x ∉ p :: a :: b :: post.map Prod.fst → h'.cells x = h.cells x) := by
  obtain ⟨⟨n, hn, hnext⟩, ⟨m, hm, hdata, hprev⟩,
    ⟨m', hm', hlink⟩, ⟨k, hk, hkdata, -⟩, hrest⟩ := hl
  obtain rfl : m = m' := Option.some.inj (hm.symm.trans hm')
  have hnodup' : (p ≠ a ∧ p ≠ b ∧ p ∉ post.map Prod.fst) ∧
      (a ≠ b ∧ a ∉ post.map Prod.fst) ∧ b ∉ post.map Prod.fst := by
    simp only [List.nodup_cons, List.mem_cons, not_or] at hnodup
    exact ⟨hnodup.1, hnodup.2.1, hnodup.2.2.1⟩
  obtain ⟨⟨hpa, hpb, hpp⟩, ⟨hab, hap⟩, hbp⟩ := hnodup'
  refine ⟨_, Heap.unlink_middle hpa hpb hab hn hm hk hprev hlink, rfl, ?_, ?_, ?_⟩
  · refine ⟨⟨{ n with next := some b }, by simp [hpa, hpb], rfl⟩,
      ⟨{ k with prev := some p }, by simp [hab.symm], hkdata, rfl⟩, ?_⟩
    apply hrest.congr
    · intro l hkl
      obtain rfl : k = l := Option.some.inj (hk.symm.trans hkl)
      exact ⟨{ k with prev := some p }, by simp [hab.symm], rfl⟩
    · intro x hx
      have hxa : x ≠ a := by
        rintro rfl
        exact hap hx
      have hxb : x ≠ b := by
        rintro rfl
        exact hbp hx
      have hxp : x ≠ p := by
        rintro rfl
        exact hpp hx
      simp [hxa, hxb, hxp]
  · intro l hl
    obtain rfl : n = l := Option.some.inj (hn.symm.trans hl)
    exact ⟨{ n with next := some b }, by simp [hpa, hpb], rfl, rfl⟩
  · intro x hx
    have hx' : x ≠ p ∧ x ≠ a ∧ x ≠ b := by
      simp only [List.mem_cons, not_or] at hx
      exact ⟨hx.1, hx.2.1, hx.2.2.1⟩
    simp [hx'.1, hx'.2.1, hx'.2.2]

/-- Unlinking takes one node out of the list. -/
theorem unlink_linked
    {h : Heap α} {p a : Nat} {d : α} {pre post : List (Nat × α)}
    (hl : Linked h.cells p (pre ++ (a, d) :: post))
    (hnodup : (p :: (pre ++ (a, d) :: post).map Prod.fst).Nodup) :
    ∃ h', h.unlink a = some h' ∧ h'.live = h.live - 1 ∧
      Linked h'.cells p (pre ++ post) ∧
      (∀ n, h.cells p = some n →
        ∃ n', h'.cells p = some n' ∧ n'.data = n.data ∧ n'.prev = n.prev) ∧
      (∀ x, x ∉ p :: (pre ++ (a, d) :: post).map Prod.fst →
        h'.cells x = h.cells x) := by
  induction pre generalizing p with
  | nil =>
      cases post with
      | nil =>
          refine unlink_only hl ?_
          rintro rfl
          simp at hnodup
      | cons y post => exact unlink_first hl hnodup
  | cons y pre ih =>
      obtain ⟨b, e⟩ := y
      obtain ⟨⟨n, hn, hnext⟩, ⟨m, hm, hdata, hprev⟩, htail⟩ := hl
      obtain ⟨hpout, hnodup'⟩ := List.nodup_cons.mp hnodup
      obtain ⟨h', hunlink, hlive, hl', hbase, hframe⟩ := ih htail hnodup'
      obtain ⟨m', hm', hdata', hprev'⟩ := hbase m hm
      have hp : h'.cells p = h.cells p := hframe p hpout
      refine ⟨h', hunlink, hlive, ?_, ?_, ?_⟩
      · exact ⟨⟨n, hp.trans hn, hnext⟩,
          ⟨m', hm', hdata'.trans hdata, hprev'.trans hprev⟩, hl'⟩
      · intro k hk
        exact ⟨k, hp.trans hk, rfl, rfl⟩
      · intro x hx
        exact hframe x fun hmem => hx (List.mem_cons_of_mem p hmem)

end Linked

end LinkedHeap
end BrBox
