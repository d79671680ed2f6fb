import BrBox.Lib.CxxText
import BrBox.Lib.LevelTree
import Mathlib.Data.List.Lex
import Mathlib.Data.Multiset.AddSub
import Mathlib.Data.Set.Card
import Mathlib.Order.Lattice

/-!
# The dictionary of lib-onion

`onion_dict` is a tree with levels, ordered by `strcmp` or `strcasecmp`; a key may be in it more
than once.  A block is what the dictionary has been given to free: the key or the value of a
call of `onion_dict_add`.  An entry keeps the bytes of its key, also behind its block: where a
dictionary owns a key that it holds more than once, the source may compare one that it has freed,
and only the blocks are followed here.

* `balanced_dictRun`: where no key is compared that has been freed, the form of the tree and its
  keys.
* `find_dictRun`: with one entry for each key, the answers of a map.
* `freed_dictRun`: each block is freed once or is still in the tree.
* `live_dictRun`: with one entry for each key, no entry has a block that has been freed.
* `toList_onionDictHardDup`: with one entry for each key, a copy has the same entries.
* `find_onionDictHardDup`: with one entry for each key, what a copy finds.
-/

namespace BrBox
namespace Onion

open CText
open CxxText

universe u

/-- `onion_dict_node_data`, with the number of the call that has added it. -/
structure DictNodeData (ν : Type u) where
  key : Bytes
  value : ν
  flags : UInt32
  call : Nat
deriving DecidableEq, Repr

/-- The blocks that a dictionary may have to free. -/
inductive DictBlock where
  | key (call : Nat)
  | value (call : Nat)
deriving DecidableEq, Repr

/-- The call that a block is from. -/
def DictBlock.call : DictBlock → Nat
  | .key n => n
  | .value n => n

/-- `OD_FREE_KEY` -/
def odFreeKey : UInt32 := 0x02

/-- `OD_FREE_VALUE` -/
def odFreeValue : UInt32 := 0x04

/-- `OD_DUP_ALL` -/
def odDupAll : UInt32 := 0x36

/-- `OD_REPLACE` -/
def odReplace : UInt32 := 0x40

/-- `OD_DICT` -/
def odDict : UInt32 := 0x100

variable {ν : Type u}

/-- A flag is set. -/
def DictNodeData.has (data : DictNodeData ν) (flag : UInt32) : Bool :=
  data.flags &&& flag ≠ 0

/-- `onion_dict_node_data_free`. -/
def DictNodeData.free (data : DictNodeData ν) : List DictBlock :=
  (if data.has odFreeKey then [.key data.call] else []) ++
    if data.has odFreeValue then [.value data.call] else []

/-- What `strcmp` or `strcasecmp` sees of a key. -/
def collate (icase : Bool) (key : Bytes) : List Nat :=
  (if icase then toLower key else key).map UInt8.toNat

/-- `cmp` of a dictionary. -/
def dictCmp (icase : Bool) (a b : Bytes) : Ordering :=
  if collate icase a < collate icase b then .lt
  else if collate icase a = collate icase b then .eq
  else .gt

/-- `onion_dict_find_node`. -/
def onionDictFindNode (icase : Bool) (key : Bytes) :
    LevelTree (DictNodeData ν) → Option (DictNodeData ν)
  | .nil => none
  | .node _ l data r =>
      match dictCmp icase key data.key with
      | .eq => some data
      | .lt => onionDictFindNode icase key l
      | .gt => onionDictFindNode icase key r

/-- `onion_dict_node_add`, with what it frees. -/
def onionDictNodeAdd (icase : Bool) (nnode : DictNodeData ν) :
    LevelTree (DictNodeData ν) → LevelTree (DictNodeData ν) × List DictBlock
  | .nil => (.node 1 .nil nnode .nil, [])
  | .node k l data r =>
      if dictCmp icase nnode.key data.key = .eq ∧ nnode.has odReplace = true then
        (.node k l nnode r, data.free)
      else if dictCmp icase nnode.key data.key = .lt then
        ((LevelTree.node k (onionDictNodeAdd icase nnode l).1 data r).skew.split,
          (onionDictNodeAdd icase nnode l).2)
      else
        ((LevelTree.node k l data (onionDictNodeAdd icase nnode r).1).skew.split,
          (onionDictNodeAdd icase nnode r).2)

/-- Data that has been moved to another node. -/
def DictNodeData.moved (data : DictNodeData ν) : DictNodeData ν :=
  { data with flags := 0 }

/-- `onion_dict_node_remove`, with what it frees. -/
def onionDictNodeRemove (icase : Bool) (key : Bytes) :
    LevelTree (DictNodeData ν) → LevelTree (DictNodeData ν) × List DictBlock
  | .nil => (.nil, [])
  | .node k l data r =>
      match dictCmp icase key data.key with
      | .lt =>
          ((LevelTree.node k (onionDictNodeRemove icase key l).1 data r).rebalance,
            (onionDictNodeRemove icase key l).2)
      | .gt =>
          ((LevelTree.node k l data (onionDictNodeRemove icase key r).1).rebalance,
            (onionDictNodeRemove icase key r).2)
      | .eq =>
          match l, r with
          | .nil, .nil => (.nil, data.free)
          | .nil, .node j b y c =>
              let t := LevelTree.firstOf b y
              let right := onionDictNodeRemove icase t.key
                ((LevelTree.node j b y c).mapFirst DictNodeData.moved)
              ((LevelTree.node k .nil t right.1).rebalance, data.free ++ right.2)
          | .node j a y b, r =>
              let t := LevelTree.lastOf y b
              let left := onionDictNodeRemove icase t.key
                ((LevelTree.node j a y b).mapLast DictNodeData.moved)
              ((LevelTree.node k left.1 t r).rebalance, data.free ++ left.2)
termination_by t => t.size
decreasing_by
  all_goals
    simp only [LevelTree.size_mapFirst, LevelTree.size_mapLast, LevelTree.size]
    omega

/-- `onion_dict`, with the blocks it has freed and the number of calls that have added. -/
structure OnionDict (ν : Type u) where
  root : LevelTree (DictNodeData ν)
  icase : Bool
  calls : Nat
  freed : List DictBlock

/-- `onion_dict_new`, with the flags of `onion_dict_set_flags`. -/
def onionDictNew (icase : Bool) : OnionDict ν where
  root := .nil
  icase := icase
  calls := 0
  freed := []

/-- `onion_dict_add`; a copy of a key or a value has the same content. -/
def onionDictAdd (d : OnionDict ν) (key : Bytes) (value : ν) (flags : UInt32) : OnionDict ν :=
  let added := onionDictNodeAdd d.icase
    { key := key, value := value, flags := flags, call := d.calls } d.root
  { d with root := added.1, calls := d.calls + 1, freed := d.freed ++ added.2 }

/-- `onion_dict_remove`. -/
def onionDictRemove (d : OnionDict ν) (key : Bytes) : OnionDict ν :=
  let removed := onionDictNodeRemove d.icase key d.root
  { d with root := removed.1, freed := d.freed ++ removed.2 }

/-- `onion_dict_get`. -/
def onionDictGet (d : OnionDict ν) (key : Bytes) : Option ν :=
  match onionDictFindNode d.icase key d.root with
  | some data => if data.has odDict then none else some data.value
  | none => none

/-- `onion_dict_get_dict`. -/
def onionDictGetDict (d : OnionDict ν) (key : Bytes) : Option ν :=
  match onionDictFindNode d.icase key d.root with
  | some data => if data.has odDict then some data.value else none
  | none => none

/-- `onion_dict_node_preorder`, with what the function makes of a state. -/
def onionDictNodePreorder {σ : Type u} (f : σ → DictNodeData ν → σ) :
    LevelTree (DictNodeData ν) → σ → σ
  | .nil, s => s
  | .node _ l data r, s =>
      onionDictNodePreorder f r (f (onionDictNodePreorder f l s) data)

/-- `onion_dict_count`. -/
def onionDictCount (d : OnionDict ν) : Nat :=
  d.root.size

/-- `onion_dict_hard_dup_helper`. -/
def onionDictHardDupHelper (copy : OnionDict ν) (data : DictNodeData ν) : OnionDict ν :=
  if data.has odDict then onionDictAdd copy data.key data.value (odDupAll ||| odDict)
  else onionDictAdd copy data.key data.value odDupAll

/-- `onion_dict_hard_dup`. -/
def onionDictHardDup (d : OnionDict ν) : OnionDict ν :=
  onionDictNodePreorder onionDictHardDupHelper d.root (onionDictNew false)

/-- `onion_dict_node_free`. -/
def onionDictNodeFree : LevelTree (DictNodeData ν) → List DictBlock
  | .nil => []
  | .node _ l data r => onionDictNodeFree l ++ onionDictNodeFree r ++ data.free

/-- A call that changes a dictionary. -/
inductive DictCall (ν : Type u) where
  | add (key : Bytes) (value : ν) (flags : UInt32)
  | remove (key : Bytes)
deriving DecidableEq, Repr

/-- One call. -/
def dictStep (d : OnionDict ν) : DictCall ν → OnionDict ν
  | .add key value flags => onionDictAdd d key value flags
  | .remove key => onionDictRemove d key

/-- Calls for a new dictionary. -/
def dictRun (icase : Bool) (calls : List (DictCall ν)) : OnionDict ν :=
  calls.foldl dictStep (onionDictNew icase)

section Equations

variable {icase : Bool}
variable {key : Bytes}
variable {data : DictNodeData ν}
variable {l r : LevelTree (DictNodeData ν)}
variable (k : Nat)

theorem dictCmp_eq_lt_iff
    (icase : Bool)
    (a b : Bytes) :
    dictCmp icase a b = .lt ↔ collate icase a < collate icase b := by
  rw [dictCmp]
  split_ifs with hlt heq
  · exact iff_of_true rfl hlt
  · exact iff_of_false (by decide) hlt
  · exact iff_of_false (by decide) hlt

theorem dictCmp_eq_eq_iff
    (icase : Bool)
    (a b : Bytes) :
    dictCmp icase a b = .eq ↔ collate icase a = collate icase b := by
  rw [dictCmp]
  split_ifs with hlt heq
  · exact iff_of_false (by decide) hlt.ne
  · exact iff_of_true rfl heq
  · exact iff_of_false (by decide) heq

theorem dictCmp_eq_gt_iff
    (icase : Bool)
    (a b : Bytes) :
    dictCmp icase a b = .gt ↔ collate icase b < collate icase a := by
  rw [dictCmp]
  split_ifs with hlt heq
  · exact iff_of_false (by decide) hlt.asymm
  · exact iff_of_false (by decide) heq.not_gt
  · exact iff_of_true rfl (lt_of_le_of_ne (not_lt.mp hlt) (Ne.symm heq))

theorem onionDictNodeRemove_lt
    (hcmp : dictCmp icase key data.key = .lt) :
    onionDictNodeRemove icase key (.node k l data r) =
      ((LevelTree.node k (onionDictNodeRemove icase key l).1 data r).rebalance,
        (onionDictNodeRemove icase key l).2) := by
  rw [onionDictNodeRemove.eq_def]
  simp only [hcmp]

theorem onionDictNodeRemove_gt
    (hcmp : dictCmp icase key data.key = .gt) :
    onionDictNodeRemove icase key (.node k l data r) =
      ((LevelTree.node k l data (onionDictNodeRemove icase key r).1).rebalance,
        (onionDictNodeRemove icase key r).2) := by
  rw [onionDictNodeRemove.eq_def]
  simp only [hcmp]

theorem onionDictNodeRemove_leaf
    (hcmp : dictCmp icase key data.key = .eq) :
    onionDictNodeRemove icase key (.node k .nil data .nil) = (.nil, data.free) := by
  rw [onionDictNodeRemove.eq_def]
  simp only [hcmp]

/-- The next data takes the place of the one that is removed. -/
theorem onionDictNodeRemove_first
    (hcmp : dictCmp icase key data.key = .eq)
    (j : Nat)
    (b : LevelTree (DictNodeData ν))
    (y : DictNodeData ν)
    (c : LevelTree (DictNodeData ν)) :
    onionDictNodeRemove icase key (.node k .nil data (.node j b y c)) =
      ((LevelTree.node k .nil (LevelTree.firstOf b y)
          (onionDictNodeRemove icase (LevelTree.firstOf b y).key
            ((LevelTree.node j b y c).mapFirst DictNodeData.moved)).1).rebalance,
        data.free ++
          (onionDictNodeRemove icase (LevelTree.firstOf b y).key
            ((LevelTree.node j b y c).mapFirst DictNodeData.moved)).2) := by
  rw [onionDictNodeRemove.eq_def]
  simp only [hcmp]

/-- The data in front takes the place of the one that is removed. -/
theorem onionDictNodeRemove_last
    (hcmp : dictCmp icase key data.key = .eq)
    (j : Nat)
    (a : LevelTree (DictNodeData ν))
    (y : DictNodeData ν)
    (b : LevelTree (DictNodeData ν)) :
    onionDictNodeRemove icase key (.node k (.node j a y b) data r) =
      ((LevelTree.node k
          (onionDictNodeRemove icase (LevelTree.lastOf y b).key
            ((LevelTree.node j a y b).mapLast DictNodeData.moved)).1
          (LevelTree.lastOf y b) r).rebalance,
        data.free ++
          (onionDictNodeRemove icase (LevelTree.lastOf y b).key
            ((LevelTree.node j a y b).mapLast DictNodeData.moved)).2) := by
  rw [onionDictNodeRemove.eq_def]
  simp only [hcmp]

end Equations

section Form

open LevelTree

variable (icase : Bool)

/-- A tree keeps its height or grows by one; with two children it has room. -/
theorem grown_onionDictNodeAdd
    (nnode : DictNodeData ν)
    (t : LevelTree (DictNodeData ν)) :
    (∀ k, Two k t → Balanced k (onionDictNodeAdd icase nnode t).1) ∧
      ∀ k, Balanced k t → Grown k (onionDictNodeAdd icase nnode t).1 := by
  induction t with
  | nil =>
      constructor
      · intro k htwo
        cases htwo
      · intro k hbalanced
        cases hbalanced with
        | nil =>
            exact .inr (.mk .nil .nil)
  | node k l data r ihl ihr =>
      have htwo : ∀ k', Two k' (.node k l data r) →
          Balanced k' (onionDictNodeAdd icase nnode (.node k l data r)).1 := by
        intro k' htwo
        cases htwo with
        | mk hl hr =>
            rw [onionDictNodeAdd]
            split_ifs
            · exact .two hl hr
            · exact grown_left_two (ihl.2 _ hl) hr
            · exact grown_right_two hl (ihr.2 _ hr)
      refine ⟨htwo, fun k' hbalanced => ?_⟩
      cases hbalanced with
      | two hl hr =>
          exact .inl (htwo _ (.mk hl hr))
      | three ha hb hc =>
          rw [onionDictNodeAdd]
          split_ifs
          · exact .inl (.three ha hb hc)
          · exact grown_left_three (ihl.2 _ ha) hb hc
          · exact grown_right_three ha (ihr.1 _ (.mk hb hc))

/-- A tree keeps its height or becomes lower by one; with three children it keeps it. -/
theorem shrunk_onionDictNodeRemove
    (key : Bytes)
    (t : LevelTree (DictNodeData ν)) :
    (∀ k, Two (k + 1) t → Lowered k (onionDictNodeRemove icase key t).1) ∧
      ∀ k, Balanced k t → Shrunk k (onionDictNodeRemove icase key t).1 := by
  induction key, t using onionDictNodeRemove.induct icase with
  | case1 key =>
      rw [onionDictNodeRemove]
      constructor
      · intro k htwo
        cases htwo
      · exact fun k hbalanced => .inl hbalanced
  | case2 key k l data r hcmp ih =>
      rw [onionDictNodeRemove_lt k hcmp]
      refine ⟨fun k' htwo => ?_, fun k' hbalanced => ?_⟩
      · cases htwo with
        | mk hl hr =>
            exact shrunk_left_two (ih.2 _ hl) hr
      · cases hbalanced with
        | two hl hr =>
            exact (shrunk_left_two (ih.2 _ hl) hr).shrunk
        | three ha hb hc =>
            exact .inl (shrunk_left_three (ih.2 _ ha) hb hc)
  | case3 key k l data r hcmp ih =>
      rw [onionDictNodeRemove_gt k hcmp]
      refine ⟨fun k' htwo => ?_, fun k' hbalanced => ?_⟩
      · cases htwo with
        | mk hl hr =>
            exact shrunk_right_two hl (ih.2 _ hr)
      · cases hbalanced with
        | two hl hr =>
            exact (shrunk_right_two hl (ih.2 _ hr)).shrunk
        | three ha hb hc =>
            exact .inl (shrunk_right_three ha (ih.1 _ (.mk hb hc)))
  | case4 key k data hcmp =>
      rw [onionDictNodeRemove_leaf k hcmp]
      refine ⟨fun k' htwo => ?_, fun k' hbalanced => ?_⟩
      · cases htwo with
        | mk hl hr =>
            exact .inr hl
      · cases hbalanced with
        | two hl hr =>
            exact .inr ⟨_, rfl, hl⟩
  | case5 key k data hcmp j b y c t ih =>
      rw [onionDictNodeRemove_first k hcmp]
      refine ⟨fun k' htwo => ?_, fun k' hbalanced => ?_⟩
      · cases htwo with
        | mk hl hr =>
            exact shrunk_right_two hl (ih.2 _ (hr.mapFirst _))
      · cases hbalanced with
        | two hl hr =>
            exact (shrunk_right_two hl (ih.2 _ (hr.mapFirst _))).shrunk
        | three ha hb hc =>
            have hright : Two _ (LevelTree.node _ b y c) := .mk hb hc
            exact .inl (shrunk_right_three ha (ih.1 _ (hright.mapFirst _)))
  | case6 key k data hcmp j a y b r t ih =>
      rw [onionDictNodeRemove_last k hcmp]
      refine ⟨fun k' htwo => ?_, fun k' hbalanced => ?_⟩
      · cases htwo with
        | mk hl hr =>
            exact shrunk_left_two (ih.2 _ (hl.mapLast _)) hr
      · cases hbalanced with
        | two hl hr =>
            exact (shrunk_left_two (ih.2 _ (hl.mapLast _)) hr).shrunk
        | three ha hb hc =>
            exact .inl (shrunk_left_three (ih.2 _ (ha.mapLast _)) hb hc)

end Form

section Keys

open LevelTree

variable {icase : Bool}

/-- The keys of a tree from left to right, as they are compared. -/
def keyList (icase : Bool) (t : LevelTree (DictNodeData ν)) : List (List Nat) :=
  t.toList.map fun data => collate icase data.key

@[simp] theorem keyList_node
    (k : Nat)
    (l : LevelTree (DictNodeData ν))
    (data : DictNodeData ν)
    (r : LevelTree (DictNodeData ν)) :
    keyList icase (.node k l data r) =
      keyList icase l ++ collate icase data.key :: keyList icase r := by
  simp [keyList]

@[simp] theorem keyList_rotated
    (t : LevelTree (DictNodeData ν)) :
    keyList icase t.skew.split = keyList icase t := by
  simp [keyList]

@[simp] theorem keyList_rebalance
    (t : LevelTree (DictNodeData ν)) :
    keyList icase t.rebalance = keyList icase t := by
  simp [keyList]

/-- The first key, and the keys of the tree that has given its first data away. -/
theorem exists_keyList_first
    (icase : Bool)
    (j : Nat)
    (b : LevelTree (DictNodeData ν))
    (y : DictNodeData ν)
    (c : LevelTree (DictNodeData ν)) :
    ∃ rest, keyList icase (.node j b y c) = collate icase (firstOf b y).key :: rest ∧
      keyList icase ((LevelTree.node j b y c).mapFirst DictNodeData.moved) =
        keyList icase (.node j b y c) := by
  obtain ⟨rest, hlist, hmap⟩ := exists_toList_first DictNodeData.moved j b y c
  refine ⟨rest.map fun data => collate icase data.key, ?_, ?_⟩
  · rw [keyList, hlist, List.map_cons]
  · rw [keyList, keyList, hlist, hmap, List.map_cons, List.map_cons]
    rfl

theorem exists_keyList_last
    (icase : Bool)
    (j : Nat)
    (a : LevelTree (DictNodeData ν))
    (y : DictNodeData ν)
    (b : LevelTree (DictNodeData ν)) :
    ∃ init, keyList icase (.node j a y b) = init ++ [collate icase (lastOf y b).key] ∧
      keyList icase ((LevelTree.node j a y b).mapLast DictNodeData.moved) =
        keyList icase (.node j a y b) := by
  obtain ⟨init, hlist, hmap⟩ := exists_toList_last DictNodeData.moved j a y b
  refine ⟨init.map fun data => collate icase data.key, ?_, ?_⟩
  · rw [keyList, hlist, List.map_append, List.map_singleton]
  · rw [keyList, keyList, hlist, hmap, List.map_append, List.map_append]
    rfl

/-- The keys are in order. -/
def InOrder (icase : Bool) (t : LevelTree (DictNodeData ν)) : Prop :=
  (keyList icase t).Pairwise (· ≤ ·)

/-- How often each key is there. -/
def keyBag (icase : Bool) (t : LevelTree (DictNodeData ν)) : Multiset (List Nat) :=
  keyList icase t

/-- A key is added, unless it replaces one that is there. -/
def addKey (replaces : Bool) (key : List Nat) (keys : Multiset (List Nat)) :
    Multiset (List Nat) :=
  if replaces = true ∧ key ∈ keys then keys else key ::ₘ keys

theorem mem_of_mem_addKey
    {replaces : Bool}
    {key q : List Nat}
    {keys : Multiset (List Nat)}
    (hmem : q ∈ addKey replaces key keys) :
    q = key ∨ q ∈ keys := by
  rw [addKey] at hmem
  split_ifs at hmem
  · exact .inr hmem
  · exact Multiset.mem_cons.mp hmem

theorem addKey_add_left
    {key : List Nat}
    {keys' : Multiset (List Nat)}
    (hother : key ∉ keys')
    (replaces : Bool)
    (keys : Multiset (List Nat)) :
    addKey replaces key (keys + keys') = addKey replaces key keys + keys' := by
  have hmem : key ∈ keys + keys' ↔ key ∈ keys := by
    rw [Multiset.mem_add, or_iff_left hother]
  rw [addKey, addKey]
  simp only [hmem]
  split_ifs
  · rfl
  · rw [Multiset.cons_add]

theorem addKey_add_right
    {replaces : Bool}
    {key : List Nat}
    {keys : Multiset (List Nat)}
    (hother : replaces = true → key ∉ keys)
    (keys' : Multiset (List Nat)) :
    addKey replaces key (keys + keys') = keys + addKey replaces key keys' := by
  have hmem : replaces = true ∧ key ∈ keys + keys' ↔ replaces = true ∧ key ∈ keys' := by
    rw [Multiset.mem_add]
    exact and_congr_right fun hreplaces => or_iff_right (hother hreplaces)
  rw [addKey, addKey]
  simp only [hmem]
  split_ifs
  · rfl
  · rw [Multiset.add_cons]

theorem inOrder_node
    {k : Nat}
    {l r : LevelTree (DictNodeData ν)}
    {data : DictNodeData ν} :
    InOrder icase (.node k l data r) ↔
      InOrder icase l ∧ InOrder icase r ∧ (∀ q ∈ keyBag icase l, q ≤ collate icase data.key) ∧
        ∀ q ∈ keyBag icase r, collate icase data.key ≤ q := by
  rw [InOrder, keyList_node, pairwise_middle]
  rfl

theorem keyBag_node
    (k : Nat)
    (l : LevelTree (DictNodeData ν))
    (data : DictNodeData ν)
    (r : LevelTree (DictNodeData ν)) :
    keyBag icase (.node k l data r) =
      keyBag icase l + ({collate icase data.key} + keyBag icase r) := by
  rw [keyBag, keyList_node, ← Multiset.coe_add, ← Multiset.cons_coe, ← Multiset.singleton_add]
  rfl

theorem keyBag_rotated
    (t : LevelTree (DictNodeData ν)) :
    keyBag icase t.skew.split = keyBag icase t := by
  rw [keyBag, keyList_rotated, keyBag]

theorem keyBag_rebalance
    (t : LevelTree (DictNodeData ν)) :
    keyBag icase t.rebalance = keyBag icase t := by
  rw [keyBag, keyList_rebalance, keyBag]

theorem inOrder_rotated
    (t : LevelTree (DictNodeData ν)) :
    InOrder icase t.skew.split ↔ InOrder icase t := by
  rw [InOrder, keyList_rotated, InOrder]

theorem inOrder_rebalance
    (t : LevelTree (DictNodeData ν)) :
    InOrder icase t.rebalance ↔ InOrder icase t := by
  rw [InOrder, keyList_rebalance, InOrder]

/-- A key is added at its place. -/
theorem keyBag_onionDictNodeAdd
    (nnode : DictNodeData ν)
    {t : LevelTree (DictNodeData ν)}
    (hsorted : InOrder icase t) :
    InOrder icase (onionDictNodeAdd icase nnode t).1 ∧
      keyBag icase (onionDictNodeAdd icase nnode t).1 =
        addKey (nnode.has odReplace) (collate icase nnode.key) (keyBag icase t) := by
  induction t with
  | nil =>
      rw [onionDictNodeAdd, addKey, if_neg (fun h => absurd h.2 (Multiset.notMem_zero _))]
      exact ⟨List.pairwise_singleton _ _, rfl⟩
  | node k l data r ihl ihr =>
      obtain ⟨hl, hr, hleft, hright⟩ := inOrder_node.mp hsorted
      rw [onionDictNodeAdd]
      split_ifs with hreplace hlt
      · -- the data of this node is replaced
        have hkey := (dictCmp_eq_eq_iff icase _ _).mp hreplace.1
        rw [keyBag_node, keyBag_node, inOrder_node, addKey, hkey, if_pos]
        · exact ⟨⟨hl, hr, hleft, hright⟩, rfl⟩
        · exact ⟨hreplace.2, Multiset.mem_add.mpr (.inr (Multiset.mem_add.mpr
            (.inl (Multiset.mem_singleton_self _))))⟩
      · have hkey := (dictCmp_eq_lt_iff icase _ _).mp hlt
        obtain ⟨hl', hbag⟩ := ihl hl
        have hother : collate icase nnode.key ∉
            ({collate icase data.key} + keyBag icase r : Multiset (List Nat)) := by
          rw [Multiset.mem_add, Multiset.mem_singleton, not_or]
          exact ⟨hkey.ne, fun h => absurd (hright _ h) (not_le.mpr hkey)⟩
        rw [inOrder_rotated, keyBag_rotated, inOrder_node, keyBag_node, keyBag_node, hbag,
          addKey_add_left hother]
        refine ⟨⟨hl', hr, fun q hq => ?_, hright⟩, rfl⟩
        rcases mem_of_mem_addKey hq with rfl | hq
        · exact hkey.le
        · exact hleft q hq
      · have hkey : collate icase data.key ≤ collate icase nnode.key := by
          rw [dictCmp_eq_lt_iff, not_lt] at hlt
          exact hlt
        obtain ⟨hr', hbag⟩ := ihr hr
        -- a key that replaces another one is not passed by
        have hpassed : nnode.has odReplace = true →
            collate icase data.key < collate icase nnode.key := by
          intro hreplaces
          refine lt_of_le_of_ne hkey fun h => hreplace ⟨?_, hreplaces⟩
          exact (dictCmp_eq_eq_iff icase _ _).mpr h.symm
        have hother : nnode.has odReplace = true → collate icase nnode.key ∉ keyBag icase l :=
          fun hreplaces h => absurd (hleft _ h) (not_le.mpr (hpassed hreplaces))
        have hroot : nnode.has odReplace = true →
            collate icase nnode.key ∉ ({collate icase data.key} : Multiset (List Nat)) := by
          intro hreplaces h
          exact (hpassed hreplaces).ne' (Multiset.mem_singleton.mp h)
        rw [inOrder_rotated, keyBag_rotated, inOrder_node, keyBag_node, keyBag_node, hbag,
          addKey_add_right hother, addKey_add_right hroot]
        refine ⟨⟨hl, hr', hleft, fun q hq => ?_⟩, rfl⟩
        rcases mem_of_mem_addKey hq with rfl | hq
        · exact hkey
        · exact hright q hq

/-- A key goes once, if it is there. -/
theorem keyBag_onionDictNodeRemove
    (key : Bytes)
    (t : LevelTree (DictNodeData ν))
    (hsorted : InOrder icase t) :
    InOrder icase (onionDictNodeRemove icase key t).1 ∧
      keyBag icase (onionDictNodeRemove icase key t).1 =
        (keyBag icase t).erase (collate icase key) := by
  induction key, t using onionDictNodeRemove.induct icase with
  | case1 key =>
      rw [onionDictNodeRemove]
      exact ⟨hsorted, rfl⟩
  | case2 key k l data r hcmp ih =>
      obtain ⟨hl, hr, hleft, hright⟩ := inOrder_node.mp hsorted
      obtain ⟨hl', hbag⟩ := ih hl
      have hkey := (dictCmp_eq_lt_iff icase _ _).mp hcmp
      have hother : collate icase key ∉
          ({collate icase data.key} + keyBag icase r : Multiset (List Nat)) := by
        rw [Multiset.mem_add, Multiset.mem_singleton, not_or]
        exact ⟨hkey.ne, fun h => absurd (hright _ h) (not_le.mpr hkey)⟩
      rw [onionDictNodeRemove_lt k hcmp, inOrder_rebalance, keyBag_rebalance, inOrder_node,
        keyBag_node, keyBag_node, hbag]
      refine ⟨⟨hl', hr, fun q hq => hleft q (Multiset.mem_of_mem_erase hq), hright⟩, ?_⟩
      rw [Multiset.erase_add_left_neg _ hother]
  | case3 key k l data r hcmp ih =>
      obtain ⟨hl, hr, hleft, hright⟩ := inOrder_node.mp hsorted
      obtain ⟨hr', hbag⟩ := ih hr
      have hkey := (dictCmp_eq_gt_iff icase _ _).mp hcmp
      have hother : collate icase key ∉ keyBag icase l :=
        fun h => absurd (hleft _ h) (not_le.mpr hkey)
      have hroot : collate icase key ∉ ({collate icase data.key} : Multiset (List Nat)) :=
        fun h => hkey.ne' (Multiset.mem_singleton.mp h)
      rw [onionDictNodeRemove_gt k hcmp, inOrder_rebalance, keyBag_rebalance, inOrder_node,
        keyBag_node, keyBag_node, hbag]
      refine ⟨⟨hl, hr', hleft, fun q hq => hright q (Multiset.mem_of_mem_erase hq)⟩, ?_⟩
      rw [Multiset.erase_add_right_neg _ hother, Multiset.erase_add_right_neg _ hroot]
  | case4 key k data hcmp =>
      have hkey := (dictCmp_eq_eq_iff icase _ _).mp hcmp
      rw [onionDictNodeRemove_leaf k hcmp, hkey]
      exact ⟨List.Pairwise.nil, (Multiset.erase_singleton _).symm⟩
  | case5 key k data hcmp j b y c t ih =>
      obtain ⟨hl, hr, hleft, hright⟩ := inOrder_node.mp hsorted
      have hkey := (dictCmp_eq_eq_iff icase _ _).mp hcmp
      obtain ⟨rest, hfirst, hmoved⟩ := exists_keyList_first icase j b y c
      have hsame : keyBag icase ((LevelTree.node j b y c).mapFirst DictNodeData.moved) =
          keyBag icase (.node j b y c) := by
        rw [keyBag, hmoved, keyBag]
      obtain ⟨hr', hbag⟩ := ih (by rw [InOrder, hmoved]; exact hr)
      rw [hsame] at hbag
      change _ = Multiset.erase _ (collate icase (firstOf b y).key) at hbag
      have hmem : collate icase (firstOf b y).key ∈ keyBag icase (.node j b y c) := by
        rw [keyBag, hfirst]
        exact List.mem_cons_self
      have hleast : ∀ q ∈ keyBag icase (.node j b y c),
          collate icase (firstOf b y).key ≤ q := by
        rw [InOrder, hfirst, List.pairwise_cons] at hr
        intro q hq
        rw [keyBag, hfirst] at hq
        rcases List.mem_cons.mp hq with rfl | hq
        · exact le_rfl
        · exact hr.1 q hq
      rw [onionDictNodeRemove_first k hcmp, inOrder_rebalance, keyBag_rebalance, inOrder_node,
        keyBag_node, keyBag_node, hbag, hkey]
      refine ⟨⟨List.Pairwise.nil, hr', fun q hq => absurd hq (Multiset.notMem_zero _),
        fun q hq => hleast q (Multiset.mem_of_mem_erase hq)⟩, ?_⟩
      rw [Multiset.singleton_add, Multiset.cons_erase hmem, Multiset.singleton_add]
      exact (Multiset.erase_cons_head _ _).symm
  | case6 key k data hcmp j a y b r t ih =>
      obtain ⟨hl, hr, hleft, hright⟩ := inOrder_node.mp hsorted
      have hkey := (dictCmp_eq_eq_iff icase _ _).mp hcmp
      obtain ⟨init, hlast, hmoved⟩ := exists_keyList_last icase j a y b
      have hsame : keyBag icase ((LevelTree.node j a y b).mapLast DictNodeData.moved) =
          keyBag icase (.node j a y b) := by
        rw [keyBag, hmoved, keyBag]
      obtain ⟨hl', hbag⟩ := ih (by rw [InOrder, hmoved]; exact hl)
      rw [hsame] at hbag
      change _ = Multiset.erase _ (collate icase (lastOf y b).key) at hbag
      have hmem : collate icase (lastOf y b).key ∈ keyBag icase (.node j a y b) := by
        rw [keyBag, hlast]
        exact List.mem_append_right _ List.mem_cons_self
      have hmost : ∀ q ∈ keyBag icase (.node j a y b), q ≤ collate icase (lastOf y b).key := by
        rw [InOrder, hlast, pairwise_middle] at hl
        intro q hq
        rw [keyBag, hlast] at hq
        rcases List.mem_append.mp hq with hq | hq
        · exact hl.2.2.1 q hq
        · rw [List.mem_singleton.mp hq]
      rw [onionDictNodeRemove_last k hcmp, inOrder_rebalance, keyBag_rebalance, inOrder_node,
        keyBag_node, keyBag_node, hbag, hkey]
      refine ⟨⟨hl', hr, fun q hq => hmost q (Multiset.mem_of_mem_erase hq),
        fun q hq => (hleft _ hmem).trans (hright q hq)⟩, ?_⟩
      rw [← Multiset.add_assoc, Multiset.add_comm _ {collate icase (lastOf y b).key},
        Multiset.singleton_add, Multiset.cons_erase hmem, Multiset.singleton_add,
        Multiset.add_cons, Multiset.erase_cons_head]

end Keys

section Distinct

open LevelTree

variable {icase : Bool}
variable {t : LevelTree (DictNodeData ν)}

/-- The keys are in order, and each is there once. -/
def Distinct (icase : Bool) (t : LevelTree (DictNodeData ν)) : Prop :=
  (keyList icase t).Pairwise (· < ·)

theorem distinct_iff :
    Distinct icase t ↔ InOrder icase t ∧ (keyBag icase t).Nodup := by
  rw [Distinct, InOrder, keyBag, Multiset.coe_nodup, List.Nodup, ← List.pairwise_and_iff]
  refine List.Pairwise.iff fun {a b} => ?_
  exact lt_iff_le_and_ne

theorem mem_keyList_of_mem
    {data : DictNodeData ν}
    (hmem : data ∈ t.toList) :
    collate icase data.key ∈ keyList icase t :=
  List.mem_map_of_mem hmem

theorem distinct_node
    {k : Nat}
    {l r : LevelTree (DictNodeData ν)}
    {data : DictNodeData ν}
    (hdistinct : Distinct icase (.node k l data r)) :
    Distinct icase l ∧ Distinct icase r ∧
      (∀ a ∈ l.toList, collate icase a.key < collate icase data.key) ∧
        ∀ b ∈ r.toList, collate icase data.key < collate icase b.key := by
  rw [Distinct, keyList_node, pairwise_middle] at hdistinct
  obtain ⟨hl, hr, hleft, hright⟩ := hdistinct
  exact ⟨hl, hr, fun a ha => hleft _ (mem_keyList_of_mem ha),
    fun b hb => hright _ (mem_keyList_of_mem hb)⟩

/-- What is found has the key. -/
theorem onionDictFindNode_sound
    {key : Bytes}
    {data : DictNodeData ν}
    (hfind : onionDictFindNode icase key t = some data) :
    data ∈ t.toList ∧ collate icase data.key = collate icase key := by
  induction t with
  | nil =>
      cases hfind
  | node k l x r ihl ihr =>
      rw [onionDictFindNode] at hfind
      rw [toList_node, List.mem_append, List.mem_cons]
      cases hcmp : dictCmp icase key x.key with
      | eq =>
          simp only [hcmp, Option.some.injEq] at hfind
          subst hfind
          exact ⟨.inr (.inl rfl), ((dictCmp_eq_eq_iff icase _ _).mp hcmp).symm⟩
      | lt =>
          simp only [hcmp] at hfind
          exact ⟨.inl (ihl hfind).1, (ihl hfind).2⟩
      | gt =>
          simp only [hcmp] at hfind
          exact ⟨.inr (.inr (ihr hfind).1), (ihr hfind).2⟩

/-- In a tree in order every key is found. -/
theorem onionDictFindNode_complete
    {key : Bytes}
    (hsorted : InOrder icase t)
    (hmem : collate icase key ∈ keyBag icase t) :
    (onionDictFindNode icase key t).isSome = true := by
  induction t with
  | nil =>
      exact absurd hmem (Multiset.notMem_zero _)
  | node k l x r ihl ihr =>
      obtain ⟨hl, hr, hleft, hright⟩ := inOrder_node.mp hsorted
      rw [keyBag_node, Multiset.mem_add, Multiset.mem_add, Multiset.mem_singleton] at hmem
      rw [onionDictFindNode]
      cases hcmp : dictCmp icase key x.key with
      | eq =>
          rfl
      | lt =>
          have hkey := (dictCmp_eq_lt_iff icase _ _).mp hcmp
          refine ihl hl ?_
          rcases hmem with hmem | hmem | hmem
          · exact hmem
          · exact absurd hmem hkey.ne
          · exact absurd (hright _ hmem) (not_le.mpr hkey)
      | gt =>
          have hkey := (dictCmp_eq_gt_iff icase _ _).mp hcmp
          refine ihr hr ?_
          rcases hmem with hmem | hmem | hmem
          · exact absurd (hleft _ hmem) (not_le.mpr hkey)
          · exact absurd hmem hkey.ne'
          · exact hmem

/-- With distinct keys an entry is found if and only if it is there. -/
theorem onionDictFindNode_eq_some_iff
    (hdistinct : Distinct icase t)
    (key : Bytes)
    (data : DictNodeData ν) :
    onionDictFindNode icase key t = some data ↔
      data ∈ t.toList ∧ collate icase data.key = collate icase key := by
  constructor
  · exact onionDictFindNode_sound
  · rintro ⟨hmem, hkey⟩
    obtain ⟨hsorted, hnodup⟩ := distinct_iff.mp hdistinct
    have hthere : collate icase key ∈ keyBag icase t := hkey ▸ mem_keyList_of_mem hmem
    obtain ⟨data', hfind⟩ := Option.isSome_iff_exists.mp
      (onionDictFindNode_complete hsorted hthere)
    obtain ⟨hmem', hkey'⟩ := onionDictFindNode_sound hfind
    rw [keyBag, Multiset.coe_nodup] at hnodup
    rw [hfind, List.inj_on_of_nodup_map hnodup hmem' hmem (hkey'.trans hkey.symm)]

/-- What is in front of the rest has changed, and the rest differs from what has gone. -/
theorem mem_left_part
    {l l' rest : List (DictNodeData ν)}
    {data : DictNodeData ν}
    {new differs : Prop}
    (hpart : data ∈ l' ↔ new ∨ data ∈ l ∧ differs)
    (hrest : data ∈ rest → differs) :
    data ∈ l' ++ rest ↔ new ∨ data ∈ l ++ rest ∧ differs := by
  rw [List.mem_append, List.mem_append, hpart]
  constructor
  · rintro ((hnew | ⟨hmem, hdiffers⟩) | hmem)
    · exact .inl hnew
    · exact .inr ⟨.inl hmem, hdiffers⟩
    · exact .inr ⟨.inr hmem, hrest hmem⟩
  · rintro (hnew | ⟨hmem | hmem, hdiffers⟩)
    · exact .inl (.inl hnew)
    · exact .inl (.inr ⟨hmem, hdiffers⟩)
    · exact .inr hmem

theorem mem_right_part
    {l l' rest : List (DictNodeData ν)}
    {data : DictNodeData ν}
    {new differs : Prop}
    (hpart : data ∈ l' ↔ new ∨ data ∈ l ∧ differs)
    (hrest : data ∈ rest → differs) :
    data ∈ rest ++ l' ↔ new ∨ data ∈ rest ++ l ∧ differs := by
  have hleft := mem_left_part hpart hrest
  rw [List.mem_append, or_comm, ← List.mem_append, hleft, List.mem_append, List.mem_append,
    or_comm (a := data ∈ l)]

/-- An entry that replaces another one, or has a new key. -/
theorem mem_onionDictNodeAdd
    (nnode : DictNodeData ν)
    (hdistinct : Distinct icase t)
    (hfresh : nnode.has odReplace = true ∨ collate icase nnode.key ∉ keyBag icase t)
    (data : DictNodeData ν) :
    data ∈ (onionDictNodeAdd icase nnode t).1.toList ↔
      data = nnode ∨ data ∈ t.toList ∧ collate icase data.key ≠ collate icase nnode.key := by
  induction t with
  | nil =>
      simp [onionDictNodeAdd]
  | node k l x r ihl ihr =>
      obtain ⟨hl, hr, hleft, hright⟩ := distinct_node hdistinct
      rw [keyBag_node, Multiset.mem_add, Multiset.mem_add, Multiset.mem_singleton, not_or,
        not_or] at hfresh
      rw [onionDictNodeAdd]
      split_ifs with hreplace hlt
      · have hkey := (dictCmp_eq_eq_iff icase _ _).mp hreplace.1
        -- the root goes, and the new entry takes its place
        have hroot : data ∈ [nnode] ↔ data = nnode ∨
            data ∈ [x] ∧ collate icase data.key ≠ collate icase nnode.key := by
          rw [List.mem_singleton, List.mem_singleton]
          refine (or_iff_left ?_).symm
          rintro ⟨rfl, hne⟩
          exact hne hkey.symm
        exact mem_right_part (mem_left_part hroot fun hmem => hkey ▸ (hright data hmem).ne')
          fun hmem => hkey ▸ (hleft data hmem).ne
      · have hkey := (dictCmp_eq_lt_iff icase _ _).mp hlt
        rw [toList_split, toList_skew, toList_node, toList_node]
        refine mem_left_part (ihl hl (hfresh.imp_right And.left)) fun hmem => ?_
        rcases List.mem_cons.mp hmem with rfl | hmem
        · exact hkey.ne'
        · exact (hkey.trans (hright data hmem)).ne'
      · have hkey : collate icase x.key < collate icase nnode.key := by
          rw [dictCmp_eq_lt_iff, not_lt] at hlt
          refine lt_of_le_of_ne hlt fun h => ?_
          rcases hfresh with hreplaces | hnew
          · exact hreplace ⟨(dictCmp_eq_eq_iff icase _ _).mpr h.symm, hreplaces⟩
          · exact hnew.2.1 h.symm
        rw [toList_split, toList_skew, toList_node, toList_node,
          List.append_cons l.toList x r.toList, List.append_cons l.toList x]
        refine mem_right_part (ihr hr (hfresh.imp_right fun h => h.2.2)) fun hmem => ?_
        rcases List.mem_append.mp hmem with hmem | hmem
        · exact ((hleft data hmem).trans hkey).ne
        · rw [List.mem_singleton.mp hmem]
          exact hkey.ne

/-- The entry with the key goes, and no other one. -/
theorem mem_onionDictNodeRemove
    (key : Bytes)
    (t : LevelTree (DictNodeData ν))
    (hdistinct : Distinct icase t)
    (data : DictNodeData ν) :
    data ∈ (onionDictNodeRemove icase key t).1.toList ↔
      data ∈ t.toList ∧ collate icase data.key ≠ collate icase key := by
  induction key, t using onionDictNodeRemove.induct icase with
  | case1 key =>
      rw [onionDictNodeRemove]
      exact iff_of_false List.not_mem_nil fun h => List.not_mem_nil h.1
  | case2 key k l x r hcmp ih =>
      obtain ⟨hl, hr, hleft, hright⟩ := distinct_node hdistinct
      have hkey := (dictCmp_eq_lt_iff icase _ _).mp hcmp
      rw [onionDictNodeRemove_lt k hcmp, toList_rebalance, toList_node, toList_node]
      refine (mem_left_part ((ih hl).trans (iff_of_eq (false_or _)).symm) fun hmem => ?_).trans
        (iff_of_eq (false_or _))
      rcases List.mem_cons.mp hmem with rfl | hmem
      · exact hkey.ne'
      · exact (hkey.trans (hright data hmem)).ne'
  | case3 key k l x r hcmp ih =>
      obtain ⟨hl, hr, hleft, hright⟩ := distinct_node hdistinct
      have hkey := (dictCmp_eq_gt_iff icase _ _).mp hcmp
      rw [onionDictNodeRemove_gt k hcmp, toList_rebalance, toList_node, toList_node,
        List.append_cons l.toList x r.toList, List.append_cons l.toList x]
      refine (mem_right_part ((ih hr).trans (iff_of_eq (false_or _)).symm) fun hmem => ?_).trans
        (iff_of_eq (false_or _))
      rcases List.mem_append.mp hmem with hmem | hmem
      · exact ((hleft data hmem).trans hkey).ne
      · rw [List.mem_singleton.mp hmem]
        exact hkey.ne
  | case4 key k x hcmp =>
      have hkey := (dictCmp_eq_eq_iff icase _ _).mp hcmp
      rw [onionDictNodeRemove_leaf k hcmp]
      refine iff_of_false List.not_mem_nil fun h => h.2 ?_
      rw [List.mem_singleton.mp h.1, hkey]
  | case5 key k x hcmp j b y c t ih =>
      obtain ⟨-, hr, -, hright⟩ := distinct_node hdistinct
      have hkey := (dictCmp_eq_eq_iff icase _ _).mp hcmp
      obtain ⟨rest, hlist, hmap⟩ := exists_toList_first DictNodeData.moved j b y c
      obtain ⟨-, -, hmoved⟩ := exists_keyList_first icase j b y c
      have hrest : ∀ a ∈ rest, collate icase a.key ≠ collate icase t.key := by
        rw [Distinct, keyList, hlist, List.map_cons, List.pairwise_cons] at hr
        exact fun a ha => (hr.1 _ (List.mem_map_of_mem ha)).ne'
      rw [onionDictNodeRemove_first k hcmp, toList_rebalance, toList_node, toList_nil,
        List.nil_append, List.mem_cons, ih (by rw [Distinct, hmoved]; exact hr), hmap,
        List.mem_cons, toList_node, toList_nil, List.nil_append, List.mem_cons]
      have hthis : ∀ a ∈ (LevelTree.node j b y c).toList,
          collate icase a.key ≠ collate icase key :=
        fun a ha => hkey ▸ (hright a ha).ne'
      rw [hlist] at hthis ⊢
      rw [List.mem_cons]
      constructor
      · rintro (rfl | ⟨rfl | hmem, hne⟩)
        · exact ⟨.inr (.inl rfl), hthis _ List.mem_cons_self⟩
        · exact absurd rfl hne
        · exact ⟨.inr (.inr hmem), hthis data (List.mem_cons_of_mem _ hmem)⟩
      · rintro ⟨rfl | hmem | hmem, hne⟩
        · exact absurd hkey.symm hne
        · exact .inl hmem
        · exact .inr ⟨.inr hmem, hrest data hmem⟩
  | case6 key k x hcmp j a y b r t ih =>
      obtain ⟨hl, -, hleft, hright⟩ := distinct_node hdistinct
      have hkey := (dictCmp_eq_eq_iff icase _ _).mp hcmp
      obtain ⟨init, hlist, hmap⟩ := exists_toList_last DictNodeData.moved j a y b
      obtain ⟨-, -, hmoved⟩ := exists_keyList_last icase j a y b
      have hinit : ∀ d ∈ init, collate icase d.key ≠ collate icase t.key := by
        rw [Distinct, keyList, hlist, List.map_append, List.pairwise_append] at hl
        exact fun d hd => (hl.2.2 _ (List.mem_map_of_mem hd) _ List.mem_cons_self).ne
      have hthis : ∀ d ∈ (LevelTree.node j a y b).toList,
          collate icase d.key ≠ collate icase key :=
        fun d hd => hkey ▸ (hleft d hd).ne
      have hother : ∀ d ∈ r.toList, collate icase d.key ≠ collate icase key :=
        fun d hd => hkey ▸ (hright d hd).ne'
      rw [onionDictNodeRemove_last k hcmp, toList_rebalance, toList_node, List.mem_append,
        ih (by rw [Distinct, hmoved]; exact hl), hmap, List.mem_append, List.mem_singleton,
        List.mem_cons, toList_node, List.mem_append, List.mem_cons]
      rw [hlist] at hthis ⊢
      rw [List.mem_append, List.mem_singleton]
      constructor
      · rintro (⟨hmem | rfl, hne⟩ | rfl | hmem)
        · exact ⟨.inl (.inl hmem), hthis data (List.mem_append_left _ hmem)⟩
        · exact absurd rfl hne
        · exact ⟨.inl (.inr rfl), hthis _ (List.mem_append_right _ List.mem_cons_self)⟩
        · exact ⟨.inr (.inr hmem), hother data hmem⟩
      · rintro ⟨(hmem | hmem) | rfl | hmem, hne⟩
        · exact .inl ⟨.inl hmem, hinit data hmem⟩
        · exact .inr (.inl hmem)
        · exact absurd hkey.symm hne
        · exact .inr (.inr hmem)

end Distinct

/-! ## Runs -/

/-- The keys behind a call. -/
def keysStep (icase : Bool) (keys : Multiset (List Nat)) : DictCall ν → Multiset (List Nat)
  | .add key _ flags => addKey (flags &&& odReplace ≠ 0) (collate icase key) keys
  | .remove key => keys.erase (collate icase key)

/-- What is stored under each key, with its flags. -/
def valuesStep (icase : Bool) (values : List Nat → Option (ν × UInt32)) :
    DictCall ν → List Nat → Option (ν × UInt32)
  | .add key value flags => Function.update values (collate icase key) (some (value, flags))
  | .remove key => Function.update values (collate icase key) none

/-- What is added replaces, or its key is not there. -/
def SingleKeys (icase : Bool) : (List Nat → Option (ν × UInt32)) → List (DictCall ν) → Prop
  | _, [] => True
  | values, call :: calls =>
      (match call with
        | .add key _ flags => flags &&& odReplace ≠ 0 ∨ values (collate icase key) = none
        | .remove _ => True) ∧
        SingleKeys icase (valuesStep icase values call) calls

/-- The key of an entry stays with the caller. -/
def DictCall.LendsKey : DictCall ν → Prop
  | .add _ _ flags => flags &&& odFreeKey = 0
  | .remove _ => True

/-- The dictionary owns no key, or what is added replaces or has a new key. -/
def KeysLive (icase : Bool) (calls : List (DictCall ν)) : Prop :=
  (∀ call ∈ calls, call.LendsKey) ∨ SingleKeys icase (fun _ => none) calls

/-- The blocks that the calls from this number on give to the dictionary. -/
def givenBlocks : Nat → List (DictCall ν) → List DictBlock
  | _, [] => []
  | n, .add key value flags :: calls =>
      ({ key := key, value := value, flags := flags, call := n : DictNodeData ν }).free ++
        givenBlocks (n + 1) calls
  | n, .remove _ :: calls => givenBlocks n calls

/-- The entries of a tree are those of the values, each under its own key. -/
structure Represents (d : OnionDict ν) (values : List Nat → Option (ν × UInt32)) : Prop where
  distinct : Distinct d.icase d.root
  entries : ∀ q p, values q = some p ↔
    ∃ data ∈ d.root.toList, collate d.icase data.key = q ∧ (data.value, data.flags) = p

/-- A dictionary answers as the values do. -/
structure DictAnswers (d : OnionDict ν) (values : List Nat → Option (ν × UInt32)) : Prop where
  get : ∀ key, onionDictGet d key =
    (values (collate d.icase key)).bind fun p =>
      if p.2 &&& odDict ≠ 0 then none else some p.1
  getDict : ∀ key, onionDictGetDict d key =
    (values (collate d.icase key)).bind fun p =>
      if p.2 &&& odDict ≠ 0 then some p.1 else none
  count : onionDictCount d = {q | (values q).isSome = true}.ncard
  visited : ∃ visited : List (DictNodeData ν),
    (∀ (σ : Type u) (f : σ → DictNodeData ν → σ) (s : σ),
      onionDictNodePreorder f d.root s = visited.foldl f s) ∧
      (visited.map fun data => collate d.icase data.key).Pairwise (· < ·) ∧
      ∀ q p, values q = some p ↔
        ∃ data ∈ visited, collate d.icase data.key = q ∧ (data.value, data.flags) = p

section Runs

open LevelTree

variable {icase : Bool}

/-- The form of the tree and its keys. -/
structure Formed (d : OnionDict ν) (keys : Multiset (List Nat)) : Prop where
  balanced : ∃ k, Balanced k d.root
  inOrder : InOrder d.icase d.root
  keys_eq : keyBag d.icase d.root = keys

theorem Formed.step
    {d : OnionDict ν}
    {keys : Multiset (List Nat)}
    (hformed : Formed d keys)
    (call : DictCall ν) :
    Formed (dictStep d call) (keysStep d.icase keys call) := by
  obtain ⟨⟨k, hbalanced⟩, hsorted, rfl⟩ := hformed
  cases call with
  | add key value flags =>
      obtain ⟨hsorted', hbag⟩ := keyBag_onionDictNodeAdd
        { key := key, value := value, flags := flags, call := d.calls } hsorted
      refine ⟨?_, hsorted', hbag⟩
      rcases (grown_onionDictNodeAdd d.icase
        { key := key, value := value, flags := flags, call := d.calls } d.root).2 k
        hbalanced with h | h
      · exact ⟨k, h⟩
      · exact ⟨k + 1, h.balanced⟩
  | remove key =>
      obtain ⟨hsorted', hbag⟩ := keyBag_onionDictNodeRemove key d.root hsorted
      refine ⟨?_, hsorted', hbag⟩
      rcases (shrunk_onionDictNodeRemove d.icase key d.root).2 k hbalanced with h | ⟨j, -, h⟩
      · exact ⟨k, h⟩
      · exact ⟨j, h⟩

theorem icase_dictStep
    (d : OnionDict ν)
    (call : DictCall ν) :
    (dictStep d call).icase = d.icase := by
  cases call <;> rfl

theorem Formed.foldl
    {d : OnionDict ν}
    {keys : Multiset (List Nat)}
    (hformed : Formed d keys)
    (calls : List (DictCall ν)) :
    Formed (calls.foldl dictStep d) (calls.foldl (keysStep d.icase) keys) ∧
      (calls.foldl dictStep d).icase = d.icase := by
  induction calls generalizing d keys with
  | nil =>
      exact ⟨hformed, rfl⟩
  | cons call calls ih =>
      have hrest := ih (hformed.step call)
      rw [icase_dictStep] at hrest
      exact hrest

theorem formed_dictRun
    (icase : Bool)
    (calls : List (DictCall ν)) :
    Formed (dictRun icase calls) (calls.foldl (keysStep icase) 0) ∧
      (dictRun icase calls).icase = icase := by
  have hnew : Formed (onionDictNew icase : OnionDict ν) 0 :=
    ⟨⟨0, .nil⟩, List.Pairwise.nil, rfl⟩
  exact hnew.foldl calls

/-- With distinct keys an entry is found if and only if it is represented. -/
theorem Represents.find
    {d : OnionDict ν}
    {values : List Nat → Option (ν × UInt32)}
    (hrepresents : Represents d values)
    (key : Bytes) :
    (onionDictFindNode d.icase key d.root).map (fun data => (data.value, data.flags)) =
      values (collate d.icase key) := by
  have hfind := onionDictFindNode_eq_some_iff hrepresents.distinct key
  ext p
  rw [hrepresents.entries, Option.map_eq_some_iff]
  constructor
  · rintro ⟨data, hdata, hp⟩
    obtain ⟨hmem, hkey⟩ := (hfind data).mp hdata
    exact ⟨data, hmem, hkey, hp⟩
  · rintro ⟨data, hmem, hkey, hp⟩
    exact ⟨data, (hfind data).mpr ⟨hmem, hkey⟩, hp⟩

theorem Represents.not_mem_keyBag
    {d : OnionDict ν}
    {values : List Nat → Option (ν × UInt32)}
    (hrepresents : Represents d values)
    {q : List Nat}
    (hnone : values q = none) :
    q ∉ keyBag d.icase d.root := by
  intro hmem
  obtain ⟨data, hdata, hkey⟩ := List.mem_map.mp hmem
  have hsome := (hrepresents.entries q (data.value, data.flags)).mpr ⟨data, hdata, hkey, rfl⟩
  rw [hnone] at hsome
  cases hsome

theorem Represents.add
    {d : OnionDict ν}
    {values : List Nat → Option (ν × UInt32)}
    (hrepresents : Represents d values)
    {key : Bytes}
    {flags : UInt32}
    (hfresh : flags &&& odReplace ≠ 0 ∨ values (collate d.icase key) = none)
    (value : ν) :
    Represents (onionDictAdd d key value flags)
      (Function.update values (collate d.icase key) (some (value, flags))) := by
  obtain ⟨hsorted, hnodup⟩ := distinct_iff.mp hrepresents.distinct
  have hnew : (decide (flags &&& odReplace ≠ 0)) = true ∨
      collate d.icase key ∉ keyBag d.icase d.root :=
    hfresh.imp decide_eq_true hrepresents.not_mem_keyBag
  obtain ⟨hsorted', hbag⟩ := keyBag_onionDictNodeAdd
    { key := key, value := value, flags := flags, call := d.calls } hsorted
  have hmem := mem_onionDictNodeAdd
    { key := key, value := value, flags := flags, call := d.calls }
    hrepresents.distinct hnew
  refine ⟨distinct_iff.mpr ⟨hsorted', ?_⟩, fun q p => ?_⟩
  · show (keyBag d.icase (onionDictNodeAdd _ _ _).1).Nodup
    rw [hbag, addKey]
    split_ifs with hthere
    · exact hnodup
    · refine Multiset.nodup_cons.mpr ⟨fun h => ?_, hnodup⟩
      rcases hnew with hreplaces | hother
      · exact hthere ⟨hreplaces, h⟩
      · exact hother h
  · show Function.update values _ _ q = some p ↔
      ∃ data ∈ (onionDictNodeAdd _ _ _).1.toList, _
    rw [Function.update_apply]
    simp only [hmem]
    split_ifs with hq
    · constructor
      · intro hp
        exact ⟨_, .inl rfl, hq.symm, Option.some.inj hp⟩
      · rintro ⟨data, rfl | ⟨-, hne⟩, hkey, hp⟩
        · rw [hp]
        · exact absurd (hkey.trans hq) hne
    · rw [hrepresents.entries]
      constructor
      · rintro ⟨data, hdata, hkey, hp⟩
        exact ⟨data, .inr ⟨hdata, fun h => hq (hkey.symm.trans h)⟩, hkey, hp⟩
      · rintro ⟨data, rfl | ⟨hdata, -⟩, hkey, hp⟩
        · exact absurd hkey.symm hq
        · exact ⟨data, hdata, hkey, hp⟩

theorem Represents.remove
    {d : OnionDict ν}
    {values : List Nat → Option (ν × UInt32)}
    (hrepresents : Represents d values)
    (key : Bytes) :
    Represents (onionDictRemove d key)
      (Function.update values (collate d.icase key) none) := by
  obtain ⟨hsorted, hnodup⟩ := distinct_iff.mp hrepresents.distinct
  obtain ⟨hsorted', hbag⟩ := keyBag_onionDictNodeRemove key d.root hsorted
  have hmem := mem_onionDictNodeRemove key d.root hrepresents.distinct
  refine ⟨distinct_iff.mpr ⟨hsorted', ?_⟩, fun q p => ?_⟩
  · show (keyBag d.icase (onionDictNodeRemove _ _ _).1).Nodup
    rw [hbag]
    exact hnodup.erase _
  · show Function.update values _ _ q = some p ↔
      ∃ data ∈ (onionDictNodeRemove _ _ _).1.toList, _
    rw [Function.update_apply]
    simp only [hmem]
    split_ifs with hq
    · refine iff_of_false (fun h => by cases h) ?_
      rintro ⟨data, ⟨-, hne⟩, hkey, -⟩
      exact hne (hkey.trans hq)
    · rw [hrepresents.entries]
      constructor
      · rintro ⟨data, hdata, hkey, hp⟩
        exact ⟨data, ⟨hdata, fun h => hq (hkey.symm.trans h)⟩, hkey, hp⟩
      · rintro ⟨data, ⟨hdata, -⟩, hkey, hp⟩
        exact ⟨data, hdata, hkey, hp⟩

/-- A call of a run with one entry for each key. -/
theorem Represents.step
    {d : OnionDict ν}
    {values : List Nat → Option (ν × UInt32)}
    (hrepresents : Represents d values)
    {call : DictCall ν}
    {calls : List (DictCall ν)}
    (hsingle : SingleKeys d.icase values (call :: calls)) :
    Represents (dictStep d call) (valuesStep d.icase values call) := by
  cases call with
  | add key value flags =>
      exact hrepresents.add hsingle.1 value
  | remove key =>
      exact hrepresents.remove key

theorem Represents.foldl
    {d : OnionDict ν}
    {values : List Nat → Option (ν × UInt32)}
    (hrepresents : Represents d values)
    {calls : List (DictCall ν)}
    (hsingle : SingleKeys d.icase values calls) :
    Represents (calls.foldl dictStep d) (calls.foldl (valuesStep d.icase) values) := by
  induction calls generalizing d values with
  | nil =>
      exact hrepresents
  | cons call calls ih =>
      have hrest := ih (hrepresents.step hsingle) (by rw [icase_dictStep]; exact hsingle.2)
      rw [icase_dictStep] at hrest
      exact hrest

theorem represents_onionDictNew :
    Represents (onionDictNew icase : OnionDict ν) fun _ => none where
  distinct := List.Pairwise.nil
  entries q p := by
    refine iff_of_false (fun h => by cases h) ?_
    rintro ⟨data, hdata, -⟩
    exact List.not_mem_nil hdata

theorem onionDictNodePreorder_eq
    {σ : Type u}
    (f : σ → DictNodeData ν → σ)
    (t : LevelTree (DictNodeData ν))
    (s : σ) :
    onionDictNodePreorder f t s = t.toList.foldl f s := by
  induction t generalizing s with
  | nil =>
      rfl
  | node k l x r ihl ihr =>
      rw [onionDictNodePreorder, ihl, ihr, toList_node, List.foldl_append, List.foldl_cons]

theorem Represents.ncard
    {d : OnionDict ν}
    {values : List Nat → Option (ν × UInt32)}
    (hrepresents : Represents d values) :
    onionDictCount d = {q | (values q).isSome = true}.ncard := by
  have hkeys : {q | (values q).isSome = true} = ↑(keyList d.icase d.root).toFinset := by
    ext q
    rw [Set.mem_ofPred_eq, List.coe_toFinset, Option.isSome_iff_exists]
    constructor
    · rintro ⟨p, hp⟩
      obtain ⟨data, hdata, rfl, -⟩ := (hrepresents.entries q p).mp hp
      exact mem_keyList_of_mem hdata
    · intro hmem
      obtain ⟨data, hdata, hkey⟩ := List.mem_map.mp hmem
      exact ⟨_, (hrepresents.entries q _).mpr ⟨data, hdata, hkey, rfl⟩⟩
  have hnodup := (distinct_iff.mp hrepresents.distinct).2
  rw [keyBag, Multiset.coe_nodup] at hnodup
  rw [hkeys, Set.ncard_coe_finset, List.toFinset_card_of_nodup hnodup, keyList,
    List.length_map, length_toList, onionDictCount]

theorem Represents.answers
    {d : OnionDict ν}
    {values : List Nat → Option (ν × UInt32)}
    (hrepresents : Represents d values) :
    DictAnswers d values where
  get key := by
    rw [← hrepresents.find, onionDictGet]
    cases onionDictFindNode d.icase key d.root with
    | none =>
        rfl
    | some data =>
        simp [DictNodeData.has]
  getDict key := by
    rw [← hrepresents.find, onionDictGetDict]
    cases onionDictFindNode d.icase key d.root with
    | none =>
        rfl
    | some data =>
        simp [DictNodeData.has]
  count := hrepresents.ncard
  visited :=
    ⟨d.root.toList, fun _ f s => onionDictNodePreorder_eq f d.root s, hrepresents.distinct,
      hrepresents.entries⟩

/--
In a run in which what is added replaces or is new, the dictionary answers as the map of the
values that have been stored last, and visits each key once and in order.
-/
theorem find_dictRun
    {calls : List (DictCall ν)}
    (hsingle : SingleKeys icase (fun _ => none) calls) :
    DictAnswers (dictRun icase calls) (calls.foldl (valuesStep icase) fun _ => none) := by
  exact (represents_onionDictNew.foldl hsingle).answers

/-- A key is added, replaced by one of another case, and one more is added without a copy. -/
def sampleDictCalls : List (DictCall Nat) :=
  [.add [65] 1 (odDupAll ||| odReplace), .add [97] 2 (odDupAll ||| odReplace), .add [66] 3 0]

theorem singleKeys_sample :
    SingleKeys true (fun _ => none) sampleDictCalls :=
  ⟨.inl (by decide), .inl (by decide), .inr (by decide), trivial⟩

theorem find_dictRun_sample :
    DictAnswers (dictRun true sampleDictCalls)
      (sampleDictCalls.foldl (valuesStep true) fun _ => none) :=
  find_dictRun singleKeys_sample

end Runs

section Blocks

open LevelTree

variable {icase : Bool}

/-- The blocks that the entries of a tree have to free. -/
def blocks (t : LevelTree (DictNodeData ν)) : Multiset DictBlock :=
  t.toList.flatMap DictNodeData.free

theorem blocks_node
    (k : Nat)
    (l : LevelTree (DictNodeData ν))
    (data : DictNodeData ν)
    (r : LevelTree (DictNodeData ν)) :
    blocks (.node k l data r) = blocks l + (data.free + blocks r) := by
  rw [blocks, toList_node, List.flatMap_append, List.flatMap_cons, ← Multiset.coe_add,
    ← Multiset.coe_add, ← blocks, ← blocks]

theorem blocks_rotated
    (t : LevelTree (DictNodeData ν)) :
    blocks t.skew.split = blocks t := by
  rw [blocks, toList_split, toList_skew, blocks]

theorem blocks_rebalance
    (t : LevelTree (DictNodeData ν)) :
    blocks t.rebalance = blocks t := by
  rw [blocks, toList_rebalance, blocks]

/-- Data that has been moved has nothing to free. -/
theorem free_moved
    (data : DictNodeData ν) :
    data.moved.free = [] := by
  simp [DictNodeData.free, DictNodeData.has, DictNodeData.moved]

theorem blocks_onionDictNodeAdd
    (nnode : DictNodeData ν)
    (t : LevelTree (DictNodeData ν)) :
    ((onionDictNodeAdd icase nnode t).2 : Multiset DictBlock) +
        blocks (onionDictNodeAdd icase nnode t).1 =
      blocks t + nnode.free := by
  induction t with
  | nil =>
      rw [onionDictNodeAdd, blocks_node]
      simp [blocks]
  | node k l data r ihl ihr =>
      rw [onionDictNodeAdd]
      split_ifs
      · rw [blocks_node, blocks_node]
        ac_rfl
      · rw [blocks_rotated, blocks_node, blocks_node, ← add_assoc, ihl]
        ac_rfl
      · rw [blocks_rotated, blocks_node, blocks_node, add_left_comm,
          add_left_comm _ (data.free : Multiset DictBlock), ihr]
        ac_rfl

/-- Whatever keys there are, a block is freed when its entry goes. -/
theorem blocks_onionDictNodeRemove
    (key : Bytes)
    (t : LevelTree (DictNodeData ν)) :
    ((onionDictNodeRemove icase key t).2 : Multiset DictBlock) +
        blocks (onionDictNodeRemove icase key t).1 =
      blocks t := by
  induction key, t using onionDictNodeRemove.induct icase with
  | case1 key =>
      rw [onionDictNodeRemove]
      rfl
  | case2 key k l data r hcmp ih =>
      rw [onionDictNodeRemove_lt k hcmp, blocks_rebalance, blocks_node, blocks_node,
        ← add_assoc, ih]
  | case3 key k l data r hcmp ih =>
      rw [onionDictNodeRemove_gt k hcmp, blocks_rebalance, blocks_node, blocks_node,
        add_left_comm, add_left_comm _ (data.free : Multiset DictBlock), ih]
  | case4 key k data hcmp =>
      rw [onionDictNodeRemove_leaf k hcmp, blocks_node]
      simp [blocks]
  | case5 key k data hcmp j b y c t ih =>
      obtain ⟨rest, hlist, hmap⟩ := exists_toList_first DictNodeData.moved j b y c
      -- the blocks of what is moved up are freed from its new place only
      have hmoved : blocks (.node j b y c) =
          t.free + blocks ((LevelTree.node j b y c).mapFirst DictNodeData.moved) := by
        rw [blocks, blocks, hlist, hmap, List.flatMap_cons, List.flatMap_cons, free_moved,
          List.nil_append, Multiset.coe_add]
      rw [onionDictNodeRemove_first k hcmp, blocks_rebalance, blocks_node, blocks_node,
        ← Multiset.coe_add, hmoved, ← ih]
      ac_rfl
  | case6 key k data hcmp j a y b r t ih =>
      obtain ⟨init, hlist, hmap⟩ := exists_toList_last DictNodeData.moved j a y b
      have hmoved : blocks (.node j a y b) =
          blocks ((LevelTree.node j a y b).mapLast DictNodeData.moved) + t.free := by
        rw [blocks, blocks, hlist, hmap, List.flatMap_append, List.flatMap_append,
          List.flatMap_singleton, List.flatMap_singleton, free_moved, List.append_nil,
          Multiset.coe_add]
      rw [onionDictNodeRemove_last k hcmp, blocks_rebalance, blocks_node, blocks_node,
        ← Multiset.coe_add, hmoved, ← ih]
      ac_rfl

/-- What has been given is freed or is in the tree. -/
structure Accounted (d : OnionDict ν) (given : Multiset DictBlock) : Prop where
  total : (d.freed : Multiset DictBlock) + blocks d.root = given
  early : ∀ block ∈ given, block.call < d.calls

theorem call_of_mem_free
    {data : DictNodeData ν}
    {block : DictBlock}
    (hmem : block ∈ data.free) :
    block.call = data.call := by
  rcases List.mem_append.mp hmem with hkey | hvalue
  · split_ifs at hkey
    · rw [List.mem_singleton.mp hkey, DictBlock.call]
    · exact absurd hkey List.not_mem_nil
  · split_ifs at hvalue
    · rw [List.mem_singleton.mp hvalue, DictBlock.call]
    · exact absurd hvalue List.not_mem_nil

theorem nodup_free
    (data : DictNodeData ν) :
    data.free.Nodup := by
  rw [DictNodeData.free]
  split_ifs <;> simp

theorem Accounted.add
    {d : OnionDict ν}
    {given : Multiset DictBlock}
    (haccounted : Accounted d given)
    (key : Bytes)
    (value : ν)
    (flags : UInt32) :
    Accounted (onionDictAdd d key value flags)
      (given + ({ key := key, value := value, flags := flags, call := d.calls :
        DictNodeData ν }).free) where
  total := by
    show ((d.freed ++ (onionDictNodeAdd d.icase _ d.root).2 : List DictBlock) :
        Multiset DictBlock) + blocks (onionDictNodeAdd d.icase _ d.root).1 = _
    rw [← Multiset.coe_add, add_assoc, blocks_onionDictNodeAdd, ← haccounted.total, add_assoc]
  early block hmem := by
    rcases Multiset.mem_add.mp hmem with hmem | hmem
    · exact (haccounted.early block hmem).trans (Nat.lt_succ_self _)
    · rw [call_of_mem_free hmem]
      exact Nat.lt_succ_self _

theorem Accounted.remove
    {d : OnionDict ν}
    {given : Multiset DictBlock}
    (haccounted : Accounted d given)
    (key : Bytes) :
    Accounted (onionDictRemove d key) given where
  total := by
    show ((d.freed ++ (onionDictNodeRemove d.icase key d.root).2 : List DictBlock) :
        Multiset DictBlock) + blocks (onionDictNodeRemove d.icase key d.root).1 = _
    rw [← Multiset.coe_add, add_assoc, blocks_onionDictNodeRemove, haccounted.total]
  early := haccounted.early

theorem Accounted.foldl
    {d : OnionDict ν}
    {given : Multiset DictBlock}
    (haccounted : Accounted d given)
    (calls : List (DictCall ν)) :
    Accounted (calls.foldl dictStep d) (given + givenBlocks d.calls calls) := by
  induction calls generalizing d given with
  | nil =>
      rw [givenBlocks, Multiset.coe_nil, add_zero]
      exact haccounted
  | cons call calls ih =>
      cases call with
      | add key value flags =>
          rw [givenBlocks, ← Multiset.coe_add, ← add_assoc]
          exact ih (haccounted.add key value flags)
      | remove key =>
          rw [givenBlocks]
          exact ih (haccounted.remove key)

theorem accounted_dictRun
    (icase : Bool)
    (calls : List (DictCall ν)) :
    Accounted (dictRun icase calls) (givenBlocks 0 calls) := by
  have hnew : Accounted (onionDictNew icase : OnionDict ν) 0 :=
    ⟨rfl, fun block hmem => absurd hmem (Multiset.notMem_zero block)⟩
  have hrun := hnew.foldl calls
  rw [zero_add] at hrun
  exact hrun

theorem le_call_of_mem_givenBlocks
    {n : Nat}
    {calls : List (DictCall ν)}
    {block : DictBlock}
    (hmem : block ∈ givenBlocks n calls) :
    n ≤ block.call := by
  induction calls generalizing n with
  | nil =>
      exact absurd hmem List.not_mem_nil
  | cons call calls ih =>
      cases call with
      | add key value flags =>
          rcases List.mem_append.mp hmem with hfree | hrest
          · exact (call_of_mem_free hfree).ge
          · exact Nat.le_of_succ_le (ih hrest)
      | remove key =>
          exact ih hmem

/-- The blocks of different calls are different. -/
theorem nodup_givenBlocks
    (n : Nat)
    (calls : List (DictCall ν)) :
    (givenBlocks n calls).Nodup := by
  induction calls generalizing n with
  | nil =>
      exact List.nodup_nil
  | cons call calls ih =>
      cases call with
      | add key value flags =>
          refine List.nodup_append'.mpr ⟨nodup_free _, ih (n + 1), fun block hfree hrest => ?_⟩
          have hlate := le_call_of_mem_givenBlocks hrest
          rw [call_of_mem_free hfree] at hlate
          exact absurd hlate (Nat.not_succ_le_self n)
      | remove key =>
          exact ih n

theorem blocks_eq_onionDictNodeFree
    (t : LevelTree (DictNodeData ν)) :
    blocks t = onionDictNodeFree t := by
  induction t with
  | nil =>
      rfl
  | node k l data r ihl ihr =>
      rw [blocks_node, onionDictNodeFree, ← Multiset.coe_add, ← Multiset.coe_add, ihl, ihr]
      ac_rfl

/-- The entries of a tree are as they have been added. -/
structure Original (d : OnionDict ν) (given : Multiset DictBlock) : Prop where
  early : ∀ data ∈ d.root.toList, data.call < d.calls
  owned : ∀ data ∈ d.root.toList, ∀ block : DictBlock, block.call = data.call →
    (block ∈ given ↔ block ∈ data.free)

theorem Original.step
    {d : OnionDict ν}
    {given : Multiset DictBlock}
    (horiginal : Original d given)
    (haccounted : Accounted d given)
    {values : List Nat → Option (ν × UInt32)}
    (hrepresents : Represents d values)
    {call : DictCall ν}
    {calls : List (DictCall ν)}
    (hsingle : SingleKeys d.icase values (call :: calls)) :
    Original (dictStep d call) (given + givenBlocks d.calls [call]) := by
  cases call with
  | add key value flags =>
      have hmem := mem_onionDictNodeAdd
        { key := key, value := value, flags := flags, call := d.calls }
        hrepresents.distinct (hsingle.1.imp decide_eq_true hrepresents.not_mem_keyBag)
      refine ⟨fun data hdata => ?_, fun data hdata block hblock => ?_⟩
      · rcases (hmem data).mp hdata with rfl | ⟨hdata, -⟩
        · exact Nat.lt_succ_self _
        · exact (horiginal.early data hdata).trans (Nat.lt_succ_self _)
      · rw [givenBlocks, givenBlocks, List.append_nil, Multiset.mem_add]
        rcases (hmem data).mp hdata with rfl | ⟨hdata, -⟩
        · refine or_iff_right fun hgiven => ?_
          exact absurd hblock (haccounted.early block hgiven).ne
        · rw [horiginal.owned data hdata block hblock]
          refine or_iff_left fun hfree => ?_
          have hcall := call_of_mem_free hfree
          exact absurd (hblock.symm.trans hcall) (horiginal.early data hdata).ne
  | remove key =>
      have hmem := mem_onionDictNodeRemove key d.root hrepresents.distinct
      rw [givenBlocks, givenBlocks, Multiset.coe_nil, add_zero]
      exact ⟨fun data hdata => horiginal.early data ((hmem data).mp hdata).1,
        fun data hdata => horiginal.owned data ((hmem data).mp hdata).1⟩

theorem Original.foldl
    {d : OnionDict ν}
    {given : Multiset DictBlock}
    (horiginal : Original d given)
    (haccounted : Accounted d given)
    {values : List Nat → Option (ν × UInt32)}
    (hrepresents : Represents d values)
    {calls : List (DictCall ν)}
    (hsingle : SingleKeys d.icase values calls) :
    Original (calls.foldl dictStep d) (given + givenBlocks d.calls calls) := by
  induction calls generalizing d given values with
  | nil =>
      rw [givenBlocks, Multiset.coe_nil, add_zero]
      exact horiginal
  | cons call calls ih =>
      have hstep := horiginal.step haccounted hrepresents hsingle
      have hrest := ih hstep (haccounted.foldl [call]) (hrepresents.step hsingle)
        (by rw [icase_dictStep]; exact hsingle.2)
      have hgiven : (givenBlocks d.calls [call] + givenBlocks (dictStep d call).calls calls :
          Multiset DictBlock) = givenBlocks d.calls (call :: calls) := by
        cases call with
        | add key value flags =>
            rw [givenBlocks, givenBlocks, givenBlocks, List.append_nil, Multiset.coe_add]
            rfl
        | remove key =>
            rw [givenBlocks, givenBlocks, givenBlocks, Multiset.coe_nil, zero_add]
            rfl
      rw [add_assoc, hgiven] at hrest
      exact hrest

/--
Each block that has been given is freed once, by a call or with the dictionary, also where keys
are there more than once.
-/
theorem freed_dictRun
    (icase : Bool)
    (calls : List (DictCall ν)) :
    ((dictRun icase calls).freed ++ onionDictNodeFree (dictRun icase calls).root).Perm
        (givenBlocks 0 calls) ∧
      (givenBlocks 0 calls).Nodup := by
  have htotal := (accounted_dictRun icase calls).total
  rw [blocks_eq_onionDictNodeFree, Multiset.coe_add] at htotal
  exact ⟨Multiset.coe_eq_coe.mp htotal, nodup_givenBlocks 0 calls⟩

/-- With one entry for each key the blocks of an entry are not freed. -/
theorem not_mem_freed
    {calls : List (DictCall ν)}
    (hsingle : SingleKeys icase (fun _ => none) calls)
    {data : DictNodeData ν}
    (hmem : data ∈ (dictRun icase calls).root.toList)
    {block : DictBlock}
    (hblock : block.call = data.call) :
    block ∉ (dictRun icase calls).freed := by
  intro hfreed
  have hnew : Accounted (onionDictNew icase : OnionDict ν) 0 :=
    ⟨rfl, fun block hmem => absurd hmem (Multiset.notMem_zero block)⟩
  have horiginal : Original (onionDictNew icase : OnionDict ν) 0 :=
    ⟨fun data hdata => absurd hdata List.not_mem_nil,
      fun data hdata => absurd hdata List.not_mem_nil⟩
  have howned := (horiginal.foldl hnew represents_onionDictNew hsingle).owned data hmem
  rw [zero_add] at howned
  have htotal := (accounted_dictRun icase calls).total
  have hnodup : (givenBlocks 0 calls : Multiset DictBlock).Nodup :=
    Multiset.coe_nodup.mpr (nodup_givenBlocks 0 calls)
  rw [← htotal, Multiset.nodup_add] at hnodup
  have hgiven : block ∈ (givenBlocks 0 calls : Multiset DictBlock) := by
    rw [← htotal]
    exact Multiset.mem_add.mpr (.inl hfreed)
  have hfree := (howned block hblock).mp hgiven
  exact Multiset.disjoint_left.mp hnodup.2.2 hfreed (List.mem_flatMap.mpr ⟨data, hmem, hfree⟩)

/-- Keys that are lent are not freed. -/
theorem key_not_mem_givenBlocks
    {calls : List (DictCall ν)}
    (hlent : ∀ call ∈ calls, call.LendsKey)
    (n m : Nat) :
    DictBlock.key m ∉ givenBlocks n calls := by
  induction calls generalizing n with
  | nil =>
      exact List.not_mem_nil
  | cons call calls ih =>
      have hrest := fun n => ih (fun call' hmem => hlent call' (List.mem_cons_of_mem call hmem)) n
      cases call with
      | add key value flags =>
          have hkeeps : flags &&& odFreeKey = 0 := hlent _ List.mem_cons_self
          rw [givenBlocks, List.mem_append, not_or]
          refine ⟨?_, hrest (n + 1)⟩
          simp [DictNodeData.free, DictNodeData.has, hkeeps]
      | remove key =>
          exact hrest n

/-- No entry has a key that has been freed. -/
theorem key_not_mem_freed
    {calls : List (DictCall ν)}
    (hlive : KeysLive icase calls)
    {data : DictNodeData ν}
    (hmem : data ∈ (dictRun icase calls).root.toList) :
    DictBlock.key data.call ∉ (dictRun icase calls).freed := by
  rcases hlive with hlent | hsingle
  · intro hfreed
    have hgiven : DictBlock.key data.call ∈ (givenBlocks 0 calls : Multiset DictBlock) := by
      rw [← (accounted_dictRun icase calls).total]
      exact Multiset.mem_add.mpr (.inl hfreed)
    exact key_not_mem_givenBlocks hlent 0 _ hgiven
  · exact not_mem_freed hsingle hmem rfl

/--
Where the dictionary owns no key, or holds each once, no entry has a key that has been freed: the
tree is balanced, its keys are in order and are those that have been added and not removed, and no
search goes deeper than twice the logarithm of their number.
-/
theorem balanced_dictRun
    {calls : List (DictCall ν)}
    (hlive : KeysLive icase calls) :
    (∀ data ∈ (dictRun icase calls).root.toList,
        DictBlock.key data.call ∉ (dictRun icase calls).freed) ∧
      (∃ k, Balanced k (dictRun icase calls).root) ∧ InOrder icase (dictRun icase calls).root ∧
      keyBag icase (dictRun icase calls).root = calls.foldl (keysStep icase) 0 ∧
      (dictRun icase calls).root.depth ≤
        2 * Nat.log 2 (onionDictCount (dictRun icase calls) + 1) := by
  obtain ⟨⟨⟨k, hbalanced⟩, hsorted, hkeys⟩, hicase⟩ := formed_dictRun icase calls
  rw [hicase] at hsorted hkeys
  exact ⟨fun data hmem => key_not_mem_freed hlive hmem, ⟨k, hbalanced⟩, hsorted, hkeys,
    depth_le_of_balanced hbalanced⟩

/-- A key that is lent twice, with two cases, and removed once. -/
theorem balanced_dictRun_sample :
    keyBag true (dictRun true [.add [65] 1 0, .add [97] 2 0, .remove [97]]).root = {[97]} := by
  have hlent : ∀ call ∈ [.add [65] 1 0, .add [97] 2 0, .remove [97]],
      (call : DictCall Nat).LendsKey := by
    intro call hmem
    rcases List.mem_cons.mp hmem with rfl | hmem
    · exact (by decide : (0 : UInt32) &&& odFreeKey = 0)
    · rcases List.mem_cons.mp hmem with rfl | hmem
      · exact (by decide : (0 : UInt32) &&& odFreeKey = 0)
      · rw [List.mem_singleton.mp hmem]
        exact trivial
  obtain ⟨-, -, -, hkeys, -⟩ := @balanced_dictRun Nat true _ (.inl hlent)
  rw [hkeys]
  decide

/-- With one entry for each key no entry has a key or a value that has been freed. -/
theorem live_dictRun
    {calls : List (DictCall ν)}
    (hsingle : SingleKeys icase (fun _ => none) calls)
    {data : DictNodeData ν}
    (hmem : data ∈ (dictRun icase calls).root.toList) :
    DictBlock.key data.call ∉ (dictRun icase calls).freed ∧
      DictBlock.value data.call ∉ (dictRun icase calls).freed :=
  ⟨not_mem_freed hsingle hmem rfl, not_mem_freed hsingle hmem rfl⟩

theorem live_dictRun_sample :
    (dictRun true sampleDictCalls).freed = [.key 0, .value 0] ∧
      DictBlock.key 1 ∉ (dictRun true sampleDictCalls).freed ∧
        DictBlock.value 1 ∉ (dictRun true sampleDictCalls).freed :=
  ⟨by decide, @live_dictRun _ _ _ singleKeys_sample
    { key := [97], value := 2, flags := odDupAll ||| odReplace, call := 1 } (by decide)⟩

end Blocks

section Copies

open LevelTree

/-- What an entry is for: its key, its value, and whether that is a dictionary. -/
def dictEntry (data : DictNodeData ν) : Bytes × ν × Bool :=
  (data.key, data.value, data.has odDict)

/-- A copy that has its own keys and values. -/
structure CopyOf (copy : OnionDict ν) (entries : List (DictNodeData ν)) : Prop where
  sensitive : copy.icase = false
  balanced : ∃ k, Balanced k copy.root
  inOrder : InOrder false copy.root
  owned : ∀ data ∈ copy.root.toList, data.has odFreeKey = true ∧ data.has odFreeValue = true
  same : (copy.root.toList.map dictEntry).Perm (entries.map dictEntry)
  sameOrder : (entries.map fun data => collate false data.key).Pairwise (· ≤ ·) →
    copy.root.toList.map dictEntry = entries.map dictEntry

variable {icase : Bool}

/-- What does not replace an entry is there besides the others. -/
theorem perm_onionDictNodeAdd
    (icase : Bool)
    {nnode : DictNodeData ν}
    (hkeeps : nnode.has odReplace = false)
    (t : LevelTree (DictNodeData ν)) :
    (onionDictNodeAdd icase nnode t).1.toList.Perm (nnode :: t.toList) := by
  induction t with
  | nil =>
      exact List.Perm.refl _
  | node k l data r ihl ihr =>
      rw [onionDictNodeAdd, if_neg (by rw [hkeeps]; exact fun h => Bool.false_ne_true h.2)]
      split_ifs
      · rw [toList_split, toList_skew, toList_node, toList_node]
        exact ihl.append_right _
      · rw [toList_split, toList_skew, toList_node, toList_node]
        have hswap : (l.toList ++ data :: nnode :: r.toList).Perm
            (l.toList ++ nnode :: data :: r.toList) :=
          (List.Perm.swap _ _ _).append_left _
        exact ((ihr.cons data).append_left _).trans (hswap.trans List.perm_middle)

/-- What comes behind all the others is the last one. -/
theorem toList_onionDictNodeAdd_last
    (icase : Bool)
    {nnode : DictNodeData ν}
    (hkeeps : nnode.has odReplace = false)
    {t : LevelTree (DictNodeData ν)}
    (hlast : ∀ data ∈ t.toList, collate icase data.key ≤ collate icase nnode.key) :
    (onionDictNodeAdd icase nnode t).1.toList = t.toList ++ [nnode] := by
  induction t with
  | nil =>
      rfl
  | node k l data r ihl ihr =>
      have hroot := hlast data (List.mem_append_right _ List.mem_cons_self)
      have hright : ∀ b ∈ r.toList, collate icase b.key ≤ collate icase nnode.key :=
        fun b hb => hlast b (List.mem_append_right _ (List.mem_cons_of_mem _ hb))
      rw [onionDictNodeAdd, if_neg (by rw [hkeeps]; exact fun h => Bool.false_ne_true h.2),
        if_neg (by rw [dictCmp_eq_lt_iff]; exact not_lt.mpr hroot), toList_split, toList_skew,
        toList_node, toList_node, ihr hright, List.append_assoc, List.cons_append]

/-- The flags of a copied entry. -/
def copyFlags (data : DictNodeData ν) : UInt32 :=
  if data.has odDict then odDupAll ||| odDict else odDupAll

/-- A copied entry. -/
def DictNodeData.copied (data : DictNodeData ν) (call : Nat) : DictNodeData ν :=
  { key := data.key, value := data.value, flags := copyFlags data, call := call }

theorem onionDictHardDupHelper_eq
    (copy : OnionDict ν)
    (data : DictNodeData ν) :
    onionDictHardDupHelper copy data =
      dictStep copy (.add data.key data.value (copyFlags data)) := by
  rw [onionDictHardDupHelper, copyFlags, dictStep]
  split_ifs <;> rfl

/-- A copied entry owns its key and its value, and replaces nothing. -/
theorem has_copied
    (data : DictNodeData ν)
    (n : Nat) :
    (data.copied n).has odReplace = false ∧ (data.copied n).has odFreeKey = true ∧
      (data.copied n).has odFreeValue = true ∧ dictEntry (data.copied n) = dictEntry data := by
  have hdictionary : (odDupAll ||| odDict) &&& odReplace = 0 ∧
      (odDupAll ||| odDict) &&& odFreeKey ≠ 0 ∧ (odDupAll ||| odDict) &&& odFreeValue ≠ 0 ∧
        (odDupAll ||| odDict) &&& odDict ≠ 0 := by
    decide
  have hstring : odDupAll &&& odReplace = 0 ∧ odDupAll &&& odFreeKey ≠ 0 ∧
      odDupAll &&& odFreeValue ≠ 0 ∧ odDupAll &&& odDict = 0 := by
    decide
  by_cases hdict : data.flags &&& odDict = 0
  · have hflags : copyFlags data = odDupAll := by
      simp [copyFlags, DictNodeData.has, hdict]
    simp [dictEntry, DictNodeData.copied, hflags, DictNodeData.has, hdict, hstring]
  · have hflags : copyFlags data = odDupAll ||| odDict := by
      simp [copyFlags, DictNodeData.has, hdict]
    simp [dictEntry, DictNodeData.copied, hflags, DictNodeData.has, hdict, hdictionary]

theorem perm_keys
    {t : LevelTree (DictNodeData ν)}
    {entries : List (DictNodeData ν)}
    (hsame : (t.toList.map dictEntry).Perm (entries.map dictEntry)) :
    (t.toList.map fun data => collate icase data.key).Perm
      (entries.map fun data => collate icase data.key) := by
  have hkeys := hsame.map fun entry => collate icase entry.1
  rw [List.map_map, List.map_map] at hkeys
  exact hkeys

/-- One more entry is copied. -/
theorem CopyOf.step
    {copy : OnionDict ν}
    {entries : List (DictNodeData ν)}
    (hcopy : CopyOf copy entries)
    (data : DictNodeData ν) :
    CopyOf (onionDictHardDupHelper copy data) (entries ++ [data]) := by
  obtain ⟨hkeeps, hkey, hvalue, hentry⟩ := has_copied data copy.calls
  have hperm := perm_onionDictNodeAdd copy.icase hkeeps copy.root
  have hformed : Formed copy (keyBag copy.icase copy.root) :=
    ⟨hcopy.balanced, hcopy.sensitive ▸ hcopy.inOrder, rfl⟩
  have hstep := hformed.step (.add data.key data.value (copyFlags data))
  rw [onionDictHardDupHelper_eq]
  refine ⟨hcopy.sensitive, hstep.balanced, ?_, fun data' hmem => ?_, ?_, fun hsorted => ?_⟩
  · have hsorted := hstep.inOrder
    rw [icase_dictStep, hcopy.sensitive] at hsorted
    exact hsorted
  · rcases List.mem_cons.mp (hperm.mem_iff.mp hmem) with rfl | hmem
    · exact ⟨hkey, hvalue⟩
    · exact hcopy.owned data' hmem
  · refine (hperm.map dictEntry).trans ?_
    rw [List.map_cons, hentry, List.map_append]
    exact (hcopy.same.cons _).trans (List.perm_append_singleton _ _).symm
  · rw [List.map_append, List.map_singleton, List.pairwise_append] at hsorted
    obtain ⟨hsorted, -, hlast⟩ := hsorted
    have hlist := toList_onionDictNodeAdd_last copy.icase (t := copy.root) hkeeps
      fun data' hmem => by
        have hmem' : collate false data'.key ∈ entries.map fun data => collate false data.key :=
          (perm_keys hcopy.same).mem_iff.mp (List.mem_map_of_mem hmem)
        rw [hcopy.sensitive]
        exact hlast _ hmem' _ (List.mem_singleton_self _)
    show (onionDictNodeAdd copy.icase (data.copied copy.calls) copy.root).1.toList.map
      dictEntry = _
    rw [hlist, List.map_append, List.map_append, List.map_singleton, List.map_singleton, hentry,
      hcopy.sameOrder hsorted]

/-- A copy of a dictionary in any state. -/
theorem copyOf_onionDictHardDup
    (d : OnionDict ν) :
    CopyOf (onionDictHardDup d) d.root.toList := by
  have hfold : ∀ entries : List (DictNodeData ν),
      CopyOf (entries.foldl onionDictHardDupHelper (onionDictNew false)) entries := by
    intro entries
    induction entries using List.reverseRecOn with
    | nil =>
        exact ⟨rfl, ⟨0, .nil⟩, List.Pairwise.nil,
          fun data hmem => absurd hmem List.not_mem_nil, List.Perm.refl _, fun _ => rfl⟩
    | append_singleton entries data ih =>
        rw [List.foldl_append]
        exact ih.step data
  rw [onionDictHardDup, onionDictNodePreorder_eq]
  exact hfold d.root.toList

theorem collate_false_injective :
    Function.Injective (collate false) := by
  intro a b heq
  exact List.map_injective_iff.mpr (fun c c' h => UInt8.toNat_inj.mp h) heq

theorem collate_eq_of_collate_false
    {a b : Bytes}
    (heq : collate false a = collate false b) :
    collate icase a = collate icase b := by
  rw [collate_false_injective heq]

/-- Keys that differ whatever their case differ. -/
theorem distinct_copy
    {copy : OnionDict ν}
    {t : LevelTree (DictNodeData ν)}
    (hcopy : CopyOf copy t.toList)
    (hdistinct : Distinct icase t) :
    Distinct false copy.root := by
  have hnodup : (keyList icase t).Nodup :=
    Multiset.coe_nodup.mp (distinct_iff.mp hdistinct).2
  refine distinct_iff.mpr ⟨hcopy.inOrder, ?_⟩
  rw [keyBag, Multiset.coe_nodup]
  refine (perm_keys hcopy.same).nodup_iff.mpr ?_
  refine List.Nodup.map_on (fun a ha b hb heq => ?_) (List.Nodup.of_map _ hnodup)
  exact List.inj_on_of_nodup_map hnodup ha hb (collate_eq_of_collate_false heq)

/--
With one entry for each key a copy is made of keys and values that have not been freed, with the
flags that have been stored last; it has the same entries, each with its own key and value, and
where case matters they are in the same order.
-/
theorem toList_onionDictHardDup
    {calls : List (DictCall ν)}
    (hsingle : SingleKeys icase (fun _ => none) calls) :
    (∀ data ∈ (dictRun icase calls).root.toList,
        DictBlock.key data.call ∉ (dictRun icase calls).freed ∧
          DictBlock.value data.call ∉ (dictRun icase calls).freed ∧
            calls.foldl (valuesStep icase) (fun _ => none) (collate icase data.key) =
              some (data.value, data.flags)) ∧
      CopyOf (onionDictHardDup (dictRun icase calls)) (dictRun icase calls).root.toList ∧
      (icase = false →
        (onionDictHardDup (dictRun icase calls)).root.toList.map dictEntry =
          (dictRun icase calls).root.toList.map dictEntry) := by
  have hcopy := copyOf_onionDictHardDup (dictRun icase calls)
  obtain ⟨hformed, hicase⟩ := formed_dictRun icase calls
  refine ⟨fun data hmem => ⟨not_mem_freed hsingle hmem rfl, not_mem_freed hsingle hmem rfl, ?_⟩,
    hcopy, fun hsensitive => hcopy.sameOrder ?_⟩
  · have hentries := (represents_onionDictNew.foldl hsingle).entries
    exact (hentries _ _).mpr ⟨data, hmem, congrArg (collate · data.key) hicase, rfl⟩
  · have hsorted := hformed.inOrder
    rw [hicase, hsensitive] at hsorted
    rw [hsensitive]
    exact hsorted

theorem toList_onionDictHardDup_sample :
    CopyOf (onionDictHardDup (dictRun true sampleDictCalls))
      (dictRun true sampleDictCalls).root.toList :=
  (toList_onionDictHardDup singleKeys_sample).2.1

/--
With one entry for each key a copy finds what the dictionary finds, if it has been added with
exactly this key: a copy of a dictionary without case looks at the case.
-/
theorem find_onionDictHardDup
    {calls : List (DictCall ν)}
    (hsingle : SingleKeys icase (fun _ => none) calls)
    (key : Bytes) :
    (onionDictFindNode false key (onionDictHardDup (dictRun icase calls)).root).map dictEntry =
      ((onionDictFindNode icase key (dictRun icase calls).root).filter
        fun data => data.key = key).map dictEntry := by
  have hcopy := copyOf_onionDictHardDup (dictRun icase calls)
  have hdistinct := (represents_onionDictNew.foldl hsingle).distinct
  change Distinct (dictRun icase calls).icase (dictRun icase calls).root at hdistinct
  rw [(formed_dictRun icase calls).2] at hdistinct
  have hfind := onionDictFindNode_eq_some_iff hdistinct key
  have hfindCopy := onionDictFindNode_eq_some_iff (distinct_copy hcopy hdistinct) key
  have hkey : ∀ data : DictNodeData ν, collate false data.key = collate false key ↔
      data.key = key := fun data => collate_false_injective.eq_iff
  ext entry
  have hsame := hcopy.same.mem_iff (a := entry)
  rw [List.mem_map, List.mem_map] at hsame
  rw [Option.map_eq_some_iff, Option.map_eq_some_iff]
  simp only [hfindCopy, hkey, Option.filter_eq_some_iff, hfind, decide_eq_true_eq]
  constructor
  · rintro ⟨data, ⟨hmem, hdata⟩, hentry⟩
    obtain ⟨data', hmem', hentry'⟩ := hsame.mp ⟨data, hmem, hentry⟩
    have hspelled : data'.key = key :=
      (congrArg Prod.fst (hentry'.trans hentry.symm)).trans hdata
    exact ⟨data', ⟨⟨hmem', by rw [hspelled]⟩, hspelled⟩, hentry'⟩
  · rintro ⟨data, ⟨⟨hmem, -⟩, hdata⟩, hentry⟩
    obtain ⟨data', hmem', hentry'⟩ := hsame.mpr ⟨data, hmem, hentry⟩
    exact ⟨data', ⟨hmem', (congrArg Prod.fst (hentry'.trans hentry.symm)).trans hdata⟩, hentry'⟩

theorem find_onionDictHardDup_sample :
    (onionDictFindNode false [65]
        (onionDictHardDup (dictRun true sampleDictCalls)).root).map dictEntry =
      ((onionDictFindNode true [65] (dictRun true sampleDictCalls).root).filter
        fun data => data.key = [65]).map dictEntry :=
  find_onionDictHardDup singleKeys_sample [65]

end Copies

end Onion
end BrBox
