import Mathlib.Algebra.Ring.Nat
import Mathlib.Data.Nat.Log
import Mathlib.Order.Defs.Unbundled
import Mathlib.Tactic.Common

/-!
# Trees with levels

Binary trees that keep a level in each node: a node together with its right child of the same
level stands for a node of a 2-3 tree.  `skew` and `split` are the two rotations that bring a
tree back into that form.

* `toList_skew`, `toList_split`, `toList_rebalance`: rotations keep the order of the data.
* `grown_left_two` to `grown_right_three`: a subtree that has grown.
* `shrunk_left_two` to `shrunk_right_three`: a subtree that has become lower.
* `depth_le_of_balanced`: the depth is logarithmic.
-/

namespace BrBox

universe u

/-- A binary tree with a level in each node. -/
inductive LevelTree (α : Type u) where
  | nil
  | node (level : Nat) (left : LevelTree α) (data : α) (right : LevelTree α)
deriving DecidableEq, Repr

namespace LevelTree

variable {α : Type u}

/-- The level of the root; there is nothing on level 0. -/
def level : LevelTree α → Nat
  | nil => 0
  | node k _ _ _ => k

/-- The data from left to right. -/
def toList : LevelTree α → List α
  | nil => []
  | node _ l x r => l.toList ++ x :: r.toList

/-- The number of nodes. -/
def size : LevelTree α → Nat
  | nil => 0
  | node _ l _ r => l.size + r.size + 1

/-- The length of the longest way down. -/
def depth : LevelTree α → Nat
  | nil => 0
  | node _ l _ r => max l.depth r.depth + 1

/-- A left child of the same level becomes the root. -/
def skew : LevelTree α → LevelTree α
  | node k (node j a y b) x r =>
      if j = k then node j a y (node k b x r) else node k (node j a y b) x r
  | t => t

/-- Of three nodes of the same level to the right the middle one becomes the root. -/
def split : LevelTree α → LevelTree α
  | node k l x (node j b y (node i c z d)) =>
      if k = i then node (j + 1) (node k l x b) y (node i c z d)
      else node k l x (node j b y (node i c z d))
  | t => t

/-- The right subtree is replaced. -/
def mapRight (f : LevelTree α → LevelTree α) : LevelTree α → LevelTree α
  | nil => nil
  | node k l x r => node k l x (f r)

/-- The root is no higher than this. -/
def lower (shouldBe : Nat) : LevelTree α → LevelTree α
  | nil => nil
  | node k l x r => if shouldBe < k then node shouldBe l x r else node k l x r

/-- A root that is too high goes down, and its right child with it. -/
def decreaseLevel : LevelTree α → LevelTree α
  | nil => nil
  | node k l x r =>
      if min l.level r.level + 1 < k then
        node (min l.level r.level + 1) l x (r.lower (min l.level r.level + 1))
      else
        node k l x r

/-- The rotations behind a removal. -/
def rebalance (t : LevelTree α) : LevelTree α :=
  mapRight split (split (mapRight (fun r => mapRight skew (skew r)) (skew (decreaseLevel t))))

/-- The first data of a tree with this left subtree and root. -/
def firstOf : LevelTree α → α → α
  | nil, x => x
  | node _ l y _, _ => firstOf l y

/-- The last data of a tree with this root and right subtree. -/
def lastOf (x : α) : LevelTree α → α
  | nil => x
  | node _ _ y r => lastOf y r

/-- The first data is changed. -/
def mapFirst (f : α → α) : LevelTree α → LevelTree α
  | nil => nil
  | node k nil x r => node k nil (f x) r
  | node k (node j a y b) x r => node k (mapFirst f (node j a y b)) x r

/-- The last data is changed. -/
def mapLast (f : α → α) : LevelTree α → LevelTree α
  | nil => nil
  | node k l x nil => node k l (f x) nil
  | node k l x (node j b y c) => node k l x (mapLast f (node j b y c))

section Order

@[simp] theorem toList_nil :
    (nil : LevelTree α).toList = [] := by
  rfl

@[simp] theorem toList_node
    (k : Nat)
    (l : LevelTree α)
    (x : α)
    (r : LevelTree α) :
    (node k l x r).toList = l.toList ++ x :: r.toList := by
  rfl

@[simp] theorem toList_skew
    (t : LevelTree α) :
    t.skew.toList = t.toList := by
  unfold skew
  split
  · split_ifs <;> simp
  · rfl

@[simp] theorem toList_split
    (t : LevelTree α) :
    t.split.toList = t.toList := by
  unfold split
  split
  · split_ifs <;> simp
  · rfl

theorem toList_mapRight
    {f : LevelTree α → LevelTree α}
    (hf : ∀ r, (f r).toList = r.toList)
    (t : LevelTree α) :
    (t.mapRight f).toList = t.toList := by
  cases t with
  | nil =>
      rfl
  | node k l x r =>
      simp [mapRight, hf]

@[simp] theorem toList_lower
    (n : Nat)
    (t : LevelTree α) :
    (t.lower n).toList = t.toList := by
  cases t with
  | nil =>
      rfl
  | node k l x r =>
      rw [lower]
      split_ifs <;> rfl

@[simp] theorem toList_decreaseLevel
    (t : LevelTree α) :
    t.decreaseLevel.toList = t.toList := by
  cases t with
  | nil =>
      rfl
  | node k l x r =>
      rw [decreaseLevel]
      split_ifs
      · rw [toList_node, toList_lower, toList_node]
      · rfl

@[simp] theorem toList_rebalance
    (t : LevelTree α) :
    t.rebalance.toList = t.toList := by
  rw [rebalance, toList_mapRight toList_split, toList_split, toList_mapRight, toList_skew,
    toList_decreaseLevel]
  intro r
  rw [toList_mapRight toList_skew, toList_skew]

theorem length_toList
    (t : LevelTree α) :
    t.toList.length = t.size := by
  induction t with
  | nil =>
      rfl
  | node k l x r ihl ihr =>
      rw [toList_node, List.length_append, List.length_cons, ihl, ihr, size]
      omega

/-- The first data of a tree in front of the others, changed or not. -/
theorem exists_toList_first
    (f : α → α)
    (k : Nat)
    (l : LevelTree α)
    (x : α)
    (r : LevelTree α) :
    ∃ rest, (node k l x r).toList = firstOf l x :: rest ∧
      ((node k l x r).mapFirst f).toList = f (firstOf l x) :: rest := by
  induction l generalizing k x r with
  | nil =>
      exact ⟨r.toList, rfl, rfl⟩
  | node j a y b iha ihb =>
      obtain ⟨rest, hlist, hmap⟩ := iha j y b
      refine ⟨rest ++ x :: r.toList, ?_, ?_⟩
      · rw [toList_node, hlist, firstOf, List.cons_append]
      · rw [mapFirst, toList_node, hmap, firstOf, List.cons_append]

/-- The last data of a tree behind the others, changed or not. -/
theorem exists_toList_last
    (f : α → α)
    (k : Nat)
    (l : LevelTree α)
    (x : α)
    (r : LevelTree α) :
    ∃ init, (node k l x r).toList = init ++ [lastOf x r] ∧
      ((node k l x r).mapLast f).toList = init ++ [f (lastOf x r)] := by
  induction r generalizing k x l with
  | nil =>
      exact ⟨l.toList, rfl, rfl⟩
  | node j b y c ihb ihc =>
      obtain ⟨init, hlist, hmap⟩ := ihc j b y
      refine ⟨l.toList ++ x :: init, ?_, ?_⟩
      · rw [toList_node, hlist, lastOf, List.append_assoc, List.cons_append]
      · rw [mapLast, toList_node, hmap, lastOf, List.append_assoc, List.cons_append]

@[simp] theorem size_mapFirst
    (f : α → α)
    (t : LevelTree α) :
    (t.mapFirst f).size = t.size := by
  induction t with
  | nil =>
      rfl
  | node k l x r ihl ihr =>
      cases l with
      | nil =>
          rfl
      | node j a y b =>
          rw [mapFirst, size, ihl]
          rfl

@[simp] theorem size_mapLast
    (f : α → α)
    (t : LevelTree α) :
    (t.mapLast f).size = t.size := by
  induction t with
  | nil =>
      rfl
  | node k l x r ihl ihr =>
      cases r with
      | nil =>
          rfl
      | node j b y c =>
          rw [mapLast, size, ihr]
          rfl

end Order

/-- A list is in order around one of its members. -/
theorem pairwise_middle
    {κ : Type u}
    {R : κ → κ → Prop}
    [IsTrans κ R]
    {l r : List κ}
    {x : κ} :
    (l ++ x :: r).Pairwise R ↔
      l.Pairwise R ∧ r.Pairwise R ∧ (∀ a ∈ l, R a x) ∧ ∀ b ∈ r, R x b := by
  rw [List.pairwise_append, List.pairwise_cons]
  constructor
  · rintro ⟨hl, ⟨hright, hr⟩, hacross⟩
    exact ⟨hl, hr, fun a ha => hacross a ha x List.mem_cons_self, hright⟩
  · rintro ⟨hl, hr, hleft, hright⟩
    refine ⟨hl, ⟨hright, hr⟩, fun a ha b hb => ?_⟩
    rcases List.mem_cons.mp hb with rfl | hb
    · exact hleft a ha
    · exact IsTrans.trans a x b (hleft a ha) (hright b hb)

/-- A 2-3 tree of this height, with nodes of two children and of three. -/
inductive Balanced : Nat → LevelTree α → Prop
  | nil : Balanced 0 nil
  | two {k : Nat} {l r : LevelTree α} {x : α} :
      Balanced k l → Balanced k r → Balanced (k + 1) (node (k + 1) l x r)
  | three {k : Nat} {a b c : LevelTree α} {x y : α} :
      Balanced k a → Balanced k b → Balanced k c →
        Balanced (k + 1) (node (k + 1) a x (node (k + 1) b y c))

/-- The root has two children. -/
inductive Two : Nat → LevelTree α → Prop
  | mk {k : Nat} {l r : LevelTree α} {x : α} :
      Balanced k l → Balanced k r → Two (k + 1) (node (k + 1) l x r)

/-- As high as it has been, or higher by one with a root of two children. -/
def Grown (k : Nat) (t : LevelTree α) : Prop :=
  Balanced k t ∨ Two (k + 1) t

/-- As high as it has been, or lower by one. -/
def Shrunk (k : Nat) (t : LevelTree α) : Prop :=
  Balanced k t ∨ ∃ j, k = j + 1 ∧ Balanced j t

/-- What a root of two children leaves: another one, or a tree that is lower. -/
def Lowered (k : Nat) (t : LevelTree α) : Prop :=
  Two (k + 1) t ∨ Balanced k t

section Balance

variable {k : Nat}
variable {l r a b c : LevelTree α}
variable {x y : α}

theorem Balanced.level_eq
    {t : LevelTree α}
    (hbalanced : Balanced k t) :
    t.level = k := by
  cases hbalanced <;> rfl

theorem Two.balanced
    {t : LevelTree α}
    (htwo : Two k t) :
    Balanced k t := by
  cases htwo with
  | mk hl hr =>
      exact .two hl hr

/-- Changes of the data leave the form of the tree. -/
theorem Balanced.mapFirst
    (f : α → α)
    {t : LevelTree α}
    (hbalanced : Balanced k t) :
    Balanced k (t.mapFirst f) := by
  induction hbalanced with
  | nil =>
      exact .nil
  | @two k l r x hl hr ihl ihr =>
      cases l with
      | nil =>
          exact .two hl hr
      | node j a y b =>
          exact .two ihl hr
  | @three k a b c x y ha hb hc iha ihb ihc =>
      cases a with
      | nil =>
          exact .three ha hb hc
      | node j a' z b' =>
          exact .three iha hb hc

theorem Balanced.mapLast
    (f : α → α)
    {t : LevelTree α}
    (hbalanced : Balanced k t) :
    Balanced k (t.mapLast f) := by
  induction hbalanced with
  | nil =>
      exact .nil
  | @two k l r x hl hr ihl ihr =>
      cases r with
      | nil =>
          exact .two hl hr
      | node j a y b =>
          exact .two hl ihr
  | @three k a b c x y ha hb hc iha ihb ihc =>
      cases c with
      | nil =>
          exact .three ha hb hc
      | node j a' z b' =>
          exact .three ha hb ihc

theorem Two.mapFirst
    (f : α → α)
    {t : LevelTree α}
    (htwo : Two k t) :
    Two k (t.mapFirst f) := by
  cases htwo with
  | @mk k l r x hl hr =>
      cases l with
      | nil =>
          exact .mk hl hr
      | node j a y b =>
          exact .mk (hl.mapFirst f) hr

/-- A left child below does not rotate. -/
theorem skew_of_level_lt
    (hlevel : l.level < k) :
    (node k l x r).skew = node k l x r := by
  cases l with
  | nil =>
      rfl
  | node j a y b =>
      have hne : j ≠ k := Nat.ne_of_lt hlevel
      rw [skew, if_neg hne]

theorem skew_of_balanced
    {t : LevelTree α}
    (hbalanced : Balanced k t) :
    t.skew = t := by
  cases hbalanced with
  | nil =>
      rfl
  | two hl hr =>
      exact skew_of_level_lt (by rw [hl.level_eq]; omega)
  | three ha hb hc =>
      exact skew_of_level_lt (by rw [ha.level_eq]; omega)

theorem split_of_level_lt
    {j : Nat}
    (hlevel : c.level < k) :
    (node k l x (node j b y c)).split = node k l x (node j b y c) := by
  cases c with
  | nil =>
      rfl
  | node i d z e =>
      have hne : k ≠ i := Nat.ne_of_gt hlevel
      rw [split, if_neg hne]

/-- A right subtree that is balanced and below. -/
theorem split_of_balanced_lt
    {j : Nat}
    (hr : Balanced j r)
    (hj : j ≤ k) :
    (node (k + 1) l x r).split = node (k + 1) l x r := by
  cases hr with
  | nil =>
      rfl
  | two hl' hr' =>
      exact split_of_level_lt (by rw [hr'.level_eq]; omega)
  | three ha hb hc =>
      refine split_of_level_lt ?_
      show _ < k + 1
      rw [level]
      omega

theorem split_of_balanced
    {t : LevelTree α}
    (hbalanced : Balanced k t) :
    t.split = t := by
  cases hbalanced with
  | nil =>
      rfl
  | two hl hr =>
      exact split_of_balanced_lt hr (Nat.le_refl _)
  | three ha hb hc =>
      exact split_of_level_lt (by rw [hc.level_eq]; omega)

/-- The left subtree of a node with two children has grown. -/
theorem grown_left_two
    (hl : Grown k l)
    (hr : Balanced k r) :
    Balanced (k + 1) (node (k + 1) l x r).skew.split := by
  rcases hl with hl | hl
  · have hnode : Balanced (k + 1) (node (k + 1) l x r) := .two hl hr
    rw [skew_of_balanced hnode, split_of_balanced hnode]
    exact hnode
  · cases hl with
    | mk ha hb =>
        rw [skew, if_pos rfl, split_of_level_lt (by rw [hr.level_eq]; omega)]
        exact .three ha hb hr

/-- The left subtree of a node with three children has grown. -/
theorem grown_left_three
    (hl : Grown k l)
    (hb : Balanced k b)
    (hc : Balanced k c) :
    Grown (k + 1) (node (k + 1) l x (node (k + 1) b y c)).skew.split := by
  rcases hl with hl | hl
  · have hnode : Balanced (k + 1) (node (k + 1) l x (node (k + 1) b y c)) := .three hl hb hc
    rw [skew_of_balanced hnode, split_of_balanced hnode]
    exact .inl hnode
  · cases hl with
    | mk ha ha' =>
        rw [skew, if_pos rfl, split, if_pos rfl]
        exact .inr (.mk (.two ha ha') (.two hb hc))

/-- The right subtree of a node with two children has grown. -/
theorem grown_right_two
    (hl : Balanced k l)
    (hr : Grown k r) :
    Balanced (k + 1) (node (k + 1) l x r).skew.split := by
  rw [skew_of_level_lt (by rw [hl.level_eq]; omega)]
  rcases hr with hr | hr
  · have hnode : Balanced (k + 1) (node (k + 1) l x r) := .two hl hr
    rw [split_of_balanced hnode]
    exact hnode
  · cases hr with
    | mk hb hc =>
        rw [split_of_level_lt (by rw [hc.level_eq]; omega)]
        exact .three hl hb hc

/-- The right part of a node with three children has taken another one. -/
theorem grown_right_three
    (hl : Balanced k l)
    (hr : Balanced (k + 1) r) :
    Grown (k + 1) (node (k + 1) l x r).skew.split := by
  rw [skew_of_level_lt (by rw [hl.level_eq]; omega)]
  cases hr with
  | two hb hc =>
      rw [split_of_level_lt (by rw [hc.level_eq]; omega)]
      exact .inl (.three hl hb hc)
  | three hb hc hd =>
      rw [split, if_pos rfl]
      exact .inr (.mk (.two hl hb) (.two hc hd))

/-- What does nothing to balanced trees. -/
theorem mapRight_of_balanced
    {f : LevelTree α → LevelTree α}
    (hf : ∀ j r, Balanced j r → f r = r)
    {t : LevelTree α}
    (hbalanced : Balanced k t) :
    t.mapRight f = t := by
  cases hbalanced with
  | nil =>
      rfl
  | two hl hr =>
      rw [mapRight, hf _ _ hr]
  | three ha hb hc =>
      rw [mapRight, hf _ _ (.two hb hc)]

theorem rightSkews_of_balanced
    {t : LevelTree α}
    (hbalanced : Balanced k t) :
    t.skew.mapRight skew = t := by
  rw [skew_of_balanced hbalanced]
  exact mapRight_of_balanced (fun _ _ => skew_of_balanced) hbalanced

theorem decreaseLevel_of_balanced
    {t : LevelTree α}
    (hbalanced : Balanced k t) :
    t.decreaseLevel = t := by
  cases hbalanced with
  | nil =>
      rfl
  | two hl hr =>
      rw [decreaseLevel, if_neg]
      rw [hl.level_eq, hr.level_eq]
      omega
  | three ha hb hc =>
      rw [decreaseLevel, if_neg]
      rw [ha.level_eq, level]
      omega

/-- Nothing is done to a balanced tree. -/
theorem rebalance_of_balanced
    {t : LevelTree α}
    (hbalanced : Balanced k t) :
    t.rebalance = t := by
  rw [rebalance, decreaseLevel_of_balanced hbalanced, skew_of_balanced hbalanced,
    mapRight_of_balanced (fun _ _ => rightSkews_of_balanced) hbalanced,
    split_of_balanced hbalanced, mapRight_of_balanced (fun _ _ => split_of_balanced) hbalanced]

/-- A node one above its lower child goes down, and no child is too high then. -/
theorem decreaseLevel_of_level
    (hlevel : min l.level r.level + 1 = k)
    (hright : r.level ≤ k) :
    (node (k + 1) l x r).decreaseLevel = node k l x r := by
  rw [decreaseLevel, hlevel, if_pos (Nat.lt_succ_self k)]
  cases r with
  | nil =>
      rfl
  | node j b y c =>
      have hnot : ¬ k < j := Nat.not_lt.mpr hright
      rw [lower, if_neg hnot]

/-- The left subtree of a node with two children has become lower. -/
theorem lowered_left_two
    (hl : Balanced k l)
    (hr : Balanced (k + 1) r) :
    Lowered (k + 1) (node (k + 2) l x r).rebalance := by
  have hdown : (node (k + 2) l x r).decreaseLevel = node (k + 1) l x r := by
    refine decreaseLevel_of_level ?_ (Nat.le_of_eq hr.level_eq)
    rw [hl.level_eq, hr.level_eq]
    omega
  have hskew : (node (k + 1) l x r).skew = node (k + 1) l x r :=
    skew_of_level_lt (by rw [hl.level_eq]; omega)
  rw [rebalance, hdown, hskew, mapRight, rightSkews_of_balanced hr]
  cases hr with
  | two hb hc =>
      rw [split_of_level_lt (by rw [hc.level_eq]; omega), mapRight,
        split_of_balanced (.two hb hc)]
      exact .inr (.three hl hb hc)
  | three hb hc hd =>
      rw [split, if_pos rfl, mapRight, split_of_balanced (.two hc hd)]
      exact .inl (.mk (.two hl hb) (.two hc hd))

/-- The right subtree of a node with two children has become lower. -/
theorem lowered_right_two
    (hl : Balanced (k + 1) l)
    (hr : Balanced k r) :
    Lowered (k + 1) (node (k + 2) l x r).rebalance := by
  have hdown : (node (k + 2) l x r).decreaseLevel = node (k + 1) l x r := by
    refine decreaseLevel_of_level ?_ (by rw [hr.level_eq]; omega)
    rw [hl.level_eq, hr.level_eq]
    omega
  rw [rebalance, hdown]
  cases hl with
  | two ha hb =>
      have hright : Balanced (k + 1) (node (k + 1) _ x r) := .two hb hr
      rw [skew, if_pos rfl, mapRight, rightSkews_of_balanced hright,
        split_of_level_lt (by rw [hr.level_eq]; omega), mapRight, split_of_balanced hright]
      exact .inr (.three ha hb hr)
  | three ha hb hc =>
      have hright : Balanced (k + 1) (node (k + 1) _ x r) := .two hc hr
      rw [skew, if_pos rfl, mapRight, skew, if_pos rfl, mapRight, skew_of_balanced hright, split,
        if_pos rfl, mapRight, split_of_balanced hright]
      exact .inl (.mk (.two ha hb) hright)

/-- The left subtree of a node with three children has become lower. -/
theorem lowered_left_three
    (hl : Balanced k l)
    (hb : Balanced (k + 1) b)
    (hc : Balanced (k + 1) c) :
    Balanced (k + 2) (node (k + 2) l x (node (k + 2) b y c)).rebalance := by
  have hdown : (node (k + 2) l x (node (k + 2) b y c)).decreaseLevel =
      node (k + 1) l x (node (k + 1) b y c) := by
    have hlevel : min l.level (node (k + 2) b y c).level + 1 = k + 1 := by
      rw [hl.level_eq, level]
      omega
    rw [decreaseLevel, hlevel, if_pos (Nat.lt_succ_self _), lower, if_pos (Nat.lt_succ_self _)]
  have hskew : (node (k + 1) l x (node (k + 1) b y c)).skew =
      node (k + 1) l x (node (k + 1) b y c) :=
    skew_of_level_lt (by rw [hl.level_eq]; omega)
  rw [rebalance, hdown, hskew, mapRight]
  -- the right spine has up to six nodes of the same level now
  cases hb with
  | two hb₁ hb₂ =>
      have hlow := skew_of_level_lt (k := k + 1) (x := y) (r := c)
        (by rw [hb₂.level_eq]; exact Nat.lt_succ_self k)
      rw [skew, if_pos rfl, mapRight, hlow, split, if_pos rfl, mapRight]
      cases hc with
      | two hc₁ hc₂ =>
          rw [split_of_level_lt (by rw [hc₂.level_eq]; omega)]
          exact .two (.two hl hb₁) (.three hb₂ hc₁ hc₂)
      | three hc₁ hc₂ hc₃ =>
          rw [split, if_pos rfl]
          exact .three (.two hl hb₁) (.two hb₂ hc₁) (.two hc₂ hc₃)
  | three hb₁ hb₂ hb₃ =>
      rw [skew, if_pos rfl, mapRight, skew, if_pos rfl, split, if_pos rfl, mapRight]
      cases hc with
      | two hc₁ hc₂ =>
          rw [split, if_pos rfl]
          exact .three (.two hl hb₁) (.two hb₂ hb₃) (.two hc₁ hc₂)
      | three hc₁ hc₂ hc₃ =>
          rw [split, if_pos rfl]
          exact .three (.two hl hb₁) (.two hb₂ hb₃) (.three hc₁ hc₂ hc₃)

/-- A removal from the left subtree of a node with two children. -/
theorem shrunk_left_two
    (hl : Shrunk k l)
    (hr : Balanced k r) :
    Lowered k (node (k + 1) l x r).rebalance := by
  rcases hl with hl | ⟨j, rfl, hl⟩
  · rw [rebalance_of_balanced (.two hl hr)]
    exact .inl (.mk hl hr)
  · exact lowered_left_two hl hr

/-- A removal from the right subtree of a node with two children. -/
theorem shrunk_right_two
    (hl : Balanced k l)
    (hr : Shrunk k r) :
    Lowered k (node (k + 1) l x r).rebalance := by
  rcases hr with hr | ⟨j, rfl, hr⟩
  · rw [rebalance_of_balanced (.two hl hr)]
    exact .inl (.mk hl hr)
  · exact lowered_right_two hl hr

/-- A removal from the left subtree of a node with three children. -/
theorem shrunk_left_three
    (hl : Shrunk k l)
    (hb : Balanced k b)
    (hc : Balanced k c) :
    Balanced (k + 1) (node (k + 1) l x (node (k + 1) b y c)).rebalance := by
  rcases hl with hl | ⟨j, rfl, hl⟩
  · rw [rebalance_of_balanced (.three hl hb hc)]
    exact .three hl hb hc
  · exact lowered_left_three hl hb hc

/-- A removal from the right part of a node with three children. -/
theorem shrunk_right_three
    (hl : Balanced k l)
    (hr : Lowered k r) :
    Balanced (k + 1) (node (k + 1) l x r).rebalance := by
  rcases hr with hr | hr
  · cases hr with
    | mk hb hc =>
        rw [rebalance_of_balanced (.three hl hb hc)]
        exact .three hl hb hc
  · rw [rebalance_of_balanced (.two hl hr)]
    exact .two hl hr

theorem Lowered.shrunk
    {t : LevelTree α}
    (hlowered : Lowered k t) :
    Shrunk (k + 1) t := by
  rcases hlowered with htwo | hbalanced
  · exact .inl htwo.balanced
  · exact .inr ⟨k, rfl, hbalanced⟩

end Balance

section Depth

variable {k : Nat}
variable {t : LevelTree α}

theorem depth_le_level
    (hbalanced : Balanced k t) :
    t.depth ≤ 2 * k := by
  induction hbalanced with
  | nil =>
      exact Nat.le_refl 0
  | two hl hr ihl ihr =>
      rw [depth]
      omega
  | three ha hb hc iha ihb ihc =>
      rw [depth, depth]
      omega

theorem two_pow_le_size
    (hbalanced : Balanced k t) :
    2 ^ k ≤ t.size + 1 := by
  induction hbalanced with
  | nil =>
      exact Nat.le_refl 1
  | two hl hr ihl ihr =>
      rw [Nat.pow_succ, size]
      omega
  | three ha hb hc iha ihb ihc =>
      rw [Nat.pow_succ, size, size]
      omega

/-- No way down is longer than twice the logarithm of the number of nodes. -/
theorem depth_le_of_balanced
    (hbalanced : Balanced k t) :
    t.depth ≤ 2 * Nat.log 2 (t.size + 1) := by
  have hlog : k ≤ Nat.log 2 (t.size + 1) :=
    Nat.le_log_of_pow_le (by decide) (two_pow_le_size hbalanced)
  exact (depth_le_level hbalanced).trans (Nat.mul_le_mul_left 2 hlog)

end Depth

end LevelTree
end BrBox
