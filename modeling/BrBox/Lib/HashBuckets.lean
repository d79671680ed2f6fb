import Mathlib.Data.List.FinRange
import Mathlib.Data.List.Nodup
import Mathlib.Data.Fintype.Basic
import Mathlib.Tactic.Common

/-!
# Hash tables of chains

A chain is a list of pairs in which the first pair with a key counts.  A table has a chain
for each index, and each pair is in the chain of the index of its key.

* `lookup_setPair`, `map_fst_setPair`: one change of a chain.
* `Table.find_put`: a table is a finite map, whatever places the keys.
* `Table.mem_toList_iff`, `Table.nodup_toList`: a table lists each pair once.
* `Table.putAll_toList`: what a table lists makes the same table again.
-/

namespace BrBox
namespace HashBuckets

variable {κ ν : Type} [DecidableEq κ]

/-- Change the value of a key in place, or put a pair at the end. -/
def setPair (key : κ) (value : Option ν → ν) : List (κ × ν) → List (κ × ν)
  | [] => [(key, value none)]
  | pair :: chain =>
      if pair.1 = key then
        (pair.1, value (some pair.2)) :: chain
      else
        pair :: setPair key value chain

/-- The first pair with the key counts. -/
theorem lookup_pair
    [BEq κ] [LawfulBEq κ]
    (key k : κ)
    (v : ν)
    (chain : List (κ × ν)) :
    ((k, v) :: chain).lookup key = if key = k then some v else chain.lookup key := by
  by_cases hkey : key = k
  · simp [hkey]
  · rw [List.lookup_cons, beq_eq_false_iff_ne.mpr hkey, if_neg hkey]

section Chains

variable (key : κ) (value : Option ν → ν)

@[simp] theorem setPair_nil :
    setPair key value [] = [(key, value none)] := by
  rfl

/-- The pair of the key is changed in place. -/
theorem setPair_of_eq
    {pair : κ × ν}
    (hk : pair.1 = key)
    (chain : List (κ × ν)) :
    setPair key value (pair :: chain) = (pair.1, value (some pair.2)) :: chain := by
  exact if_pos hk

/-- A pair of another key is left alone. -/
theorem setPair_of_ne
    {pair : κ × ν}
    (hk : pair.1 ≠ key)
    (chain : List (κ × ν)) :
    setPair key value (pair :: chain) = pair :: setPair key value chain := by
  exact if_neg hk

theorem lookup_setPair
    [BEq κ] [LawfulBEq κ]
    (chain : List (κ × ν))
    (key' : κ) :
    (setPair key value chain).lookup key' =
      if key' = key then some (value (chain.lookup key)) else chain.lookup key' := by
  induction chain with
  | nil =>
      simp [lookup_pair]
  | cons pair chain ih =>
      obtain ⟨k, v⟩ := pair
      by_cases hk : k = key
      · rw [setPair_of_eq key value hk]
        subst hk
        by_cases hkey : key' = k
        · simp [hkey]
        · simp [lookup_pair, hkey]
      · have hk' : key ≠ k := Ne.symm hk
        rw [setPair_of_ne key value hk]
        by_cases hkey : key' = k
        · simp [hk, hkey]
        · simp [lookup_pair, hk', hkey, ih]

/-- The keys of a changed chain. -/
theorem map_fst_setPair
    (chain : List (κ × ν)) :
    (setPair key value chain).map Prod.fst =
      if key ∈ chain.map Prod.fst then
        chain.map Prod.fst
      else
        chain.map Prod.fst ++ [key] := by
  induction chain with
  | nil =>
      simp
  | cons pair chain ih =>
      by_cases hk : pair.1 = key
      · rw [setPair_of_eq key value hk]
        simp [hk]
      · have hk' : key ≠ pair.1 := Ne.symm hk
        by_cases hmem : key ∈ chain.map Prod.fst
        · simp only [setPair_of_ne key value hk, List.map_cons, ih, if_pos hmem,
            if_pos (List.mem_cons_of_mem _ hmem)]
        · have hmem' : key ∉ pair.1 :: chain.map Prod.fst := by
            simpa [hk'] using hmem
          simp only [setPair_of_ne key value hk, List.map_cons, ih, if_neg hmem,
            if_neg hmem', List.cons_append]

/-- Each pair of a changed chain is new or was there. -/
theorem mem_setPair
    {chain : List (κ × ν)}
    {pair : κ × ν}
    (hmem : pair ∈ setPair key value chain) :
    pair ∈ chain ∨ ∃ old, pair = (key, value old) := by
  induction chain with
  | nil =>
      exact .inr ⟨none, by simpa using hmem⟩
  | cons first chain ih =>
      by_cases hk : first.1 = key
      · rw [setPair_of_eq key value hk, List.mem_cons] at hmem
        rcases hmem with hnew | hold
        · exact .inr ⟨some first.2, hk ▸ hnew⟩
        · exact .inl (List.mem_cons_of_mem _ hold)
      · rw [setPair_of_ne key value hk, List.mem_cons] at hmem
        rcases hmem with hfirst | hrest
        · exact .inl (hfirst ▸ List.mem_cons_self)
        · rcases ih hrest with hold | hnew
          · exact .inl (List.mem_cons_of_mem _ hold)
          · exact .inr hnew

theorem nodup_setPair
    {chain : List (κ × ν)}
    (hnodup : (chain.map Prod.fst).Nodup) :
    ((setPair key value chain).map Prod.fst).Nodup := by
  rw [map_fst_setPair]
  by_cases hmem : key ∈ chain.map Prod.fst
  · rw [if_pos hmem]
    exact hnodup
  · rw [if_neg hmem]
    rw [← List.concat_eq_append]
    exact hnodup.concat hmem

/-- A key that is new goes to the end. -/
theorem setPair_of_not_mem
    {chain : List (κ × ν)}
    (hmem : key ∉ chain.map Prod.fst) :
    setPair key value chain = chain ++ [(key, value none)] := by
  induction chain with
  | nil =>
      rfl
  | cons pair chain ih =>
      obtain ⟨hk, hrest⟩ := not_or.mp (List.mem_cons.not.mp hmem)
      rw [setPair_of_ne key value (Ne.symm hk), ih hrest, List.cons_append]

/-- The last key is changed at the end. -/
theorem setPair_append_self
    {chain : List (κ × ν)}
    (hmem : key ∉ chain.map Prod.fst)
    (old : ν) :
    setPair key value (chain ++ [(key, old)]) = chain ++ [(key, value (some old))] := by
  induction chain with
  | nil =>
      rw [List.nil_append, setPair_of_eq key value rfl]
      rfl
  | cons pair chain ih =>
      obtain ⟨hk, hrest⟩ := not_or.mp (List.mem_cons.not.mp hmem)
      rw [List.cons_append, setPair_of_ne key value (Ne.symm hk), ih hrest,
        List.cons_append]

/-- In a chain without a key twice the value of a key is that of its pair. -/
theorem mem_iff_lookup
    [BEq κ] [LawfulBEq κ]
    {chain : List (κ × ν)}
    (hnodup : (chain.map Prod.fst).Nodup)
    (v : ν) :
    (key, v) ∈ chain ↔ chain.lookup key = some v := by
  induction chain with
  | nil =>
      simp
  | cons pair chain ih =>
      obtain ⟨k, w⟩ := pair
      rw [List.map_cons, List.nodup_cons] at hnodup
      by_cases hk : key = k
      · subst hk
        have hout : (key, v) ∉ chain := fun hmem =>
          hnodup.1 (List.mem_map.mpr ⟨(key, v), hmem, rfl⟩)
        simp [hout, eq_comm]
      · simp [lookup_pair, hk, ih hnodup.2]

end Chains

/-- A chain for each index; a pair is in the chain of the index of its key, once. -/
structure Table (κ ν : Type) {n : Nat} (place : κ → Fin n) where
  bucket : Fin n → List (κ × ν)
  placed : ∀ i, ∀ pair ∈ bucket i, place pair.1 = i
  nodup : ∀ i, ((bucket i).map Prod.fst).Nodup

namespace Table

variable {n : Nat} {place : κ → Fin n}

omit [DecidableEq κ] in
@[ext] theorem ext
    {t t' : Table κ ν place}
    (hbucket : ∀ i, t.bucket i = t'.bucket i) :
    t = t' := by
  obtain ⟨bucket, _, _⟩ := t
  obtain ⟨bucket', _, _⟩ := t'
  obtain rfl : bucket = bucket' := funext hbucket
  rfl

omit [DecidableEq κ] in
theorem placed_empty
    (i : Fin n) :
    ∀ pair ∈ ([] : List (κ × ν)), place pair.1 = i := by
  simp

/-- The table without pairs. -/
def empty : Table κ ν place where
  bucket _ := []
  placed := placed_empty
  nodup _ := List.nodup_nil

theorem placed_put
    (t : Table κ ν place)
    (key : κ)
    (value : ν)
    (i : Fin n) :
    ∀ pair ∈ Function.update t.bucket (place key)
      (setPair key (fun _ => value) (t.bucket (place key))) i, place pair.1 = i := by
  intro pair hmem
  by_cases hi : i = place key
  · subst hi
    rw [Function.update_self] at hmem
    rcases mem_setPair _ _ hmem with hold | ⟨_, rfl⟩
    · exact t.placed _ pair hold
    · rfl
  · rw [Function.update_of_ne hi] at hmem
    exact t.placed i pair hmem

theorem nodup_put
    (t : Table κ ν place)
    (key : κ)
    (value : ν)
    (i : Fin n) :
    ((Function.update t.bucket (place key)
      (setPair key (fun _ => value) (t.bucket (place key))) i).map Prod.fst).Nodup := by
  by_cases hi : i = place key
  · subst hi
    rw [Function.update_self]
    exact nodup_setPair _ _ (t.nodup _)
  · rw [Function.update_of_ne hi]
    exact t.nodup i

/-- A pair put in the chain of its key. -/
def put (t : Table κ ν place) (key : κ) (value : ν) : Table κ ν place where
  bucket := Function.update t.bucket (place key)
    (setPair key (fun _ => value) (t.bucket (place key)))
  placed := placed_put t key value
  nodup := nodup_put t key value

/-- The value of a key. -/
def find [BEq κ] (t : Table κ ν place) (key : κ) : Option ν :=
  (t.bucket (place key)).lookup key

/-- All pairs, one chain after the other. -/
def toList (t : Table κ ν place) : List (κ × ν) :=
  (List.finRange n).flatMap t.bucket

/-- Several pairs, in order. -/
def putAll (t : Table κ ν place) (pairs : List (κ × ν)) : Table κ ν place :=
  pairs.foldl (fun t pair => t.put pair.1 pair.2) t

theorem bucket_put_self
    (t : Table κ ν place)
    (key : κ)
    (value : ν) :
    (t.put key value).bucket (place key) =
      setPair key (fun _ => value) (t.bucket (place key)) := by
  exact Function.update_self ..

theorem bucket_put_of_ne
    (t : Table κ ν place)
    (key : κ)
    (value : ν)
    {i : Fin n}
    (hi : i ≠ place key) :
    (t.put key value).bucket i = t.bucket i := by
  exact Function.update_of_ne hi ..

omit [DecidableEq κ] in
@[simp] theorem find_empty
    [BEq κ]
    (key : κ) :
    (empty : Table κ ν place).find key = none := by
  rfl

/-- A table is a finite map. -/
theorem find_put
    [BEq κ] [LawfulBEq κ]
    (t : Table κ ν place)
    (key : κ)
    (value : ν)
    (key' : κ) :
    (t.put key value).find key' = if key' = key then some value else t.find key' := by
  by_cases hplace : place key' = place key
  · rw [find, hplace, bucket_put_self, lookup_setPair, find, hplace]
  · have hkey : key' ≠ key := by
      rintro rfl
      exact hplace rfl
    rw [find, bucket_put_of_ne t key value hplace, if_neg hkey, find]

omit [DecidableEq κ] in
theorem mem_toList
    (t : Table κ ν place)
    (pair : κ × ν) :
    pair ∈ t.toList ↔ pair ∈ t.bucket (place pair.1) := by
  rw [toList, List.mem_flatMap]
  constructor
  · rintro ⟨i, -, hmem⟩
    rwa [t.placed i pair hmem]
  · intro hmem
    exact ⟨_, List.mem_finRange _, hmem⟩

/-- A table lists the pairs that it finds. -/
theorem mem_toList_iff
    [BEq κ] [LawfulBEq κ]
    (t : Table κ ν place)
    (key : κ)
    (value : ν) :
    (key, value) ∈ t.toList ↔ t.find key = some value := by
  rw [mem_toList, mem_iff_lookup key (t.nodup _), find]

omit [DecidableEq κ] in
/-- A table lists no key twice. -/
theorem nodup_toList
    (t : Table κ ν place) :
    (t.toList.map Prod.fst).Nodup := by
  rw [toList, List.map_flatMap, List.nodup_flatMap]
  refine ⟨fun i _ => t.nodup i, (List.nodup_finRange n).imp ?_⟩
  intro i j hij key hi hj
  obtain ⟨pair, hpair, rfl⟩ := List.mem_map.mp hi
  obtain ⟨pair', hpair', hkey⟩ := List.mem_map.mp hj
  apply hij
  rw [← t.placed i pair hpair, ← t.placed j pair' hpair', hkey]

/-- Pairs with new and different keys go to the end of their chains. -/
theorem bucket_putAll
    {pairs : List (κ × ν)}
    (hnodup : (pairs.map Prod.fst).Nodup)
    (t : Table κ ν place)
    (hnew : ∀ pair ∈ pairs, pair.1 ∉ (t.bucket (place pair.1)).map Prod.fst)
    (i : Fin n) :
    (t.putAll pairs).bucket i =
      t.bucket i ++ pairs.filter (fun pair => place pair.1 = i) := by
  induction pairs generalizing t with
  | nil =>
      simp [putAll]
  | cons pair pairs ih =>
      obtain ⟨key, value⟩ := pair
      rw [List.map_cons, List.nodup_cons] at hnodup
      have hkey : key ∉ (t.bucket (place key)).map Prod.fst :=
        hnew (key, value) List.mem_cons_self
      have hself : (t.put key value).bucket (place key) =
          t.bucket (place key) ++ [(key, value)] := by
        rw [bucket_put_self, setPair_of_not_mem _ _ hkey]
      have hrest : ∀ pair ∈ pairs,
          pair.1 ∉ ((t.put key value).bucket (place pair.1)).map Prod.fst := by
        intro pair hpair
        have hold := hnew pair (List.mem_cons_of_mem _ hpair)
        by_cases hplace : place pair.1 = place key
        · have hne : pair.1 ≠ key := by
            rintro rfl
            exact hnodup.1 (List.mem_map.mpr ⟨pair, hpair, rfl⟩)
          rw [hplace] at hold ⊢
          rw [hself, List.map_append, List.mem_append, not_or]
          exact ⟨hold, by simpa using hne⟩
        · rwa [bucket_put_of_ne t key value hplace]
      have hrun : (t.putAll ((key, value) :: pairs)).bucket i =
          (t.put key value).bucket i ++ pairs.filter (fun pair => place pair.1 = i) :=
        ih hnodup.2 (t.put key value) hrest
      rw [hrun]
      by_cases hi : place key = i
      · subst hi
        rw [hself, List.append_assoc]
        simp
      · rw [bucket_put_of_ne t key value (Ne.symm hi)]
        simp [hi]

/-- Of several lists, the one for an index that is listed once. -/
theorem flatMap_ite_eq
    {ι α : Type}
    [DecidableEq ι]
    {l : List ι}
    (hnodup : l.Nodup)
    {i : ι}
    (hmem : i ∈ l)
    (f : ι → List α) :
    (l.flatMap fun j => if j = i then f j else []) = f i := by
  induction l with
  | nil =>
      simp at hmem
  | cons j l ih =>
      rw [List.nodup_cons] at hnodup
      by_cases hj : j = i
      · subst hj
        have hnil : (l.flatMap fun k => if k = j then f k else []) = [] := by
          rw [List.flatMap_eq_nil_iff]
          intro k hk
          refine if_neg ?_
          rintro rfl
          exact hnodup.1 hk
        rw [List.flatMap_cons, if_pos rfl, hnil, List.append_nil]
      · have hmem' : i ∈ l := (List.mem_cons.mp hmem).resolve_left (Ne.symm hj)
        rw [List.flatMap_cons, if_neg hj, ih hnodup.2 hmem', List.nil_append]

omit [DecidableEq κ] in
/-- The listed pairs with an index are the chain of that index. -/
theorem filter_toList
    (t : Table κ ν place)
    (i : Fin n) :
    t.toList.filter (fun pair => place pair.1 = i) = t.bucket i := by
  have hchain : ∀ j, (t.bucket j).filter (fun pair => place pair.1 = i) =
      if j = i then t.bucket j else [] := by
    intro j
    by_cases hj : j = i
    · rw [if_pos hj, List.filter_eq_self]
      intro pair hpair
      simpa [hj] using t.placed j pair hpair
    · rw [if_neg hj, List.filter_eq_nil_iff]
      intro pair hpair
      simpa [t.placed j pair hpair] using hj
  rw [toList, List.filter_flatMap]
  simp only [hchain]
  exact flatMap_ite_eq (List.nodup_finRange n) (List.mem_finRange i) t.bucket

/-- What a table lists makes the same table again. -/
theorem putAll_toList
    (t : Table κ ν place) :
    (empty : Table κ ν place).putAll t.toList = t := by
  ext1 i
  rw [bucket_putAll t.nodup_toList empty (by simp [empty]), filter_toList]
  rfl

/-- Pairs with different keys are found as they were put, whatever the order and the
place of the keys. -/
theorem find_putAll
    [BEq κ] [LawfulBEq κ]
    {pairs : List (κ × ν)}
    (hnodup : (pairs.map Prod.fst).Nodup)
    (t : Table κ ν place)
    (key : κ) :
    (t.putAll pairs).find key = (pairs.lookup key).or (t.find key) := by
  induction pairs generalizing t with
  | nil =>
      rfl
  | cons pair pairs ih =>
      obtain ⟨k, v⟩ := pair
      rw [List.map_cons, List.nodup_cons] at hnodup
      have hrun : (t.putAll ((k, v) :: pairs)).find key =
          (pairs.lookup key).or ((t.put k v).find key) := ih hnodup.2 (t.put k v)
      rw [hrun, find_put]
      by_cases hkey : key = k
      · subst hkey
        have hnone : pairs.lookup key = none := by
          rw [List.lookup_eq_none_iff]
          intro p hp
          have hne : key ≠ p.1 := by
            rintro rfl
            exact hnodup.1 (List.mem_map.mpr ⟨p, hp, rfl⟩)
          simpa using hne
        simp [hnone]
      · simp [lookup_pair, hkey]

end Table

end HashBuckets
end BrBox
