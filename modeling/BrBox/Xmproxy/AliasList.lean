import BrBox.Xmproxy.XmppMgr
import Mathlib.Data.List.Induction

/-!
# The alias list and its file

`proc_cmd_alias` keeps the alias map and the list file together: a new alias is
appended to the file, a changed or deleted one has it written again from the
map.  `LoadAliasList` reads the file at the next start.

A line of the file is `key=value`, and nothing is escaped.

* `loadAliasList_entries`: entries whose texts hold no newline are read back.
* `aliasPersisted_iff`: a restart changes nothing exactly as long as no alias
  was given a value with a newline.
-/

namespace BrBox
namespace Xmproxy

open CText
open CxxText
open Adav

/-- The alias map and the contents of its list file. -/
structure AliasStore where
  aliasList : AliasMap
  aliasFile : Bytes

namespace AliasStore

/-- No alias and an empty file. -/
def empty : AliasStore :=
  { aliasList := ∅, aliasFile := [] }

/-- A line of the list file. -/
def entryLine (e : Bytes × Bytes) : Bytes :=
  endLine (e.1 ++ [61] ++ e.2)

/-- `LoadAliasList` of a file into a map. -/
def loadAliasList (file : Bytes) (aliasList : AliasMap) : AliasMap :=
  (fileLines file).foldl
    (fun m line =>
      let read := getLine 61 line
      m.insert read.1 (getLine 61 read.2).1)
    aliasList

/-- `ExtendAliasList`; nothing happens without a path. -/
def extendAliasList (path key val file : Bytes) : Bytes :=
  if path = [] then file else file ++ entryLine (key, val)

/-- `RewriteAliasList`. -/
def rewriteAliasList (path : Bytes) (aliasList : AliasMap) (file : Bytes) : Bytes :=
  if path = [] then file else aliasList.toList.flatMap entryLine

/-- The lines of the reply to a bare `alias`. -/
def printAliasList (aliasList : AliasMap) : Bytes :=
  10 :: aliasList.toList.flatMap entryLine

/-- The key of an alias message: what stands between its first word and `=`. -/
def aliasKey (msg : Bytes) : Bytes :=
  (getLine 10 (readWord (getLine 61 msg).1).2).1.dropWhile isSpace

/-- The value of an alias message: what stands between its first two `=`. -/
def aliasValue (msg : Bytes) : Bytes :=
  (getLine 61 (getLine 61 msg).2).1

/-- `proc_cmd_alias`. -/
def procCmdAlias
    (path msg : Bytes) (store : AliasStore) :
    RpcSrvResult × Bytes × AliasStore :=
  if msg = text "Alias" ∨ msg = text "alias" then
    (.success, printAliasList store.aliasList, store)
  else
    let key := aliasKey msg
    let value := aliasValue msg
    if value = [] then
      let aliasList := store.aliasList.erase key
      (.success, [],
        { aliasList := aliasList
          aliasFile := rewriteAliasList path aliasList store.aliasFile })
    else
      match store.aliasList[key]? with
      | some _ =>
          let aliasList := (store.aliasList.erase key).insert key value
          (.success, [],
            { aliasList := aliasList
              aliasFile := rewriteAliasList path aliasList store.aliasFile })
      | none =>
          (.success, [],
            { aliasList := store.aliasList.insert key value
              aliasFile := extendAliasList path key value store.aliasFile })

/-- The store after a sequence of alias messages. -/
def aliasRun (path : Bytes) (msgs : List Bytes) : AliasStore :=
  msgs.foldl (fun store msg => (procCmdAlias path msg store).2.2) empty

/-- Loading the file gives the map in memory. -/
def Persisted (store : AliasStore) : Prop :=
  loadAliasList store.aliasFile ∅ = store.aliasList

/-- The file holds one line for each alias. -/
structure FileMatches (store : AliasStore) (entries : List (Bytes × Bytes)) : Prop where
  file : store.aliasFile = entries.flatMap entryLine
  distinct : (entries.map Prod.fst).Nodup
  same : ∀ key val, (key, val) ∈ entries ↔ store.aliasList[key]? = some val

/-- Neither key nor value of an alias breaks a line of the file. -/
structure PlainEntry (e : Bytes × Bytes) : Prop where
  keyEq : (61 : Byte) ∉ e.1
  keyNewline : (10 : Byte) ∉ e.1
  valueEq : (61 : Byte) ∉ e.2
  valueNewline : (10 : Byte) ∉ e.2

/-- A plain entry is read back from its line. -/
theorem fileLines_entryLine
    {e : Bytes × Bytes} (he : PlainEntry e) (rest : Bytes) :
    fileLines (entryLine e ++ rest) = (e.1 ++ 61 :: e.2) :: fileLines rest := by
  unfold entryLine
  rw [fileLines_endLine_append]
  · simp
  · simp only [List.append_assoc, List.cons_append, List.nil_append,
      List.mem_append, List.mem_cons, not_or]
    exact ⟨he.keyNewline, by decide, he.valueNewline⟩

/-- Plain entries are read back in their order. -/
theorem loadAliasList_entries
    {entries : List (Bytes × Bytes)}
    (hplain : ∀ e ∈ entries, PlainEntry e)
    (aliasList : AliasMap) :
    loadAliasList (entries.flatMap entryLine) aliasList =
      entries.foldl (fun m e => m.insert e.1 e.2) aliasList := by
  induction entries generalizing aliasList with
  | nil =>
      rfl
  | cons e entries ih =>
      have he := hplain e (by simp)
      rw [List.flatMap_cons, List.foldl_cons,
        ← ih (fun f hf => hplain f (by simp [hf]))]
      unfold loadAliasList
      rw [fileLines_entryLine he, List.foldl_cons]
      simp only [getLine_append_delim he.keyEq, getLine_of_not_mem he.valueEq]

/-- A key that is not inserted keeps its value. -/
theorem getElem?_foldl_insert_of_not_mem
    {entries : List (Bytes × Bytes)} {key : Bytes}
    (hkey : key ∉ entries.map Prod.fst) (m : AliasMap) :
    (entries.foldl (fun m e => m.insert e.1 e.2) m)[key]? = m[key]? := by
  induction entries generalizing m with
  | nil =>
      rfl
  | cons e entries ih =>
      simp only [List.map_cons, List.mem_cons, not_or] at hkey
      rw [List.foldl_cons, ih hkey.2, Std.ExtTreeMap.getElem?_insert]
      simp [Ne.symm hkey.1]

/-- With distinct keys each entry that is inserted is found. -/
theorem getElem?_foldl_insert_of_mem
    {entries : List (Bytes × Bytes)} {key val : Bytes}
    (hdistinct : (entries.map Prod.fst).Nodup)
    (hmem : (key, val) ∈ entries) (m : AliasMap) :
    (entries.foldl (fun m e => m.insert e.1 e.2) m)[key]? = some val := by
  induction entries generalizing m with
  | nil =>
      simp at hmem
  | cons e entries ih =>
      obtain ⟨hnotin, hdistinct'⟩ := List.nodup_cons.mp hdistinct
      rcases List.mem_cons.mp hmem with rfl | hmem
      · rw [List.foldl_cons, getElem?_foldl_insert_of_not_mem hnotin]
        simp
      · exact ih hdistinct' hmem _

/-- A file of plain entries that matches the map is loaded as the map. -/
theorem FileMatches.persisted
    {store : AliasStore} {entries : List (Bytes × Bytes)}
    (hmatch : FileMatches store entries)
    (hplain : ∀ e ∈ entries, PlainEntry e) :
    Persisted store := by
  unfold Persisted
  rw [hmatch.file, loadAliasList_entries hplain]
  apply Std.ExtTreeMap.ext_getElem?
  intro key
  cases hkey : store.aliasList[key]? with
  | some val =>
      exact getElem?_foldl_insert_of_mem hmatch.distinct
        ((hmatch.same key val).mpr hkey) ∅
  | none =>
      have hnot : key ∉ entries.map Prod.fst := by
        intro hmem
        obtain ⟨⟨k, val⟩, hin, rfl⟩ := List.mem_map.mp hmem
        rw [(hmatch.same k val).mp hin] at hkey
        cases hkey
      rw [getElem?_foldl_insert_of_not_mem hnot]
      simp

/-- A rewritten file matches the map it was written from. -/
theorem fileMatches_rewrite
    {path : Bytes} (hpath : path ≠ []) (aliasList : AliasMap) (file : Bytes) :
    FileMatches
      { aliasList := aliasList
        aliasFile := rewriteAliasList path aliasList file }
      aliasList.toList := by
  constructor
  · simp [rewriteAliasList, hpath]
  · rw [List.nodup_iff_pairwise_ne, List.pairwise_map]
    apply List.Pairwise.imp _ aliasList.distinct_keys_toList
    intro a b hne heq
    exact hne (by rw [heq]; exact Std.ReflCmp.compare_self)
  · intro key val
    exact Std.ExtTreeMap.mem_toList_iff_getElem?_eq_some

/-- Appending the line of a new alias keeps the file in step. -/
theorem FileMatches.extend
    {store : AliasStore} {entries : List (Bytes × Bytes)}
    (hmatch : FileMatches store entries)
    {path : Bytes} (hpath : path ≠ [])
    {key : Bytes} (hnew : store.aliasList[key]? = none) (val : Bytes) :
    FileMatches
      { aliasList := store.aliasList.insert key val
        aliasFile := extendAliasList path key val store.aliasFile }
      (entries ++ [(key, val)]) := by
  have hnot : key ∉ entries.map Prod.fst := by
    intro hmem
    obtain ⟨⟨k, v⟩, hin, rfl⟩ := List.mem_map.mp hmem
    rw [(hmatch.same k v).mp hin] at hnew
    cases hnew
  constructor
  · simp [extendAliasList, hpath, hmatch.file]
  · rw [List.map_append]
    refine List.nodup_append'.mpr ⟨hmatch.distinct, by simp, ?_⟩
    simpa using hnot
  · intro k v
    rw [List.mem_append, hmatch.same, Std.ExtTreeMap.getElem?_insert]
    by_cases hk : key = k
    · subst hk
      simp [hnew, eq_comm]
    · simp [hk, Ne.symm hk]

/-- What one alias message does to the store. -/
theorem procCmdAlias_cases
    (path msg : Bytes) (store : AliasStore) :
    (procCmdAlias path msg store).2.2 = store ∨
    (∃ aliasList,
      (aliasList = store.aliasList.erase (aliasKey msg) ∨
        aliasList = (store.aliasList.erase (aliasKey msg)).insert
          (aliasKey msg) (aliasValue msg)) ∧
      (procCmdAlias path msg store).2.2 =
        { aliasList := aliasList
          aliasFile := rewriteAliasList path aliasList store.aliasFile }) ∨
    (store.aliasList[aliasKey msg]? = none ∧
      (procCmdAlias path msg store).2.2 =
        { aliasList := store.aliasList.insert (aliasKey msg) (aliasValue msg)
          aliasFile := extendAliasList path (aliasKey msg) (aliasValue msg)
            store.aliasFile }) := by
  unfold procCmdAlias
  by_cases hprint : msg = text "Alias" ∨ msg = text "alias"
  · exact Or.inl (by rw [if_pos hprint])
  · rw [if_neg hprint]
    by_cases hdelete : aliasValue msg = []
    · exact Or.inr (Or.inl ⟨_, Or.inl rfl, by simp only [if_pos hdelete]⟩)
    · simp only [if_neg hdelete]
      cases hfind : store.aliasList[aliasKey msg]? with
      | some val =>
          exact Or.inr (Or.inl ⟨_, Or.inr rfl, rfl⟩)
      | none =>
          exact Or.inr (Or.inr ⟨rfl, rfl⟩)

/-- The key of a message breaks no line. -/
theorem aliasKey_plain
    (msg : Bytes) :
    (61 : Byte) ∉ aliasKey msg ∧ (10 : Byte) ∉ aliasKey msg := by
  constructor
  · intro hmem
    have hline := (List.dropWhile_sublist _).subset hmem
    have hrest := (List.takeWhile_sublist _).subset hline
    have hword := (List.dropWhile_sublist _).subset hrest
    exact delim_not_mem_getLine 61 msg ((List.dropWhile_sublist _).subset hword)
  · intro hmem
    have hline := (List.dropWhile_sublist _).subset hmem
    exact delim_not_mem_getLine 10 _ hline

/-- Every alias in memory is plain and the file is in step with the map. -/
structure PlainStore (store : AliasStore) : Prop where
  file : ∃ entries, FileMatches store entries
  plain : ∀ key val, store.aliasList[key]? = some val → PlainEntry (key, val)

theorem PlainStore.persisted
    {store : AliasStore} (hplain : PlainStore store) :
    Persisted store := by
  obtain ⟨entries, hmatch⟩ := hplain.file
  apply hmatch.persisted
  intro e he
  exact hplain.plain e.1 e.2 ((hmatch.same e.1 e.2).mp he)

/-- An alias message whose value has no newline keeps the store plain. -/
theorem procCmdAlias_plainStore
    {path : Bytes} (hpath : path ≠ []) {msg : Bytes} {store : AliasStore}
    (hplain : PlainStore store)
    (hvalue : (10 : Byte) ∉ aliasValue msg) :
    PlainStore (procCmdAlias path msg store).2.2 := by
  have hentry : PlainEntry (aliasKey msg, aliasValue msg) := by
    obtain ⟨heq, hnewline⟩ := aliasKey_plain msg
    exact ⟨heq, hnewline, delim_not_mem_getLine 61 _, hvalue⟩
  have herase : ∀ key val,
      (store.aliasList.erase (aliasKey msg))[key]? = some val →
        PlainEntry (key, val) := by
    intro key val hkey
    rw [Std.ExtTreeMap.getElem?_erase] at hkey
    split at hkey
    · cases hkey
    · exact hplain.plain key val hkey
  have hinsert : ∀ aliasList : AliasMap,
      (∀ key val, aliasList[key]? = some val → PlainEntry (key, val)) →
      ∀ key val,
        (aliasList.insert (aliasKey msg) (aliasValue msg))[key]? = some val →
          PlainEntry (key, val) := by
    intro aliasList hold key val hkey
    rw [Std.ExtTreeMap.getElem?_insert] at hkey
    split at hkey
    · rename_i hcmp
      rw [← Std.LawfulEqCmp.eq_of_compare hcmp, ← Option.some.inj hkey]
      exact hentry
    · exact hold key val hkey
  rcases procCmdAlias_cases path msg store with
    heq | ⟨aliasList, hlist, heq⟩ | ⟨hnew, heq⟩
  · rw [heq]
    exact hplain
  · rw [heq]
    refine ⟨⟨_, fileMatches_rewrite hpath aliasList _⟩, ?_⟩
    rcases hlist with rfl | rfl
    · exact herase
    · exact hinsert _ herase
  · rw [heq]
    obtain ⟨entries, hmatch⟩ := hplain.file
    exact ⟨⟨_, hmatch.extend hpath hnew _⟩, hinsert _ hplain.plain⟩

theorem aliasRun_append_singleton
    (path : Bytes) (msgs : List Bytes) (msg : Bytes) :
    aliasRun path (msgs ++ [msg]) =
      (procCmdAlias path msg (aliasRun path msgs)).2.2 := by
  simp [aliasRun]

/-- Without a newline in a value the store stays plain. -/
theorem aliasRun_plainStore
    {path : Bytes} (hpath : path ≠ []) {msgs : List Bytes}
    (hvalues : ∀ msg ∈ msgs, (10 : Byte) ∉ aliasValue msg) :
    PlainStore (aliasRun path msgs) := by
  induction msgs using List.reverseRecOn with
  | nil =>
      refine ⟨⟨[], rfl, by simp, ?_⟩, ?_⟩
      · intro key val
        simp [aliasRun, empty]
      · intro key val hkey
        simp [aliasRun, empty] at hkey
  | append_singleton msgs msg ih =>
      rw [aliasRun_append_singleton]
      refine procCmdAlias_plainStore hpath (ih ?_) (hvalues msg (by simp))
      intro m hm
      exact hvalues m (by simp [hm])

/-- The lines of a file hold no newline. -/
theorem newline_not_mem_fileLines
    (file : Bytes) :
    ∀ line ∈ fileLines file, (10 : Byte) ∉ line := by
  induction file with
  | nil =>
      simp [fileLines]
  | cons c file ih =>
      intro line hline
      simp only [fileLines] at hline
      split at hline
      · rcases List.mem_cons.mp hline with rfl | hline
        · simp
        · exact ih line hline
      · rename_i hc
        cases hlines : fileLines file with
        | nil =>
            rw [hlines] at hline
            obtain rfl : line = [c] := by simpa using hline
            simpa using Ne.symm hc
        | cons l ls =>
            rw [hlines] at hline ih
            rcases List.mem_cons.mp hline with rfl | hline
            · have hl := ih l (by simp)
              simp [Ne.symm hc, hl]
            · exact ih line (by simp [hline])

/-- No value that was loaded holds a newline. -/
theorem newline_not_mem_loadAliasList
    (file : Bytes) {key val : Bytes}
    (hload : (loadAliasList file ∅)[key]? = some val) :
    (10 : Byte) ∉ val := by
  unfold loadAliasList at hload
  have hlines := newline_not_mem_fileLines file
  generalize fileLines file = lines at hload hlines
  induction lines using List.reverseRecOn with
  | nil =>
      simp at hload
  | append_singleton lines line ih =>
      rw [List.foldl_append] at hload
      simp only [List.foldl_cons, List.foldl_nil] at hload
      rw [Std.ExtTreeMap.getElem?_insert] at hload
      split at hload
      · obtain rfl := Option.some.inj hload
        intro hmem
        have hread := (List.takeWhile_sublist _).subset hmem
        have hrest := (List.drop_sublist _ _).subset hread
        exact hlines line (by simp) ((List.dropWhile_sublist _).subset hrest)
      · exact ih hload fun l hl => hlines l (by simp [hl])

/-- A value with a newline is in the map after its message. -/
theorem procCmdAlias_newline
    (path : Bytes) {msg : Bytes} (store : AliasStore)
    (hvalue : (10 : Byte) ∈ aliasValue msg) :
    (procCmdAlias path msg store).2.2.aliasList[aliasKey msg]? =
      some (aliasValue msg) := by
  have hprint : ¬ (msg = text "Alias" ∨ msg = text "alias") := by
    rintro (rfl | rfl)
    · revert hvalue
      decide
    · revert hvalue
      decide
  have hset : aliasValue msg ≠ [] := List.ne_nil_of_mem hvalue
  unfold procCmdAlias
  rw [if_neg hprint]
  simp only [if_neg hset]
  cases store.aliasList[aliasKey msg]? with
  | some val =>
      simp
  | none =>
      simp

/-- The store survives a restart after every message exactly if no message
gives an alias a value with a newline. -/
theorem aliasPersisted_iff
    (path : Bytes) (hpath : path ≠ []) (msgs : List Bytes) :
    (∀ pre, pre <+: msgs → Persisted (aliasRun path pre)) ↔
      ∀ msg ∈ msgs, (10 : Byte) ∉ aliasValue msg := by
  constructor
  · intro hpersisted msg hmsg hvalue
    obtain ⟨pre, post, rfl⟩ := List.append_of_mem hmsg
    have hpre : pre ++ [msg] <+: pre ++ msg :: post := ⟨post, by simp⟩
    have hload := hpersisted _ hpre
    unfold Persisted at hload
    rw [aliasRun_append_singleton] at hload
    have hkey := procCmdAlias_newline path (aliasRun path pre) hvalue
    rw [← hload] at hkey
    exact newline_not_mem_loadAliasList _ hkey hvalue
  · intro hvalues pre hpre
    exact (aliasRun_plainStore hpath fun msg hmsg =>
      hvalues msg (hpre.subset hmsg)).persisted

/-- A new alias, a changed one and a deleted one. -/
theorem aliasPersisted_iff_sample :
    Persisted (aliasRun (text "/tmp/aliaslist.txt")
      [text "alias Lamp on=gpio 2 1;sleep 1", text "alias off=gpio 2 0",
        text "alias off=sonoff a off", text "alias Lamp on="]) :=
  (aliasPersisted_iff _ (by decide) _).mpr (by decide) _ (List.prefix_refl _)

/-- A value of two lines is loaded as two aliases. -/
theorem not_persisted_twoLineValue :
    ¬ Persisted (aliasRun (text "/tmp/aliaslist.txt") [text "alias a=b\nc"]) := by
  intro hpersisted
  have hload := congrArg (fun m => m[text "c"]?) hpersisted
  revert hload
  decide

end AliasStore

end Xmproxy
end BrBox
