import BrBox.Adav.SettingsCrash

/-!
# Stores that find a change and stores that find none

`Store` compares every value with its copy from the last `Load` or `Store`, element by
element, and writes if one of them differs.  The branch for arrays of doubles sets the
flag whether an element differs or not.  Every value is printed into an array of the
stack before it is compared, without a look at its length.

* `settingsChanged_eq`: the change test of `Store` is what its loops over entries and
  elements find.
* `store_eq_storeWith`: a `Store` whose outcomes are given one by one is `Store`.
* `storeValue_fits_iff`: which values stay inside the arrays of `Store`.
* `storeIdempotent_iff`: when a second store does nothing and a change is written.
-/

namespace BrBox
namespace Adav

open CText
open CopyTrace
open LabelledRun

section Loops

variable {D : Type} [DecidableEq D]

/-- The loop over the elements of an array: `SettingsChanged` and the copy after it. -/
def storeElems {α : Type} [DecidableEq α] : (val localval : List α) → Bool → Bool × List α
  | v :: val, l :: localval, changed =>
      if v ≠ l then
        let rest := storeElems val localval true
        (rest.1, v :: rest.2)
      else
        let rest := storeElems val localval changed
        (rest.1, l :: rest.2)
  | _, localval, changed => (changed, localval)

/-- The branches of `Store` for the key types: `SettingsChanged` and the copy. -/
def storeBranch :
    (value localValue : SettingsValue D) → Bool → Bool × SettingsValue D
  | .string _ text, .string size textLocal, changed =>
      if text ≠ textLocal then
        (true, .string size text)
      else
        (changed, .string size textLocal)
  | .int n, .int m, changed => if n ≠ m then (true, .int n) else (changed, .int m)
  | .intArr val, .intArr localval, changed =>
      let loop := storeElems val localval changed
      (loop.1, .intArr loop.2)
  | .long n, .long m, changed => if n ≠ m then (true, .long n) else (changed, .long m)
  | .longArr val, .longArr localval, changed =>
      let loop := storeElems val localval changed
      (loop.1, .longArr loop.2)
  | .double d, .double e, changed => if d ≠ e then (true, .double d) else (changed, .double e)
  | .doubleArr val, .doubleArr localval, changed =>
      -- the flag is set behind the loop
      (true, .doubleArr (storeElems val localval changed).2)
  | _, localValue, changed => (changed, localValue)

/-- The loop of `Store` over the attached settings. -/
def storeEntries :
    List (SettingsEntry D) → Bool → Bool × List (SettingsEntry D)
  | [], changed => (changed, [])
  | pEntry :: entries, changed =>
      let branch := storeBranch pEntry.value pEntry.localValue changed
      let rest := storeEntries entries branch.1
      (rest.1, { pEntry with localValue := branch.2 } :: rest.2)

/-- The loop over the elements finds a difference of the arrays. -/
theorem storeElems_eq
    {α : Type} [DecidableEq α]
    {val localval : List α}
    (hlength : val.length = localval.length)
    (changed : Bool) :
    storeElems val localval changed = (changed || decide (val ≠ localval), val) := by
  induction val generalizing localval changed with
  | nil =>
      obtain rfl := List.length_eq_zero_iff.mp hlength.symm
      simp [storeElems]
  | cons v val ih =>
      cases localval with
      | nil =>
          simp at hlength
      | cons l localval =>
          have hrest := ih (Nat.succ.inj hlength)
          by_cases hv : v = l
          · subst hv
            simp [storeElems, hrest]
          · simp [storeElems, hrest, hv]

/-- A branch finds a difference and copies the value. -/
theorem storeBranch_eq
    {value localValue : SettingsValue D}
    (hshape : localValue.shape = value.shape)
    (changed : Bool) :
    storeBranch value localValue changed =
      (changed || (decide (value ≠ localValue) || decide (value.keyType = .doubleArr)),
        value) := by
  simp only [SettingsValue.shape, Prod.mk.injEq] at hshape
  obtain ⟨htype, hsize⟩ := hshape
  cases value <;> cases localValue <;>
    simp only [SettingsValue.keyType, reduceCtorEq] at htype
  case string.string size text size' textLocal =>
    have hsize' : size' = size := hsize
    by_cases htext : text = textLocal
    · simp [storeBranch, htext, hsize', SettingsValue.keyType]
    · simp [storeBranch, htext, hsize', SettingsValue.keyType]
  case int.int n m | long.long n m | double.double n m =>
    by_cases hn : n = m
    · simp [storeBranch, hn, SettingsValue.keyType]
    · simp [storeBranch, hn, SettingsValue.keyType]
  case intArr.intArr val localval | longArr.longArr val localval =>
    have hlength : val.length = localval.length := hsize.symm
    simp [storeBranch, storeElems_eq hlength, SettingsValue.keyType]
  case doubleArr.doubleArr val localval =>
    have hlength : val.length = localval.length := hsize.symm
    simp [storeBranch, storeElems_eq hlength, SettingsValue.keyType]

/-- The loop finds the changed settings and copies all values. -/
theorem storeEntries_eq
    {entries : List (SettingsEntry D)}
    (hshape : ∀ pEntry ∈ entries, pEntry.localValue.shape = pEntry.value.shape)
    (changed : Bool) :
    storeEntries entries changed =
      (changed || entries.any entryChanged, entries.map SettingsEntry.copied) := by
  induction entries generalizing changed with
  | nil =>
      simp [storeEntries]
  | cons pEntry entries ih =>
      have hrest := ih fun e he => hshape e (List.mem_cons_of_mem _ he)
      simp only [storeEntries, storeBranch_eq (hshape pEntry List.mem_cons_self), hrest]
      simp [entryChanged, SettingsEntry.copied, Bool.or_assoc]

/-- `SettingsChanged` and the copies of `Store` are those of its loop. -/
theorem settingsChanged_eq
    {p : ADSettings D}
    (hshape : ∀ pEntry ∈ p.entries, pEntry.localValue.shape = pEntry.value.shape) :
    settingsChanged p =
        ((storeEntries p.entries false).1 || metaChanged p.version ||
          metaChanged p.seqCount || metaChanged p.size) ∧
      ∀ {C : Type} (lib : SettingsLib D C),
        (storeLoop lib p).entries = (storeEntries p.entries false).2 := by
  rw [storeEntries_eq hshape]
  exact ⟨rfl, fun _ => rfl⟩

end Loops

section Texts

variable {D : Type}
variable {C : Type}

/-- The texts of the elements fit `temp_arr`, with the comma and the blank behind all
but the last. -/
def ElemsFit : List Bytes → Prop
  | [] => True
  | [elem] => elem.length ≤ 511
  | elem :: next :: elems => elem.length ≤ 509 ∧ ElemsFit (next :: elems)

/-- The text of the value has at most 4095 characters, and the elements of an array
fit `temp_arr`. -/
def ValueShort (lib : SettingsLib D C) (v : SettingsValue D) : Prop :=
  (lib.print v).length ≤ 4095 ∧
    match v with
    | .intArr l => ElemsFit (l.map decimalText)
    | .longArr l => ElemsFit (l.map decimalText)
    | .doubleArr l => ElemsFit (l.map lib.printDouble)
    | _ => True

/-- The texts of all values are short. -/
def TextsShort (lib : SettingsLib D C) (p : ADSettings D) : Prop :=
  ∀ kv ∈ p.values, ValueShort lib kv.2

/-- `Store` prints all values inside its arrays. -/
def StoreFits (lib : SettingsLib D C) (p : ADSettings D) : Prop :=
  ∀ pEntry ∈ p.entries, (lib.storeValue pEntry.value).Fits

instance (lib : SettingsLib D C) (p : ADSettings D) : Decidable (StoreFits lib p) :=
  inferInstanceAs (Decidable (∀ pEntry ∈ p.entries, _))

/-- The loop over the elements stays inside both arrays. -/
theorem storeElemTexts_fits_iff
    (value : Bytes)
    {elems : List Bytes}
    (hne : elems ≠ []) :
    (storeElemTexts value elems).Fits ↔
      (value ++ tupleText elems).length ≤ 4095 ∧ ElemsFit elems := by
  fun_induction storeElemTexts value elems with
  | case1 value =>
      exact absurd rfl hne
  | case2 value elem =>
      have hsame : tupleText [elem] = elem := by
        simp [tupleText, List.intercalate]
      simp only [Traced.fits_bind, Traced.fits_copy, Traced.value_copy, storeTempArr,
        storeValueArr, ElemsFit, hsame]
      omega
  | case3 value elem next elems ih =>
      have hrest := ih (value ++ (elem ++ [44, 32])) (List.cons_ne_nil _ _)
      have hlength : (value ++ (elem ++ [44, 32])).length ≤
          (value ++ tupleText (elem :: next :: elems)).length := by
        simp [tupleText, List.intercalate, List.intersperse]
      have hsame : value ++ (elem ++ [44, 32]) ++ tupleText (next :: elems) =
          value ++ tupleText (elem :: next :: elems) := by
        simp [tupleText, List.intercalate, List.intersperse]
      simp only [Traced.fits_bind, Traced.fits_copy, Traced.value_copy]
      rw [hrest, hsame]
      simp only [storeTempArr, storeValueArr, ElemsFit, List.length_append,
        List.length_cons, List.length_nil] at hlength ⊢
      constructor
      · rintro ⟨helem, -, hall, hfit⟩
        exact ⟨hall, by omega, hfit⟩
      · rintro ⟨hall, helem, hfit⟩
        exact ⟨by omega, by omega, hall, hfit⟩

/-- An array is printed inside the arrays of `Store` exactly when its text is short. -/
theorem storeElemTexts_nil_fits_iff
    (elems : List Bytes) :
    (storeElemTexts [] elems).Fits ↔
      (tupleText elems).length ≤ 4095 ∧ ElemsFit elems := by
  by_cases hnil : elems = []
  · subst hnil
    simp [storeElemTexts, tupleText, List.intercalate, ElemsFit]
  · rw [storeElemTexts_fits_iff [] hnil, List.nil_append]

/-- A value is printed inside the arrays exactly when it is short. -/
theorem storeValue_fits_iff
    (lib : SettingsLib D C)
    (v : SettingsValue D) :
    (lib.storeValue v).Fits ↔ ValueShort lib v := by
  cases v with
  | string size text | int n | long n | double d =>
      simp only [SettingsLib.storeValue, Traced.fits_copy, storeValueArr, ValueShort,
        SettingsLib.print, and_true]
      omega
  | intArr l | longArr l | doubleArr l =>
      exact storeElemTexts_nil_fits_iff _

end Texts

section Outcomes

variable {D : Type} [DecidableEq D]
variable {C : Type} [DecidableEq C]

/-- What becomes of the file in `Save`: it cannot be opened; `settings_save` fails and
leaves something; it leaves something else and does not notice; it writes all. -/
inductive SaveOutcome (C : Type) where
  | fopenFails
  | saveFails (left : C)
  | short (left : C)
  | ok

/-- What becomes of a store that writes. -/
structure StoreOutcome (C : Type) where
  save : SaveOutcome C
  sha1Status : Int

/-- Nothing fails. -/
def StoreOutcome.ok : StoreOutcome C :=
  { save := .ok, sha1Status := 0 }

/-- `Save`. -/
def saveWith
    (lib : SettingsLib D C) (o : SaveOutcome C) (p : ADSettings D)
    (disk : SettingsDisk C) : Int × SettingsDisk C :=
  match o with
  | .fopenFails => (-1, disk)
  | .saveFails left => (-1, writeContent disk p.filepath left)
  | .short left => (0, writeContent disk p.filepath left)
  | .ok => (0, save lib p disk)

/-- `CalculateCheckSum`; a `sha1sum` that fails has emptied the `.sha1`. -/
def calculateCheckSumWith
    (status : Int) (disk : SettingsDisk C) (f : SettingsFile) : Int × SettingsDisk C :=
  if status = 0 then
    (0, calculateCheckSum disk f)
  else
    (status, spoilCheckSum disk f)

/-- `Store`. -/
def storeWith
    (lib : SettingsLib D C) (o : StoreOutcome C) (p : ADSettings D)
    (disk : SettingsDisk C) : Int × ADSettings D × SettingsDisk C :=
  if settingsChanged p then
    let q := storePrepare lib p
    let saved := saveWith lib o.save q disk
    if saved.1 ≠ 0 then
      (saved.1, q, saved.2)
    else
      let q' := swapAlternateFile q
      let summed := calculateCheckSumWith o.sha1Status saved.2 q'.filepath
      (summed.1, q', summed.2)
  else
    (0, storeLoop lib p, disk)

omit [DecidableEq C] in
/-- Stores whose `settings_save` does its work. -/
theorem store_eq_storeWith
    (lib : SettingsLib D C)
    (env : StoreEnv)
    (p : ADSettings D)
    (disk : SettingsDisk C) :
    store lib env p disk =
      storeWith lib
        { save := if env.fopenOk then .ok else .fopenFails
          sha1Status := env.sha1Status } p disk := by
  unfold store storeWith
  by_cases hchanged : settingsChanged p = true
  · rw [if_pos hchanged, if_pos hchanged]
    cases hopen : env.fopenOk with
    | false =>
        rfl
    | true =>
        by_cases hsum : env.sha1Status = 0
        · simp [saveWith, calculateCheckSumWith, hsum]
        · simp [saveWith, calculateCheckSumWith, hsum]
  · rw [if_neg hchanged, if_neg hchanged]

end Outcomes

section System

variable {D : Type} [DecidableEq D]
variable {C : Type} [DecidableEq C]

/-- A loaded process and the files.  `last` is what `Store` has returned, if no value has
changed since. -/
structure StoreSystem (D C : Type) where
  process : ADSettings D
  disk : SettingsDisk C
  last : Option Int

/-- The program changes a value, or calls `Store`. -/
inductive StoreLabel (D C : Type) where
  | change (changes : List (Bytes × SettingsValue D)) (version : Option Int)
  | store (o : StoreOutcome C)

/-- After a load. -/
def StoreSystem.loaded
    (p : ADSettings D) (disk : SettingsDisk C) : StoreSystem D C :=
  { process := p, disk := disk, last := none }

/-- One step; a change is one of some value. -/
def StoreSystem.step
    (lib : SettingsLib D C) (s : StoreSystem D C) :
    StoreLabel D C → Option (StoreSystem D C)
  | .change changes version =>
      let p := assignValues changes version s.process
      if p.values = s.process.values ∧ p.version.value = s.process.version.value then
        none
      else
        some { s with process := p, last := none }
  | .store o =>
      let result := storeWith lib o s.process s.disk
      some { process := result.2.1, disk := result.2.2, last := some result.1 }

/-- One step of a process whose stack is whole: a `Store` that prints a value past the
end of an array has no outcome. -/
def StoreSystem.intactStep
    (lib : SettingsLib D C) (s : StoreSystem D C) (l : StoreLabel D C) :
    Option (StoreSystem D C) :=
  match l with
  | .change _ _ => s.step lib l
  | .store _ => if StoreFits lib s.process then s.step lib l else none

/-- A store now, with all file operations successful, writes a content and its checksum
to the alternate file and goes on with that file. -/
structure Writes
    (lib : SettingsLib D C) (p : ADSettings D) (disk : SettingsDisk C) (c : C) : Prop where
  result : (storeWith lib .ok p disk).1 = 0
  file : (storeWith lib .ok p disk).2.1.file = p.alternateFile
  disk : (storeWith lib .ok p disk).2.2 =
    calculateCheckSum (writeContent disk p.alternateFile c) p.alternateFile

/-- It writes sections with the texts of the values and the next sequence count. -/
def Rewrites
    (lib : SettingsLib D C) (p : ADSettings D) (disk : SettingsDisk C) : Prop :=
  ∃ doc, DocHolds lib doc p.values (wrapInt32 (p.seqCount.value + 1)) ∧
    Writes lib p disk (lib.settingsSave doc)

/-- What `settings_save` is given in a store that writes. -/
def storedContent (lib : SettingsLib D C) (p : ADSettings D) : C :=
  lib.settingsSave (storePrepare lib p).settings

/-- The keys are different and the alternate file is the other one. -/
structure StoreInv (p : ADSettings D) : Prop where
  nodup : (p.entries.map SettingsEntry.key).Nodup
  alternate : p.alternateFile = p.file.other

/-- All copies are those of the values. -/
structure Copied (p : ADSettings D) : Prop where
  entries : ∀ pEntry ∈ p.entries, pEntry.localValue = pEntry.value
  version : p.version.localValue = p.version.value
  seqCount : p.seqCount.localValue = p.seqCount.value
  size : p.size.localValue = p.size.value

/-- There is an array of doubles among the settings. -/
def HasDoubleArr (p : ADSettings D) : Prop :=
  ∃ pEntry ∈ p.entries, pEntry.value.keyType = .doubleArr

variable {lib : SettingsLib D C}
variable {p : ADSettings D}
variable {disk : SettingsDisk C}

omit [DecidableEq D] [DecidableEq C] in
/-- What `storePrepare` keeps. -/
theorem storePrepare_fields
    (lib : SettingsLib D C)
    (p : ADSettings D) :
    (storePrepare lib p).values = p.values ∧
      (storePrepare lib p).entries.map SettingsEntry.key =
        p.entries.map SettingsEntry.key ∧
      (storePrepare lib p).file = p.file ∧
      (storePrepare lib p).alternateFile = p.alternateFile ∧
      (storePrepare lib p).filepath = p.alternateFile := by
  refine ⟨?_, ?_, rfl, rfl, rfl⟩
  · exact (localValues_storeLoop lib p).2
  · simp [storePrepare, updateSequenceCount, storeLoop, SettingsEntry.copied,
      Function.comp_def]

omit [DecidableEq C] in
/-- A store copies the values, whatever becomes of the file. -/
theorem copied_storeWith
    (lib : SettingsLib D C)
    (o : StoreOutcome C)
    (p : ADSettings D)
    (disk : SettingsDisk C) :
    Copied (storeWith lib o p disk).2.1 := by
  have hloop : Copied (storeLoop lib p) := by
    refine ⟨?_, rfl, rfl, rfl⟩
    intro pEntry hentry
    obtain ⟨e, -, rfl⟩ := List.mem_map.mp hentry
    rfl
  have hprepare : Copied (storePrepare lib p) :=
    ⟨hloop.entries, rfl, rfl, rfl⟩
  unfold storeWith
  split
  · dsimp only
    split
    · exact hprepare
    · exact ⟨hprepare.entries, rfl, rfl, rfl⟩
  · exact hloop

omit [DecidableEq C] in
/-- And keeps them. -/
theorem values_storeWith
    (lib : SettingsLib D C)
    (o : StoreOutcome C)
    (p : ADSettings D)
    (disk : SettingsDisk C) :
    (storeWith lib o p disk).2.1.values = p.values := by
  unfold storeWith
  split
  · dsimp only
    split
    · exact (storePrepare_fields lib p).1
    · exact (storePrepare_fields lib p).1
  · exact (localValues_storeLoop lib p).2

omit [DecidableEq D] [DecidableEq C] in
theorem storeInv_storePrepare
    (lib : SettingsLib D C)
    (hinv : StoreInv p) :
    StoreInv (storePrepare lib p) := by
  obtain ⟨-, hkeys, -, -, -⟩ := storePrepare_fields lib p
  refine ⟨?_, hinv.alternate⟩
  rw [hkeys]
  exact hinv.nodup

omit [DecidableEq C] in
theorem storeInv_storeWith
    (lib : SettingsLib D C)
    (o : StoreOutcome C)
    (disk : SettingsDisk C)
    (hinv : StoreInv p) :
    StoreInv (storeWith lib o p disk).2.1 := by
  have hprepare := storeInv_storePrepare lib hinv
  unfold storeWith
  split
  · dsimp only
    split
    · exact hprepare
    · refine ⟨hprepare.nodup, ?_⟩
      rw [swapAlternateFile, hprepare.alternate, SettingsFile.other_other]
  · exact ⟨hprepare.nodup, hinv.alternate⟩

/-- With all copies made, only an array of doubles counts as changed. -/
theorem settingsChanged_of_copied
    (hcopied : Copied p) :
    settingsChanged p = true ↔ HasDoubleArr p := by
  have hmeta : ∀ m : MetaEntry, m.localValue = m.value → metaChanged m = false := by
    intro m hm
    simp [metaChanged, hm]
  simp only [settingsChanged, hmeta _ hcopied.version, hmeta _ hcopied.seqCount,
    hmeta _ hcopied.size, Bool.or_false, List.any_eq_true, HasDoubleArr]
  constructor
  · rintro ⟨pEntry, hentry, hchanged⟩
    refine ⟨pEntry, hentry, ?_⟩
    simpa [entryChanged, hcopied.entries pEntry hentry] using hchanged
  · rintro ⟨pEntry, hentry, htype⟩
    exact ⟨pEntry, hentry, by simp [entryChanged, htype]⟩

/-- A changed entry is found. -/
theorem settingsChanged_of_entry
    {pEntry : SettingsEntry D}
    (hentry : pEntry ∈ p.entries)
    (hchanged : entryChanged pEntry = true) :
    settingsChanged p = true := by
  have hany : p.entries.any entryChanged = true :=
    List.any_eq_true.mpr ⟨pEntry, hentry, hchanged⟩
  simp [settingsChanged, hany]

omit [DecidableEq C] in
/-- A store writes if and only if it finds a change. -/
theorem writes_iff
    (hinv : StoreInv p)
    {c : C} :
    Writes lib p disk c ↔ settingsChanged p = true ∧ c = storedContent lib p := by
  constructor
  · rintro ⟨-, hfile, hdisk⟩
    have hchanged : settingsChanged p = true := by
      by_contra hchanged
      have hsame : (storeWith lib .ok p disk).2.1.file = p.file := by
        rw [storeWith, if_neg hchanged]
        rfl
      rw [hsame, hinv.alternate] at hfile
      exact SettingsFile.ne_other _ hfile
    refine ⟨hchanged, ?_⟩
    have hcontent := congrArg (fun disk => (disk p.alternateFile).content) hdisk
    have hsaved : ((storeWith lib .ok p disk).2.2 p.alternateFile).content =
        some (storedContent lib p) := by
      rw [storeWith, if_pos hchanged]
      simp [saveWith, StoreOutcome.ok, calculateCheckSumWith, calculateCheckSum, save,
        writeContent, swapAlternateFile, storePrepare, updateSequenceCount, storedContent]
    rw [hsaved] at hcontent
    simpa [calculateCheckSum, writeContent] using hcontent.symm
  · rintro ⟨hchanged, rfl⟩
    constructor
    · rw [storeWith, if_pos hchanged]
      rfl
    · rw [storeWith, if_pos hchanged]
      rfl
    · rw [storeWith, if_pos hchanged]
      rfl

omit [DecidableEq C] in
theorem rewrites_iff
    (hinv : StoreInv p) :
    Rewrites lib p disk ↔ settingsChanged p = true := by
  constructor
  · rintro ⟨doc, -, hwrites⟩
    exact ((writes_iff hinv).mp hwrites).1
  · intro hchanged
    exact ⟨_, storePrepare_holds lib hinv.nodup, (writes_iff hinv).mpr ⟨hchanged, rfl⟩⟩

/-- What holds in every state after a load. -/
structure SystemInv (s : StoreSystem D C) : Prop where
  process : StoreInv s.process
  copied : ∀ result, s.last = some result → Copied s.process

omit [DecidableEq D] in
/-- A change of a variable keeps the key and the copy. -/
theorem assignValue_fields
    (changes : List (Bytes × SettingsValue D))
    (pEntry : SettingsEntry D) :
    (assignValue changes pEntry).key = pEntry.key ∧
      (assignValue changes pEntry).localValue = pEntry.localValue := by
  unfold assignValue
  split
  · exact ⟨rfl, rfl⟩
  · split
    · exact ⟨rfl, rfl⟩
    · exact ⟨rfl, rfl⟩

omit [DecidableEq D] [DecidableEq C] in
/-- Changing variables keeps keys and files. -/
theorem storeInv_assignValues
    (hinv : StoreInv p)
    (changes : List (Bytes × SettingsValue D))
    (version : Option Int) :
    StoreInv (assignValues changes version p) := by
  refine ⟨?_, hinv.alternate⟩
  have hkeys : (assignValues changes version p).entries.map SettingsEntry.key =
      p.entries.map SettingsEntry.key := by
    simp only [assignValues, List.map_map]
    apply List.map_congr_left
    intro pEntry _
    exact (assignValue_fields changes pEntry).1
  rw [hkeys]
  exact hinv.nodup

omit [DecidableEq C] in
/-- A step keeps the invariant. -/
theorem systemInv_step
    {s t : StoreSystem D C} {l : StoreLabel D C}
    (hinv : SystemInv s)
    (hstep : s.step lib l = some t) :
    SystemInv t := by
  cases l with
  | change changes version =>
      simp only [StoreSystem.step] at hstep
      split at hstep
      · simp at hstep
      · obtain rfl := Option.some.inj hstep
        exact ⟨storeInv_assignValues hinv.process changes version, by simp⟩
  | store o =>
      simp only [StoreSystem.step, Option.some.injEq] at hstep
      subst hstep
      exact ⟨storeInv_storeWith lib o s.disk hinv.process,
        fun _ _ => copied_storeWith lib o s.process s.disk⟩

omit [DecidableEq D] in
/-- A load makes a state with the invariant. -/
theorem systemInv_loaded
    {schema : SettingsSchema}
    {env : TouchEnv} {table : SettingsTable D schema} {mem : MetaMemory}
    {disk₀ : SettingsDisk C}
    (hload : load lib env table.entries mem disk₀ = (some p, disk)) :
    SystemInv (StoreSystem.loaded p disk) := by
  refine ⟨?_, by simp [StoreSystem.loaded]⟩
  have hkeys : (table.entries.map SettingsEntry.key).Nodup := by
    have hnodup := schema.nodup
    rw [← table.shapes, List.map_map] at hnodup
    exact hnodup
  unfold load at hload
  split at hload
  · simp at hload
  · dsimp only at hload
    split at hload
    · simp at hload
    · next doc hopen =>
        obtain ⟨hp, -⟩ := Prod.mk.inj hload
        obtain rfl := Option.some.inj hp
        refine ⟨?_, rfl⟩
        have hsame : (fun pEntry => (loadEntry lib doc pEntry).key) =
            SettingsEntry.key := by
          funext pEntry
          unfold loadEntry
          split
          · rfl
          · rfl
        show ((table.entries.map (loadEntry lib doc)).map SettingsEntry.key).Nodup
        rw [List.map_map]
        have hcomp : SettingsEntry.key ∘ loadEntry lib doc = SettingsEntry.key := hsame
        rw [hcomp]
        exact hkeys

omit [DecidableEq C] in
/-- A step of an intact process is a step, and a `Store` has fitted. -/
theorem step_of_intactStep
    {s t : StoreSystem D C} {l : StoreLabel D C}
    (hstep : s.intactStep lib l = some t) :
    s.step lib l = some t ∧ (∀ o, l = .store o → StoreFits lib s.process) := by
  cases l with
  | change changes version =>
      refine ⟨hstep, ?_⟩
      rintro o ⟨⟩
  | store o =>
      simp only [StoreSystem.intactStep] at hstep
      split at hstep
      · next hfits =>
          exact ⟨hstep, fun _ _ => hfits⟩
      · cases hstep

omit [DecidableEq D] [DecidableEq C] in
/-- What is printed depends on the values only. -/
theorem storeFits_iff
    {p : ADSettings D} :
    StoreFits lib p ↔ ∀ kv ∈ p.values, (lib.storeValue kv.2).Fits := by
  simp [StoreFits, ADSettings.values]

omit [DecidableEq C] in
/-- After a `Store` the values are those that fitted. -/
theorem intactStep_fits
    {s t : StoreSystem D C} {l : StoreLabel D C}
    (hstep : s.intactStep lib l = some t) {result : Int}
    (hlast : t.last = some result) :
    StoreFits lib t.process := by
  obtain ⟨hplain, hfits⟩ := step_of_intactStep hstep
  cases l with
  | change changes version =>
      simp only [StoreSystem.step] at hplain
      split at hplain
      · cases hplain
      · obtain rfl := Option.some.inj hplain
        cases hlast
  | store o =>
      have hstored := hfits o rfl
      simp only [StoreSystem.step, Option.some.injEq] at hplain
      subst hplain
      rw [storeFits_iff] at hstored ⊢
      rw [values_storeWith]
      exact hstored

omit [DecidableEq C] in
/-- In every state after a `Store` of an intact process the values fit. -/
theorem intactRun_spec
    {s t : StoreSystem D C} {ls : List (StoreLabel D C)}
    (hinv : SystemInv s) (hstart : s.last = none)
    (hrun : run (StoreSystem.intactStep lib) s ls = some t) :
    SystemInv t ∧ ∀ result, t.last = some result → StoreFits lib t.process := by
  refine run_invariant (I := fun u => SystemInv u ∧
    ∀ result, u.last = some result → StoreFits lib u.process) ?_ ⟨hinv, ?_⟩ hrun
  · intro u l v hu hstep
    exact ⟨systemInv_step hu.1 (step_of_intactStep hstep).1,
      fun result hlast => intactStep_fits hstep hlast⟩
  · intro result hlast
    rw [hstart] at hlast
    cases hlast

omit [DecidableEq D] in
/-- A run from a load, by what is seen of its last state. -/
theorem exists_run_of_load
    (lib : SettingsLib D C)
    (step : StoreSystem D C → StoreLabel D C → Option (StoreSystem D C))
    (env : TouchEnv)
    (entries : List (SettingsEntry D))
    (mem : MetaMemory)
    (disk₀ : SettingsDisk C)
    (ls : List (StoreLabel D C))
    {α : Type}
    (seen : StoreSystem D C → α)
    (a : α)
    (hseen : ((load lib env entries mem disk₀).1.bind fun p =>
      (run step (StoreSystem.loaded p (load lib env entries mem disk₀).2) ls).map seen) =
        some a) :
    ∃ p disk t, load lib env entries mem disk₀ = (some p, disk) ∧
      run step (StoreSystem.loaded p disk) ls = some t ∧ seen t = a := by
  obtain ⟨p, hp, hmap⟩ := Option.bind_eq_some_iff.mp hseen
  obtain ⟨t, hrun, ht⟩ := Option.map_eq_some_iff.mp hmap
  exact ⟨p, _, t, Prod.ext hp rfl, hrun, ht⟩

end System

section Idempotence

variable {D : Type} [DecidableEq D]
variable {C : Type} [DecidableEq C]

/-- A store without a change does nothing, and a store after this change of values
stays inside its arrays and writes. -/
structure Idempotent
    (lib : SettingsLib D C) (p : ADSettings D)
    (changes : List (Bytes × SettingsValue D)) (version : Option Int) : Prop where
  fits : StoreFits lib p
  noFile : ∀ o disk, (storeWith lib o p disk).2.2 = disk
  noCount : ∀ o disk, (storeWith lib o p disk).2.1.seqCount = p.seqCount
  noSwap : ∀ o disk, (storeWith lib o p disk).2.1.file = p.file ∧
    (storeWith lib o p disk).2.1.alternateFile = p.alternateFile
  writes : (assignValues changes version p).values ≠ p.values →
    StoreFits lib (assignValues changes version p) ∧
      ∀ disk, Rewrites lib (assignValues changes version p) disk

variable {lib : SettingsLib D C}
variable {p : ADSettings D}

/-- A copy that is one already. -/
theorem MetaEntry.copied_eq
    {m : MetaEntry}
    (hcopied : m.localValue = m.value) :
    m.copied = m := by
  obtain ⟨value, localValue, keyState⟩ := m
  have hlocal : localValue = value := hcopied
  rw [MetaEntry.copied, hlocal]

/-- The next sequence count is another one. -/
theorem wrapInt32_succ_ne
    (n : Int) :
    wrapInt32 (n + 1) ≠ n := by
  intro h
  have hmod := wrapInt32_emod (n + 1)
  rw [h] at hmod
  omega

/-- A changed value is not its copy any more. -/
theorem settingsChanged_assignValues
    (hcopied : Copied p)
    {changes : List (Bytes × SettingsValue D)} {version : Option Int}
    (hne : (assignValues changes version p).values ≠ p.values) :
    settingsChanged (assignValues changes version p) = true := by
  have hentry : ∃ pEntry ∈ p.entries,
      (assignValue changes pEntry).value ≠ pEntry.value := by
    by_contra hall
    push Not at hall
    apply hne
    simp only [ADSettings.values, assignValues, List.map_map]
    apply List.map_congr_left
    intro pEntry hmem
    simp only [Function.comp_apply, (assignValue_fields changes pEntry).1, hall pEntry hmem]
  obtain ⟨pEntry, hmem, hvalue⟩ := hentry
  have hlocal : (assignValue changes pEntry).localValue = pEntry.value := by
    rw [← hcopied.entries pEntry hmem]
    exact (assignValue_fields changes pEntry).2
  refine settingsChanged_of_entry (List.mem_map_of_mem hmem) ?_
  simp [entryChanged, hlocal, hvalue]

omit [DecidableEq C] in
/-- Without an array of doubles a second store is quiet. -/
theorem storeWith_of_unchanged
    (lib : SettingsLib D C)
    (hcopied : Copied p)
    (hchanged : settingsChanged p = false)
    (o : StoreOutcome C)
    (disk : SettingsDisk C) :
    (storeWith lib o p disk).2.2 = disk ∧
      (storeWith lib o p disk).2.1.seqCount = p.seqCount ∧
      (storeWith lib o p disk).2.1.file = p.file ∧
      (storeWith lib o p disk).2.1.alternateFile = p.alternateFile := by
  rw [storeWith, if_neg (by simp [hchanged])]
  exact ⟨rfl, MetaEntry.copied_eq hcopied.seqCount, rfl, rfl⟩

omit [DecidableEq C] in
/-- A store that writes counts, even if the file cannot be opened. -/
theorem seqCount_storeWith
    (hchanged : settingsChanged p = true)
    (o : StoreOutcome C)
    (disk : SettingsDisk C) :
    (storeWith lib o p disk).2.1.seqCount ≠ p.seqCount := by
  have hcount : (storeWith lib o p disk).2.1.seqCount.value =
      wrapInt32 (p.seqCount.value + 1) := by
    rw [storeWith, if_pos hchanged]
    dsimp only
    split
    · rfl
    · rfl
  intro h
  rw [h] at hcount
  exact wrapInt32_succ_ne _ hcount.symm

/-- After any successful store: a second store does nothing, and a change is written, if
and only if no setting is an array of doubles and the changed values are short. -/
theorem storeIdempotent_iff
    {schema : SettingsSchema}
    {env : TouchEnv} {table : SettingsTable D schema} {mem : MetaMemory}
    {disk₀ disk : SettingsDisk C}
    (hload : load lib env table.entries mem disk₀ = (some p, disk))
    {ls : List (StoreLabel D C)} {t : StoreSystem D C}
    (hrun : run (StoreSystem.intactStep lib) (StoreSystem.loaded p disk) ls = some t)
    (hlast : t.last = some 0)
    (changes : List (Bytes × SettingsValue D)) (version : Option Int) :
    Idempotent lib t.process changes version ↔
      (∀ pEntry ∈ t.process.entries, pEntry.value.keyType ≠ .doubleArr) ∧
        ((assignValues changes version t.process).values ≠ t.process.values →
          TextsShort lib (assignValues changes version t.process)) := by
  obtain ⟨hinv, hstored⟩ := intactRun_spec (systemInv_loaded hload) rfl hrun
  have hcopied := hinv.copied 0 hlast
  have hshort : StoreFits lib (assignValues changes version t.process) ↔
      TextsShort lib (assignValues changes version t.process) := by
    rw [storeFits_iff]
    exact forall₂_congr fun kv _ => storeValue_fits_iff lib kv.2
  constructor
  · intro hidem
    refine ⟨?_, fun hne => hshort.mp (hidem.writes hne).1⟩
    intro pEntry hentry htype
    have hchanged : settingsChanged t.process = true :=
      (settingsChanged_of_copied hcopied).mpr ⟨pEntry, hentry, htype⟩
    exact seqCount_storeWith hchanged .ok t.disk (hidem.noCount .ok t.disk)
  · rintro ⟨hnone, htexts⟩
    have hchanged : settingsChanged t.process = false := by
      rw [← Bool.not_eq_true, settingsChanged_of_copied hcopied]
      rintro ⟨pEntry, hentry, htype⟩
      exact hnone pEntry hentry htype
    have hquiet := storeWith_of_unchanged lib hcopied hchanged
    refine ⟨hstored 0 hlast, fun o disk => (hquiet o disk).1,
      fun o disk => (hquiet o disk).2.1, fun o disk => (hquiet o disk).2.2, ?_⟩
    intro hne
    refine ⟨hshort.mpr (htexts hne), fun disk => ?_⟩
    rw [rewrites_iff (storeInv_assignValues hinv.process changes version)]
    exact settingsChanged_assignValues hcopied hne

/-- A number is changed and stored; the next change will be written too. -/
theorem storeIdempotent_number :
    ∃ t : StoreSystem Int (Option SettingsLines),
      t.process.values = [([97], .int 5)] ∧ t.last = some 0 ∧
        Idempotent plainSettingsLib t.process [([97], .int 7)] none := by
  obtain ⟨p, disk, t, hload, hrun, hseen⟩ :=
    exists_run_of_load plainSettingsLib (StoreSystem.intactStep plainSettingsLib)
      ⟨true, true⟩ (sampleTable 3).entries zeroMemory
      (fun _ => ⟨none, none⟩) [.change [([97], .int 5)] none, .store .ok]
      (fun t => (t.process.values, t.last,
        (assignValues [([97], .int 7)] none t.process).values))
      ([([97], .int 5)], some 0, [([97], .int 7)]) (by decide)
  simp only [Prod.mk.injEq] at hseen
  obtain ⟨hvalues, hlast, hnext⟩ := hseen
  have hentries : ∀ pEntry ∈ t.process.entries, pEntry.value.keyType ≠ .doubleArr := by
    intro pEntry hentry
    have hmem : (pEntry.key, pEntry.value) ∈ t.process.values :=
      List.mem_map_of_mem hentry
    rw [hvalues, List.mem_singleton] at hmem
    rw [(Prod.mk.inj hmem).2]
    decide
  have hshort : TextsShort plainSettingsLib
      (assignValues [([97], .int 7)] none t.process) := by
    intro kv hkv
    rw [hnext, List.mem_singleton] at hkv
    subst hkv
    exact ⟨by decide, trivial⟩
  exact ⟨t, hvalues, hlast,
    (storeIdempotent_iff hload hrun hlast _ _).mpr ⟨hentries, fun _ => hshort⟩⟩

/-- Two doubles. -/
def doublesSchema : SettingsSchema where
  keys := [([97], (.doubleArr, 2))]
  nodup := by decide

/-- The doubles 1 and 2. -/
def doublesTable : SettingsTable Int doublesSchema where
  entries :=
    [{ key := [97], value := .doubleArr [1, 2], localValue := .doubleArr [1, 2],
       keyState := .notLoaded }]
  shapes := rfl
  valid := by
    intro pEntry hentry
    obtain rfl := List.mem_singleton.mp hentry
    exact ⟨by decide, rfl⟩

/-- Two doubles are stored; storing them again counts up and writes the other file. -/
theorem not_storeIdempotent_doubles :
    ∃ p disk t,
      load plainSettingsLib ⟨true, true⟩ doublesTable.entries zeroMemory
          (fun _ => ⟨none, none⟩) = (some p, disk) ∧
        run (StoreSystem.intactStep plainSettingsLib) (StoreSystem.loaded p disk)
          [.store .ok] = some t ∧
        t.last = some 0 ∧ t.process.values = [([97], .doubleArr [1, 2])] ∧
        ¬ Idempotent plainSettingsLib t.process [] none := by
  obtain ⟨p, disk, t, hload, hrun, hseen⟩ :=
    exists_run_of_load plainSettingsLib (StoreSystem.intactStep plainSettingsLib)
      ⟨true, true⟩ doublesTable.entries zeroMemory
      (fun _ => ⟨none, none⟩) [.store .ok]
      (fun t => (t.last, t.process.values, t.process.file,
        (storeWith plainSettingsLib .ok t.process t.disk).2.1.file))
      (some 0, [([97], .doubleArr [1, 2])], .main, .backup) (by decide)
  simp only [Prod.mk.injEq] at hseen
  obtain ⟨hlast, hvalues, hfile, hagain⟩ := hseen
  refine ⟨p, disk, t, hload, hrun, hlast, hvalues, ?_⟩
  intro hidem
  have hsame := (hidem.noSwap .ok t.disk).1
  rw [hfile, hagain] at hsame
  cases hsame

end Idempotence

end Adav
end BrBox
