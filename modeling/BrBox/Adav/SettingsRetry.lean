import BrBox.Adav.SettingsStore

/-!
# A store that fails

`Store` copies every value to `SettingsChainLocal` before it writes the file.  When the
write fails, the next store compares the values with the copies, finds no change and
returns 0; only an array of doubles makes it write.

* `notForgotten_store_iff`: what one store has to meet.
* `notForgotten_iff`: in a run nothing is forgotten if and only if every store meets it.
-/

namespace BrBox
namespace Adav

open CText
open LabelledRun

section Retry

variable {D : Type} [DecidableEq D]
variable {C : Type} [DecidableEq C]

/-- A text is what is printed for a value, or it is read as the value whatever the
variable holds. -/
def TextOf
    (lib : SettingsLib D C) (text : Bytes) (v : SettingsValue D) : Prop :=
  text = lib.print v ∨
    ∀ old : SettingsValue D, old.shape = v.shape → lib.getValue old text = (true, v)

/-- A content is opened with texts of the values. -/
def ReadsAs
    (lib : SettingsLib D C) (c : C) (values : List (Bytes × SettingsValue D)) : Prop :=
  ∃ doc, lib.settingsOpen c = some doc ∧
    ∀ kv ∈ values, ∃ text, settingsGet doc .data kv.1 = some text ∧ TextOf lib text kv.2

/-- A file passes its checksum and has the values. -/
def HeldIn
    (lib : SettingsLib D C) (disk : SettingsDisk C) (f : SettingsFile)
    (values : List (Bytes × SettingsValue D)) : Prop :=
  verifyCheckSum (disk f) = true ∧ ∃ c, (disk f).content = some c ∧ ReadsAs lib c values

/-- One of the files does. -/
def Held
    (lib : SettingsLib D C) (disk : SettingsDisk C)
    (values : List (Bytes × SettingsValue D)) : Prop :=
  ∃ f, HeldIn lib disk f values

/-- After a store that has failed the next one writes the values; after one that has
returned 0 they are those of a file that passes its checksum. -/
structure NotForgotten
    (lib : SettingsLib D C) (s : StoreSystem D C) : Prop where
  retries : ∀ result, s.last = some result → result ≠ 0 →
    ∃ c, ReadsAs lib c s.process.values ∧ Writes lib s.process s.disk c
  honest : s.last = some 0 → Held lib s.disk s.process.values

/-- What `Save` leaves in the file when it returns 0. -/
def SaveOutcome.written
    (lib : SettingsLib D C) (p : ADSettings D) : SaveOutcome C → Option C
  | .fopenFails => none
  | .saveFails _ => none
  | .short left => some left
  | .ok => some (storedContent lib p)

/-- After a failure: an array of doubles makes the next store write, and what it writes
is read back. -/
def FoundAgain (lib : SettingsLib D C) (p : ADSettings D) : Prop :=
  HasDoubleArr p ∧ ReadsAs lib (storedContent lib (storePrepare lib p)) p.values

/-- The condition on a store.  The file that was loaded stays as it is. -/
def StoreKeeps
    (lib : SettingsLib D C) (s : StoreSystem D C) (o : StoreOutcome C) : Prop :=
  if settingsChanged s.process then
    match o.save.written lib s.process with
    | none => FoundAgain lib s.process
    | some c =>
        if o.sha1Status = 0 then
          ReadsAs lib c s.process.values ∨
            HeldIn lib s.disk s.process.file s.process.values
        else
          FoundAgain lib s.process
  else
    Held lib s.disk s.process.values

/-- The condition on a step. -/
def StepKeeps (lib : SettingsLib D C) (s : StoreSystem D C) : StoreLabel D C → Prop
  | .change _ _ => True
  | .store o => StoreKeeps lib s o

variable {lib : SettingsLib D C}
variable {scope : SettingsScope D}
variable {p : ADSettings D}
variable {disk : SettingsDisk C}

omit [DecidableEq D] [DecidableEq C] in
/-- A library that reads what it has written reads what is stored. -/
theorem readsAs_storedContent
    (hlib : lib.Faithful scope)
    (hinv : StoreInv p)
    (hdoc : scope.doc (storePrepare lib p).settings) :
    ReadsAs lib (storedContent lib p) p.values := by
  obtain ⟨doc, hopen, hholds⟩ := (storePrepare_holds lib hinv.nodup).open_save hlib hdoc
  refine ⟨doc, hopen, ?_⟩
  intro kv hkv
  exact ⟨_, hholds.values kv hkv, Or.inl rfl⟩

omit [DecidableEq D] [DecidableEq C] in
/-- A save that returns 0. -/
theorem saveWith_of_written
    (disk : SettingsDisk C)
    {o : SaveOutcome C} {c : C}
    (hwritten : o.written lib p = some c) :
    saveWith lib o (storePrepare lib p) disk =
      (0, writeContent disk p.alternateFile c) := by
  cases o with
  | fopenFails =>
      simp [SaveOutcome.written] at hwritten
  | saveFails left =>
      simp [SaveOutcome.written] at hwritten
  | short left =>
      obtain rfl := Option.some.inj hwritten
      rfl
  | ok =>
      obtain rfl := Option.some.inj hwritten
      rfl

omit [DecidableEq D] [DecidableEq C] in
/-- A save that does not. -/
theorem saveWith_of_not_written
    (disk : SettingsDisk C)
    {o : SaveOutcome C}
    (hwritten : o.written lib p = none) :
    (saveWith lib o (storePrepare lib p) disk).1 = -1 := by
  cases o with
  | fopenFails =>
      rfl
  | saveFails left =>
      rfl
  | short left =>
      simp [SaveOutcome.written] at hwritten
  | ok =>
      simp [SaveOutcome.written] at hwritten

omit [DecidableEq C] in
/-- A store whose save fails has copied the values and counted. -/
theorem storeWith_of_not_written
    (disk : SettingsDisk C)
    {o : StoreOutcome C}
    (hchanged : settingsChanged p = true)
    (hwritten : o.save.written lib p = none) :
    (storeWith lib o p disk).1 = -1 ∧
      (storeWith lib o p disk).2.1 = storePrepare lib p := by
  have hsave := saveWith_of_not_written disk hwritten
  rw [storeWith, if_pos hchanged]
  simp only [hsave]
  exact ⟨rfl, rfl⟩

omit [DecidableEq C] in
/-- A store whose save returns 0. -/
theorem storeWith_of_written
    (disk : SettingsDisk C)
    {o : StoreOutcome C} {c : C}
    (hchanged : settingsChanged p = true)
    (hwritten : o.save.written lib p = some c) :
    storeWith lib o p disk =
      ((calculateCheckSumWith o.sha1Status (writeContent disk p.alternateFile c)
          p.alternateFile).1,
        swapAlternateFile (storePrepare lib p),
        (calculateCheckSumWith o.sha1Status (writeContent disk p.alternateFile c)
          p.alternateFile).2) := by
  rw [storeWith, if_pos hchanged]
  simp only [saveWith_of_written disk hwritten]
  rfl

omit [DecidableEq D] in
/-- The values are read from the file that was written, or the other one has them. -/
theorem held_calculateCheckSum
    {f : SettingsFile} {c : C} {values : List (Bytes × SettingsValue D)} :
    Held lib (calculateCheckSum (writeContent disk f c) f) values ↔
      ReadsAs lib c values ∨ HeldIn lib disk f.other values := by
  have hwritten : HeldIn lib (calculateCheckSum (writeContent disk f c) f) f values ↔
      ReadsAs lib c values := by
    simp [HeldIn, calculateCheckSum, writeContent, verifyCheckSum]
  have hother : HeldIn lib (calculateCheckSum (writeContent disk f c) f) f.other values ↔
      HeldIn lib disk f.other values := by
    simp [HeldIn, calculateCheckSum, writeContent]
  constructor
  · rintro ⟨g, hg⟩
    rcases SettingsFile.eq_or_other f g with rfl | rfl
    · exact Or.inl (hwritten.mp hg)
    · exact Or.inr (hother.mp hg)
  · rintro (hreads | hheld)
    · exact ⟨f, hwritten.mpr hreads⟩
    · exact ⟨f.other, hother.mpr hheld⟩

/-- After a store that has returned 0. -/
theorem notForgotten_iff_held
    {s : StoreSystem D C}
    (hlast : s.last = some 0) :
    NotForgotten lib s ↔ Held lib s.disk s.process.values := by
  constructor
  · intro h
    exact h.honest hlast
  · intro hheld
    refine ⟨?_, fun _ => hheld⟩
    intro result hresult hne
    rw [hlast] at hresult
    exact absurd (Option.some.inj hresult).symm hne

/-- After a store that has failed: its copies hide the change. -/
theorem notForgotten_iff_again
    {s : StoreSystem D C} {result : Int}
    (hinv : StoreInv s.process)
    (hcopied : Copied s.process)
    (hlast : s.last = some result)
    (hne : result ≠ 0) :
    NotForgotten lib s ↔
      HasDoubleArr s.process ∧
        ReadsAs lib (storedContent lib s.process) s.process.values := by
  constructor
  · intro h
    obtain ⟨c, hreads, hwrites⟩ := h.retries result hlast hne
    obtain ⟨hchanged, rfl⟩ := (writes_iff hinv).mp hwrites
    exact ⟨(settingsChanged_of_copied hcopied).mp hchanged, hreads⟩
  · rintro ⟨hdouble, hreads⟩
    constructor
    · intro _ _ _
      exact ⟨_, hreads,
        (writes_iff hinv).mpr ⟨(settingsChanged_of_copied hcopied).mpr hdouble, rfl⟩⟩
    · intro hzero
      rw [hlast] at hzero
      exact absurd (Option.some.inj hzero) hne

omit [DecidableEq D] in
/-- Only the values count for an array of doubles. -/
theorem hasDoubleArr_iff :
    HasDoubleArr p ↔ ∃ kv ∈ p.values, kv.2.keyType = .doubleArr := by
  simp [HasDoubleArr, ADSettings.values]

/-- One store: nothing is forgotten after it if and only if it meets the condition. -/
theorem notForgotten_store_iff
    {s t : StoreSystem D C} {o : StoreOutcome C}
    (hinv : StoreInv s.process)
    (hstep : s.step lib (.store o) = some t) :
    NotForgotten lib t ↔ StoreKeeps lib s o := by
  simp only [StoreSystem.step, Option.some.injEq] at hstep
  subst hstep
  have hinv' := storeInv_storeWith lib o s.disk hinv
  have hcopied' := copied_storeWith lib o s.process s.disk
  have hvalues' := values_storeWith lib o s.process s.disk
  by_cases hchanged : settingsChanged s.process = true
  · rw [StoreKeeps, if_pos hchanged]
    cases hwritten : o.save.written lib s.process with
    | none =>
        obtain ⟨hresult, hprocess⟩ :=
          storeWith_of_not_written s.disk hchanged hwritten
        rw [notForgotten_iff_again hinv' hcopied' (congrArg some hresult) (by decide)]
        dsimp only
        rw [hasDoubleArr_iff, hvalues', ← hasDoubleArr_iff, hprocess]
        rfl
    | some c =>
        have hstore := storeWith_of_written s.disk hchanged hwritten
        by_cases hsum : o.sha1Status = 0
        · simp only [hsum, if_true]
          have hresult : (storeWith lib o s.process s.disk).1 = 0 := by
            rw [hstore, calculateCheckSumWith, if_pos hsum]
          rw [notForgotten_iff_held (congrArg some hresult)]
          dsimp only
          have hdisk : (storeWith lib o s.process s.disk).2.2 =
              calculateCheckSum (writeContent s.disk s.process.alternateFile c)
                s.process.alternateFile := by
            rw [hstore, calculateCheckSumWith, if_pos hsum]
          rw [hvalues', hdisk, held_calculateCheckSum, hinv.alternate,
            SettingsFile.other_other]
        · simp only [hsum, if_false]
          have hresult : (storeWith lib o s.process s.disk).1 = o.sha1Status := by
            rw [hstore, calculateCheckSumWith, if_neg hsum]
          rw [notForgotten_iff_again hinv' hcopied' (congrArg some hresult) hsum]
          dsimp only
          rw [hasDoubleArr_iff, hvalues', ← hasDoubleArr_iff, hstore]
          rfl
  · rw [StoreKeeps, if_neg hchanged]
    have hstore : storeWith lib o s.process s.disk =
        (0, storeLoop lib s.process, s.disk) := by
      rw [storeWith, if_neg hchanged]
    have hresult : (storeWith lib o s.process s.disk).1 = 0 := by
      rw [hstore]
    rw [notForgotten_iff_held (congrArg some hresult)]
    dsimp only
    rw [hvalues', hstore]

/-- A change of a value is not a store. -/
theorem notForgotten_change
    {s t : StoreSystem D C}
    {changes : List (Bytes × SettingsValue D)} {version : Option Int}
    (hstep : s.step lib (.change changes version) = some t) :
    NotForgotten lib t := by
  simp only [StoreSystem.step] at hstep
  split at hstep
  · simp at hstep
  · obtain rfl := Option.some.inj hstep
    exact ⟨by simp, by simp⟩

/-- In any run from a load, nothing is ever forgotten if and only if every store meets the
condition. -/
theorem notForgotten_iff
    {schema : SettingsSchema}
    {env : TouchEnv} {table : SettingsTable D schema} {mem : MetaMemory}
    {disk₀ : SettingsDisk C}
    (hload : load lib env table.entries mem disk₀ = (some p, disk))
    {ls : List (StoreLabel D C)} {u : StoreSystem D C}
    (hrun : run (StoreSystem.step lib) (StoreSystem.loaded p disk) ls = some u) :
    (∀ pre t, pre <+: ls →
        run (StoreSystem.step lib) (StoreSystem.loaded p disk) pre = some t →
          NotForgotten lib t) ↔
      Meets (StoreSystem.step lib) (StepKeeps lib) (StoreSystem.loaded p disk) ls := by
  apply forall_prefix_iff_meets
    (I := fun s => SystemInv s ∧ NotForgotten lib s)
  · rintro s l t ⟨hinv, -⟩ hcond hstep
    refine ⟨systemInv_step hinv hstep, ?_⟩
    cases l with
    | change changes version =>
        exact notForgotten_change hstep
    | store o =>
        exact (notForgotten_store_iff hinv.process hstep).mpr hcond
  · rintro s ⟨-, hkept⟩
    exact hkept
  · rintro s l t ⟨hinv, -⟩ hstep hkept
    cases l with
    | change changes version =>
        trivial
    | store o =>
        exact (notForgotten_store_iff hinv.process hstep).mp hkept
  · refine ⟨systemInv_loaded hload, ?_⟩
    exact ⟨by simp [StoreSystem.loaded], by simp [StoreSystem.loaded]⟩
  · exact hrun

/-- With an array of doubles and a library that reads what it has written, a store keeps
the values unless a short write goes unnoticed. -/
theorem storeKeeps_of_doubleArr
    (hlib : lib.Faithful scope)
    {s : StoreSystem D C} {o : StoreOutcome C}
    (hinv : StoreInv s.process)
    (hdoc : scope.doc (storePrepare lib s.process).settings)
    (hdocAgain : scope.doc (storePrepare lib (storePrepare lib s.process)).settings)
    (hdouble : HasDoubleArr s.process)
    (hshort : ∀ left, o.save ≠ .short left) :
    StoreKeeps lib s o := by
  have hchanged : settingsChanged s.process = true := by
    obtain ⟨pEntry, hentry, htype⟩ := hdouble
    exact settingsChanged_of_entry hentry (by simp [entryChanged, htype])
  have hvalues := (storePrepare_fields lib s.process).1
  have hagain : FoundAgain lib s.process := by
    refine ⟨hdouble, ?_⟩
    rw [← hvalues]
    exact readsAs_storedContent hlib (storeInv_storePrepare lib hinv) hdocAgain
  rw [StoreKeeps, if_pos hchanged]
  cases hsave : o.save with
  | fopenFails =>
      exact hagain
  | saveFails left =>
      exact hagain
  | short left =>
      exact absurd hsave (hshort left)
  | ok =>
      dsimp only [SaveOutcome.written]
      split
      · exact Or.inl (readsAs_storedContent hlib hinv hdoc)
      · exact hagain

end Retry

/-- Two doubles, stored while the file cannot be opened: the next store writes them. -/
theorem notForgotten_doubles :
    ∃ t : StoreSystem Int (Option SettingsLines),
      t.last = some (-1) ∧ t.process.values = [([97], .doubleArr [3, 4])] ∧
        NotForgotten plainSettingsLib t := by
  obtain ⟨p, disk, t, hload, hrun, hseen⟩ :=
    exists_run_of_load plainSettingsLib (StoreSystem.step plainSettingsLib) ⟨true, true⟩ doublesTable.entries zeroMemory
      (fun _ => ⟨none, none⟩)
      [.change [([97], .doubleArr [3, 4])] none,
        .store { save := .fopenFails, sha1Status := 0 }]
      (fun t => (t.last, t.process.values)) (some (-1), [([97], .doubleArr [3, 4])])
      (by decide)
  obtain ⟨hlast, hvalues⟩ := Prod.mk.inj hseen
  refine ⟨t, hlast, hvalues, ?_⟩
  refine (notForgotten_iff hload hrun).mpr ?_ _ t (List.prefix_refl _) hrun
  obtain ⟨s, hchange, htail⟩ := run_cons_success hrun
  obtain ⟨t', hstore, hend⟩ := run_cons_success htail
  obtain rfl : t' = t := Option.some.inj hend
  have hinv := systemInv_step (systemInv_loaded hload) hchange
  have hdouble : HasDoubleArr s.process := by
    have hkept : t'.process.values = s.process.values := by
      rw [← Option.some.inj hstore]
      exact values_storeWith _ _ _ _
    rw [hasDoubleArr_iff, ← hkept, hvalues]
    exact ⟨_, List.mem_singleton_self _, rfl⟩
  have hkeeps : StoreKeeps plainSettingsLib s { save := .fopenFails, sha1Status := 0 } :=
    storeKeeps_of_doubleArr plainSettingsLib_faithful hinv.process trivial trivial hdouble
      (by simp)
  refine ⟨trivial, ?_⟩
  rw [hchange]
  refine ⟨hkeeps, ?_⟩
  rw [hstore]
  trivial

/-- A number is changed and stored while the file cannot be opened.  The next store
returns 0 without having written anything. -/
theorem not_notForgotten_number :
    ∃ p disk t u,
      load plainSettingsLib ⟨true, true⟩ (sampleTable 0).entries zeroMemory
          (fun _ => ⟨none, none⟩) = (some p, disk) ∧
        run (StoreSystem.step plainSettingsLib) (StoreSystem.loaded p disk)
            [.change [([97], .int 5)] none,
              .store { save := .fopenFails, sha1Status := 0 }] = some t ∧
        t.last = some (-1) ∧ ¬ NotForgotten plainSettingsLib t ∧
        t.step plainSettingsLib (.store .ok) = some u ∧
        u.last = some 0 ∧ (u.disk .main).sha1 = none ∧ (u.disk .backup).sha1 = none := by
  obtain ⟨p, disk, t, hload, hrun, hseen⟩ :=
    exists_run_of_load plainSettingsLib (StoreSystem.step plainSettingsLib) ⟨true, true⟩ (sampleTable 0).entries zeroMemory
      (fun _ => ⟨none, none⟩)
      [.change [([97], .int 5)] none, .store { save := .fopenFails, sha1Status := 0 }]
      (fun t =>
        let again := storeWith plainSettingsLib .ok t.process t.disk
        (t.last, t.process.alternateFile, again.2.1.file, again.1,
          (again.2.2 .main).sha1.isNone, (again.2.2 .backup).sha1.isNone))
      (some (-1), .main, .backup, 0, true, true) (by decide)
  simp only [Prod.mk.injEq] at hseen
  obtain ⟨hlast, halternate, hfile, hresult, hmain, hbackup⟩ := hseen
  refine ⟨p, disk, t, _, hload, hrun, hlast, ?_, rfl, congrArg some hresult,
    Option.isNone_iff_eq_none.mp hmain, Option.isNone_iff_eq_none.mp hbackup⟩
  intro hkept
  obtain ⟨c, -, hwrites⟩ := hkept.retries (-1) hlast (by decide)
  have hsame := hwrites.file
  rw [hfile, halternate] at hsame
  cases hsame

end Adav
end BrBox
