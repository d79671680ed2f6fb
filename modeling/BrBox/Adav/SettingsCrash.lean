import BrBox.Lib.LabelledRun
import BrBox.Adav.Settings

/-!
# The settings files over crashes

A run is made of process starts, each with one load of the same path, and of
stores that complete or are cut off at some point.  A cut-off store leaves the
file that was being written with any content; a `.sha1` that was being written
is the checksum of nothing.

Two histories break the scheme.  The local copies of the settings are not
initialised, so a store of a process that has found no checked file may find
its values equal to them, write nothing and return 0.  And the sequence count
is an `int`: after `INT_MAX` the newer file has the smaller count.
-/

namespace BrBox
namespace Adav

open CText
open LabelledRun

/-- The keys of the settings of a program, with type and size. -/
structure SettingsSchema where
  keys : List (Bytes × (KeyType × Nat))
  nodup : (keys.map Prod.fst).Nodup

/-- The settings a program attaches: its defaults, and whatever the memory of
the local copies holds. -/
structure SettingsTable (D : Type) (schema : SettingsSchema) where
  entries : List (SettingsEntry D)
  shapes : (entries.map fun pEntry => (pEntry.key, pEntry.value.shape)) =
    schema.keys
  valid : ∀ pEntry ∈ entries,
    pEntry.value.Valid ∧ pEntry.localValue.shape = pEntry.value.shape

/-- Where a store is cut off. -/
inductive CrashPoint (C : Type) where
  | beforeSave
  | duringSave (c : C)
  | afterSave
  | duringCheckSum
  | afterCheckSum

/-- What happens to the settings files. -/
inductive SettingsEvent (D C : Type) (schema : SettingsSchema) where
  | start
      (table : SettingsTable D schema) (mem : MetaMemory) (env : TouchEnv)
  | store
      (changes : List (Bytes × SettingsValue D)) (version : Option Int)
  | storeCrash
      (changes : List (Bytes × SettingsValue D)) (version : Option Int)
      (point : CrashPoint C)

/-- The two files and the running process.  Ghosts: `newest` holds the values
of the last store that completed or was cut off after its checksum was written,
`newestFile` the file it has left; `writtenBy` numbers the store whose whole
text a file holds. -/
structure SettingsSystem (D C : Type) where
  disk : SettingsDisk C
  process : Option (ADSettings D)
  newest : Option (List (Bytes × SettingsValue D))
  newestFile : SettingsFile
  stores : Nat
  writtenBy : SettingsFile → Option Nat

/-- A disk with any two settings files and no checksum. -/
def SettingsSystem.init {D C : Type} (content : SettingsFile → Option C) :
    SettingsSystem D C where
  disk := fun f => { content := content f, sha1 := none }
  process := none
  newest := none
  newestFile := .main
  stores := 0
  writtenBy := fun _ => none

section Crash

variable {D : Type} [DecidableEq D]
variable {C : Type} [DecidableEq C]
variable {schema : SettingsSchema}

/-- The program changes a variable. -/
def assignValue
    (changes : List (Bytes × SettingsValue D)) (pEntry : SettingsEntry D) :
    SettingsEntry D :=
  match changes.lookup pEntry.key with
  | none => pEntry
  | some v =>
      if v.Valid ∧ v.shape = pEntry.value.shape then
        { pEntry with value := v }
      else
        pEntry

/-- The program changes its variables and calls `set_version`. -/
def assignValues
    (changes : List (Bytes × SettingsValue D)) (version : Option Int)
    (p : ADSettings D) : ADSettings D :=
  { p with
    entries := p.entries.map (assignValue changes)
    version := { p.version with value := version.getD p.version.value } }

/-- A store has written its file and the checksum. -/
def SettingsSystem.wrote
    (lib : SettingsLib D C) (s : SettingsSystem D C) (p : ADSettings D)
    (process : Option (ADSettings D)) : SettingsSystem D C where
  disk := calculateCheckSum (save lib (storePrepare lib p) s.disk)
    p.alternateFile
  process := process
  newest := some p.values
  newestFile := p.alternateFile
  stores := s.stores + 1
  writtenBy :=
    Function.update s.writtenBy p.alternateFile (some (s.stores + 1))

/-- A store that completes. -/
def SettingsSystem.stored
    (lib : SettingsLib D C) (s : SettingsSystem D C) (p : ADSettings D) :
    SettingsSystem D C :=
  let result := Adav.store lib .ok p s.disk
  if settingsChanged p then
    { disk := result.2.2
      process := some result.2.1
      newest := some p.values
      newestFile := p.alternateFile
      stores := s.stores + 1
      writtenBy :=
        Function.update s.writtenBy p.alternateFile (some (s.stores + 1)) }
  else
    { s with
      disk := result.2.2
      process := some result.2.1
      newest := some p.values }

/-- A store that writes is cut off. -/
def SettingsSystem.crashed
    (lib : SettingsLib D C) (s : SettingsSystem D C) (p : ADSettings D) :
    CrashPoint C → SettingsSystem D C
  | .beforeSave => { s with process := none }
  | .duringSave c =>
      { s with
        disk := writeContent s.disk p.alternateFile c
        process := none
        stores := s.stores + 1
        writtenBy := Function.update s.writtenBy p.alternateFile none }
  | .afterSave =>
      { s with
        disk := save lib (storePrepare lib p) s.disk
        process := none
        stores := s.stores + 1
        writtenBy :=
          Function.update s.writtenBy p.alternateFile (some (s.stores + 1)) }
  | .duringCheckSum =>
      { s with
        disk := spoilCheckSum (save lib (storePrepare lib p) s.disk)
          p.alternateFile
        process := none
        stores := s.stores + 1
        writtenBy :=
          Function.update s.writtenBy p.alternateFile (some (s.stores + 1)) }
  | .afterCheckSum => s.wrote lib p none

/-- One event; a store of a process whose load has failed returns -1. -/
def settingsStep (lib : SettingsLib D C) (s : SettingsSystem D C) :
    SettingsEvent D C schema → Option (SettingsSystem D C)
  | .start table mem env =>
      let result := load lib env table.entries mem s.disk
      some { s with disk := result.2, process := result.1 }
  | .store changes version =>
      match s.process with
      | none => some s
      | some p => some (s.stored lib (assignValues changes version p))
  | .storeCrash changes version point =>
      match s.process with
      | none => some { s with process := none }
      | some p =>
          if settingsChanged (assignValues changes version p) then
            some (s.crashed lib (assignValues changes version p) point)
          else
            some { s with process := none }

/-- The sequence count does not overflow when a store writes; a store that
completes without writing compares with copies that were filled. -/
def StoreSound (p : ADSettings D) : Prop :=
  if settingsChanged p then
    p.seqCount.value < 2 ^ 31 - 1
  else
    p.checked = true

/-- The condition on one event. -/
def SettingsSound (s : SettingsSystem D C) :
    SettingsEvent D C schema → Prop
  | .start _ _ _ => True
  | .store changes version =>
      ∀ p ∈ s.process, StoreSound (assignValues changes version p)
  | .storeCrash changes version _ =>
      ∀ p ∈ s.process,
        settingsChanged (assignValues changes version p) = true →
          StoreSound (assignValues changes version p)

instance decidableStoreSound
    (p : ADSettings D) :
    Decidable (StoreSound p) :=
  inferInstanceAs (Decidable
    (if settingsChanged p then p.seqCount.value < 2 ^ 31 - 1
      else p.checked = true))

instance decidableSettingsSound
    (s : SettingsSystem D C) :
    (e : SettingsEvent D C schema) → Decidable (SettingsSound s e)
  | .start _ _ _ => isTrue trivial
  | .store _ _ => inferInstanceAs (Decidable (∀ p ∈ s.process, _))
  | .storeCrash _ _ _ => inferInstanceAs (Decidable (∀ p ∈ s.process, _))

/-- What a store writes fits the buffers of the library. -/
def SettingsScope.Holds
    (scope : SettingsScope D) (lib : SettingsLib D C) (p : ADSettings D) :
    Prop :=
  scope.doc (storePrepare lib p).settings ∧ ∀ kv ∈ p.values, scope.value kv.2

/-- The same of one event. -/
def SettingsWithin
    (scope : SettingsScope D) (lib : SettingsLib D C)
    (s : SettingsSystem D C) : SettingsEvent D C schema → Prop
  | .start _ _ _ => True
  | .store changes version | .storeCrash changes version _ =>
      ∀ p ∈ s.process,
        settingsChanged (assignValues changes version p) = true →
          scope.Holds lib (assignValues changes version p)

/-- The sequence count in a file. -/
def SettingsSystem.count
    (lib : SettingsLib D C) (s : SettingsSystem D C) (f : SettingsFile) : Int :=
  (readMetaData lib (s.disk f).content).seqCount

/-- Every load takes a checked file with the values of the newest store, and of
two files the newer one has the larger count. -/
structure CrashSafe (lib : SettingsLib D C) (s : SettingsSystem D C) :
    Prop where
  loads : ∀ values, s.newest = some values →
    ∀ (env : TouchEnv) (entries : List (SettingsEntry D)) (mem : MetaMemory),
      ∃ p disk,
        load lib env entries mem s.disk = (some p, disk) ∧
          verifyCheckSum (disk p.file) = true ∧
          (disk p.file).content.bind lib.settingsOpen = some p.settings ∧
          ∀ kv ∈ values,
            settingsGet p.settings .data kv.1 = some (lib.print kv.2)
  counts : ∀ f a b,
    s.writtenBy f = some a → s.writtenBy f.other = some b → a < b →
      s.count lib f < s.count lib f.other
  checkedCounts : s.newest ≠ none →
    verifyCheckSum (s.disk s.newestFile.other) = true →
      s.count lib s.newestFile.other < s.count lib s.newestFile

/-- A process attaches the settings of the program and stores to the file it
has not loaded. -/
structure ProcInv (schema : SettingsSchema) (p : ADSettings D) : Prop where
  shapes : (p.values.map fun kv => (kv.1, kv.2.shape)) = schema.keys
  valid : ∀ kv ∈ p.values, kv.2.Valid
  alternate : p.alternateFile = p.file.other

/-- The newest file is checked and holds the values; the other one is older
where it is checked. -/
structure NewestInv
    (lib : SettingsLib D C) (scope : SettingsScope D) (schema : SettingsSchema)
    (s : SettingsSystem D C) (values : List (Bytes × SettingsValue D))
    (doc : SettingsDoc) (count : Int) : Prop where
  readable : ∀ key ∈ schema.keys, ∃ v, scope.value v ∧ v.Valid ∧
    v.shape = key.2 ∧ settingsGet doc .data key.1 = some (lib.print v)
  content : ∃ c,
    s.disk s.newestFile = ⟨some c, some c⟩ ∧ lib.settingsOpen c = some doc
  holds : DocHolds lib doc values count
  beside : (s.disk s.newestFile.other).content.isSome = true
  older : ∀ c, (s.disk s.newestFile.other).sha1 = some c →
    (readMetaData lib (some c)).seqCount < count
  written : ∃ a, s.writtenBy s.newestFile = some a ∧ a ≤ s.stores ∧
    ∀ b, s.writtenBy s.newestFile.other = some b →
      (b < a ∧ s.count lib s.newestFile.other < count) ∨
        (a < b ∧ count < s.count lib s.newestFile.other)

/-- The process has loaded or stored the newest file. -/
structure ProcFollows
    (lib : SettingsLib D C) (s : SettingsSystem D C) (p : ADSettings D)
    (doc : SettingsDoc) (count : Int) : Prop where
  file : p.file = s.newestFile
  checked : p.checked = true
  seqCount : p.seqCount.value = count
  holds : DocHolds lib doc p.localValues count

/-- Before the first store there is no checksum; after it there is a newest
file. -/
inductive SettingsInv
    (lib : SettingsLib D C) (scope : SettingsScope D) (schema : SettingsSchema)
    (s : SettingsSystem D C) : Prop where
  | fresh
      (newest : s.newest = none)
      (unchecked : ∀ f, (s.disk f).sha1 = none)
      (unwritten : s.writtenBy .backup = none)
      (process : ∀ p ∈ s.process, ProcInv schema p ∧ p.file = .backup ∧
        p.checked = false ∧ ∀ f, (s.disk f).content.isSome = true)
  | kept
      (values : List (Bytes × SettingsValue D)) (doc : SettingsDoc)
      (count : Int)
      (newest : s.newest = some values)
      (disk : NewestInv lib scope schema s values doc count)
      (process : ∀ p ∈ s.process,
        ProcInv schema p ∧ ProcFollows lib s p doc count)

end Crash

section LoadSpec

variable {D : Type}
variable {C : Type} [DecidableEq C]

/-- A file without a checksum fails. -/
theorem verifyCheckSum_of_none
    {f : StoredFile C} (hsha1 : f.sha1 = none) :
    verifyCheckSum f = false := by
  simp [verifyCheckSum, hsha1]

/-- A file passes with the content its checksum was computed from. -/
theorem verifyCheckSum_iff
    {f : StoredFile C} :
    verifyCheckSum f = true ↔ ∃ c, f = ⟨some c, some c⟩ := by
  obtain ⟨content, sha1⟩ := f
  cases sha1 with
  | none =>
      simp [verifyCheckSum]
  | some c =>
      cases content with
      | none =>
          simp [verifyCheckSum]
      | some c' =>
          simp only [verifyCheckSum, Option.isSome_some, Bool.true_and,
            decide_eq_true_eq, Option.some.injEq, StoredFile.mk.injEq]
          constructor
          · rintro rfl
            exact ⟨c, rfl, rfl⟩
          · rintro ⟨d, rfl, rfl⟩
            rfl

omit [DecidableEq C] in
/-- A file that exists is not touched. -/
theorem touchFile_of_isSome
    (lib : SettingsLib D C) {f : StoredFile C}
    (hexists : f.content.isSome = true) :
    touchFile lib f = f := by
  obtain ⟨content, sha1⟩ := f
  cases content with
  | none =>
      simp at hexists
  | some c =>
      rfl

/-- Two files that exist are only looked at. -/
theorem fileConsistencyCheck_of_isSome
    (lib : SettingsLib D C) (env : TouchEnv) {disk : SettingsDisk C}
    (hexists : ∀ f, (disk f).content.isSome = true) :
    fileConsistencyCheck lib env disk =
      (some (selectFile lib disk false), disk) := by
  have hmain : (disk .main).content.isNone = false := by
    simpa using hexists .main
  have hbackup : (disk .backup).content.isNone = false := by
    simpa using hexists .backup
  simp [fileConsistencyCheck, hmain, hbackup,
    touchFile_of_isSome lib (hexists .main),
    touchFile_of_isSome lib (hexists .backup)]

/-- The check keeps the checksums; when it returns 0, both files exist. -/
theorem fileConsistencyCheck_spec
    (lib : SettingsLib D C) (env : TouchEnv) (disk : SettingsDisk C) :
    (∀ f, ((fileConsistencyCheck lib env disk).2 f).sha1 = (disk f).sha1) ∧
      ∀ selection,
        (fileConsistencyCheck lib env disk).1 = some selection →
          (∀ f, ((fileConsistencyCheck lib env disk).2 f).content.isSome
            = true) ∧
            ∃ created, selection =
              selectFile lib (fileConsistencyCheck lib env disk).2 created := by
  unfold fileConsistencyCheck
  dsimp only
  split
  · exact ⟨fun f => rfl, fun selection h => by simp at h⟩
  · split
    · refine ⟨fun f => ?_, fun selection h => by simp at h⟩
      cases f <;> simp [touchFile]
    · refine ⟨fun f => ?_, fun selection h =>
        ⟨fun f => ?_, (disk .main).content.isNone, ?_⟩⟩
      · cases f <;> simp [touchFile]
      · cases f <;> simp [touchFile]
      · exact (Option.some.inj h).symm

/-- Without a checked file the backup is taken. -/
theorem selectFile_of_unchecked
    (lib : SettingsLib D C) {disk : SettingsDisk C} (created : Bool)
    (hunchecked : ∀ f, verifyCheckSum (disk f) = false) :
    (selectFile lib disk created).file = .backup := by
  simp [selectFile, hunchecked]

/-- A checked file is taken if the other is not checked or has a smaller
count. -/
theorem selectFile_of_newest
    (lib : SettingsLib D C) {disk : SettingsDisk C} (created : Bool)
    {f : SettingsFile}
    (hchecked : verifyCheckSum (disk f) = true)
    (holder : verifyCheckSum (disk f.other) = true →
      (readMetaData lib (disk f.other).content).seqCount <
        (readMetaData lib (disk f).content).seqCount) :
    (selectFile lib disk created).file = f := by
  cases f with
  | main =>
      simp only [SettingsFile.other] at holder
      cases hbackup : verifyCheckSum (disk .backup) with
      | false =>
          simp [selectFile, hchecked, hbackup]
      | true =>
          have hle := Int.le_of_lt (holder hbackup)
          simp [selectFile, hchecked, hbackup, hle]
  | backup =>
      simp only [SettingsFile.other] at holder
      cases hmain : verifyCheckSum (disk .main) with
      | false =>
          simp [selectFile, hchecked, hmain]
      | true =>
          have hnot := Int.not_le.mpr (holder hmain)
          simp [selectFile, hchecked, hmain, hnot]

end LoadSpec

section NewestSpec

variable {D : Type}
variable {C : Type}
variable {schema : SettingsSchema}
variable {lib : SettingsLib D C}
variable {scope : SettingsScope D}
variable {s : SettingsSystem D C}
variable {values : List (Bytes × SettingsValue D)}
variable {doc : SettingsDoc}
variable {count : Int}

/-- The count of the newest file. -/
theorem NewestInv.count_newestFile
    (hlib : lib.Faithful scope)
    (hinv : NewestInv lib scope schema s values doc count) :
    s.count lib s.newestFile = count := by
  obtain ⟨c, hdisk, hopen⟩ := hinv.content
  unfold SettingsSystem.count
  rw [hdisk]
  exact hinv.holds.readMetaData_seqCount hlib hopen

/-- Where the other file is checked, its count is smaller. -/
theorem NewestInv.count_other
    [DecidableEq C]
    (hinv : NewestInv lib scope schema s values doc count)
    (hchecked : verifyCheckSum (s.disk s.newestFile.other) = true) :
    s.count lib s.newestFile.other < count := by
  obtain ⟨c, hdisk⟩ := verifyCheckSum_iff.mp hchecked
  unfold SettingsSystem.count
  rw [hdisk]
  exact hinv.older c (by rw [hdisk])

/-- Both files exist beside a newest one. -/
theorem NewestInv.isSome
    (hinv : NewestInv lib scope schema s values doc count)
    (f : SettingsFile) :
    (s.disk f).content.isSome = true := by
  rcases s.newestFile.eq_or_other f with rfl | rfl
  · obtain ⟨c, hdisk, -⟩ := hinv.content
    simp [hdisk]
  · exact hinv.beside

/-- A load takes the newest file. -/
theorem NewestInv.load
    [DecidableEq C]
    (hlib : lib.Faithful scope)
    (hinv : NewestInv lib scope schema s values doc count)
    (env : TouchEnv)
    (entries : List (SettingsEntry D))
    (mem : MetaMemory) :
    ∃ p, Adav.load lib env entries mem s.disk = (some p, s.disk) ∧
      p.entries = entries.map (loadEntry lib doc) ∧
      p.file = s.newestFile ∧
      p.alternateFile = s.newestFile.other ∧
      p.settings = doc ∧
      p.checked = true ∧
      p.seqCount.value = count := by
  obtain ⟨c, hdisk, hopen⟩ := hinv.content
  have hchecked : verifyCheckSum (s.disk s.newestFile) = true :=
    verifyCheckSum_iff.mpr ⟨c, hdisk⟩
  have hselect : (selectFile lib s.disk false).file = s.newestFile := by
    refine selectFile_of_newest lib false hchecked ?_
    intro hother
    have hlt := hinv.count_other hother
    rw [← hinv.count_newestFile hlib] at hlt
    exact hlt
  have hbind : (s.disk s.newestFile).content.bind lib.settingsOpen =
      some doc := by
    simp [hdisk, hopen]
  unfold Adav.load
  rw [fileConsistencyCheck_of_isSome lib env hinv.isSome]
  simp only [hselect, hbind]
  refine ⟨_, rfl, rfl, rfl, rfl, rfl, hchecked, ?_⟩
  exact hinv.holds.loadMeta_seqCount hlib _

/-- Reading an entry keeps its key and the type and size of its variable. -/
theorem loadEntry_keeps
    (hlib : lib.Faithful scope)
    (doc : SettingsDoc)
    {pEntry : SettingsEntry D}
    (hvalid : pEntry.value.Valid) :
    (loadEntry lib doc pEntry).key = pEntry.key ∧
      (loadEntry lib doc pEntry).value.Valid ∧
      (loadEntry lib doc pEntry).value.shape = pEntry.value.shape := by
  unfold loadEntry
  cases settingsGet doc .data pEntry.key with
  | none =>
      exact ⟨rfl, hvalid, rfl⟩
  | some text =>
      obtain ⟨hvalid', hshape⟩ := hlib.get_keeps pEntry.value text hvalid
      exact ⟨rfl, hvalid', hshape⟩

/-- The local copy read from the text of a value prints as the value. -/
theorem loadEntry_localValue
    (hlib : lib.Faithful scope)
    {pEntry : SettingsEntry D}
    {v : SettingsValue D}
    (hfits : scope.value v)
    (hvalid : v.Valid)
    (hshape : pEntry.localValue.shape = v.shape)
    (htext : settingsGet doc .data pEntry.key = some (lib.print v)) :
    lib.print (loadEntry lib doc pEntry).localValue = lib.print v := by
  obtain ⟨v', hget, hprint, -, -⟩ :=
    hlib.get_print pEntry.localValue v hfits hvalid hshape
  simp only [loadEntry, htext, hget]
  exact hprint

/-- A loaded table is the table of the program. -/
theorem ProcInv.of_load
    (hlib : lib.Faithful scope)
    (table : SettingsTable D schema)
    {p : ADSettings D}
    (hentries : p.entries = table.entries.map (loadEntry lib doc))
    (halternate : p.alternateFile = p.file.other) :
    ProcInv schema p where
  shapes := by
    rw [← table.shapes]
    simp only [ADSettings.values, hentries, List.map_map]
    apply List.map_congr_left
    intro pEntry hentry
    obtain ⟨hkey, -, hshape⟩ :=
      loadEntry_keeps hlib doc (table.valid pEntry hentry).1
    simp only [Function.comp_apply, hkey, hshape]
  valid := by
    intro kv hkv
    simp only [ADSettings.values, hentries, List.map_map, List.mem_map,
      Function.comp_apply] at hkv
    obtain ⟨pEntry, hentry, rfl⟩ := hkv
    exact (loadEntry_keeps hlib doc (table.valid pEntry hentry).1).2.1
  alternate := halternate

/-- The local copies of a process that has loaded the newest file. -/
theorem NewestInv.holds_load
    (hlib : lib.Faithful scope)
    (hinv : NewestInv lib scope schema s values doc count)
    (table : SettingsTable D schema)
    {p : ADSettings D}
    (hentries : p.entries = table.entries.map (loadEntry lib doc)) :
    DocHolds lib doc p.localValues count where
  values := by
    intro kv hkv
    simp only [ADSettings.localValues, hentries, List.map_map, List.mem_map,
      Function.comp_apply] at hkv
    obtain ⟨pEntry, hentry, rfl⟩ := hkv
    obtain ⟨hvalid, hlocal⟩ := table.valid pEntry hentry
    have hkey : (pEntry.key, pEntry.value.shape) ∈ schema.keys := by
      rw [← table.shapes]
      exact List.mem_map_of_mem hentry
    obtain ⟨v, hfits, hv, hshape, htext⟩ := hinv.readable _ hkey
    have hprint :=
      loadEntry_localValue hlib hfits hv (hlocal.trans hshape.symm) htext
    rw [(loadEntry_keeps hlib doc hvalid).1, hprint]
    exact htext
  low := hinv.holds.low
  high := hinv.holds.high
  count := hinv.holds.count

/-- The newest file does not depend on the process. -/
theorem NewestInv.with_process
    (hinv : NewestInv lib scope schema s values doc count)
    (process : Option (ADSettings D)) :
    NewestInv lib scope schema { s with process := process } values doc count where
  readable := hinv.readable
  content := hinv.content
  holds := hinv.holds
  beside := hinv.beside
  older := hinv.older
  written := hinv.written

/-- A load without a checked file. -/
theorem load_of_unchecked
    [DecidableEq C]
    (lib : SettingsLib D C)
    (env : TouchEnv)
    (entries : List (SettingsEntry D))
    (mem : MetaMemory)
    {disk : SettingsDisk C}
    (hunchecked : ∀ f, (disk f).sha1 = none) :
    (∀ f, ((load lib env entries mem disk).2 f).sha1 = none) ∧
      ∀ p, (load lib env entries mem disk).1 = some p →
        (∃ doc, p.entries = entries.map (loadEntry lib doc)) ∧
          p.file = .backup ∧
          p.alternateFile = p.file.other ∧
          p.checked = false ∧
          ∀ f, ((load lib env entries mem disk).2 f).content.isSome = true := by
  obtain ⟨hsha1, hselection⟩ := fileConsistencyCheck_spec lib env disk
  unfold load
  generalize fileConsistencyCheck lib env disk = result at hsha1 hselection ⊢
  obtain ⟨selection, disk'⟩ := result
  have hsha1' : ∀ f, (disk' f).sha1 = none := fun f =>
    (hsha1 f).trans (hunchecked f)
  have hfails : ∀ f, verifyCheckSum (disk' f) = false := fun f =>
    verifyCheckSum_of_none (hsha1' f)
  cases selection with
  | none =>
      exact ⟨hsha1', fun p hp => by simp at hp⟩
  | some selection =>
      obtain ⟨hexists, created, hselect⟩ := hselection selection rfl
      have hfile : selection.file = .backup := by
        rw [hselect]
        exact selectFile_of_unchecked lib created hfails
      dsimp only
      split
      case h_1 =>
        exact ⟨hsha1', fun p hp => by simp at hp⟩
      case h_2 doc hopen =>
        refine ⟨hsha1', fun p hp => ?_⟩
        obtain rfl := (Option.some.inj hp).symm
        exact ⟨⟨doc, rfl⟩, hfile, rfl, hfails _, hexists⟩

end NewestSpec

section StoreSpec

variable {D : Type}
variable {C : Type}
variable {schema : SettingsSchema}
variable {lib : SettingsLib D C}
variable {scope : SettingsScope D}
variable {s : SettingsSystem D C}
variable {p : ADSettings D}

/-- The keys of a process are different. -/
theorem ProcInv.nodup
    (hp : ProcInv schema p) :
    (p.entries.map SettingsEntry.key).Nodup := by
  have hkeys := schema.nodup
  rw [← hp.shapes] at hkeys
  simpa [ADSettings.values, Function.comp_def] using hkeys

/-- Changing variables keeps the settings of the program. -/
theorem ProcInv.assign
    (hp : ProcInv schema p)
    (changes : List (Bytes × SettingsValue D))
    (version : Option Int) :
    ProcInv schema (assignValues changes version p) := by
  have hassign :
      ∀ pEntry : SettingsEntry D, pEntry.value.Valid →
        (assignValue changes pEntry).key = pEntry.key ∧
          (assignValue changes pEntry).value.Valid ∧
          (assignValue changes pEntry).value.shape = pEntry.value.shape := by
    intro pEntry hvalid
    unfold assignValue
    split
    · exact ⟨rfl, hvalid, rfl⟩
    · split
      case isTrue h =>
        exact ⟨rfl, h.1, h.2⟩
      case isFalse =>
        exact ⟨rfl, hvalid, rfl⟩
  have hvalid : ∀ pEntry ∈ p.entries, pEntry.value.Valid := by
    intro pEntry hentry
    exact hp.valid (pEntry.key, pEntry.value) (List.mem_map_of_mem hentry)
  refine ⟨?_, ?_, hp.alternate⟩
  · rw [← hp.shapes]
    simp only [ADSettings.values, assignValues, List.map_map]
    apply List.map_congr_left
    intro pEntry hentry
    obtain ⟨hkey, -, hshape⟩ := hassign pEntry (hvalid pEntry hentry)
    simp only [Function.comp_apply, hkey, hshape]
  · intro kv hkv
    simp only [ADSettings.values, assignValues, List.map_map, List.mem_map,
      Function.comp_apply] at hkv
    obtain ⟨pEntry, hentry, rfl⟩ := hkv
    exact (hassign pEntry (hvalid pEntry hentry)).2.1

/-- Changing variables does not touch the local copies. -/
theorem localValues_assignValues
    (changes : List (Bytes × SettingsValue D))
    (version : Option Int)
    (p : ADSettings D) :
    (assignValues changes version p).localValues = p.localValues := by
  simp only [ADSettings.localValues, assignValues, List.map_map]
  apply List.map_congr_left
  intro pEntry _
  simp only [Function.comp_apply, assignValue]
  split
  · rfl
  · split <;> rfl

/-- The copies of a process that has compared its values. -/
theorem localValues_storeLoop
    (lib : SettingsLib D C) (p : ADSettings D) :
    (storeLoop lib p).localValues = p.values ∧
      (storeLoop lib p).values = p.values := by
  simp [ADSettings.localValues, ADSettings.values, storeLoop,
    SettingsEntry.copied]

/-- The next sequence count is larger below `INT_MAX`. -/
theorem lt_wrapInt32_succ
    {n : Int} (hn : n < 2 ^ 31 - 1) :
    n < wrapInt32 (n + 1) := by
  by_cases hlow : -2 ^ 31 ≤ n + 1
  · rw [wrapInt32_of_range hlow (by omega)]
    omega
  · have hle := (wrapInt32_range (n + 1)).1
    omega

/-- The sequence count that `Save` writes. -/
theorem readMetaData_storePrepare
    (hlib : lib.Faithful scope)
    (hp : ProcInv schema p)
    (hdoc : scope.doc (storePrepare lib p).settings) :
    (readMetaData lib
      (some (lib.settingsSave (storePrepare lib p).settings))).seqCount =
        wrapInt32 (p.seqCount.value + 1) := by
  obtain ⟨doc, hopen, hholds⟩ :=
    (storePrepare_holds lib hp.nodup).open_save hlib hdoc
  exact hholds.readMetaData_seqCount hlib hopen

/-- A store that writes leaves an older file behind. -/
structure WriteReady
    (lib : SettingsLib D C) (s : SettingsSystem D C) (p : ADSettings D) :
    Prop where
  beside : (s.disk p.file).content.isSome = true
  older : ∀ c, (s.disk p.file).sha1 = some c →
    (readMetaData lib (some c)).seqCount < wrapInt32 (p.seqCount.value + 1)
  written : ∀ b, s.writtenBy p.file = some b → b ≤ s.stores ∧
    s.count lib p.file < wrapInt32 (p.seqCount.value + 1)

/-- The file of a store that has written is the newest one. -/
theorem NewestInv.of_wrote
    (hlib : lib.Faithful scope)
    (hp : ProcInv schema p)
    (hscope : scope.Holds lib p)
    (hready : WriteReady lib s p)
    (process : Option (ADSettings D)) :
    ∃ doc, NewestInv lib scope schema (s.wrote lib p process) p.values doc
      (wrapInt32 (p.seqCount.value + 1)) := by
  obtain ⟨doc, hopen, hholds⟩ :=
    (storePrepare_holds lib hp.nodup).open_save hlib hscope.1
  have hother : (s.wrote lib p process).newestFile.other = p.file := by
    simp [SettingsSystem.wrote, hp.alternate]
  have hne : p.file ≠ p.alternateFile := by
    rw [hp.alternate]
    exact SettingsFile.ne_other _
  have hfilepath : (storePrepare lib p).filepath = p.alternateFile := rfl
  have hdisk : (s.wrote lib p process).disk p.file = s.disk p.file := by
    simp [SettingsSystem.wrote, calculateCheckSum, save, writeContent, hne,
      hfilepath]
  refine ⟨doc, ?_, ⟨lib.settingsSave (storePrepare lib p).settings, ?_, hopen⟩,
    hholds, ?_, ?_, ?_⟩
  · intro key hkey
    rw [← hp.shapes] at hkey
    obtain ⟨kv, hkv, rfl⟩ := List.mem_map.mp hkey
    exact ⟨kv.2, hscope.2 kv hkv, hp.valid kv hkv, rfl, hholds.values kv hkv⟩
  · simp [SettingsSystem.wrote, calculateCheckSum, save, writeContent,
      hfilepath]
  · rw [hother, hdisk]
    exact hready.beside
  · rw [hother, hdisk]
    exact hready.older
  · refine ⟨s.stores + 1, by simp [SettingsSystem.wrote], le_refl _, ?_⟩
    intro b hb
    rw [hother] at hb ⊢
    have hb' : s.writtenBy p.file = some b := by
      simpa [SettingsSystem.wrote, hne] using hb
    obtain ⟨hle, hlt⟩ := hready.written b hb'
    refine Or.inl ⟨Nat.lt_succ_of_le hle, ?_⟩
    unfold SettingsSystem.count at hlt ⊢
    rw [hdisk]
    exact hlt

/-- A store that finds a change writes. -/
theorem stored_of_changed
    [DecidableEq D]
    (hchanged : settingsChanged p = true) :
    s.stored lib p =
      s.wrote lib p (some (swapAlternateFile (storePrepare lib p))) := by
  simp [SettingsSystem.stored, hchanged, Adav.store, StoreEnv.ok,
    SettingsSystem.wrote, swapAlternateFile, storePrepare,
    updateSequenceCount, storeLoop]

end StoreSpec

section CrashRuns

variable {D : Type}
variable {C : Type}
variable {schema : SettingsSchema}
variable {lib : SettingsLib D C}
variable {scope : SettingsScope D}
variable {s : SettingsSystem D C}
variable {p : ADSettings D}
variable {values : List (Bytes × SettingsValue D)}
variable {doc : SettingsDoc}
variable {count : Int}

/-- A process start keeps the invariant. -/
theorem SettingsInv.start
    [DecidableEq C]
    (hlib : lib.Faithful scope)
    (hinv : SettingsInv lib scope schema s)
    (table : SettingsTable D schema)
    (mem : MetaMemory)
    (env : TouchEnv) :
    SettingsInv lib scope schema
      { s with
        disk := (load lib env table.entries mem s.disk).2
        process := (load lib env table.entries mem s.disk).1 } := by
  cases hinv with
  | fresh hnewest hunchecked hunwritten hprocess =>
      obtain ⟨hsha1, hload⟩ :=
        load_of_unchecked lib env table.entries mem hunchecked
      refine .fresh hnewest hsha1 hunwritten ?_
      intro p hp
      obtain ⟨⟨doc, hentries⟩, hfile, halternate, hchecked, hexists⟩ :=
        hload p hp
      exact ⟨ProcInv.of_load hlib table hentries halternate, hfile, hchecked,
        hexists⟩
  | kept values doc count hnewest hdisk hprocess =>
      obtain ⟨p, hload, hentries, hfile, halternate, -, hchecked, hcount⟩ :=
        hdisk.load hlib env table.entries mem
      rw [hload]
      refine .kept values doc count hnewest (hdisk.with_process _) ?_
      rintro q hq
      obtain rfl := Option.some.inj hq
      exact ⟨ProcInv.of_load hlib table hentries (by rw [halternate, hfile]),
        hfile, hchecked, hcount, hdisk.holds_load hlib table hentries⟩

/-- Without a change the values are the local copies. -/
theorem values_of_unchanged
    [DecidableEq D]
    (hunchanged : settingsChanged p = false) :
    p.values = p.localValues := by
  have hentries : ∀ pEntry ∈ p.entries, entryChanged pEntry = false := by
    simp only [settingsChanged, Bool.or_eq_false_iff, List.any_eq_false,
      Bool.not_eq_true] at hunchanged
    exact hunchanged.1.1.1
  apply List.map_congr_left
  intro pEntry hentry
  have hsame := hentries pEntry hentry
  simp only [entryChanged, Bool.or_eq_false_iff, decide_eq_false_iff_not,
    not_not] at hsame
  rw [hsame.1]

/-- A written store leaves a process that follows the new file. -/
theorem SettingsInv.wrote
    (hlib : lib.Faithful scope)
    (hp : ProcInv schema p)
    (hscope : scope.Holds lib p)
    (hready : WriteReady lib s p) :
    SettingsInv lib scope schema
      (s.wrote lib p (some (swapAlternateFile (storePrepare lib p)))) := by
  obtain ⟨doc, hdisk⟩ := NewestInv.of_wrote hlib hp hscope hready
    (some (swapAlternateFile (storePrepare lib p)))
  refine .kept p.values doc _ rfl hdisk ?_
  rintro q hq
  obtain rfl := Option.some.inj hq
  obtain ⟨hlocal, hvalues⟩ := localValues_storeLoop lib p
  have halternate : p.file = p.alternateFile.other := by
    rw [hp.alternate, SettingsFile.other_other]
  constructor
  · refine ⟨?_, ?_, halternate⟩
    · exact (congrArg _ hvalues).trans hp.shapes
    · intro kv hkv
      exact hp.valid kv (hvalues ▸ hkv)
  · refine ⟨rfl, rfl, rfl, ?_⟩
    have hsame :
        (swapAlternateFile (storePrepare lib p)).localValues = p.values :=
      hlocal
    rw [hsame]
    exact hdisk.holds

/-- The process attaches the settings of the program. -/
theorem SettingsInv.procInv
    (hinv : SettingsInv lib scope schema s)
    (hp : p ∈ s.process) :
    ProcInv schema p := by
  cases hinv with
  | fresh _ _ _ hprocess =>
      exact (hprocess p hp).1
  | kept _ _ _ _ _ hprocess =>
      exact (hprocess p hp).1

/-- A process may write if the sequence count does not overflow. -/
theorem SettingsInv.writeReady
    (hlib : lib.Faithful scope)
    (hinv : SettingsInv lib scope schema s)
    {p q : ADSettings D}
    (hp : p ∈ s.process)
    (hfile : q.file = p.file)
    (hcount : q.seqCount = p.seqCount)
    (hbound : q.seqCount.value < 2 ^ 31 - 1) :
    WriteReady lib s q := by
  cases hinv with
  | fresh hnewest hunchecked hunwritten hprocess =>
      obtain ⟨-, hbackup, -, hexists⟩ := hprocess p hp
      rw [hbackup] at hfile
      refine ⟨hexists _, ?_, ?_⟩
      · intro c hc
        simp [hunchecked] at hc
      · intro b hb
        simp [hfile, hunwritten] at hb
  | kept values doc count hnewest hdisk hprocess =>
      obtain ⟨-, hfollows⟩ := hprocess p hp
      have hseq : q.seqCount.value = count := by
        rw [hcount]
        exact hfollows.seqCount
      have hnext : wrapInt32 (q.seqCount.value + 1) = count + 1 := by
        have hlow := hdisk.holds.low
        rw [hseq] at hbound ⊢
        exact wrapInt32_of_range (by omega) (by omega)
      obtain ⟨c, hcontent, hopen⟩ := hdisk.content
      obtain ⟨a, ha, hle, -⟩ := hdisk.written
      have hfile' : q.file = s.newestFile := hfile.trans hfollows.file
      have hsame := hdisk.count_newestFile hlib
      rw [← hfile'] at hcontent ha hsame
      refine ⟨by simp [hcontent], ?_, ?_⟩
      · intro c' hc'
        rw [hcontent] at hc'
        obtain rfl := Option.some.inj hc'
        have hread := hdisk.holds.readMetaData_seqCount hlib hopen
        omega
      · intro b hb
        rw [ha] at hb
        obtain rfl := Option.some.inj hb
        exact ⟨hle, by omega⟩

/-- A store that completes keeps the invariant. -/
theorem SettingsInv.stored
    [DecidableEq D]
    (hlib : lib.Faithful scope)
    (hinv : SettingsInv lib scope schema s)
    (hp : p ∈ s.process)
    (changes : List (Bytes × SettingsValue D))
    (version : Option Int)
    (hsound : StoreSound (assignValues changes version p))
    (hscope : settingsChanged (assignValues changes version p) = true →
      scope.Holds lib (assignValues changes version p)) :
    SettingsInv lib scope schema
      (s.stored lib (assignValues changes version p)) := by
  have hlocal := localValues_assignValues changes version p
  have hprocInv := (hinv.procInv hp).assign changes version
  unfold StoreSound at hsound
  split at hsound
  case isTrue hchanged =>
    rw [stored_of_changed hchanged]
    exact .wrote hlib hprocInv (hscope hchanged)
      (hinv.writeReady hlib hp rfl rfl hsound)
  case isFalse hunchanged =>
    rw [Bool.not_eq_true] at hunchanged
    cases hinv with
    | fresh _ _ _ hprocess =>
        obtain ⟨-, -, hchecked, -⟩ := hprocess p hp
        have hcontra : p.checked = true := hsound
        rw [hchecked] at hcontra
        cases hcontra
    | kept values doc count hnewest hdisk hprocess =>
        obtain ⟨-, hfollows⟩ := hprocess p hp
        have hholds : DocHolds lib doc
            (assignValues changes version p).values count := by
          rw [values_of_unchanged hunchanged, hlocal]
          exact hfollows.holds
        obtain ⟨hloopLocal, hloopValues⟩ :=
          localValues_storeLoop lib (assignValues changes version p)
        simp only [SettingsSystem.stored, hunchanged, Adav.store,
          Bool.false_eq_true, if_false]
        refine .kept _ doc count rfl
          { readable := hdisk.readable
            content := hdisk.content
            holds := hholds
            beside := hdisk.beside
            older := hdisk.older
            written := hdisk.written } ?_
        rintro q hq
        obtain rfl := Option.some.inj hq
        refine ⟨⟨?_, ?_, hprocInv.alternate⟩, hfollows.file, hfollows.checked,
          hfollows.seqCount, ?_⟩
        · rw [hloopValues]
          exact hprocInv.shapes
        · rw [hloopValues]
          exact hprocInv.valid
        · rw [hloopLocal]
          exact hholds

/-- A process dies. -/
theorem SettingsInv.process_none
    (hinv : SettingsInv lib scope schema s) :
    SettingsInv lib scope schema { s with process := none } := by
  cases hinv with
  | fresh hnewest hunchecked hunwritten _ =>
      exact .fresh hnewest hunchecked hunwritten (by simp)
  | kept values doc count hnewest hdisk _ =>
      exact .kept values doc count hnewest (hdisk.with_process none) (by simp)

/-- The file that is written changes; it gets no checksum it has not had. -/
theorem SettingsInv.write_alternate
    (hinv : SettingsInv lib scope schema s)
    (hp : p ∈ s.process)
    (file : StoredFile C)
    (writer : Option Nat)
    (hexists : file.content.isSome = true)
    (hsha1 : file.sha1 = none ∨
      file.sha1 = (s.disk p.alternateFile).sha1)
    (hwriter : ∀ b, writer = some b → b = s.stores + 1 ∧
      p.seqCount.value < (readMetaData lib file.content).seqCount) :
    SettingsInv lib scope schema
      { s with
        disk := Function.update s.disk p.alternateFile file
        process := none
        stores := s.stores + 1
        writtenBy := Function.update s.writtenBy p.alternateFile writer } := by
  have halternate := (hinv.procInv hp).alternate
  cases hinv with
  | fresh hnewest hunchecked hunwritten hprocess =>
      obtain ⟨-, hfile, -, -⟩ := hprocess p hp
      have hmain : p.alternateFile = .main := by
        rw [halternate, hfile]
        rfl
      refine .fresh hnewest ?_ ?_ (by simp)
      · intro f
        by_cases hf : f = p.alternateFile
        · subst hf
          rcases hsha1 with hnone | hsame
          · simp [hnone]
          · simp [hsame, hunchecked]
        · simp [hf, hunchecked]
      · simp [hmain, hunwritten]
  | kept values doc count hnewest hdisk hprocess =>
      obtain ⟨-, hfollows⟩ := hprocess p hp
      have hother : s.newestFile.other = p.alternateFile := by
        rw [halternate, hfollows.file]
      have hne : s.newestFile ≠ p.alternateFile := by
        rw [← hother]
        exact SettingsFile.ne_other _
      obtain ⟨a, ha, hle, -⟩ := hdisk.written
      refine .kept values doc count hnewest
        { readable := hdisk.readable
          content := by simpa [hne] using hdisk.content
          holds := hdisk.holds
          beside := by simpa [hother] using hexists
          older := ?_
          written := ⟨a, by simpa [hne] using ha, Nat.le_succ_of_le hle, ?_⟩ }
        (by simp)
      · intro c hc
        simp only [hother, Function.update_self] at hc
        rcases hsha1 with hnone | hsame
        · rw [hnone] at hc
          cases hc
        · rw [hsame, ← hother] at hc
          exact hdisk.older c hc
      · intro b hb
        simp only [hother, Function.update_self] at hb
        obtain ⟨rfl, hlt⟩ := hwriter b hb
        refine Or.inr ⟨Nat.lt_succ_of_le hle, ?_⟩
        simp only [SettingsSystem.count, hother, Function.update_self]
        rw [← hfollows.seqCount]
        exact hlt

/-- A store that writes and is cut off keeps the invariant. -/
theorem SettingsInv.crashed
    (hlib : lib.Faithful scope)
    (hinv : SettingsInv lib scope schema s)
    (hp : p ∈ s.process)
    (changes : List (Bytes × SettingsValue D))
    (version : Option Int)
    (hbound : p.seqCount.value < 2 ^ 31 - 1)
    (hscope : scope.Holds lib (assignValues changes version p))
    (point : CrashPoint C) :
    SettingsInv lib scope schema
      (s.crashed lib (assignValues changes version p) point) := by
  have hprocInv := (hinv.procInv hp).assign changes version
  have hwriter :
      ∀ b, some (s.stores + 1) = some b → b = s.stores + 1 ∧
        p.seqCount.value < (readMetaData lib (some (lib.settingsSave
          (storePrepare lib (assignValues changes version p)).settings))).seqCount
        := by
    intro b hb
    refine ⟨(Option.some.inj hb).symm, ?_⟩
    rw [readMetaData_storePrepare hlib hprocInv hscope.1]
    exact lt_wrapInt32_succ hbound
  cases point with
  | beforeSave =>
      exact hinv.process_none
  | duringSave c =>
      exact hinv.write_alternate hp ⟨some c, _⟩ none rfl (Or.inr rfl) (by simp)
  | afterSave =>
      exact hinv.write_alternate hp ⟨some _, _⟩ (some (s.stores + 1)) rfl
        (Or.inr rfl) hwriter
  | duringCheckSum =>
      have hspoiled := hinv.write_alternate hp
        ⟨some (lib.settingsSave
          (storePrepare lib (assignValues changes version p)).settings), none⟩
        (some (s.stores + 1)) rfl (Or.inl rfl) hwriter
      have hdisk :
          spoilCheckSum
              (save lib (storePrepare lib (assignValues changes version p))
                s.disk) p.alternateFile =
            Function.update s.disk p.alternateFile
              ⟨some (lib.settingsSave (storePrepare lib
                (assignValues changes version p)).settings), none⟩ := by
        have hfilepath :
            (storePrepare lib (assignValues changes version p)).filepath =
              p.alternateFile := rfl
        simp [spoilCheckSum, save, writeContent, hfilepath]
      rw [← hdisk] at hspoiled
      exact hspoiled
  | afterCheckSum =>
      obtain ⟨doc, hdisk⟩ := NewestInv.of_wrote hlib hprocInv hscope
        (hinv.writeReady hlib hp rfl rfl hbound) none
      exact .kept _ doc _ rfl hdisk (by
        intro q hq
        cases hq)

/-- Every event keeps the invariant. -/
theorem settingsInv_step
    [DecidableEq D] [DecidableEq C]
    (hlib : lib.Faithful scope)
    {t : SettingsSystem D C}
    (e : SettingsEvent D C schema)
    (hinv : SettingsInv lib scope schema s)
    (hsound : SettingsSound s e)
    (hwithin : SettingsWithin scope lib s e)
    (hstep : settingsStep lib s e = some t) :
    SettingsInv lib scope schema t := by
  cases e with
  | start table mem env =>
      obtain rfl := Option.some.inj hstep
      exact hinv.start hlib table mem env
  | store changes version =>
      cases hprocess : s.process with
      | none =>
          simp only [settingsStep, hprocess, Option.some.injEq] at hstep
          exact hstep ▸ hinv
      | some p =>
          simp only [settingsStep, hprocess, Option.some.injEq] at hstep
          subst hstep
          exact hinv.stored hlib hprocess changes version
            (hsound p hprocess) (hwithin p hprocess)
  | storeCrash changes version point =>
      cases hprocess : s.process with
      | none =>
          simp only [settingsStep, hprocess, Option.some.injEq] at hstep
          subst hstep
          exact hinv.process_none
      | some p =>
          simp only [settingsStep, hprocess] at hstep
          split at hstep
          case isTrue hchanged =>
            obtain rfl := Option.some.inj hstep
            have hbound := hsound p hprocess hchanged
            unfold StoreSound at hbound
            rw [if_pos hchanged] at hbound
            exact hinv.crashed hlib hprocess changes version hbound
              (hwithin p hprocess hchanged) point
          case isFalse =>
            obtain rfl := Option.some.inj hstep
            exact hinv.process_none

/-- A disk without checksums has the invariant. -/
theorem settingsInv_init
    (lib : SettingsLib D C)
    (scope : SettingsScope D)
    (schema : SettingsSchema)
    (content : SettingsFile → Option C) :
    SettingsInv lib scope schema (SettingsSystem.init content) :=
  .fresh rfl (fun _ => rfl) rfl (by
    intro p hp
    cases hp)

/-- What the invariant says about the next load and the two counts. -/
theorem SettingsInv.crashSafe
    [DecidableEq C]
    (hlib : lib.Faithful scope)
    (hinv : SettingsInv lib scope schema s) :
    CrashSafe lib s := by
  cases hinv with
  | fresh hnewest hunchecked hunwritten hprocess =>
      refine ⟨?_, ?_, fun h => absurd hnewest h⟩
      · intro values hvalues
        rw [hnewest] at hvalues
        cases hvalues
      · intro f a b ha hb
        cases f with
        | main =>
            have hb' : s.writtenBy .backup = some b := hb
            rw [hunwritten] at hb'
            cases hb'
        | backup =>
            rw [hunwritten] at ha
            cases ha
  | kept values doc count hnewest hdisk hprocess =>
      have hcount := hdisk.count_newestFile hlib
      refine ⟨?_, ?_, ?_⟩
      · intro values' hvalues env entries mem
        rw [hnewest] at hvalues
        obtain rfl := Option.some.inj hvalues
        obtain ⟨p, hload, -, hfile, -, hsettings, -, -⟩ :=
          hdisk.load hlib env entries mem
        obtain ⟨c, hcontent, hopen⟩ := hdisk.content
        refine ⟨p, s.disk, hload, ?_, ?_, ?_⟩
        · rw [hfile]
          exact verifyCheckSum_iff.mpr ⟨c, hcontent⟩
        · rw [hfile, hcontent, hsettings]
          exact hopen
        · rw [hsettings]
          exact hdisk.holds.values
      · intro f a b ha hb hlt
        obtain ⟨a', ha', -, hother⟩ := hdisk.written
        rcases s.newestFile.eq_or_other f with rfl | rfl
        · rw [ha'] at ha
          obtain rfl := Option.some.inj ha
          rcases hother b hb with ⟨hless, -⟩ | ⟨-, hcounts⟩
          · omega
          · rw [hcount]
            exact hcounts
        · rw [SettingsFile.other_other] at hb ⊢
          rw [ha'] at hb
          obtain rfl := Option.some.inj hb
          rcases hother a ha with ⟨-, hcounts⟩ | ⟨hless, -⟩
          · rw [hcount]
            exact hcounts
          · omega
      · intro _ hchecked
        rw [hcount]
        exact hdisk.count_other hchecked

/-- In every run in which the sequence count does not overflow, every store that
writes nothing compares with filled copies and what is written fits the buffers
of the library, the next load takes the newest store, and the newer file has the
larger count. -/
theorem crashSafe_run
    [DecidableEq D] [DecidableEq C]
    (hlib : lib.Faithful scope)
    (content : SettingsFile → Option C)
    (events : List (SettingsEvent D C schema))
    {t : SettingsSystem D C}
    (hsound : Meets (settingsStep lib) SettingsSound
      (SettingsSystem.init content) events)
    (hwithin : Meets (settingsStep lib) (SettingsWithin scope lib)
      (SettingsSystem.init content) events)
    (hrun : run (settingsStep lib) (SettingsSystem.init content) events =
      some t) :
    CrashSafe lib t := by
  have hinv : SettingsInv lib scope schema t :=
    run_invariant_of_meets
      (fun _ e _ hinv hcond hstep =>
        settingsInv_step hlib e hinv hcond.1 hcond.2 hstep)
      (settingsInv_init lib scope schema content) (meets_and hsound hwithin) hrun
  exact hinv.crashSafe hlib

end CrashRuns

/-- One integer setting. -/
def sampleSchema : SettingsSchema where
  keys := [([97], (.int, 1))]
  nodup := by decide

/-- The setting with the default 0 and a local copy that was not filled. -/
def sampleTable (memory : Int) : SettingsTable Int sampleSchema where
  entries :=
    [{ key := [97], value := .int 0, localValue := .int memory,
       keyState := .notLoaded }]
  shapes := rfl
  valid := by
    intro pEntry hentry
    obtain rfl := List.mem_singleton.mp hentry
    exact ⟨trivial, rfl⟩

/-- Memory that holds zeros. -/
def zeroMemory : MetaMemory where
  version := ⟨0, 0, .notLoaded⟩
  seqCount := ⟨0, 0, .notLoaded⟩
  size := ⟨0, 0, .notLoaded⟩

/-- A first store, one that is cut off while it writes, a restart and two more
stores of which the second finds no change. -/
def sampleEvents : List (SettingsEvent Int (Option SettingsLines) sampleSchema) :=
  [.start (sampleTable 0) zeroMemory ⟨true, true⟩,
    .store [([97], .int 5)] none,
    .storeCrash [([97], .int 6)] none (.duringSave none),
    .start (sampleTable 3) zeroMemory ⟨true, true⟩,
    .store [([97], .int 8)] none,
    .store [] none]

/-- Every run stays within buffers that hold everything. -/
theorem settingsWithin_plainScope
    {schema : SettingsSchema}
    (s : SettingsSystem Int (Option SettingsLines))
    (e : SettingsEvent Int (Option SettingsLines) schema) :
    SettingsWithin plainScope plainSettingsLib s e := by
  cases e with
  | start table mem env =>
      trivial
  | store changes version | storeCrash changes version point =>
      intro p _ _
      exact ⟨trivial, fun _ _ => trivial⟩

/-- The sample run meets the conditions. -/
theorem crashSafe_sampleEvents :
    ∃ t, run (settingsStep plainSettingsLib)
        (SettingsSystem.init fun _ => none) sampleEvents = some t ∧
      t.newest = some [([97], .int 8)] ∧ CrashSafe plainSettingsLib t := by
  have hvalues :
      (run (settingsStep plainSettingsLib) (SettingsSystem.init fun _ => none)
        sampleEvents).map SettingsSystem.newest =
          some (some [([97], .int 8)]) := by
    decide
  obtain ⟨t, hrun, hnewest⟩ := Option.map_eq_some_iff.mp hvalues
  have hwithin : Meets (settingsStep plainSettingsLib) (SettingsWithin plainScope plainSettingsLib)
      (SettingsSystem.init fun _ => none) sampleEvents :=
    meets_of_forall_prefix fun _ e s _ _ => settingsWithin_plainScope s e
  exact ⟨t, hrun, hnewest,
    crashSafe_run plainSettingsLib_faithful _ sampleEvents (by decide) hwithin hrun⟩

/-- A store that finds its default equal to memory that was never filled. -/
def unfilledEvents :
    List (SettingsEvent Int (Option SettingsLines) sampleSchema) :=
  [.start (sampleTable 0) zeroMemory ⟨true, true⟩,
    .store [] none]

/-- The first store of a fresh system returns 0 without writing a file. -/
theorem not_crashSafe_unfilledEvents :
    ∃ t, run (settingsStep plainSettingsLib)
        (SettingsSystem.init fun _ => none) unfilledEvents = some t ∧
      t.newest = some [([97], .int 0)] ∧
      ¬ CrashSafe plainSettingsLib t := by
  have hvalues :
      (run (settingsStep plainSettingsLib) (SettingsSystem.init fun _ => none)
        unfilledEvents).map SettingsSystem.newest =
          some (some [([97], .int 0)]) := by
    decide
  obtain ⟨t, hrun, hnewest⟩ := Option.map_eq_some_iff.mp hvalues
  have hsha1 : ∀ f, (t.disk f).sha1 = none := by
    intro f
    have hall : (run (settingsStep plainSettingsLib)
        (SettingsSystem.init fun _ => none) unfilledEvents).map
          (fun t => (t.disk f).sha1.isNone) = some true := by
      cases f <;> decide
    rw [hrun] at hall
    exact Option.isNone_iff_eq_none.mp (Option.some.inj hall)
  refine ⟨t, hrun, hnewest, ?_⟩
  intro hsafe
  obtain ⟨p, disk, hload, hchecked, -, -⟩ :=
    hsafe.loads _ hnewest ⟨true, true⟩ (sampleTable 0).entries zeroMemory
  have hunchecked := (load_of_unchecked plainSettingsLib
    ⟨true, true⟩ (sampleTable 0).entries zeroMemory hsha1).1
  rw [hload] at hunchecked
  rw [verifyCheckSum_of_none (hunchecked p.file)] at hchecked
  cases hchecked

end Adav
end BrBox
