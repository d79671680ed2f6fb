import BrBox.Adav.SettingsCrash
import BrBox.Adav.SettingsText

/-!
# Two corrupt settings files

When neither file passes its checksum, `FileConsistencyCheck` notes that the caller will
use default values, names the backup file and returns 0.  `Load` then reads that file like
any other.

* `load_unchecked`: what a load makes of the attached settings.
* `leftAlone_iff`: when they are left as they were.
-/

namespace BrBox
namespace Adav

open CText
open CxxText

section Corrupt

variable {D : Type}

/-- `VALIDATE_SETTING`. -/
def validateSetting
    (pEntry : SettingsEntry D) (settingDefault : SettingsValue D) : SettingsValue D :=
  if pEntry.keyState ≠ .loaded then
    settingDefault
  else
    pEntry.value

/-- The attached settings after a load; one that has failed has not touched them. -/
def entriesAfterLoad
    (lib : SettingsLib D Bytes) (env : TouchEnv) (entries : List (SettingsEntry D))
    (mem : MetaMemory) (disk : SettingsDisk Bytes) : List (SettingsEntry D) :=
  match (load lib env entries mem disk).1 with
  | none => entries
  | some p => p.entries

/-- An entry has its value, is not loaded, and its default applies. -/
structure LeftAlone (pEntry pEntry' : SettingsEntry D) : Prop where
  key : pEntry'.key = pEntry.key
  value : pEntry'.value = pEntry.value
  state : pEntry'.keyState ≠ .loaded
  default : ∀ settingDefault, validateSetting pEntry' settingDefault = settingDefault

/-- No text of the file fits its setting. -/
def NothingFits (entries : List (SettingsEntry D)) (doc : SettingsDoc) : Prop :=
  ∀ pEntry ∈ entries, ∀ text,
    settingsGet doc .data pEntry.key = some text → ¬ Fits pEntry.value text

/-- There is nothing to load: the main file cannot be created, or the backup file is
missing, cannot be parsed, or has no text that fits. -/
def NothingToLoad
    (env : TouchEnv) (entries : List (SettingsEntry D)) (disk : SettingsDisk Bytes) : Prop :=
  ((disk .main).content = none ∧ env.mainOk = false) ∨
    ∀ content doc, (disk .backup).content = some content →
      settingsOpen content = some doc → NothingFits entries doc

variable {conv : Conversions D}
variable {save : SettingsDoc → Bytes}
variable {printDouble : D → Bytes}
variable {env : TouchEnv}
variable {disk : SettingsDisk Bytes}

/-- An entry in the loop of `Load` is left alone if and only if no text fits it. -/
theorem leftAlone_loadEntry
    {pEntry : SettingsEntry D}
    (hshape : pEntry.localValue.shape = pEntry.value.shape)
    (doc : SettingsDoc) :
    LeftAlone pEntry (loadEntry (settingsLib conv save printDouble) doc pEntry) ↔
      ∀ text, settingsGet doc .data pEntry.key = some text → ¬ Fits pEntry.value text := by
  cases hget : settingsGet doc .data pEntry.key with
  | none =>
      have hentry : loadEntry (settingsLib conv save printDouble) doc pEntry =
          { pEntry with keyState := .notFound } := by
        simp [loadEntry, hget]
      rw [hentry]
      constructor
      · intro _ text htext
        cases htext
      · intro _
        exact ⟨rfl, rfl, by simp, by simp [validateSetting]⟩
  | some text =>
      obtain ⟨hread, hkept⟩ := getValue_spec conv pEntry.value text
      obtain ⟨hreadLocal, -⟩ := getValue_spec conv pEntry.localValue text
      rw [fits_congr hshape] at hreadLocal
      by_cases hfits : Fits pEntry.value text
      · have hstate : (loadEntry (settingsLib conv save printDouble) doc pEntry).keyState =
            .loaded := by
          simp [loadEntry, hget, settingsLib, hread.mpr hfits, hreadLocal.mpr hfits]
        constructor
        · intro h
          exact absurd hstate h.state
        · intro h
          exact absurd hfits (h text rfl)
      · have hunread : (getValue conv pEntry.value text).1 = false := by
          rw [← Bool.not_eq_true, hread]
          exact hfits
        have hstate : (loadEntry (settingsLib conv save printDouble) doc pEntry).keyState =
            .notFound := by
          simp [loadEntry, hget, settingsLib, hunread]
        have hvalue : (loadEntry (settingsLib conv save printDouble) doc pEntry).value =
            pEntry.value := by
          simp [loadEntry, hget, settingsLib, hkept hunread]
        have hkey : (loadEntry (settingsLib conv save printDouble) doc pEntry).key =
            pEntry.key := by
          simp [loadEntry, hget]
        constructor
        · intro _ text' htext
          obtain rfl := Option.some.inj htext
          exact hfits
        · intro _
          exact ⟨hkey, hvalue, by simp [hstate], by simp [validateSetting, hstate]⟩

variable {lib : SettingsLib D Bytes}

/-- The check fails if a file that is missing cannot be created. -/
theorem fileConsistencyCheck_eq_none_iff :
    (fileConsistencyCheck lib env disk).1 = none ↔
      ((disk .main).content = none ∧ env.mainOk = false) ∨
        ((disk .backup).content = none ∧ env.backupOk = false) := by
  have hbackup : (Function.update disk .main (touchFile lib (disk .main)) .backup) =
      disk .backup :=
    Function.update_of_ne (by decide) _ _
  simp only [fileConsistencyCheck, hbackup]
  by_cases hmain : (disk .main).content = none ∧ env.mainOk = false
  · simp [hmain]
  · rw [if_neg (by simpa using hmain)]
    by_cases halt : (disk .backup).content = none ∧ env.backupOk = false
    · simp [halt]
    · rw [if_neg (by simpa using halt)]
      simp only [reduceCtorEq, hmain, halt, or_self]

/-- Else the backup file is there. -/
theorem fileConsistencyCheck_backup
    (hcheck : (fileConsistencyCheck lib env disk).1 ≠ none) :
    ((fileConsistencyCheck lib env disk).2 .backup).content =
      some ((disk .backup).content.getD lib.emptyFile) := by
  rw [ne_eq, fileConsistencyCheck_eq_none_iff, not_or] at hcheck
  rw [fileConsistencyCheck]
  dsimp only
  rw [if_neg (by simpa using hcheck.1), if_neg (by simpa using hcheck.2)]
  simp [touchFile]

/-- Without a checked file a load reads the backup file. -/
theorem entriesAfterLoad_unchecked
    (hunchecked : ∀ f, verifyCheckSum ((fileConsistencyCheck lib env disk).2 f) = false)
    (entries : List (SettingsEntry D))
    (mem : MetaMemory) :
    entriesAfterLoad lib env entries mem disk =
      match (fileConsistencyCheck lib env disk).1 with
      | none => entries
      | some _ =>
          match lib.settingsOpen ((disk .backup).content.getD lib.emptyFile) with
          | none => entries
          | some doc => entries.map (loadEntry lib doc) := by
  unfold entriesAfterLoad load
  cases hcheck : fileConsistencyCheck lib env disk with
  | mk selected disk' =>
      cases selected with
      | none =>
          rfl
      | some selection =>
          have hsome : (fileConsistencyCheck lib env disk).1 = some selection :=
            congrArg Prod.fst hcheck
          obtain ⟨-, created, hselection⟩ :=
            (fileConsistencyCheck_spec lib env disk).2 selection hsome
          have hfile : selection.file = .backup := by
            rw [hselection]
            exact selectFile_of_unchecked lib created hunchecked
          have hcontent : (disk' .backup).content =
              some ((disk .backup).content.getD lib.emptyFile) := by
            have hbackup := fileConsistencyCheck_backup (by rw [hsome]; simp)
            rw [hcheck] at hbackup
            exact hbackup
          simp only [hfile, hcontent, Option.bind_some]
          cases lib.settingsOpen ((disk .backup).content.getD lib.emptyFile) with
          | none =>
              rfl
          | some doc =>
              rfl

/-- Attached settings that no load has touched. -/
theorem leftAlone_self
    {entries : List (SettingsEntry D)}
    (hattached : ∀ pEntry ∈ entries, pEntry.keyState = .notLoaded) :
    List.Forall₂ LeftAlone entries entries := by
  rw [List.forall₂_same]
  intro pEntry hentry
  have hstate := hattached pEntry hentry
  exact ⟨rfl, rfl, by simp [hstate], by simp [validateSetting, hstate]⟩

/-- The loop of `Load`. -/
theorem leftAlone_map
    {entries : List (SettingsEntry D)}
    (hshape : ∀ pEntry ∈ entries, pEntry.localValue.shape = pEntry.value.shape)
    (doc : SettingsDoc) :
    List.Forall₂ LeftAlone entries
        (entries.map (loadEntry (settingsLib conv save printDouble) doc)) ↔
      NothingFits entries doc := by
  rw [List.forall₂_map_right_iff, List.forall₂_same]
  apply forall₂_congr
  intro pEntry hentry
  exact leftAlone_loadEntry (hshape pEntry hentry) doc

/-- An empty file has no text. -/
theorem nothingFits_empty
    (entries : List (SettingsEntry D)) :
    NothingFits entries ∅ := by
  intro pEntry _ text htext
  simp [settingsGet] at htext

/-- The check has not failed, so there is nothing to load if and only if nothing of the
content is read. -/
theorem nothingToLoad_iff
    {entries : List (SettingsEntry D)} {content : Bytes}
    (hmain : ¬ ((disk .main).content = none ∧ env.mainOk = false))
    (hcontent : (disk .backup).content = some content) :
    NothingToLoad env entries disk ↔
      ∀ doc, settingsOpen content = some doc → NothingFits entries doc := by
  rw [NothingToLoad, or_iff_right hmain]
  constructor
  · intro hall doc hopen
    exact hall content doc hcontent hopen
  · intro hall content' doc hcontent' hopen
    rw [hcontent] at hcontent'
    obtain rfl := Option.some.inj hcontent'
    exact hall doc hopen

/-- With neither file checked, every attached setting is left alone if and only if there
is nothing to load. -/
theorem leftAlone_iff
    {schema : SettingsSchema}
    (conv : Conversions D)
    (save : SettingsDoc → Bytes)
    (printDouble : D → Bytes)
    (env : TouchEnv)
    (table : SettingsTable D schema)
    (mem : MetaMemory)
    (disk : SettingsDisk Bytes)
    (hattached : ∀ pEntry ∈ table.entries, pEntry.keyState = .notLoaded)
    (hunchecked : ∀ f, verifyCheckSum
      ((fileConsistencyCheck (settingsLib conv save printDouble) env disk).2 f) = false) :
    List.Forall₂ LeftAlone table.entries
        (entriesAfterLoad (settingsLib conv save printDouble) env table.entries mem disk) ↔
      NothingToLoad env table.entries disk := by
  have hsame := leftAlone_self hattached
  have hshape : ∀ pEntry ∈ table.entries, pEntry.localValue.shape = pEntry.value.shape :=
    fun pEntry hentry => (table.valid pEntry hentry).2
  rw [entriesAfterLoad_unchecked hunchecked]
  by_cases hmain : (disk .main).content = none ∧ env.mainOk = false
  · have hcheck : (fileConsistencyCheck (settingsLib conv save printDouble) env disk).1 =
        none :=
      fileConsistencyCheck_eq_none_iff.mpr (Or.inl hmain)
    rw [hcheck]
    exact ⟨fun _ => Or.inl hmain, fun _ => hsame⟩
  cases hcontent : (disk .backup).content with
  | none =>
      -- a backup file that is created is empty
      have hnothing : NothingToLoad env table.entries disk := Or.inr (by simp [hcontent])
      refine ⟨fun _ => hnothing, fun _ => ?_⟩
      split
      · exact hsame
      · exact (leftAlone_map hshape ∅).mpr (nothingFits_empty _)
  | some content =>
      have hcheck : (fileConsistencyCheck (settingsLib conv save printDouble) env disk).1 ≠
          none := by
        rw [ne_eq, fileConsistencyCheck_eq_none_iff, not_or]
        exact ⟨hmain, by simp [hcontent]⟩
      obtain ⟨selection, hselection⟩ := Option.ne_none_iff_exists'.mp hcheck
      rw [hselection, nothingToLoad_iff hmain hcontent, Option.getD_some]
      dsimp only [settingsLib]
      cases hopen : settingsOpen content with
      | none =>
          refine ⟨fun _ doc hdoc => ?_, fun _ => hsame⟩
          cases hdoc
      | some doc =>
          simp only [Option.some.injEq, forall_eq']
          exact leftAlone_map hshape doc

end Corrupt

/-- Doubles are integers. -/
def sampleConversions : Conversions Int where
  atol := decimalValue
  atof := decimalValue

/-- The reader with them; nothing is written. -/
def sampleSettingsLib : SettingsLib Int Bytes :=
  settingsLib sampleConversions (fun _ => []) decimalText

/-- An empty main file and a backup file, without checksums. -/
def uncheckedDisk (backup : Bytes) : SettingsDisk Bytes
  | .main => { content := some [], sha1 := none }
  | .backup => { content := some backup, sha1 := none }

theorem verifyCheckSum_uncheckedDisk
    (backup : Bytes)
    (f : SettingsFile) :
    verifyCheckSum
      ((fileConsistencyCheck sampleSettingsLib ⟨true, true⟩ (uncheckedDisk backup)).2 f) =
        false := by
  apply verifyCheckSum_of_none
  rw [(fileConsistencyCheck_spec sampleSettingsLib ⟨true, true⟩ (uncheckedDisk backup)).1 f]
  cases f <;> rfl

/-- A backup file with a key outside a section. -/
theorem leftAlone_noSection :
    List.Forall₂ LeftAlone (sampleTable 3).entries
      (entriesAfterLoad sampleSettingsLib ⟨true, true⟩ (sampleTable 3).entries zeroMemory
        (uncheckedDisk (CxxText.text "a=7\n"))) := by
  have hattached : ∀ pEntry ∈ (sampleTable 3).entries, pEntry.keyState = .notLoaded := by
    decide
  have hnone : settingsOpen (CxxText.text "a=7\n") = none := by
    have hparse : (settingsOpen (CxxText.text "a=7\n")).isNone = true := by
      decide
    exact Option.isNone_iff_eq_none.mp hparse
  refine (leftAlone_iff sampleConversions (fun _ => []) decimalText ⟨true, true⟩
    (sampleTable 3) zeroMemory (uncheckedDisk (CxxText.text "a=7\n")) hattached
    (verifyCheckSum_uncheckedDisk _)).mpr (Or.inr ?_)
  intro content doc hcontent hopen
  obtain rfl := Option.some.inj hcontent
  rw [hnone] at hopen
  cases hopen

/-- A backup file without a checksum, with a number for the setting: it is loaded. -/
theorem not_leftAlone_number :
    (∀ f, verifyCheckSum
        ((fileConsistencyCheck sampleSettingsLib ⟨true, true⟩
          (uncheckedDisk (CxxText.text "[Data]\na=7\n"))).2 f) = false) ∧
      entriesAfterLoad sampleSettingsLib ⟨true, true⟩ (sampleTable 3).entries zeroMemory
          (uncheckedDisk (CxxText.text "[Data]\na=7\n")) =
        [{ key := [97], value := .int 7, localValue := .int 7, keyState := .loaded }] ∧
      ¬ List.Forall₂ LeftAlone (sampleTable 3).entries
          (entriesAfterLoad sampleSettingsLib ⟨true, true⟩ (sampleTable 3).entries zeroMemory
            (uncheckedDisk (CxxText.text "[Data]\na=7\n"))) := by
  have hloaded :
      entriesAfterLoad sampleSettingsLib ⟨true, true⟩ (sampleTable 3).entries zeroMemory
          (uncheckedDisk (CxxText.text "[Data]\na=7\n")) =
        [{ key := [97], value := .int 7, localValue := .int 7, keyState := .loaded }] := by
    decide
  refine ⟨verifyCheckSum_uncheckedDisk _, hloaded, ?_⟩
  rw [hloaded]
  intro halone
  cases halone with
  | cons hentry =>
      exact hentry.state rfl

end Adav
end BrBox
