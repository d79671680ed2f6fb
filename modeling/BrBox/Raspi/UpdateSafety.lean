import BrBox.Raspi.Update

/-!
# What an update leaves behind

The box can be booted if the two entries name a complete partition and a
complete kernel of one image.  An update can break this in four ways.  The
partition to format is chosen by the running system and not by the boot marker,
so a second update before the reboot formats the partition of the `root=`
entry, and its `cp` may write the kernel file of the `kernel=` entry.  The two
entries change one after the other.  And the status of `cp` is not looked at,
so the `kernel=` entry may come to name a file that was not copied.

`updateSafe_run` says that nothing else goes wrong, at any moment; since the
two entries change one after the other, it has an update reach
`WriteBootMarker` only with the image that is running.  `updateSafeApart_run`
is about all images and leaves out the moment between the two changes.
-/

namespace BrBox
namespace Raspi

open LabelledRun

section Safety

variable {I : Type}

/-- The two entries name a partition and a kernel of the image. -/
def PiBox.Names (s : PiBox I) (image : I) : Prop :=
  s.partition s.rootEntry = .complete image ∧
    s.kernel s.kernelEntry = .complete image

/-- The partition that is being formatted. -/
def UpdatePhase.formats : UpdatePhase I → Option Slot
  | .formatting _ curBoot => some curBoot.other
  | _ => none

/-- The box can be booted, the running partition is not formatted, and success
means that the entries name the image of the run. -/
structure UpdateSafe (s : PiBox I) : Prop where
  bootable : ∃ image, s.Names image
  formats : ∀ slot ∈ s.phase.formats, slot ≠ s.running
  success : ∀ image, s.phase = .returned image 0 → s.Names image

/-- The same, with the moment between the two `sed` commands left out. -/
structure UpdateSafeApart (s : PiBox I) : Prop where
  bootable : s.phase.between = false → ∃ image, s.Names image
  formats : ∀ slot ∈ s.phase.formats, slot ≠ s.running
  success : ∀ image, s.phase = .returned image 0 → s.Names image

/-- The entries name the running system, and an image is unpacked beside it. -/
def PiBox.Unpacked (s : PiBox I) (image : I) : Prop :=
  s.rootEntry = s.running ∧
    s.partition s.running.other = .complete image

/-- What the script relies on; `mid` is for the moment between the two `sed`
commands. -/
def PhaseInv (mid : PiBox I → I → KernelFile → Prop) (s : PiBox I) :
    UpdatePhase I → Prop
  | .idle | .accepted _ => True
  | .chosen _ curBoot => curBoot = s.running
  | .formatting _ curBoot | .formatted _ curBoot | .mounted _ curBoot
  | .unpacking _ curBoot => curBoot = s.running ∧ s.rootEntry = s.running
  | .unpacked image curBoot | .bootMounted image curBoot
  | .flipping image curBoot | .flipMounted image curBoot
  | .marked image curBoot => curBoot = s.running ∧ s.Unpacked image
  | .copying image dest => dest ≠ s.kernelEntry ∧ s.Unpacked image
  | .copied image => s.Unpacked image
  | .rootWritten image kernel => mid s image kernel
  | .returned image status => status = 0 → s.Names image

/-- The invariant of a box. -/
structure BoxInv (mid : PiBox I → I → KernelFile → Prop) (s : PiBox I) :
    Prop where
  bootable : s.phase.between = false → ∃ image, s.Names image
  phase : PhaseInv mid s s.phase

/-- `mkfs` and `cp` do not write what the entries name: no earlier update waits
for its reboot, and the `kernel=` entry is not that of the other system. -/
def WriteSound (raspi3 : Bool) (s : PiBox I) : UpdateEvent I → Prop
  | .mkfs => s.rootEntry = s.running
  | .cp catOk => s.kernelEntry ≠ kernelFile raspi3 catOk s.running.other
  | _ => True

/-- The image of a run that has read the boot marker. -/
def UpdatePhase.marking : UpdatePhase I → Option (I × Slot)
  | .marked image bootMarker => some (image, bootMarker)
  | _ => none

/-- The image of a run and the kernel file it is about to name. -/
def UpdatePhase.naming : UpdatePhase I → Option (I × KernelFile)
  | .rootWritten image kernel => some (image, kernel)
  | _ => none

/-- `WriteBootMarker` is reached with the image that is running, and it names a
kernel file that was copied. -/
def MarkerSound (s : PiBox I) : UpdateEvent I → Prop
  | .sedRoot _ _ =>
      ∀ run ∈ s.phase.marking, s.partition s.running = .complete run.1
  | .sedKernel ok =>
      ∀ run ∈ s.phase.naming, ok = true → s.kernel run.2 = .complete run.1
  | _ => True

/-- Both entries are changed, with no reboot between, and the kernel file was
copied. -/
def FlipSound (raspi3 : Bool) (s : PiBox I) : UpdateEvent I → Prop
  | .reboot => s.phase.between = false
  | .sedRoot catOk ok =>
      ∀ run ∈ s.phase.marking, ok = true ∧
        s.kernel (kernelFile raspi3 catOk run.2.other) = .complete run.1
  | .sedKernel ok => ok = true
  | _ => True

/-- The condition for a box that can be booted at every moment. -/
def UpdateSound (raspi3 : Bool) (s : PiBox I) (event : UpdateEvent I) : Prop :=
  WriteSound raspi3 s event ∧ MarkerSound s event

instance decidableWriteSound
    (raspi3 : Bool) (s : PiBox I) :
    (event : UpdateEvent I) → Decidable (WriteSound raspi3 s event)
  | .mkfs => inferInstanceAs (Decidable (s.rootEntry = s.running))
  | .cp catOk =>
      inferInstanceAs (Decidable
        (s.kernelEntry ≠ kernelFile raspi3 catOk s.running.other))
  | .reboot | .start _ | .readBootSystem _ | .mkfsRefused | .mkfsEnd _
  | .mountPartition _ | .tar | .tarRefused | .tarEnd _ | .mountBoot _
  | .cpRefused | .cpEnd _ | .flipBootMarker _ | .mountDevice _
  | .readBootMarker _ | .sedRoot _ _ | .sedKernel _ => isTrue trivial

instance decidableMarkerSound
    [DecidableEq I] (s : PiBox I) :
    (event : UpdateEvent I) → Decidable (MarkerSound s event)
  | .sedRoot _ _ =>
      inferInstanceAs (Decidable (∀ run ∈ s.phase.marking, _ = _))
  | .sedKernel ok =>
      inferInstanceAs (Decidable
        (∀ run ∈ s.phase.naming, ok = true → _ = _))
  | .reboot | .start _ | .readBootSystem _ | .mkfs | .mkfsRefused | .mkfsEnd _
  | .mountPartition _ | .tar | .tarRefused | .tarEnd _ | .mountBoot _ | .cp _
  | .cpRefused | .cpEnd _ | .flipBootMarker _ | .mountDevice _
  | .readBootMarker _ => isTrue trivial

instance decidableUpdateSound
    [DecidableEq I] (raspi3 : Bool) (s : PiBox I) (event : UpdateEvent I) :
    Decidable (UpdateSound raspi3 s event) :=
  inferInstanceAs (Decidable (_ ∧ _))

variable {raspi3 : Bool}
variable {s t : PiBox I}
variable {event : UpdateEvent I}
variable {mid : PiBox I → I → KernelFile → Prop}

/-- What the entries name does not depend on the script. -/
theorem PiBox.Names.goto
    {image : I}
    (hnames : s.Names image)
    (phase : UpdatePhase I) :
    (s.goto phase).Names image :=
  hnames

/-- A partition that the `root=` entry does not name may change. -/
theorem PiBox.Names.setPartition
    {image : I} {slot : Slot}
    (hnames : s.Names image)
    (hslot : s.rootEntry ≠ slot)
    (content : Stored I) :
    (s.setPartition slot content).Names image := by
  refine ⟨?_, hnames.2⟩
  simp only [PiBox.setPartition, Function.update_of_ne hslot]
  exact hnames.1

/-- A kernel file that the `kernel=` entry does not name may change. -/
theorem PiBox.Names.setKernel
    {image : I} {file : KernelFile}
    (hnames : s.Names image)
    (hfile : s.kernelEntry ≠ file)
    (content : Stored I) :
    (s.setKernel file content).Names image := by
  refine ⟨hnames.1, ?_⟩
  simp only [PiBox.setKernel, Function.update_of_ne hfile]
  exact hnames.2

/-- The script goes on without writing. -/
theorem BoxInv.goto
    (hinv : BoxInv mid s)
    (phase : UpdatePhase I)
    (hbetween : s.phase.between = false)
    (hphase : PhaseInv mid (s.goto phase) phase) :
    BoxInv mid (s.goto phase) where
  bootable := by
    intro _
    obtain ⟨image, hnames⟩ := hinv.bootable hbetween
    exact ⟨image, hnames.goto phase⟩
  phase := hphase

/-- The script writes the partition beside the running one. -/
theorem BoxInv.writePartition
    (hinv : BoxInv mid s)
    (content : Stored I)
    (phase : UpdatePhase I)
    (hbetween : s.phase.between = false)
    (hroot : s.rootEntry = s.running)
    (hphase : PhaseInv mid
      ((s.setPartition s.running.other content).goto phase) phase) :
    BoxInv mid ((s.setPartition s.running.other content).goto phase) where
  bootable := by
    intro _
    obtain ⟨image, hnames⟩ := hinv.bootable hbetween
    have hne : s.rootEntry ≠ s.running.other := by
      rw [hroot]
      exact Slot.ne_other _
    exact ⟨image, (hnames.setPartition hne content).goto phase⟩
  phase := hphase

/-- The script writes a kernel file that is not named. -/
theorem BoxInv.writeKernel
    (hinv : BoxInv mid s)
    {file : KernelFile}
    (content : Stored I)
    (phase : UpdatePhase I)
    (hbetween : s.phase.between = false)
    (hfile : s.kernelEntry ≠ file)
    (hphase : PhaseInv mid ((s.setKernel file content).goto phase) phase) :
    BoxInv mid ((s.setKernel file content).goto phase) where
  bootable := by
    intro _
    obtain ⟨image, hnames⟩ := hinv.bootable hbetween
    exact ⟨image, (hnames.setKernel hfile content).goto phase⟩
  phase := hphase

/-- The invariant of the phase the script is in. -/
theorem BoxInv.phase_of
    (hinv : BoxInv mid s)
    {phase : UpdatePhase I}
    (hphase : s.phase = phase) :
    PhaseInv mid s phase := by
  rw [← hphase]
  exact hinv.phase

/-- Every move but a reboot and the two `sed` commands keeps the invariant. -/
theorem BoxInv.move
    (hinv : BoxInv mid s)
    (hsound : WriteSound raspi3 s event)
    (hmove : UpdateMove raspi3 s event t)
    (hreboot : event = .reboot →
      BoxInv mid { s with running := s.rootEntry, phase := .idle })
    (hroot : ∀ image bootMarker catOk ok,
      event = .sedRoot catOk ok → s.phase = .marked image bootMarker →
        BoxInv mid
          { s with
            rootEntry := if ok then bootMarker.other else s.rootEntry
            phase :=
              .rootWritten image (kernelFile raspi3 catOk bootMarker.other) })
    (hkernel : ∀ image kernel ok,
      event = .sedKernel ok → s.phase = .rootWritten image kernel →
        BoxInv mid
          { s with
            kernelEntry := if ok then kernel else s.kernelEntry
            phase := .returned image 0 }) :
    BoxInv mid t := by
  cases hmove with
  | reboot =>
      exact hreboot rfl
  | start image hbetween =>
      exact hinv.goto _ hbetween trivial
  | fail _ image hbetween =>
      exact hinv.goto _ hbetween (fun h => absurd h (by decide))
  | choose image hphase =>
      exact hinv.goto _ (by rw [hphase]; rfl) rfl
  | mkfs image curBoot hphase =>
      obtain rfl : curBoot = s.running := hinv.phase_of hphase
      exact hinv.writePartition _ _ (by rw [hphase]; rfl) hsound
        ⟨rfl, hsound⟩
  | mkfsEnd image curBoot hphase =>
      obtain ⟨rfl, hentry⟩ := hinv.phase_of hphase
      exact hinv.writePartition _ _ (by rw [hphase]; rfl) hentry
        ⟨rfl, hentry⟩
  | mountPartition image curBoot hphase =>
      have hkept := hinv.phase_of hphase
      exact hinv.goto _ (by rw [hphase]; rfl) hkept
  | tar image curBoot hphase =>
      obtain ⟨rfl, hentry⟩ := hinv.phase_of hphase
      exact hinv.writePartition _ _ (by rw [hphase]; rfl) hentry
        ⟨rfl, hentry⟩
  | tarEnd image curBoot hphase =>
      obtain ⟨rfl, hentry⟩ := hinv.phase_of hphase
      exact hinv.writePartition _ _ (by rw [hphase]; rfl) hentry
        ⟨rfl, hentry, Function.update_self _ _ _⟩
  | mountBoot image curBoot hphase =>
      have hkept := hinv.phase_of hphase
      exact hinv.goto _ (by rw [hphase]; rfl) hkept
  | cp image curBoot catOk hphase =>
      obtain ⟨rfl, hunpacked⟩ := hinv.phase_of hphase
      exact hinv.writeKernel _ _ (by rw [hphase]; rfl) hsound
        ⟨hsound.symm, hunpacked⟩
  | cpRefused image curBoot hphase =>
      have hkept := hinv.phase_of hphase
      exact hinv.goto _ (by rw [hphase]; rfl) hkept.2
  | cpEnd image dest hphase =>
      obtain ⟨hdest, hunpacked⟩ := hinv.phase_of hphase
      exact hinv.writeKernel _ _ (by rw [hphase]; rfl) hdest.symm hunpacked
  | cpFail image dest hphase =>
      have hkept := hinv.phase_of hphase
      exact hinv.goto _ (by rw [hphase]; rfl) hkept.2
  | flipBootMarker image hphase =>
      exact hinv.goto _ (by rw [hphase]; rfl) ⟨rfl, hinv.phase_of hphase⟩
  | mountDevice image curBoot hphase =>
      have hkept := hinv.phase_of hphase
      exact hinv.goto _ (by rw [hphase]; rfl) hkept
  | readBootMarker image curBoot hphase hmarker =>
      obtain ⟨rfl, hunpacked⟩ := hinv.phase_of hphase
      exact hinv.goto _ (by rw [hphase]; rfl) ⟨hunpacked.1, hunpacked⟩
  | alreadyFlipped image curBoot hphase hmarker =>
      obtain ⟨rfl, hunpacked⟩ := hinv.phase_of hphase
      exact absurd hunpacked.1 hmarker
  | sedRoot image bootMarker catOk ok hphase =>
      exact hroot image bootMarker catOk ok rfl hphase
  | sedKernel image kernel ok hphase =>
      exact hkernel image kernel ok rfl hphase

/-- A box as it is delivered: the entries name the running system. -/
structure Delivered (raspi3 : Bool) (s : PiBox I) : Prop where
  root : s.rootEntry = s.running
  kernel : s.kernelEntry = kernelFile raspi3 true s.running
  names : ∃ image, s.Names image
  idle : s.phase = .idle

/-- A delivered box has the invariant. -/
theorem Delivered.boxInv
    (hinit : Delivered raspi3 s) :
    BoxInv mid s where
  bootable := fun _ => hinit.names
  phase := by
    rw [hinit.idle]
    trivial

/-- A partition is formatted beside the running one. -/
theorem BoxInv.formats
    (hinv : BoxInv mid s) :
    ∀ slot ∈ s.phase.formats, slot ≠ s.running := by
  intro slot hslot
  have hphase := hinv.phase
  cases h : s.phase <;> rw [h] at hslot hphase <;>
    simp only [UpdatePhase.formats, Option.mem_def, reduceCtorEq,
      Option.some.injEq] at hslot
  case formatting image curBoot =>
    obtain ⟨rfl, -⟩ := hphase
    subst hslot
    exact Slot.other_ne _

/-- A run that returns 0 has its image named. -/
theorem BoxInv.success
    (hinv : BoxInv mid s)
    {image : I}
    (hphase : s.phase = .returned image 0) :
    s.Names image := by
  have hkept := hinv.phase_of hphase
  exact hkept rfl

/-- Also between the two `sed` commands the entries name one image. -/
theorem BoxInv.names
    (hinv : BoxInv (fun s image _ => s.Names image) s) :
    ∃ image, s.Names image := by
  cases hbetween : s.phase.between with
  | false =>
      exact hinv.bootable hbetween
  | true =>
      cases hphase : s.phase <;> rw [hphase] at hbetween <;> cases hbetween
      exact ⟨_, hinv.phase_of hphase⟩

/-- The entries name the image of the run at every moment of
`WriteBootMarker`. -/
theorem boxInv_step_of_updateSound
    (hinv : BoxInv (fun s image _ => s.Names image) s)
    (hsound : UpdateSound raspi3 s event)
    (hstep : updateStep raspi3 s event = some t) :
    BoxInv (fun s image _ => s.Names image) t := by
  refine hinv.move hsound.1 (updateStep_move hstep) ?_ ?_ ?_
  · rintro rfl
    exact ⟨fun _ => hinv.names, trivial⟩
  · rintro image bootMarker catOk ok rfl hphase
    obtain ⟨rfl, hentry, hunpacked⟩ := hinv.phase_of hphase
    have himage : s.partition s.running = .complete image :=
      hsound.2 (image, s.running) (by rw [hphase]; rfl)
    obtain ⟨image', hroot, hkernel⟩ :=
      hinv.bootable (by rw [hphase]; rfl)
    rw [hentry, himage] at hroot
    obtain rfl := Stored.complete.inj hroot
    refine ⟨fun h => (by cases h), ?_, hkernel⟩
    cases ok with
    | false =>
        exact hentry ▸ himage
    | true =>
        exact hunpacked
  · rintro image kernel ok rfl hphase
    obtain ⟨hroot, hkernel⟩ := hinv.phase_of hphase
    have hnames : PiBox.Names
        { s with
          kernelEntry := if ok then kernel else s.kernelEntry
          phase := .returned image 0 } image := by
      refine ⟨hroot, ?_⟩
      cases ok with
      | false =>
          exact hkernel
      | true =>
          exact hsound.2 (image, kernel) (by rw [hphase]; rfl) rfl
    exact ⟨fun _ => ⟨image, hnames⟩, fun _ => hnames⟩

/-- In every run in which `mkfs` and `cp` do not write what the entries name
and `WriteBootMarker` is reached with the image that is running and with a
copied kernel, the box can be booted at every moment. -/
theorem updateSafe_run
    (raspi3 : Bool)
    {s t : PiBox I}
    (events : List (UpdateEvent I))
    (hinit : Delivered raspi3 s)
    (hsound : Meets (updateStep raspi3) (UpdateSound raspi3) s events)
    (hrun : run (updateStep raspi3) s events = some t) :
    UpdateSafe t := by
  have hinv : BoxInv (fun s image _ => s.Names image) t :=
    run_invariant_of_meets
      (fun _ _ _ hinv hcond hstep =>
        boxInv_step_of_updateSound hinv hcond hstep)
      hinit.boxInv hsound hrun
  exact ⟨hinv.names, hinv.formats, fun image hphase => hinv.success hphase⟩

end Safety

/-- A box that runs image 0 from the first partition. -/
def sampleBox : PiBox Nat where
  partition := fun slot => if slot = .one then .complete 0 else .empty
  kernel := fun file => if file = .zImage then .complete 0 else .empty
  rootEntry := .one
  kernelEntry := .zImage
  running := .one
  phase := .idle

theorem sampleBox_delivered :
    Delivered false sampleBox where
  root := rfl
  kernel := rfl
  names := ⟨0, rfl, rfl⟩
  idle := rfl

/-- The commands of an update in which nothing fails. -/
def updateCommands (image : Nat) : List (UpdateEvent Nat) :=
  [.start image, .readBootSystem true, .mkfs, .mkfsEnd true,
    .mountPartition true, .tar, .tarEnd true, .mountBoot true, .cp true,
    .cpEnd true, .flipBootMarker true, .mountDevice true, .readBootMarker true,
    .sedRoot true true, .sedKernel true]

/-- A power loss while the partition is formatted, a `tar` that fails, and an
update to the image that is running. -/
def sampleUpdates : List (UpdateEvent Nat) :=
  [.start 1, .readBootSystem true, .mkfs, .reboot,
    .start 1, .readBootSystem true, .mkfs, .mkfsEnd true, .mountPartition true,
    .tar, .tarEnd false] ++ updateCommands 0 ++ [.reboot]

/-- The box is safe after these. -/
theorem updateSafe_sampleUpdates :
    ∃ t, run (updateStep false) sampleBox sampleUpdates = some t ∧
      t.running = .two ∧ UpdateSafe t := by
  obtain ⟨t, hrun, hrunning⟩ :
      ∃ t, run (updateStep false) sampleBox sampleUpdates = some t ∧
        t.running = .two :=
    ⟨_, rfl, rfl⟩
  exact ⟨t, hrun, hrunning, updateSafe_run false sampleUpdates
    sampleBox_delivered (by decide) hrun⟩

/-- Two updates without a reboot between them. -/
def repeatedUpdates : List (UpdateEvent Nat) :=
  updateCommands 1 ++ [.start 2, .readBootSystem true, .mkfs]

/-- The second update formats the partition that the `root=` entry names. -/
theorem not_updateSafe_repeatedUpdates :
    ∃ t, run (updateStep false) sampleBox repeatedUpdates = some t ∧
      t.partition t.rootEntry = .partly ∧ ¬ UpdateSafe t := by
  obtain ⟨t, hrun, hpartly⟩ :
      ∃ t, run (updateStep false) sampleBox repeatedUpdates = some t ∧
        t.partition t.rootEntry = .partly :=
    ⟨_, rfl, rfl⟩
  refine ⟨t, hrun, hpartly, ?_⟩
  intro hsafe
  obtain ⟨image, hroot, -⟩ := hsafe.bootable
  rw [hpartly] at hroot
  cases hroot

section Flip

variable {I : Type}
variable {raspi3 : Bool}
variable {s t : PiBox I}
variable {event : UpdateEvent I}

/-- Between the two `sed` commands the new partition is named and the new
kernel is about to be. -/
theorem boxInv_step_of_flipSound
    (hinv : BoxInv (fun s image kernel =>
      s.partition s.rootEntry = .complete image ∧
        s.kernel kernel = .complete image) s)
    (hsound : WriteSound raspi3 s event ∧ FlipSound raspi3 s event)
    (hstep : updateStep raspi3 s event = some t) :
    BoxInv (fun s image kernel =>
      s.partition s.rootEntry = .complete image ∧
        s.kernel kernel = .complete image) t := by
  refine hinv.move hsound.1 (updateStep_move hstep) ?_ ?_ ?_
  · rintro rfl
    exact ⟨fun _ => hinv.bootable hsound.2, trivial⟩
  · rintro image bootMarker catOk ok rfl hphase
    obtain ⟨rfl, -, hunpacked⟩ := hinv.phase_of hphase
    obtain ⟨rfl, hcopied⟩ :=
      hsound.2 (image, s.running) (by rw [hphase]; rfl)
    exact ⟨fun h => (by cases h), hunpacked, hcopied⟩
  · rintro image kernel ok rfl hphase
    obtain ⟨hroot, hkernel⟩ := hinv.phase_of hphase
    obtain rfl : ok = true := hsound.2
    exact ⟨fun _ => ⟨image, hroot, hkernel⟩, fun _ => ⟨hroot, hkernel⟩⟩

/-- In every run in which `mkfs` and `cp` do not write what the entries name,
the kernel was copied before the entries change, and both change without a
reboot between, the box can be booted apart from that moment. -/
theorem updateSafeApart_run
    (raspi3 : Bool)
    {s t : PiBox I}
    (events : List (UpdateEvent I))
    (hinit : Delivered raspi3 s)
    (hsound : Meets (updateStep raspi3)
      (fun s event => WriteSound raspi3 s event ∧ FlipSound raspi3 s event)
      s events)
    (hrun : run (updateStep raspi3) s events = some t) :
    UpdateSafeApart t := by
  have hinv := run_invariant_of_meets
    (fun _ _ _ hinv hcond hstep => boxInv_step_of_flipSound hinv hcond hstep)
    hinit.boxInv hsound hrun
  exact ⟨hinv.bootable, hinv.formats, fun image hphase => hinv.success hphase⟩

end Flip

end Raspi
end BrBox
