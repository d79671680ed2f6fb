import BrBox.Lib.LabelledRun
import Mathlib.Logic.Function.Basic
import Mathlib.Tactic.Common

/-!
# Firmware update of the Raspberry Pi box

`raspi2-update` formats the root partition that is not running, unpacks an
image into it and copies its kernel to the boot partition; `raspi2-brdskmgr -f`
then changes the `root=` entry of `cmdline.txt` and the `kernel=` entry of
`config.txt`.

A run is cut into its commands, with their outcomes in the labels.  `mkfs`,
`tar` and `cp` have a beginning and an end; between the two, and after one that
fails, what they write is partial.  A reboot, or the end of a power loss, can
come at any moment and boots the partition of the `root=` entry.  The steps
before the first `brdskmgr -c` only look at the update file: a run starts with
an accepted image.
-/

namespace BrBox
namespace Raspi

open LabelledRun

/-- `brbox1` on `mmcblk0p2`, or `brbox2` on `mmcblk0p3`. -/
inductive Slot where
  | one
  | two
deriving DecidableEq, Repr

/-- The other system. -/
def Slot.other : Slot → Slot
  | .one => .two
  | .two => .one

@[simp] theorem Slot.other_ne
    (slot : Slot) :
    slot.other ≠ slot := by
  cases slot <;> decide

@[simp] theorem Slot.ne_other
    (slot : Slot) :
    slot ≠ slot.other := by
  cases slot <;> decide

/-- A partition or a kernel file: nothing, a part of an image, or all of one. -/
inductive Stored (I : Type) where
  | empty
  | partly
  | complete (image : I)
deriving DecidableEq, Repr

/-- The kernel files of the boot partition. -/
inductive KernelFile where
  | image
  | image2
  | zImage
  | zImage2
deriving DecidableEq, Repr

/-- `RP_KERNEL1` and `RP_KERNEL2` by the text of `BrBoxDevType.txt`; a `cat`
that fails leaves no text. -/
def kernelFile (raspi3 catOk : Bool) : Slot → KernelFile
  | .one => if raspi3 && catOk then .image else .zImage
  | .two => if raspi3 && catOk then .image2 else .zImage2

/-- How far a run of `raspi2-update` has come. -/
inductive UpdatePhase (I : Type) where
  | idle
  | accepted (image : I)
  | chosen (image : I) (curBoot : Slot)
  | formatting (image : I) (curBoot : Slot)
  | formatted (image : I) (curBoot : Slot)
  | mounted (image : I) (curBoot : Slot)
  | unpacking (image : I) (curBoot : Slot)
  | unpacked (image : I) (curBoot : Slot)
  | bootMounted (image : I) (curBoot : Slot)
  | copying (image : I) (dest : KernelFile)
  | copied (image : I)
  | flipping (image : I) (curBoot : Slot)
  | flipMounted (image : I) (curBoot : Slot)
  | marked (image : I) (bootMarker : Slot)
  | rootWritten (image : I) (kernel : KernelFile)
  | returned (image : I) (status : Nat)
deriving DecidableEq, Repr

/-- The disk, the running system and the update script. -/
structure PiBox (I : Type) where
  partition : Slot → Stored I
  kernel : KernelFile → Stored I
  rootEntry : Slot
  kernelEntry : KernelFile
  running : Slot
  phase : UpdatePhase I

/-- The commands of a run, and a reboot. -/
inductive UpdateEvent (I : Type) where
  | reboot
  | start (image : I)
  | readBootSystem (ok : Bool)
  | mkfs
  | mkfsRefused
  | mkfsEnd (ok : Bool)
  | mountPartition (ok : Bool)
  | tar
  | tarRefused
  | tarEnd (ok : Bool)
  | mountBoot (ok : Bool)
  | cp (catOk : Bool)
  | cpRefused
  | cpEnd (ok : Bool)
  | flipBootMarker (ok : Bool)
  | mountDevice (ok : Bool)
  | readBootMarker (ok : Bool)
  | sedRoot (catOk ok : Bool)
  | sedKernel (ok : Bool)
deriving DecidableEq, Repr

section Step

variable {I : Type}

/-- A partition gets a new content. -/
def PiBox.setPartition (s : PiBox I) (slot : Slot) (content : Stored I) :
    PiBox I :=
  { s with partition := Function.update s.partition slot content }

/-- A kernel file gets a new content. -/
def PiBox.setKernel (s : PiBox I) (file : KernelFile) (content : Stored I) :
    PiBox I :=
  { s with kernel := Function.update s.kernel file content }

/-- The script goes on. -/
def PiBox.goto (s : PiBox I) (phase : UpdatePhase I) : PiBox I :=
  { s with phase := phase }

/-- The script goes on, or it returns 1. -/
def PiBox.gotoIf (s : PiBox I) (ok : Bool) (phase : UpdatePhase I) (image : I) :
    PiBox I :=
  if ok then s.goto phase else s.goto (.returned image 1)

/-- One command, or a reboot. -/
def updateStep (raspi3 : Bool) (s : PiBox I) :
    UpdateEvent I → Option (PiBox I)
  | .reboot => some { s with running := s.rootEntry, phase := .idle }
  | .start image =>
      match s.phase with
      | .idle => some (s.goto (.accepted image))
      | .returned _ _ => some (s.goto (.accepted image))
      | _ => none
  | .readBootSystem ok =>
      match s.phase with
      | .accepted image => some (s.gotoIf ok (.chosen image s.running) image)
      | _ => none
  | .mkfs =>
      match s.phase with
      | .chosen image curBoot =>
          some ((s.setPartition curBoot.other .partly).goto
            (.formatting image curBoot))
      | _ => none
  | .mkfsRefused =>
      match s.phase with
      | .chosen image _ => some (s.goto (.returned image 1))
      | _ => none
  | .mkfsEnd ok =>
      match s.phase with
      | .formatting image curBoot =>
          if ok then
            some ((s.setPartition curBoot.other .empty).goto
              (.formatted image curBoot))
          else
            some (s.goto (.returned image 1))
      | _ => none
  | .mountPartition ok =>
      match s.phase with
      | .formatted image curBoot =>
          some (s.gotoIf ok (.mounted image curBoot) image)
      | _ => none
  | .tar =>
      match s.phase with
      | .mounted image curBoot =>
          some ((s.setPartition curBoot.other .partly).goto
            (.unpacking image curBoot))
      | _ => none
  | .tarRefused =>
      match s.phase with
      | .mounted image _ => some (s.goto (.returned image 1))
      | _ => none
  | .tarEnd ok =>
      match s.phase with
      | .unpacking image curBoot =>
          if ok then
            some ((s.setPartition curBoot.other (.complete image)).goto
              (.unpacked image curBoot))
          else
            some (s.goto (.returned image 1))
      | _ => none
  | .mountBoot ok =>
      match s.phase with
      | .unpacked image curBoot =>
          some (s.gotoIf ok (.bootMounted image curBoot) image)
      | _ => none
  | .cp catOk =>
      match s.phase with
      | .bootMounted image curBoot =>
          some ((s.setKernel (kernelFile raspi3 catOk curBoot.other)
            .partly).goto
              (.copying image (kernelFile raspi3 catOk curBoot.other)))
      | _ => none
  | .cpRefused =>
      match s.phase with
      | .bootMounted image _ => some (s.goto (.copied image))
      | _ => none
  | .cpEnd ok =>
      match s.phase with
      | .copying image dest =>
          if ok then
            some ((s.setKernel dest (.complete image)).goto (.copied image))
          else
            some (s.goto (.copied image))
      | _ => none
  | .flipBootMarker ok =>
      match s.phase with
      | .copied image => some (s.gotoIf ok (.flipping image s.running) image)
      | _ => none
  | .mountDevice ok =>
      match s.phase with
      | .flipping image curBoot =>
          some (s.gotoIf ok (.flipMounted image curBoot) image)
      | _ => none
  | .readBootMarker ok =>
      match s.phase with
      | .flipMounted image curBoot =>
          if ok then
            if s.rootEntry = curBoot then
              some (s.goto (.marked image s.rootEntry))
            else
              some (s.goto (.returned image 0))
          else
            some (s.goto (.returned image 1))
      | _ => none
  | .sedRoot catOk ok =>
      match s.phase with
      | .marked image bootMarker =>
          let t := s.goto
            (.rootWritten image (kernelFile raspi3 catOk bootMarker.other))
          if ok then
            some { t with rootEntry := bootMarker.other }
          else
            some t
      | _ => none
  | .sedKernel ok =>
      match s.phase with
      | .rootWritten image kernel =>
          let t := s.goto (.returned image 0)
          if ok then
            some { t with kernelEntry := kernel }
          else
            some t
      | _ => none

/-- Between the two `sed` commands of `WriteBootMarker`. -/
def UpdatePhase.between : UpdatePhase I → Bool
  | .rootWritten _ _ => true
  | _ => false

/-- The ways the box goes on; every command that fails and is checked ends the
run with 1. -/
inductive UpdateMove (raspi3 : Bool) (s : PiBox I) :
    UpdateEvent I → PiBox I → Prop
  | reboot :
      UpdateMove raspi3 s .reboot
        { s with running := s.rootEntry, phase := .idle }
  | start (image : I)
      (hphase : s.phase.between = false) :
      UpdateMove raspi3 s (.start image) (s.goto (.accepted image))
  | fail (event : UpdateEvent I) (image : I)
      (hphase : s.phase.between = false) :
      UpdateMove raspi3 s event (s.goto (.returned image 1))
  | choose (image : I)
      (hphase : s.phase = .accepted image) :
      UpdateMove raspi3 s (.readBootSystem true)
        (s.goto (.chosen image s.running))
  | mkfs (image : I) (curBoot : Slot)
      (hphase : s.phase = .chosen image curBoot) :
      UpdateMove raspi3 s .mkfs
        ((s.setPartition curBoot.other .partly).goto
          (.formatting image curBoot))
  | mkfsEnd (image : I) (curBoot : Slot)
      (hphase : s.phase = .formatting image curBoot) :
      UpdateMove raspi3 s (.mkfsEnd true)
        ((s.setPartition curBoot.other .empty).goto
          (.formatted image curBoot))
  | mountPartition (image : I) (curBoot : Slot)
      (hphase : s.phase = .formatted image curBoot) :
      UpdateMove raspi3 s (.mountPartition true)
        (s.goto (.mounted image curBoot))
  | tar (image : I) (curBoot : Slot)
      (hphase : s.phase = .mounted image curBoot) :
      UpdateMove raspi3 s .tar
        ((s.setPartition curBoot.other .partly).goto
          (.unpacking image curBoot))
  | tarEnd (image : I) (curBoot : Slot)
      (hphase : s.phase = .unpacking image curBoot) :
      UpdateMove raspi3 s (.tarEnd true)
        ((s.setPartition curBoot.other (.complete image)).goto
          (.unpacked image curBoot))
  | mountBoot (image : I) (curBoot : Slot)
      (hphase : s.phase = .unpacked image curBoot) :
      UpdateMove raspi3 s (.mountBoot true)
        (s.goto (.bootMounted image curBoot))
  | cp (image : I) (curBoot : Slot) (catOk : Bool)
      (hphase : s.phase = .bootMounted image curBoot) :
      UpdateMove raspi3 s (.cp catOk)
        ((s.setKernel (kernelFile raspi3 catOk curBoot.other) .partly).goto
          (.copying image (kernelFile raspi3 catOk curBoot.other)))
  | cpRefused (image : I) (curBoot : Slot)
      (hphase : s.phase = .bootMounted image curBoot) :
      UpdateMove raspi3 s .cpRefused (s.goto (.copied image))
  | cpEnd (image : I) (dest : KernelFile)
      (hphase : s.phase = .copying image dest) :
      UpdateMove raspi3 s (.cpEnd true)
        ((s.setKernel dest (.complete image)).goto (.copied image))
  | cpFail (image : I) (dest : KernelFile)
      (hphase : s.phase = .copying image dest) :
      UpdateMove raspi3 s (.cpEnd false) (s.goto (.copied image))
  | flipBootMarker (image : I)
      (hphase : s.phase = .copied image) :
      UpdateMove raspi3 s (.flipBootMarker true)
        (s.goto (.flipping image s.running))
  | mountDevice (image : I) (curBoot : Slot)
      (hphase : s.phase = .flipping image curBoot) :
      UpdateMove raspi3 s (.mountDevice true)
        (s.goto (.flipMounted image curBoot))
  | readBootMarker (image : I) (curBoot : Slot)
      (hphase : s.phase = .flipMounted image curBoot)
      (hmarker : s.rootEntry = curBoot) :
      UpdateMove raspi3 s (.readBootMarker true)
        (s.goto (.marked image s.rootEntry))
  | alreadyFlipped (image : I) (curBoot : Slot)
      (hphase : s.phase = .flipMounted image curBoot)
      (hmarker : s.rootEntry ≠ curBoot) :
      UpdateMove raspi3 s (.readBootMarker true) (s.goto (.returned image 0))
  | sedRoot (image : I) (bootMarker : Slot) (catOk ok : Bool)
      (hphase : s.phase = .marked image bootMarker) :
      UpdateMove raspi3 s (.sedRoot catOk ok)
        { s with
          rootEntry := if ok then bootMarker.other else s.rootEntry
          phase :=
            .rootWritten image (kernelFile raspi3 catOk bootMarker.other) }
  | sedKernel (image : I) (kernel : KernelFile) (ok : Bool)
      (hphase : s.phase = .rootWritten image kernel) :
      UpdateMove raspi3 s (.sedKernel ok)
        { s with
          kernelEntry := if ok then kernel else s.kernelEntry
          phase := .returned image 0 }

/-- A checked command goes on or fails. -/
theorem UpdateMove.gotoIf
    {raspi3 : Bool} {s t : PiBox I} {event : UpdateEvent I}
    {ok : Bool} {phase : UpdatePhase I} {image : I}
    (hstep : some (s.gotoIf ok phase image) = some t)
    (hphase : s.phase.between = false)
    (hok : ok = true → UpdateMove raspi3 s event (s.goto phase)) :
    UpdateMove raspi3 s event t := by
  obtain rfl := Option.some.inj hstep
  cases ok with
  | false =>
      exact .fail event image hphase
  | true =>
      exact hok rfl

/-- The slot that runs is looked up. -/
theorem updateStep_readBootSystem
    {raspi3 : Bool} {s t : PiBox I} {ok : Bool}
    (hstep : updateStep raspi3 s (.readBootSystem ok) = some t) :
    UpdateMove raspi3 s (.readBootSystem ok) t := by
  dsimp only [updateStep] at hstep
  split at hstep
  case h_1 image hphase =>
    refine .gotoIf hstep (by rw [hphase]; rfl) ?_
    rintro rfl
    exact .choose image hphase
  case h_2 =>
    cases hstep

/-- The file system of the other slot is there, or not. -/
theorem updateStep_mkfsEnd
    {raspi3 : Bool} {s t : PiBox I} {ok : Bool}
    (hstep : updateStep raspi3 s (.mkfsEnd ok) = some t) :
    UpdateMove raspi3 s (.mkfsEnd ok) t := by
  dsimp only [updateStep] at hstep
  split at hstep
  case h_1 image curBoot hphase =>
    cases ok with
    | false =>
        obtain rfl := Option.some.inj hstep
        exact .fail _ image (by rw [hphase]; rfl)
    | true =>
        obtain rfl := Option.some.inj hstep
        exact .mkfsEnd image curBoot hphase
  case h_2 =>
    cases hstep

/-- The other slot is mounted. -/
theorem updateStep_mountPartition
    {raspi3 : Bool} {s t : PiBox I} {ok : Bool}
    (hstep : updateStep raspi3 s (.mountPartition ok) = some t) :
    UpdateMove raspi3 s (.mountPartition ok) t := by
  dsimp only [updateStep] at hstep
  split at hstep
  case h_1 image curBoot hphase =>
    refine .gotoIf hstep (by rw [hphase]; rfl) ?_
    rintro rfl
    exact .mountPartition image curBoot hphase
  case h_2 =>
    cases hstep

/-- The image is unpacked, or not. -/
theorem updateStep_tarEnd
    {raspi3 : Bool} {s t : PiBox I} {ok : Bool}
    (hstep : updateStep raspi3 s (.tarEnd ok) = some t) :
    UpdateMove raspi3 s (.tarEnd ok) t := by
  dsimp only [updateStep] at hstep
  split at hstep
  case h_1 image curBoot hphase =>
    cases ok with
    | false =>
        obtain rfl := Option.some.inj hstep
        exact .fail _ image (by rw [hphase]; rfl)
    | true =>
        obtain rfl := Option.some.inj hstep
        exact .tarEnd image curBoot hphase
  case h_2 =>
    cases hstep

/-- The boot partition is mounted. -/
theorem updateStep_mountBoot
    {raspi3 : Bool} {s t : PiBox I} {ok : Bool}
    (hstep : updateStep raspi3 s (.mountBoot ok) = some t) :
    UpdateMove raspi3 s (.mountBoot ok) t := by
  dsimp only [updateStep] at hstep
  split at hstep
  case h_1 image curBoot hphase =>
    refine .gotoIf hstep (by rw [hphase]; rfl) ?_
    rintro rfl
    exact .mountBoot image curBoot hphase
  case h_2 =>
    cases hstep

/-- The kernel is copied; a failure is not noticed. -/
theorem updateStep_cpEnd
    {raspi3 : Bool} {s t : PiBox I} {ok : Bool}
    (hstep : updateStep raspi3 s (.cpEnd ok) = some t) :
    UpdateMove raspi3 s (.cpEnd ok) t := by
  dsimp only [updateStep] at hstep
  split at hstep
  case h_1 image dest hphase =>
    cases ok with
    | false =>
        obtain rfl := Option.some.inj hstep
        exact .cpFail image dest hphase
    | true =>
        obtain rfl := Option.some.inj hstep
        exact .cpEnd image dest hphase
  case h_2 =>
    cases hstep

/-- The script that flips the marker is called. -/
theorem updateStep_flipBootMarker
    {raspi3 : Bool} {s t : PiBox I} {ok : Bool}
    (hstep : updateStep raspi3 s (.flipBootMarker ok) = some t) :
    UpdateMove raspi3 s (.flipBootMarker ok) t := by
  dsimp only [updateStep] at hstep
  split at hstep
  case h_1 image hphase =>
    refine .gotoIf hstep (by rw [hphase]; rfl) ?_
    rintro rfl
    exact .flipBootMarker image hphase
  case h_2 =>
    cases hstep

/-- That script mounts the boot partition. -/
theorem updateStep_mountDevice
    {raspi3 : Bool} {s t : PiBox I} {ok : Bool}
    (hstep : updateStep raspi3 s (.mountDevice ok) = some t) :
    UpdateMove raspi3 s (.mountDevice ok) t := by
  dsimp only [updateStep] at hstep
  split at hstep
  case h_1 image curBoot hphase =>
    refine .gotoIf hstep (by rw [hphase]; rfl) ?_
    rintro rfl
    exact .mountDevice image curBoot hphase
  case h_2 =>
    cases hstep

/-- It goes on only if the marker still names the slot that runs. -/
theorem updateStep_readBootMarker
    {raspi3 : Bool} {s t : PiBox I} {ok : Bool}
    (hstep : updateStep raspi3 s (.readBootMarker ok) = some t) :
    UpdateMove raspi3 s (.readBootMarker ok) t := by
  dsimp only [updateStep] at hstep
  split at hstep
  case h_1 image curBoot hphase =>
    cases ok with
    | false =>
        obtain rfl := Option.some.inj hstep
        exact .fail _ image (by rw [hphase]; rfl)
    | true =>
        by_cases hmarker : s.rootEntry = curBoot
        · rw [if_pos rfl, if_pos hmarker] at hstep
          obtain rfl := Option.some.inj hstep
          exact .readBootMarker image curBoot hphase hmarker
        · rw [if_pos rfl, if_neg hmarker] at hstep
          obtain rfl := Option.some.inj hstep
          exact .alreadyFlipped image curBoot hphase hmarker
  case h_2 =>
    cases hstep

/-- The marker is written. -/
theorem updateStep_sedRoot
    {raspi3 : Bool} {s t : PiBox I} {catOk ok : Bool}
    (hstep : updateStep raspi3 s (.sedRoot catOk ok) = some t) :
    UpdateMove raspi3 s (.sedRoot catOk ok) t := by
  dsimp only [updateStep] at hstep
  split at hstep
  case h_1 image bootMarker hphase =>
    have hmove : UpdateMove raspi3 s (.sedRoot catOk ok) _ :=
      .sedRoot image bootMarker catOk ok hphase
    cases ok <;> exact Option.some.inj hstep ▸ hmove
  case h_2 =>
    cases hstep

/-- The name of the kernel is written. -/
theorem updateStep_sedKernel
    {raspi3 : Bool} {s t : PiBox I} {ok : Bool}
    (hstep : updateStep raspi3 s (.sedKernel ok) = some t) :
    UpdateMove raspi3 s (.sedKernel ok) t := by
  dsimp only [updateStep] at hstep
  split at hstep
  case h_1 image kernel hphase =>
    have hmove : UpdateMove raspi3 s (.sedKernel ok) _ :=
      .sedKernel image kernel ok hphase
    cases ok <;> exact Option.some.inj hstep ▸ hmove
  case h_2 =>
    cases hstep

/-- Every step is one of the moves. -/
theorem updateStep_move
    {raspi3 : Bool} {s t : PiBox I} {event : UpdateEvent I}
    (hstep : updateStep raspi3 s event = some t) :
    UpdateMove raspi3 s event t := by
  cases event with
  | reboot =>
      obtain rfl := Option.some.inj hstep
      exact .reboot
  | start image =>
      dsimp only [updateStep] at hstep
      split at hstep
      case h_1 hphase | h_2 hphase =>
        obtain rfl := Option.some.inj hstep
        exact .start image (by rw [hphase]; rfl)
      case h_3 =>
        cases hstep
  | readBootSystem ok =>
      exact updateStep_readBootSystem hstep
  | mkfs =>
      dsimp only [updateStep] at hstep
      split at hstep
      case h_1 image curBoot hphase =>
        obtain rfl := Option.some.inj hstep
        exact .mkfs image curBoot hphase
      case h_2 =>
        cases hstep
  | mkfsRefused =>
      dsimp only [updateStep] at hstep
      split at hstep
      case h_1 image curBoot hphase =>
        obtain rfl := Option.some.inj hstep
        exact .fail _ image (by rw [hphase]; rfl)
      case h_2 =>
        cases hstep
  | mkfsEnd ok =>
      exact updateStep_mkfsEnd hstep
  | mountPartition ok =>
      exact updateStep_mountPartition hstep
  | tar =>
      dsimp only [updateStep] at hstep
      split at hstep
      case h_1 image curBoot hphase =>
        obtain rfl := Option.some.inj hstep
        exact .tar image curBoot hphase
      case h_2 =>
        cases hstep
  | tarRefused =>
      dsimp only [updateStep] at hstep
      split at hstep
      case h_1 image curBoot hphase =>
        obtain rfl := Option.some.inj hstep
        exact .fail _ image (by rw [hphase]; rfl)
      case h_2 =>
        cases hstep
  | tarEnd ok =>
      exact updateStep_tarEnd hstep
  | mountBoot ok =>
      exact updateStep_mountBoot hstep
  | cp catOk =>
      dsimp only [updateStep] at hstep
      split at hstep
      case h_1 image curBoot hphase =>
        obtain rfl := Option.some.inj hstep
        exact .cp image curBoot catOk hphase
      case h_2 =>
        cases hstep
  | cpRefused =>
      dsimp only [updateStep] at hstep
      split at hstep
      case h_1 image curBoot hphase =>
        obtain rfl := Option.some.inj hstep
        exact .cpRefused image curBoot hphase
      case h_2 =>
        cases hstep
  | cpEnd ok =>
      exact updateStep_cpEnd hstep
  | flipBootMarker ok =>
      exact updateStep_flipBootMarker hstep
  | mountDevice ok =>
      exact updateStep_mountDevice hstep
  | readBootMarker ok =>
      exact updateStep_readBootMarker hstep
  | sedRoot catOk ok =>
      exact updateStep_sedRoot hstep
  | sedKernel ok =>
      exact updateStep_sedKernel hstep

end Step

end Raspi
end BrBox
