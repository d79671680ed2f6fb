import Mathlib.Algebra.Order.Field.Rat
import Mathlib.Tactic.NormNum
import Mathlib.Data.List.Basic
import BrBox.Adav.TaskWorker
import BrBox.Lib.RunningMax

/-!
# The search for the identify pattern

A picture is searched at growing thresholds until there are few contours.  Of their
bounding boxes one with the ratio of the outer frame is taken, by a running update
that starts at the index of the first box; then a box of the right size relative to
it is looked for.

* `scanLoop_spec`: the threshold at which the scan ends.
* `largest_maximal`: the box that is taken, if there is one with the ratio.
* `patternFound_iff`: when both steps are right.
-/

namespace BrBox
namespace Smarteye

open Adav
open RunningMax

/-- A bounding box, `Rect`. -/
structure Box where
  width : Nat
  height : Nat
  width_pos : 0 < width
  height_pos : 0 < height

/-- `MIN_WIDTH_THRESHOLD`. -/
def minWidthThreshold : Nat := 100

/-- `MAX_SQARES_FILTER`. -/
def maxSqaresFilter : Nat := 10

/-- `MIN_SCAN_THRESHOLD`. -/
def minScanThreshold : Nat := 100

/-- `WHratio`. -/
def Box.whRatio (box : Box) : ℚ :=
  box.width / box.height

/-- The ratio of the box is within the bounds. -/
def Box.InRange (ratioLow ratioHigh : ℚ) (box : Box) : Prop :=
  ratioLow ≤ box.whRatio ∧ box.whRatio ≤ ratioHigh

instance (ratioLow ratioHigh : ℚ) : DecidablePred (Box.InRange ratioLow ratioHigh) :=
  fun box =>
    inferInstanceAs (Decidable (ratioLow ≤ box.whRatio ∧ box.whRatio ≤ ratioHigh))

/-- `max_width`, `max_height` and `max_square_idx`. -/
structure Largest where
  maxWidth : Nat
  maxHeight : Nat
  maxSquareIdx : Nat

/-- One round of the loop of `find_largest_square`. -/
def largestStep (ratioLow ratioHigh : ℚ) (best : Largest) (entry : Box × Nat) : Largest :=
  if best.maxWidth ≤ entry.1.width ∧ best.maxHeight ≤ entry.1.height ∧
      ratioLow ≤ entry.1.whRatio ∧ entry.1.whRatio ≤ ratioHigh then
    { maxWidth := entry.1.width
      maxHeight := entry.1.height
      maxSquareIdx := entry.2 }
  else
    best

/-- The loop of `find_largest_square`. -/
def largestLoop (squares : List Box) (ratioLow ratioHigh : ℚ) : Largest :=
  squares.zipIdx.foldl (largestStep ratioLow ratioHigh)
    { maxWidth := 0, maxHeight := 0, maxSquareIdx := 0 }

/-- `find_largest_square`: the box with the result 0, none with -1. -/
def findLargestSquare (squares : List Box) (ratioLow ratioHigh : ℚ) : Option Box :=
  match squares with
  | [] => none
  | _ => squares[(largestLoop squares ratioLow ratioHigh).maxSquareIdx]?

/-- The box has the size that is looked for relative to `biggest`. -/
def Box.Relative (biggest : Box) (scaleW scaleH tolerence : ℚ) (box : Box) : Prop :=
  minWidthThreshold ≤ box.width ∧
    (scaleW - tolerence ≤ (biggest.width : ℚ) / box.width ∧
      (biggest.width : ℚ) / box.width ≤ scaleW + tolerence) ∧
    scaleH - tolerence ≤ (biggest.height : ℚ) / box.height ∧
      (biggest.height : ℚ) / box.height ≤ scaleH + tolerence

instance (biggest : Box) (scaleW scaleH tolerence : ℚ) :
    DecidablePred (biggest.Relative scaleW scaleH tolerence) :=
  fun box =>
    inferInstanceAs
      (Decidable
        (minWidthThreshold ≤ box.width ∧
          (scaleW - tolerence ≤ (biggest.width : ℚ) / box.width ∧
            (biggest.width : ℚ) / box.width ≤ scaleW + tolerence) ∧
          scaleH - tolerence ≤ (biggest.height : ℚ) / box.height ∧
            (biggest.height : ℚ) / box.height ≤ scaleH + tolerence))

/-- `find_relative_square_new`: the first such box. -/
def findRelativeSquareNew
    (squares : List Box)
    (biggest : Box)
    (scaleW scaleH tolerence : ℚ) :
    Option Box :=
  squares.find? fun box => biggest.Relative scaleW scaleH tolerence box

/-- The scan at growing thresholds, with `left` of four repetitions left. -/
def scanLoop (applyThreshold : Nat → List Box) : (left scanThresh : Nat) → List Box
  | 0, scanThresh => applyThreshold scanThresh
  | left + 1, scanThresh =>
      if maxSqaresFilter < (applyThreshold scanThresh).length then
        scanLoop applyThreshold left (scanThresh + 20)
      else
        applyThreshold scanThresh

/-- The contours that `identify_image_box` searches. -/
def scannedContours (applyThreshold : Nat → List Box) : List Box :=
  scanLoop applyThreshold 4 minScanThreshold

/-- `find_largest_square` with the bounds of the outer frame. -/
def outerSquare (contours : List Box) : Option Box :=
  findLargestSquare contours (3 / 2) (9 / 5)

/-- The box inside the frame, relative to it. -/
def Box.InnerOf (biggest box : Box) : Prop :=
  biggest.Relative (63 / 20) (13 / 4) (4 / 5) box

instance (biggest : Box) : DecidablePred biggest.InnerOf :=
  fun box => inferInstanceAs (Decidable (biggest.Relative (63 / 20) (13 / 4) (4 / 5) box))

/--
`identify_image_box`; the camera gives a picture, whose contours at each threshold
are those of the library, or an error.  The result of `find_largest_square` is not
looked at, and without a contour `find_relative_square_new` returns -1 as well.
-/
def identifyImageBox (camera : Except RpcSrvResult (Nat → List Box)) : RpcSrvResult :=
  match camera with
  | .error res => res
  | .ok applyThreshold =>
      let contours := scannedContours applyThreshold
      match outerSquare contours with
      | none => .fail
      | some biggest =>
          if (findRelativeSquareNew contours biggest (63 / 20) (13 / 4) (4 / 5)).isSome then
            .success
          else
            .fail

/-! ## The largest box -/

/-- At least as large in both dimensions, and larger in one. -/
def Box.Larger (a b : Box) : Prop :=
  b.width ≤ a.width ∧ b.height ≤ a.height ∧ (b.width < a.width ∨ b.height < a.height)

/-- Width and height, ordered in both dimensions at once. -/
def Box.size (box : Box) : Nat × Nat :=
  (box.width, box.height)

theorem size_lt_iff
    (a b : Box) :
    b.size < a.size ↔ a.Larger b := by
  simp only [Box.size, Box.Larger, Prod.mk_lt_mk]
  omega

/-- Success is reported only with a box of the ratio that no other one exceeds. -/
def LargestRight (squares : List Box) (ratioLow ratioHigh : ℚ) : Prop :=
  ∀ box, findLargestSquare squares ratioLow ratioHigh = some box →
    box ∈ squares ∧ box.InRange ratioLow ratioHigh ∧
      ∀ other ∈ squares, other.InRange ratioLow ratioHigh → ¬other.Larger box

/-- The loop is a running maximum of the sizes. -/
theorem largestLoop_eq
    (squares : List Box)
    (ratioLow ratioHigh : ℚ) :
    runningMax (fun entry : Box × Nat => entry.1.size)
        (fun entry => entry.1.InRange ratioLow ratioHigh) Prod.snd ((0, 0), 0)
        squares.zipIdx =
      (((largestLoop squares ratioLow ratioHigh).maxWidth,
          (largestLoop squares ratioLow ratioHigh).maxHeight),
        (largestLoop squares ratioLow ratioHigh).maxSquareIdx) := by
  unfold largestLoop runningMax
  generalize hentries : squares.zipIdx = entries
  have hloop :
      ∀ best : Largest,
        entries.foldl
            (update (fun entry : Box × Nat => entry.1.size)
              (fun entry => entry.1.InRange ratioLow ratioHigh) Prod.snd)
            ((best.maxWidth, best.maxHeight), best.maxSquareIdx) =
          let last := entries.foldl (largestStep ratioLow ratioHigh) best
          ((last.maxWidth, last.maxHeight), last.maxSquareIdx) := by
    clear hentries
    induction entries with
    | nil => exact fun best => rfl
    | cons entry entries ih =>
        intro best
        rw [List.foldl_cons, List.foldl_cons, ← ih]
        congr 1
        simp only [update, largestStep, Box.size, Box.InRange, Prod.mk_le_mk, and_assoc]
        split <;> rfl
  exact hloop { maxWidth := 0, maxHeight := 0, maxSquareIdx := 0 }

theorem findLargestSquare_nil
    (ratioLow ratioHigh : ℚ) :
    findLargestSquare [] ratioLow ratioHigh = none :=
  rfl

theorem findLargestSquare_cons
    (first : Box)
    (rest : List Box)
    (ratioLow ratioHigh : ℚ) :
    findLargestSquare (first :: rest) ratioLow ratioHigh =
      (first :: rest)[(largestLoop (first :: rest) ratioLow ratioHigh).maxSquareIdx]? :=
  rfl

theorem exists_mem_zipIdx
    {squares : List Box}
    {box : Box}
    (hmem : box ∈ squares) :
    ∃ i, (box, i) ∈ squares.zipIdx := by
  obtain ⟨i, hi⟩ := List.getElem?_of_mem hmem
  exact ⟨i, List.mem_zipIdx_iff_getElem?.mpr hi⟩

/-- With a box of the ratio, one is found that no other one exceeds. -/
theorem largest_maximal
    {squares : List Box}
    {ratioLow ratioHigh : ℚ}
    (hexists : ∃ box ∈ squares, box.InRange ratioLow ratioHigh) :
    ∃ box ∈ squares, findLargestSquare squares ratioLow ratioHigh = some box ∧
      box.InRange ratioLow ratioHigh ∧
        ∀ other ∈ squares, other.InRange ratioLow ratioHigh → ¬other.Larger box := by
  have hloop := largestLoop_eq squares ratioLow ratioHigh
  rcases runningMax_cases (fun entry : Box × Nat => entry.1.size)
      (fun entry => entry.1.InRange ratioLow ratioHigh) Prod.snd ((0, 0), 0)
      squares.zipIdx with
    ⟨entry, hentry, hrange, hlast⟩ | ⟨-, hnone⟩
  · have hget : squares[entry.2]? = some entry.1 := by
      simpa using List.mem_zipIdx_iff_getElem?.mp hentry
    have hmem : entry.1 ∈ squares := List.mem_of_getElem? hget
    refine ⟨entry.1, hmem, ?_, hrange, ?_⟩
    · have hidx : (largestLoop squares ratioLow ratioHigh).maxSquareIdx = entry.2 :=
        congrArg Prod.snd (hloop.symm.trans hlast)
      cases squares with
      | nil => cases hmem
      | cons first rest => rw [findLargestSquare_cons, hidx, hget]
    · intro other hother hin hlarger
      obtain ⟨i, hzip⟩ := exists_mem_zipIdx hother
      have hmaximal := runningMax_maximal (fun entry : Box × Nat => entry.1.size)
        (fun entry => entry.1.InRange ratioLow ratioHigh) Prod.snd ((0, 0), 0) hzip hin
      rw [hlast] at hmaximal
      exact hmaximal ((size_lt_iff other entry.1).mpr hlarger)
  · obtain ⟨box, hmem, hin⟩ := hexists
    obtain ⟨i, hzip⟩ := exists_mem_zipIdx hmem
    exact absurd (Prod.mk_le_mk.mpr ⟨Nat.zero_le _, Nat.zero_le _⟩) (hnone _ hzip hin)

/-- Without a box of the ratio the first one is taken. -/
theorem largest_first
    {first : Box}
    {rest : List Box}
    {ratioLow ratioHigh : ℚ}
    (hnone : ∀ box ∈ first :: rest, ¬box.InRange ratioLow ratioHigh) :
    findLargestSquare (first :: rest) ratioLow ratioHigh = some first := by
  have hloop := largestLoop_eq (first :: rest) ratioLow ratioHigh
  rcases runningMax_cases (fun entry : Box × Nat => entry.1.size)
      (fun entry => entry.1.InRange ratioLow ratioHigh) Prod.snd ((0, 0), 0)
      (first :: rest).zipIdx with
    ⟨entry, hentry, hrange, -⟩ | ⟨hlast, -⟩
  · have hget : (first :: rest)[entry.2]? = some entry.1 := by
      simpa using List.mem_zipIdx_iff_getElem?.mp hentry
    exact absurd hrange (hnone entry.1 (List.mem_of_getElem? hget))
  · have hidx : (largestLoop (first :: rest) ratioLow ratioHigh).maxSquareIdx = 0 :=
      congrArg Prod.snd (hloop.symm.trans hlast)
    rw [findLargestSquare_cons, hidx]
    rfl

theorem largestRight_iff
    (squares : List Box)
    (ratioLow ratioHigh : ℚ) :
    LargestRight squares ratioLow ratioHigh ↔
      squares = [] ∨ ∃ box ∈ squares, box.InRange ratioLow ratioHigh := by
  constructor
  · intro hright
    cases squares with
    | nil => exact .inl rfl
    | cons first rest =>
        refine .inr ?_
        by_contra hnone
        have hall : ∀ box ∈ first :: rest, ¬box.InRange ratioLow ratioHigh :=
          fun box hmem hin => hnone ⟨box, hmem, hin⟩
        have hfirst := hright first (largest_first hall)
        exact hall first hfirst.1 hfirst.2.1
  · rintro (rfl | hexists) box hbox
    · rw [findLargestSquare_nil] at hbox
      cases hbox
    · obtain ⟨found, hmem, hfound, hin, hmaximal⟩ := largest_maximal hexists
      obtain rfl := Option.some.inj (hfound.symm.trans hbox)
      exact ⟨hmem, hin, hmaximal⟩

/-! ## The scan -/

/-- The scan ends at one of five thresholds, with few contours or at the last one. -/
theorem scanLoop_spec
    (applyThreshold : Nat → List Box)
    (left scanThresh : Nat) :
    ∃ k ≤ left, scanLoop applyThreshold left scanThresh =
        applyThreshold (scanThresh + 20 * k) ∧
      (k = left ∨ (applyThreshold (scanThresh + 20 * k)).length ≤ maxSqaresFilter) ∧
      ∀ j < k, maxSqaresFilter < (applyThreshold (scanThresh + 20 * j)).length := by
  induction left generalizing scanThresh with
  | zero => exact ⟨0, Nat.le_refl 0, rfl, .inl rfl, by simp⟩
  | succ left ih =>
      by_cases hmany : maxSqaresFilter < (applyThreshold scanThresh).length
      · obtain ⟨k, hk, hscan, hend, hbefore⟩ := ih (scanThresh + 20)
        have hshift : ∀ j, scanThresh + 20 + 20 * j = scanThresh + 20 * (j + 1) := by
          intro j
          omega
        simp only [hshift] at hscan hend hbefore
        refine ⟨k + 1, by omega, ?_, ?_, ?_⟩
        · rw [scanLoop, if_pos hmany, hscan]
        · exact hend.imp (congrArg Nat.succ) id
        · intro j hj
          cases j with
          | zero => exact hmany
          | succ j => exact hbefore j (by omega)
      · refine ⟨0, by omega, ?_, .inr (by simpa using Nat.not_lt.mp hmany), by simp⟩
        rw [scanLoop, if_neg hmany]
        rfl

/-! ## The search -/

/--
The search succeeds exactly if a box of the outer ratio was taken and there is a box
of the right size relative to it.
-/
def SearchRight (applyThreshold : Nat → List Box) : Prop :=
  identifyImageBox (.ok applyThreshold) = .success ↔
    ∃ outer, outerSquare (scannedContours applyThreshold) = some outer ∧
      outer.InRange (3 / 2) (9 / 5) ∧
        ∃ box ∈ scannedContours applyThreshold, outer.InnerOf box

/-- The search as a statement about the box that was taken. -/
theorem identifyImageBox_success_iff
    (applyThreshold : Nat → List Box) :
    identifyImageBox (.ok applyThreshold) = .success ↔
      ∃ outer, outerSquare (scannedContours applyThreshold) = some outer ∧
        ∃ box ∈ scannedContours applyThreshold, outer.InnerOf box := by
  simp only [identifyImageBox]
  cases outerSquare (scannedContours applyThreshold) with
  | none => simp
  | some outer =>
      have hfound :
          (findRelativeSquareNew (scannedContours applyThreshold) outer
              (63 / 20) (13 / 4) (4 / 5)).isSome ↔
            ∃ box ∈ scannedContours applyThreshold, outer.InnerOf box := by
        simp [findRelativeSquareNew, Box.InnerOf]
      change
        (if
            (findRelativeSquareNew (scannedContours applyThreshold) outer
              (63 / 20) (13 / 4) (4 / 5)).isSome then
          RpcSrvResult.success
        else
          .fail) = .success ↔ _
      by_cases hsome :
          (findRelativeSquareNew (scannedContours applyThreshold) outer
            (63 / 20) (13 / 4) (4 / 5)).isSome
      · rw [if_pos hsome]
        exact iff_of_true rfl ⟨outer, rfl, hfound.mp hsome⟩
      · rw [if_neg hsome]
        refine iff_of_false (by simp) ?_
        rintro ⟨outer', houter, hinner⟩
        obtain rfl := Option.some.inj houter
        exact hsome (hfound.mpr hinner)

/-- No box has the size relative to the first one. -/
def NoneInFirst (contours : List Box) : Prop :=
  ∀ first ∈ contours.head?, ∀ box ∈ contours, ¬first.InnerOf box

theorem searchRight_iff
    (applyThreshold : Nat → List Box) :
    SearchRight applyThreshold ↔
      (∃ box ∈ scannedContours applyThreshold, box.InRange (3 / 2) (9 / 5)) ∨
        NoneInFirst (scannedContours applyThreshold) := by
  rw [SearchRight, identifyImageBox_success_iff]
  by_cases hexists : ∃ box ∈ scannedContours applyThreshold, box.InRange (3 / 2) (9 / 5)
  · refine iff_of_true ?_ (.inl hexists)
    obtain ⟨found, -, hfound, hin, -⟩ := largest_maximal hexists
    constructor
    · rintro ⟨outer, houter, hinner⟩
      obtain rfl := Option.some.inj (hfound.symm.trans houter)
      exact ⟨found, houter, hin, hinner⟩
    · rintro ⟨outer, houter, -, hinner⟩
      exact ⟨outer, houter, hinner⟩
  · have hall :
        ∀ box ∈ scannedContours applyThreshold, ¬box.InRange (3 / 2) (9 / 5) :=
      fun box hmem hin => hexists ⟨box, hmem, hin⟩
    rw [or_iff_right hexists, NoneInFirst, outerSquare]
    generalize scannedContours applyThreshold = contours at hall
    cases contours with
    | nil => simp [findLargestSquare_nil]
    | cons first rest =>
        have hfirst := largest_first hall
        constructor
        · rintro hright other hother box hmem hinner
          obtain rfl : first = other := Option.some.inj hother
          obtain ⟨outer, houter, hin, -⟩ := hright.mp ⟨first, hfirst, box, hmem, hinner⟩
          obtain rfl := Option.some.inj (hfirst.symm.trans houter)
          exact hall first List.mem_cons_self hin
        · intro hnone
          constructor
          · rintro ⟨outer, houter, box, hmem, hinner⟩
            obtain rfl := Option.some.inj (hfirst.symm.trans houter)
            exact absurd hinner (hnone first rfl box hmem)
          · rintro ⟨outer, houter, -, hinner⟩
            exact ⟨outer, houter, hinner⟩

/--
The largest box is right exactly if there is no box or one with the ratio; the search
is right exactly if there is one with the outer ratio, or it finds nothing relative to
the first box.
-/
theorem patternFound_iff
    (squares : List Box)
    (ratioLow ratioHigh : ℚ)
    (applyThreshold : Nat → List Box) :
    (LargestRight squares ratioLow ratioHigh ↔
        squares = [] ∨ ∃ box ∈ squares, box.InRange ratioLow ratioHigh) ∧
      (SearchRight applyThreshold ↔
        (∃ box ∈ scannedContours applyThreshold, box.InRange (3 / 2) (9 / 5)) ∨
          NoneInFirst (scannedContours applyThreshold)) :=
  ⟨largestRight_iff squares ratioLow ratioHigh, searchRight_iff applyThreshold⟩

theorem squareBox_pos : 0 < 300 := by
  decide

theorem smallBox_pos : 0 < 100 := by
  decide

/-- Two boxes that are nearly squares. -/
def nearlySquares : List Box :=
  [ { width := 300, height := 300, width_pos := squareBox_pos, height_pos := squareBox_pos },
    { width := 100, height := 100, width_pos := smallBox_pos, height_pos := smallBox_pos } ]

/-- No box has the outer ratio, but the pattern is found. -/
theorem not_patternFound_nearlySquares :
    ¬LargestRight nearlySquares (3 / 2) (9 / 5) ∧ ¬SearchRight fun _ => nearlySquares := by
  have hnone : ∀ box ∈ nearlySquares, ¬box.InRange (3 / 2) (9 / 5) := by
    decide +kernel
  have hscanned : scannedContours (fun _ => nearlySquares) = nearlySquares := rfl
  have hsuccess : identifyImageBox (.ok fun _ => nearlySquares) = .success := by
    decide +kernel
  constructor
  · intro hright
    have hfirst := hright _ (largest_first hnone)
    exact hnone _ hfirst.1 hfirst.2.1
  · intro hright
    obtain ⟨outer, houter, hin, -⟩ := hright.mp hsuccess
    rw [hscanned, outerSquare] at houter
    obtain rfl := Option.some.inj ((largest_first hnone).symm.trans houter)
    exact hnone _ List.mem_cons_self hin

end Smarteye
end BrBox
