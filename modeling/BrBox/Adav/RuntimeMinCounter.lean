import BrBox.Lib.CText

/-!
# The runtime counter

`ADRuntimeMinCounter` counts the minutes that a device runs.  Its heartbeat
samples the uptime every ten seconds; a sample that is a minute or more behind
the reference adds whole minutes and becomes the new reference, and the seconds
over are dropped.

* `timer_run`: the counter after any number of heartbeats.
* `countsUptime_iff`: the count is within a minute of the truth exactly while
  the seconds dropped so far are less than two minutes.
-/

namespace BrBox
namespace Adav

open CText

/-- `TEN_SECONDS`. -/
def tenSeconds : Int := 10000

/-- `ADRuntimeMinCounter`. -/
structure RuntimeMinCounter where
  counter : Nat
  counting : Bool
  heartbeatMsTime : Int
  currentUptimeSec : Nat
  lastUptimeSec : Nat
  tenSecCounter : Int
  /-- `pMyTimer` is not NULL. -/
  attached : Bool
deriving DecidableEq, Repr

namespace RuntimeMinCounter

/-- The constructor. -/
def new : RuntimeMinCounter where
  counter := 0
  counting := false
  heartbeatMsTime := 100
  currentUptimeSec := 0
  lastUptimeSec := 0
  tenSecCounter := 0
  attached := false

/-- `AttachHeartBeat`: only the first call counts. -/
def attachHeartBeat (s : RuntimeMinCounter) (timeMs : Int) : RuntimeMinCounter :=
  if s.attached then s else { s with attached := true, heartbeatMsTime := timeMs }

/-- `StartCounting`, when `/proc/uptime` reads `uptime`. -/
def startCounting (s : RuntimeMinCounter) (uptime : Nat) : Int × RuntimeMinCounter :=
  if s.attached then
    (0, { s with lastUptimeSec := uptime, counting := true })
  else
    (-1, s)

/-- Difference of two `unsigned long` of `bits` bits. -/
def ulongSub (bits a b : Nat) : Nat :=
  (a + 2 ^ bits - b) % 2 ^ bits

/-- `IncreaseMinuteCount`: the minutes are passed as an `int`. -/
def increaseMinuteCount
    (bits : Nat) (s : RuntimeMinCounter) (newVal : Int) : RuntimeMinCounter :=
  { s with counter := (((s.counter : Int) + newVal) % 2 ^ bits).toNat }

/-- `timer_notification` behind the ten-second gate. -/
def takeSample
    (bits : Nat) (s : RuntimeMinCounter) (uptime : Nat) : RuntimeMinCounter :=
  let s := { s with currentUptimeSec := uptime }
  if ulongSub bits s.currentUptimeSec s.lastUptimeSec < 60 then
    s
  else
    let diff := ulongSub bits s.currentUptimeSec s.lastUptimeSec / 60
    { increaseMinuteCount bits s (wrapInt32 diff) with
      lastUptimeSec := s.currentUptimeSec }

/-- `timer_notification`, when `/proc/uptime` would read `uptime`. -/
def timerNotification
    (bits : Nat) (s : RuntimeMinCounter) (uptime : Nat) : RuntimeMinCounter :=
  if s.counting = false then
    s
  else
    let ten := wrapInt32 (s.tenSecCounter + s.heartbeatMsTime)
    if ten < tenSeconds then
      { s with tenSecCounter := ten }
    else
      takeSample bits { s with tenSecCounter := 0 } uptime

/-- Heartbeats one after another. -/
def timerRun
    (bits : Nat) (s : RuntimeMinCounter) (uptimes : List Nat) : RuntimeMinCounter :=
  uptimes.foldl (timerNotification bits) s

end RuntimeMinCounter

open RuntimeMinCounter

/-- The uptimes that are sampled: those of the heartbeats that pass the gate. -/
def sampledUptimes (heartbeatMsTime : Int) : Int → List Nat → List Nat
  | _, [] => []
  | tenSecCounter, u :: us =>
      let ten := wrapInt32 (tenSecCounter + heartbeatMsTime)
      if ten < tenSeconds then
        sampledUptimes heartbeatMsTime ten us
      else
        u :: sampledUptimes heartbeatMsTime 0 us

/-- The reference after a list of samples. -/
def referenceAfter : Nat → List Nat → Nat
  | ref, [] => ref
  | ref, u :: us => referenceAfter (if u - ref < 60 then ref else u) us

/-- The whole minutes that the samples are behind their references. -/
def wholeMinutes : Nat → List Nat → Nat
  | _, [] => 0
  | ref, u :: us =>
      if u - ref < 60 then
        wholeMinutes ref us
      else
        (u - ref) / 60 + wholeMinutes u us

/-- The minutes that are added, each difference as an `int`. -/
def minutesAdded : Nat → List Nat → Int
  | _, [] => 0
  | ref, u :: us =>
      if u - ref < 60 then
        minutesAdded ref us
      else
        wrapInt32 (((u - ref) / 60 : Nat) : Int) + minutesAdded u us

/-- The seconds over that are dropped when a sample becomes the reference. -/
def droppedSeconds : Nat → List Nat → Nat
  | _, [] => 0
  | ref, u :: us =>
      if u - ref < 60 then
        droppedSeconds ref us
      else
        (u - ref) % 60 + droppedSeconds u us

/-- Every difference that is counted fits an `int`. -/
def MinutesFit : Nat → List Nat → Prop
  | _, [] => True
  | ref, u :: us =>
      if u - ref < 60 then
        MinutesFit ref us
      else
        (u - ref) / 60 < 2 ^ 31 ∧ MinutesFit u us

/-- The last sample, or the start if there is none. -/
def lastSample (start : Nat) (samples : List Nat) : Nat :=
  samples.getLastD start

/--
The counter has increased by at most the minutes elapsed from `start` to the
last sample, and by at least one minute less.
-/
def CountsUptime
    (bits : Nat) (s : RuntimeMinCounter) (start : Nat) (uptimes : List Nat) : Prop :=
  let samples := sampledUptimes s.heartbeatMsTime s.tenSecCounter uptimes
  let elapsed := lastSample start samples - start
  let t := timerRun bits (s.startCounting start).2 uptimes
  let increase : Int := ((t.counter : Int) - s.counter) % 2 ^ bits
  increase ≤ (elapsed / 60 : Nat) ∧ ((elapsed / 60 : Nat) : Int) - 1 ≤ increase

/--
The seconds dropped by counted samples and those since the reference are less
than two minutes, and no counted difference is too large for an `int`.
-/
def DriftSmall
    (s : RuntimeMinCounter) (start : Nat) (uptimes : List Nat) : Prop :=
  let samples := sampledUptimes s.heartbeatMsTime s.tenSecCounter uptimes
  MinutesFit start samples ∧
    droppedSeconds start samples +
      (lastSample start samples - referenceAfter start samples) < 120

/-- Without wrap-around the subtraction is exact. -/
theorem ulongSub_of_le
    {bits a b : Nat}
    (hle : b ≤ a)
    (ha : a < 2 ^ bits) :
    ulongSub bits a b = a - b := by
  rw [ulongSub, show a + 2 ^ bits - b = (a - b) + 2 ^ bits by omega,
    Nat.add_mod_right, Nat.mod_eq_of_lt (by omega)]

/-- Minutes, seconds over and seconds since the reference make up the time. -/
theorem wholeMinutes_add_dropped
    (samples : List Nat) :
    ∀ {start : Nat},
      (start :: samples).Pairwise (· ≤ ·) →
      60 * wholeMinutes start samples + droppedSeconds start samples +
          (lastSample start samples - referenceAfter start samples) =
        lastSample start samples - start ∧
      referenceAfter start samples ≤ lastSample start samples ∧
      start ≤ lastSample start samples := by
  induction samples with
  | nil =>
      intro start _
      simp [wholeMinutes, droppedSeconds, lastSample, referenceAfter]
  | cons u us ih =>
      intro start hmono
      obtain ⟨hstart, htail⟩ := List.pairwise_cons.mp hmono
      have hu : start ≤ u := hstart u (by simp)
      have hlast : ∀ r, lastSample r (u :: us) = lastSample u us := by
        intro r
        exact List.getLastD_cons ..
      obtain ⟨-, -, hulast⟩ := @ih u htail
      by_cases hless : u - start < 60
      · -- the sample is not counted, the reference stays
        have hskip : (start :: us).Pairwise (· ≤ ·) := by
          rw [List.pairwise_cons]
          exact ⟨fun v hv => hstart v (by simp [hv]), (List.pairwise_cons.mp htail).2⟩
        obtain ⟨hsum, href, hle⟩ := @ih start hskip
        cases us with
        | nil =>
            simp only [wholeMinutes, droppedSeconds, referenceAfter, if_pos hless,
              lastSample, List.getLastD]
            simp
            omega
        | cons v vs =>
            have hsame : lastSample u (v :: vs) = lastSample start (v :: vs) := by
              simp [lastSample, List.getLastD]
            rw [hlast, hsame]
            simp only [wholeMinutes, droppedSeconds, referenceAfter, if_pos hless] at *
            exact ⟨hsum, href, hle⟩
      · obtain ⟨hsum, href, hle⟩ := @ih u htail
        rw [hlast]
        simp only [wholeMinutes, droppedSeconds, referenceAfter, if_neg hless]
        omega

/-- A number of minutes as an `int`: itself, or too small by multiples of 2^32. -/
theorem wrapInt32_minutes
    (q : Nat) :
    -(q : Int) ≤ wrapInt32 q ∧
      (q < 2 ^ 31 → wrapInt32 q = q) ∧
      (¬ q < 2 ^ 31 → wrapInt32 q ≤ q - 2 ^ 32) := by
  have hrange := wrapInt32_range q
  have hmod := wrapInt32_emod q
  refine ⟨by omega, ?_, by omega⟩
  intro hq
  exact wrapInt32_of_range (by omega) (by omega)

/-- What is added is the whole minutes, unless a difference does not fit. -/
theorem minutesAdded_bounds
    (samples : List Nat) :
    ∀ start,
      -(wholeMinutes start samples : Int) ≤ minutesAdded start samples ∧
      (MinutesFit start samples →
        minutesAdded start samples = wholeMinutes start samples) ∧
      (¬ MinutesFit start samples →
        minutesAdded start samples ≤ wholeMinutes start samples - 2 ^ 32) ∧
      minutesAdded start samples ≤ wholeMinutes start samples := by
  induction samples with
  | nil =>
      intro start
      simp [wholeMinutes, minutesAdded, MinutesFit]
  | cons u us ih =>
      intro start
      by_cases hless : u - start < 60
      · simp only [wholeMinutes, minutesAdded, MinutesFit, if_pos hless]
        exact ih start
      · simp only [wholeMinutes, minutesAdded, MinutesFit, if_neg hless]
        obtain ⟨hlow, hfit, hnot, hhigh⟩ := ih u
        obtain ⟨hqlow, hqfit, hqnot⟩ := wrapInt32_minutes ((u - start) / 60)
        refine ⟨by omega, ?_, ?_, ?_⟩
        · rintro ⟨hq, hus⟩
          have h₁ := hqfit hq
          have h₂ := hfit hus
          omega
        · intro h
          by_cases hq : (u - start) / 60 < 2 ^ 31
          · have h₁ := hqfit hq
            have h₂ := hnot (fun hus => h ⟨hq, hus⟩)
            omega
          · have h₁ := hqnot hq
            omega
        · by_cases hq : (u - start) / 60 < 2 ^ 31
          · have h₁ := hqfit hq
            omega
          · have h₁ := hqnot hq
            omega

/-- The sampled uptimes are among those of the heartbeats, in their order. -/
theorem sampledUptimes_sublist
    (heartbeatMsTime : Int) (uptimes : List Nat) :
    ∀ ten, (sampledUptimes heartbeatMsTime ten uptimes).Sublist uptimes := by
  induction uptimes with
  | nil =>
      intro ten
      exact List.Sublist.refl _
  | cons u us ih =>
      intro ten
      rw [sampledUptimes]
      split
      · exact (ih _).cons u
      · exact (ih 0).cons_cons u

/-- One sample of the counter: nothing, or whole minutes and a new reference. -/
theorem takeSample_eq
    {bits : Nat} (s : RuntimeMinCounter) {u : Nat}
    (hle : s.lastUptimeSec ≤ u)
    (hu : u < 2 ^ bits) :
    takeSample bits s u =
      if u - s.lastUptimeSec < 60 then
        { s with currentUptimeSec := u }
      else
        { s with
          currentUptimeSec := u
          counter :=
            (((s.counter : Int) +
              wrapInt32 (((u - s.lastUptimeSec) / 60 : Nat) : Int)) %
                2 ^ bits).toNat
          lastUptimeSec := u } := by
  unfold takeSample
  simp only [ulongSub_of_le hle hu, increaseMinuteCount]

/-- What is stored of a sum does not matter for what is added to it later. -/
theorem stored_add
    (bits : Nat) (c : Nat) (x y : Int) :
    (((((c : Int) + x) % 2 ^ bits).toNat : Int) + y) % 2 ^ bits =
      ((c : Int) + (x + y)) % 2 ^ bits := by
  have hcast : ((2 ^ bits : Nat) : Int) = 2 ^ bits := by
    push_cast
    rfl
  have hpos := Nat.two_pow_pos bits
  have hne : (2 ^ bits : Int) ≠ 0 := by
    omega
  rw [Int.toNat_of_nonneg (Int.emod_nonneg _ hne), Int.emod_add_emod, Int.add_assoc]

/-- What has been counted, and what is added by the heartbeats still to come. -/
def RuntimeMinCounter.total (s : RuntimeMinCounter) (uptimes : List Nat) : Int :=
  (s.counter : Int) +
    minutesAdded s.lastUptimeSec
      (sampledUptimes s.heartbeatMsTime s.tenSecCounter uptimes)

/-- One heartbeat: the sum of both stays, modulo the size of the counter. -/
theorem timerNotification_total
    {bits : Nat} {s : RuntimeMinCounter} {u : Nat}
    (us : List Nat)
    (hcounting : s.counting = true)
    (hle : s.lastUptimeSec ≤ u)
    (hu : u < 2 ^ bits) :
    (timerNotification bits s u).counting = true ∧
      ((timerNotification bits s u).lastUptimeSec = s.lastUptimeSec ∨
        (timerNotification bits s u).lastUptimeSec = u) ∧
      (timerNotification bits s u).total us % 2 ^ bits = s.total (u :: us) % 2 ^ bits := by
  by_cases hgate : wrapInt32 (s.tenSecCounter + s.heartbeatMsTime) < tenSeconds
  · have hnext : timerNotification bits s u =
        { s with tenSecCounter :=
            wrapInt32 (s.tenSecCounter + s.heartbeatMsTime) } := by
      simp [timerNotification, hcounting, hgate]
    rw [hnext]
    refine ⟨hcounting, Or.inl rfl, ?_⟩
    simp only [RuntimeMinCounter.total, sampledUptimes, if_pos hgate]
  · have hnext : timerNotification bits s u =
        takeSample bits { s with tenSecCounter := 0 } u := by
      simp [timerNotification, hcounting, hgate]
    have htake := takeSample_eq { s with tenSecCounter := 0 } hle hu
    dsimp only at htake
    rw [hnext, htake]
    by_cases hless : u - s.lastUptimeSec < 60
    · rw [if_pos hless]
      refine ⟨hcounting, Or.inl rfl, ?_⟩
      simp only [RuntimeMinCounter.total, sampledUptimes, if_neg hgate, minutesAdded,
        if_pos hless]
    · rw [if_neg hless]
      refine ⟨hcounting, Or.inr rfl, ?_⟩
      simp only [RuntimeMinCounter.total, sampledUptimes, if_neg hgate, minutesAdded,
        if_neg hless]
      exact stored_add bits s.counter _ _

/-- The counter after the heartbeats: what the samples have added, modulo its size. -/
theorem timer_run
    {bits : Nat} (uptimes : List Nat) :
    ∀ s : RuntimeMinCounter,
      s.counting = true →
      (s.lastUptimeSec :: uptimes).Pairwise (· ≤ ·) →
      (∀ u ∈ uptimes, u < 2 ^ bits) →
      ((timerRun bits s uptimes).counter : Int) % 2 ^ bits =
        s.total uptimes % 2 ^ bits := by
  induction uptimes with
  | nil =>
      intro s _ _ _
      simp [timerRun, RuntimeMinCounter.total, sampledUptimes, minutesAdded]
  | cons u us ih =>
      intro s hcounting hmono hlt
      obtain ⟨hstart, htail⟩ := List.pairwise_cons.mp hmono
      obtain ⟨hcounting', hlast, htotal⟩ :=
        timerNotification_total us hcounting (hstart u (by simp)) (hlt u (by simp))
      have hmono' : ((timerNotification bits s u).lastUptimeSec :: us).Pairwise (· ≤ ·) := by
        rcases hlast with hkept | hcounted
        · rw [hkept, List.pairwise_cons]
          exact ⟨fun v hv => hstart v (by simp [hv]), (List.pairwise_cons.mp htail).2⟩
        · rwa [hcounted]
      have hstep : timerRun bits s (u :: us) =
          timerRun bits (timerNotification bits s u) us := rfl
      rw [hstep, ih _ hcounting' hmono' (fun v hv => hlt v (by simp [hv])), htotal]

/-- The increase of the counter is what has been added, modulo its size. -/
theorem increase_eq
    {bits : Nat} {s : RuntimeMinCounter} {start : Nat} {uptimes : List Nat}
    (hattached : s.attached = true)
    (hmono : (start :: uptimes).Pairwise (· ≤ ·))
    (hlt : ∀ u ∈ uptimes, u < 2 ^ bits) :
    (((timerRun bits (s.startCounting start).2 uptimes).counter : Int) - s.counter) %
        2 ^ bits =
      minutesAdded start
          (sampledUptimes s.heartbeatMsTime s.tenSecCounter uptimes) %
        2 ^ bits := by
  have hstart : (s.startCounting start).2 =
      { s with lastUptimeSec := start, counting := true } := by
    simp [startCounting, hattached]
  have hrun :=
    @timer_run bits uptimes
      { s with lastUptimeSec := start, counting := true } rfl hmono hlt
  dsimp only [RuntimeMinCounter.total] at hrun
  rw [hstart, (Int.emod_sub_cancel_right (s.counter : Int)).mpr hrun]
  congr 1
  omega

/--
For every state of an attached counter, every heartbeat period and every
non-decreasing sequence of uptimes: the counter keeps to the uptime exactly
while the dropped seconds are few.
-/
theorem countsUptime_iff
    {bits : Nat} (hbits : bits = 32 ∨ bits = 64)
    {s : RuntimeMinCounter} {start : Nat} {uptimes : List Nat}
    (hattached : s.attached = true)
    (hmono : (start :: uptimes).Pairwise (· ≤ ·))
    (hlt : ∀ u ∈ start :: uptimes, u < 2 ^ bits) :
    CountsUptime bits s start uptimes ↔ DriftSmall s start uptimes := by
  have hsub := sampledUptimes_sublist s.heartbeatMsTime uptimes s.tenSecCounter
  unfold CountsUptime DriftSmall
  simp only [increase_eq hattached hmono (fun u hu => hlt u (by simp [hu]))]
  generalize sampledUptimes s.heartbeatMsTime s.tenSecCounter uptimes = samples at hsub ⊢
  obtain ⟨hsum, href, hstart⟩ :=
    wholeMinutes_add_dropped samples (hmono.sublist (hsub.cons_cons start))
  obtain ⟨hlow, hfit, hnot, hhigh⟩ := minutesAdded_bounds samples start
  have hlast : lastSample start samples < 2 ^ bits := by
    apply hlt
    rcases List.eq_nil_or_concat samples with rfl | ⟨init, u, rfl⟩
    · simp [lastSample]
    · have hmem : u ∈ uptimes := hsub.subset (by simp)
      simp [lastSample, hmem]
  have hdiv : wholeMinutes start samples ≤ (lastSample start samples - start) / 60 := by
    omega
  by_cases hminutes : MinutesFit start samples
  · -- the increase is the whole minutes
    have hadded := hfit hminutes
    have hmod :
        minutesAdded start samples % 2 ^ bits = wholeMinutes start samples := by
      rw [hadded]
      rcases hbits with rfl | rfl
      · omega
      · omega
    rw [hmod]
    simp only [hminutes, true_and]
    constructor
    · rintro ⟨-, hge⟩
      omega
    · intro hsmall
      omega
  · -- an increase that has lost minutes, or has gone below zero
    simp only [hminutes, false_and, iff_false]
    have hless := hnot hminutes
    rintro ⟨hle, hge⟩
    rcases hbits with rfl | rfl
    · omega
    · omega

/-- Samples ten seconds apart and more, from uptime 5 on. -/
theorem countsUptime_fourSamples :
    CountsUptime 64 (new.attachHeartBeat 10000) 5 [15, 30, 66, 130] := by
  have hsamples : sampledUptimes 10000 0 [15, 30, 66, 130] = [15, 30, 66, 130] := by
    decide
  refine (countsUptime_iff (Or.inr rfl) ?_ ?_ ?_).mpr ⟨?_, ?_⟩
  · rfl
  · decide
  · decide
  · show MinutesFit 5 (sampledUptimes 10000 0 [15, 30, 66, 130])
    rw [hsamples]
    simp [MinutesFit]
  · show droppedSeconds 5 (sampledUptimes 10000 0 [15, 30, 66, 130]) +
      (lastSample 5 (sampledUptimes 10000 0 [15, 30, 66, 130]) -
        referenceAfter 5 (sampledUptimes 10000 0 [15, 30, 66, 130])) < 120
    rw [hsamples]
    decide

/-- With a heartbeat of 119 seconds each sample drops 59 of them. -/
theorem not_countsUptime_slowHeartBeat :
    ¬ CountsUptime 64 (new.attachHeartBeat 119000) 0 [119, 238, 357] := by
  rintro ⟨-, hlow⟩
  revert hlow
  decide

end Adav
end BrBox
