/-
**The averages of a frame and the samples it took.**

The loop over the sub-frames of a frame runs to `m_nSubFrameAverages`, read anew in every round, and
behind the loop the sums are divided by `m_nSubFrameAverages`, read once more.  `SET RATE` writes
it in between, at any point of a frame.

* `frameSamples` — the samples taken since the current frame began;
* `Event.IsMean` — an averaging step divides by their number, and each channel gets the truncated
  mean;
* `KeepsSamples` — the number of averages a step installs is at least the number of samples taken so
  far and, behind the loop, exactly that number; and where a frame will be divided by it, it is not
  zero;
* `tdiv_mem` — the mean of samples within limits is within them, so the clamp changes nothing;
* `averages_throughout` — **in a run of steps that keep the samples, every frame is averaged over
  its own samples**, and no averaging step divides by zero;
* `averaged_by_another_number` — a run in which the sum of fifty samples is divided by one.
-/

import MpsEmulator.ScanThread

set_option relaxedAutoImplicit false
set_option autoImplicit false

namespace MpsEmulator

/-! ### The samples of a frame -/

/-- What an event does to the samples of the current frame: one list for each sub-frame. -/
def frameSamplesStep (samples : List (List ℤ)) : Event → List (List ℤ)
  | .frameBegun => []
  | .sampled xs => samples ++ [xs]
  | _ => samples

/-- The samples taken since the current frame began. -/
def frameSamples (seen : List Event) : List (List ℤ) := seen.foldl frameSamplesStep []

/-- The sum of the samples of a channel. -/
def channelSum (samples : List (List ℤ)) (i : ℕ) : ℤ := (samples.map fun xs => xs.getD i 0).sum

/-- An averaging step divides by the number of samples, and every channel gets the truncated mean
of its samples. -/
def Event.IsMean (samples : List (List ℤ)) : Event → Prop
  | .averaged divisor channels counts =>
      divisor = samples.length ∧
        ∀ i < channels, counts i = (channelSum samples i).tdiv samples.length
  | _ => True

/-- All averaging steps are means of the samples of their frame; the list in front is what was
sampled before. -/
def AveragesOk : List (List ℤ) → List Event → Prop
  | _, [] => True
  | samples, event :: events =>
      event.IsMean samples ∧ AveragesOk (frameSamplesStep samples event) events

instance (samples : List (List ℤ)) : DecidablePred (Event.IsMean samples)
  | .averaged divisor channels counts =>
      inferInstanceAs (Decidable (divisor = samples.length ∧
        ∀ i < channels, counts i = (channelSum samples i).tdiv samples.length))
  | .scanStarted | .scanStopped | .frameBegun | .sampled _ | .emitted _ =>
      inferInstanceAs (Decidable True)

instance AveragesOk.instDecidable : ∀ samples seen, Decidable (AveragesOk samples seen)
  | _, [] => inferInstanceAs (Decidable True)
  | samples, event :: events =>
      have := AveragesOk.instDecidable (frameSamplesStep samples event) events
      inferInstanceAs (Decidable (event.IsMean samples ∧
        AveragesOk (frameSamplesStep samples event) events))

theorem averagesOk_append {samples : List (List ℤ)} {seen events : List Event} :
    AveragesOk samples (seen ++ events) ↔
      AveragesOk samples seen ∧ AveragesOk (seen.foldl frameSamplesStep samples) events := by
  induction seen generalizing samples with
  | nil => simp [AveragesOk]
  | cons event seen ih =>
      rw [List.cons_append, AveragesOk, ih, AveragesOk, List.foldl_cons, and_assoc]

/-! ### The mean of samples within limits -/

/-- The truncated mean of numbers between two limits is between them. -/
theorem tdiv_mem {lo hi : ℤ} {xs : List ℤ} (hxs : ∀ x ∈ xs, lo ≤ x ∧ x ≤ hi) (hne : xs ≠ []) :
    lo ≤ xs.sum.tdiv xs.length ∧ xs.sum.tdiv xs.length ≤ hi := by
  have hlen : (0 : ℤ) < xs.length := by exact_mod_cast List.length_pos_iff.2 hne
  have hlow : xs.length • lo ≤ xs.sum := List.card_nsmul_le_sum xs lo fun x hx => (hxs x hx).1
  have hhigh : xs.sum ≤ xs.length • hi := List.sum_le_card_nsmul xs hi fun x hx => (hxs x hx).2
  rw [nsmul_eq_mul] at hlow hhigh
  constructor
  · calc lo = ((xs.length : ℤ) * lo).tdiv xs.length := (Int.mul_tdiv_cancel_left lo hlen.ne').symm
      _ ≤ xs.sum.tdiv xs.length := Int.tdiv_le_tdiv hlen hlow
  · calc xs.sum.tdiv xs.length ≤ ((xs.length : ℤ) * hi).tdiv xs.length :=
          Int.tdiv_le_tdiv hlen hhigh
      _ = hi := Int.mul_tdiv_cancel_left hi hlen.ne'

/-- The samples of a frame are all within the limits of the converter. -/
def WithinLimits (E : Env) (samples : List (List ℤ)) : Prop :=
  ∀ xs ∈ samples, ∀ x ∈ xs, E.mpsMinSignedAdcCounts ≤ x ∧ x ≤ E.mpsMaxSignedAdcCounts

variable {E : Env} {s s' : Scanner} {a : ScanAction} {samples : List (List ℤ)} {seen : List Event}

/-- The exact mean of a channel is between the limits of the converter. -/
theorem channelMean_mem (hwithin : WithinLimits E samples) (hne : samples ≠ []) (i : ℕ) :
    E.mpsMinSignedAdcCounts ≤ (channelSum samples i).tdiv samples.length ∧
      (channelSum samples i).tdiv samples.length ≤ E.mpsMaxSignedAdcCounts := by
  have hlow := E.minSigned_neg
  have hhigh := E.maxSigned_pos
  have hchannel : ∀ x ∈ samples.map fun xs => xs.getD i 0,
      E.mpsMinSignedAdcCounts ≤ x ∧ x ≤ E.mpsMaxSignedAdcCounts := by
    intro x hx
    obtain ⟨xs, hxs, rfl⟩ := List.mem_map.1 hx
    rw [List.getD_eq_getElem?_getD]
    cases hget : xs[i]? with
    | none => exact ⟨hlow.le, hhigh.le⟩
    | some x => exact hwithin xs hxs x (List.mem_of_getElem? hget)
  have hmem := tdiv_mem hchannel (by simpa using hne)
  rwa [List.length_map] at hmem

/-- The clamp of an average changes nothing. -/
theorem averageCounts_eq {d : Mps} {acc : ℕ → ℤ} (hwithin : WithinLimits E samples)
    (hacc : acc = channelSum samples) (hn : d.nSubFrameAverages = samples.length)
    (hne : samples ≠ []) {i : ℕ} (hi : i < d.physicalPressureChannelCount) :
    averageCounts E d acc i = (channelSum samples i).tdiv samples.length := by
  have hmem := channelMean_mem hwithin hne i
  rw [averageCounts, if_pos hi, hacc, hn, min_eq_left hmem.2, max_eq_right hmem.1]

/-! ### Steps that keep the samples -/

/-- The points from which the thread will divide, whether the scan is still on or not. -/
def ThreadPc.willDivide : ThreadPc → Bool
  | .frameBegin | .subFrame | .average => true
  | _ => false

/-- The step installs no number of averages that is below the samples taken so far in a frame; once
the thread has left the loop over the sub-frames, it installs no other number than theirs; and where
a scan starts or is on, or a frame is still to be averaged, it does not install zero. -/
def KeepsSamples (E : Env) (s : Scanner) (a : ScanAction) : Prop :=
  ∀ n ∈ installedAverages E s a,
    (s.thread.pc = .subFrame → s.thread.subFrame ≤ n) ∧
      (s.thread.pc = .average → s.thread.subFrame = n) ∧
      ((flagChange s a).isStart = true ∨ s.device.scanning = true ∨
        s.thread.pc.willDivide = true → 0 < n)

instance (s : Scanner) (a : ScanAction) : Decidable (KeepsSamples E s a) :=
  inferInstanceAs (Decidable (∀ n ∈ installedAverages E s a,
    (s.thread.pc = .subFrame → s.thread.subFrame ≤ n) ∧
      (s.thread.pc = .average → s.thread.subFrame = n) ∧
      ((flagChange s a).isStart = true ∨ s.device.scanning = true ∨
        s.thread.pc.willDivide = true → 0 < n)))

/-! ### The invariant -/

/-- What the variables of the thread say about the samples of the frame. -/
def Sampling (d : Mps) (t : ScanThread) (samples : List (List ℤ)) : Prop :=
  match t.pc with
  | .subFrame =>
      t.countsAccumulator = channelSum samples ∧ t.subFrame = samples.length ∧
        samples.length ≤ d.nSubFrameAverages
  | .average =>
      t.countsAccumulator = channelSum samples ∧ t.subFrame = samples.length ∧
        d.nSubFrameAverages = samples.length
  | _ => True

/-- Where a frame will be divided by the number of averages, it is not zero. -/
def Dividing (s : Scanner) : Prop :=
  s.device.scanning = true ∨ s.thread.pc.willDivide = true → 0 < s.device.nSubFrameAverages

/-- The invariant of runs whose steps keep the samples. -/
structure AveragesInv (E : Env) (σ : Scanner × List Event) : Prop where
  ok : AveragesOk [] σ.2
  dividing : Dividing σ.1
  within : WithinLimits E (frameSamples σ.2)
  sampling : Sampling σ.1.device σ.1.thread (frameSamples σ.2)

theorem sampling_ite {d : Mps} {t : ScanThread} {c : Prop} [Decidable c] {pc₁ pc₂ : ThreadPc}
    (h₁ : Sampling d { t with pc := pc₁ } samples) (h₂ : Sampling d { t with pc := pc₂ } samples) :
    Sampling d { t with pc := if c then pc₁ else pc₂ } samples := by
  split <;> assumption

theorem frameSamples_append (seen events : List Event) :
    frameSamples (seen ++ events) = events.foldl frameSamplesStep (frameSamples seen) :=
  List.foldl_append

/-- A scan that begins or ends takes no part in the averages. -/
theorem foldl_frameSamplesStep_observeScan (samples : List (List ℤ)) (s s' : Scanner) :
    (observeScan s s').foldl frameSamplesStep samples = samples := by
  rw [observeScan]
  cases s.device.scanning <;> cases s'.device.scanning <;> rfl

theorem averagesOk_observeScan (samples : List (List ℤ)) (s s' : Scanner) :
    AveragesOk samples (observeScan s s') := by
  rw [observeScan]
  cases s.device.scanning <;> cases s'.device.scanning <;> simp [AveragesOk, Event.IsMean]

theorem frameSamples_observe (s s' : Scanner) (seen events : List Event) :
    frameSamples (seen ++ (observeScan s s' ++ events)) =
      events.foldl frameSamplesStep (frameSamples seen) := by
  rw [frameSamples_append, List.foldl_append, foldl_frameSamplesStep_observeScan]

theorem averagesOk_observe (hok : AveragesOk [] seen) {events : List Event}
    (hevents : AveragesOk (frameSamples seen) events) :
    AveragesOk [] (seen ++ (observeScan s s' ++ events)) := by
  refine averagesOk_append.2 ⟨hok, averagesOk_append.2 ⟨averagesOk_observeScan _ s s', ?_⟩⟩
  rw [foldl_frameSamplesStep_observeScan]
  exact hevents

/-! ### The invariant is kept -/

/-- A scan that starts installs a number of averages. -/
theorem installed_of_isStart (hstart : (flagChange s a).isStart = true)
    (hoff : s.device.scanning = false) : (installedAverages E s a).isSome = true := by
  have hstarted : (startedAverages E s.device).isSome = true := by
    rw [startedAverages, hoff]
    rfl
  cases a with
  | startScan now => exact hstarted
  | command x cmd =>
      rw [flagChange] at hstart
      rw [installedAverages]
      split at hstart
      · next hverb =>
        rw [hverb]
        exact hstarted
      all_goals cases hstart
  | stopScan => cases hstart
  | calZ => cases hstart
  | thread => exact absurd hstart isStart_flagChange_thread

/-- A call from another thread installs no zero for a frame. -/
theorem Dividing.call (hdiv : Dividing s) (hkeeps : KeepsSamples E s a) (ha : a ≠ .thread)
    (h : step E s a = some s') : Dividing s' := by
  intro hwill
  have hthread := step_thread h ha
  have haverages := step_averages h ha
  rw [hthread] at hwill
  -- the scan was on before, or the call starts it
  have hbefore : (flagChange s a).isStart = true ∨ s.device.scanning = true ∨
      s.thread.pc.willDivide = true := by
    rcases hwill with hon | hpc
    · cases hoff : s.device.scanning with
      | true => exact .inr (.inl rfl)
      | false => exact .inl (isStart_of_scanning h hoff hon)
    · exact .inr (.inr hpc)
  cases hinstalled : installedAverages E s a with
  | some n =>
      rw [haverages, hinstalled, Option.getD_some]
      exact (hkeeps n hinstalled).2.2 hbefore
  | none =>
      rw [haverages, hinstalled, Option.getD_none]
      rcases hbefore with hstart | hon
      · cases hoff : s.device.scanning with
        | true => exact hdiv (.inl hoff)
        | false =>
            have hsome := installed_of_isStart (E := E) hstart hoff
            rw [hinstalled] at hsome
            cases hsome
      · exact hdiv hon

/-- The thread leaves the number of averages, and begins a frame only while the scan is on. -/
theorem Dividing.thread (hdiv : Dividing s) (h : threadStep E s = some s') : Dividing s' := by
  intro hwill
  rw [(threadStep_settings h).2]
  refine hdiv ?_
  rcases hwill with hon | hpc'
  · exact .inl (scanning_of_threadStep h hon)
  cases hpc : s.thread.pc <;> simp only [threadStep, hpc] at h
  case scanTest =>
    cases hon : s.device.scanning with
    | true => exact .inl rfl
    | false =>
        rw [hon, if_neg (by simp)] at h
        rw [← Option.some_inj.1 h] at hpc'
        cases hpc'
  case frameBegin | subFrame | average => exact .inr rfl
  case finished => cases h
  case outer | calTest | frameEnd =>
    rw [← Option.some_inj.1 h] at hpc'
    dsimp only at hpc'
    split at hpc' <;> cases hpc'
  all_goals
    rw [← Option.some_inj.1 h] at hpc'
    cases hpc'

/-- A call from another thread keeps the invariant if it keeps the samples. -/
theorem AveragesInv.call (hinv : AveragesInv E (s, seen)) (hkeeps : KeepsSamples E s a)
    (ha : a ≠ .thread) (h : step E s a = some s') :
    AveragesInv E (s', seen ++ observeScan s s') := by
  have hthread := step_thread h ha
  have haverages := step_averages h ha
  have hsamples : frameSamples (seen ++ observeScan s s') = frameSamples seen := by
    rw [frameSamples_append, foldl_frameSamplesStep_observeScan]
  have hold := hinv.sampling
  refine ⟨averagesOk_append.2 ⟨hinv.ok, averagesOk_observeScan _ s s'⟩,
    hinv.dividing.call hkeeps ha h, ?_, ?_⟩
  · rw [hsamples]
    exact hinv.within
  · rw [hsamples]
    cases hinstalled : installedAverages E s a with
    | none =>
        rw [hinstalled, Option.getD_none] at haverages
        rw [hthread, Sampling, haverages]
        exact hold
    | some n =>
        rw [hinstalled, Option.getD_some] at haverages
        obtain ⟨hloop, hbehind, -⟩ := hkeeps n hinstalled
        rw [hthread, Sampling, haverages]
        rw [Sampling] at hold
        cases hpc : s.thread.pc <;> try trivial
        case subFrame =>
          rw [hpc] at hold
          obtain ⟨hacc, hcount, -⟩ := hold
          exact ⟨hacc, hcount, hcount ▸ hloop hpc⟩
        case average =>
          rw [hpc] at hold
          obtain ⟨hacc, hcount, -⟩ := hold
          exact ⟨hacc, hcount, hcount ▸ (hbehind hpc).symm⟩

/-- One more round of the loop adds its samples to the sums. -/
theorem addSamples_channelSum (samples : List (List ℤ)) (xs : List ℤ) :
    addSamples (channelSum samples) xs = channelSum (samples ++ [xs]) := by
  funext i
  simp [addSamples, channelSum]

/-- A step of the thread keeps the invariant. -/
theorem AveragesInv.thread (hinv : AveragesInv E (s, seen)) (h : threadStep E s = some s') :
    AveragesInv E (s', seen ++ (observeScan s s' ++ observeThread E s)) := by
  have hold := hinv.sampling
  have hwithin := hinv.within
  suffices hnew : AveragesOk (frameSamples seen) (observeThread E s) ∧
      WithinLimits E ((observeThread E s).foldl frameSamplesStep (frameSamples seen)) ∧
      Sampling s'.device s'.thread
        ((observeThread E s).foldl frameSamplesStep (frameSamples seen)) by
    refine ⟨averagesOk_observe hinv.ok hnew.1, hinv.dividing.thread h, ?_, ?_⟩
    · rw [frameSamples_observe]; exact hnew.2.1
    · rw [frameSamples_observe]; exact hnew.2.2
  dsimp only at hold hwithin
  cases hpc : s.thread.pc <;> simp only [threadStep, hpc] at h <;>
    simp only [Sampling, hpc] at hold <;> simp only [observeThread, hpc]
  case frameBegin =>
    rw [← Option.some_inj.1 h]
    refine ⟨⟨trivial, trivial⟩, ?_, rfl, rfl, Nat.zero_le _⟩
    exact fun _ hxs => absurd hxs List.not_mem_nil
  case subFrame =>
    obtain ⟨hacc, hcount, hle⟩ := hold
    split at h
    · next hlt =>
      rw [if_pos hlt, ← Option.some_inj.1 h]
      refine ⟨⟨trivial, trivial⟩, ?_, ?_⟩
      · intro xs hxs
        rcases List.mem_append.1 hxs with hxs | hxs
        · exact hwithin xs hxs
        · rw [List.mem_singleton.1 hxs]
          exact sampleChannels_mem E _ _
      · have hsame := sampleChannels_same E s.device.physicalPressureChannelCount s.device
        have hn : (sampleChannels E s.device.physicalPressureChannelCount
            s.device).2.nSubFrameAverages = s.device.nSubFrameAverages := by
          rw [hsame]
        simp only [Sampling, hn]
        refine ⟨by rw [hacc, addSamples_channelSum]; rfl, by simp [hcount, frameSamplesStep], ?_⟩
        simp only [List.foldl_cons, List.foldl_nil, frameSamplesStep, List.length_append,
          List.length_singleton]
        omega
    · next hge =>
      have hn : s.device.nSubFrameAverages = (frameSamples seen).length := by omega
      rw [if_neg hge, ← Option.some_inj.1 h]
      exact ⟨trivial, hwithin, hacc, hcount, hn⟩
  case average =>
    obtain ⟨hacc, hcount, hn⟩ := hold
    obtain ⟨hdiv, h⟩ := Option.ite_none_left_eq_some.1 h
    rw [← Option.some_inj.1 h]
    refine ⟨⟨⟨hn, fun i hi => ?_⟩, trivial⟩, hwithin, trivial⟩
    refine averageCounts_eq hwithin hacc hn ?_ hi
    rintro hnil
    exact hdiv ⟨by rw [hn, hnil]; rfl, by omega⟩
  case finished => exact absurd h (by simp)
  case emit =>
    rw [← Option.some_inj.1 h]
    exact ⟨⟨trivial, trivial⟩, hwithin, trivial⟩
  all_goals
    refine ⟨trivial, hwithin, ?_⟩
    rw [← Option.some_inj.1 h]
    first | trivial | apply sampling_ite <;> trivial

/-- A step that keeps the samples keeps the invariant. -/
theorem AveragesInv.step {σ σ' : Scanner × List Event} (hinv : AveragesInv E σ)
    (hkeeps : KeepsSamples E σ.1 a) (h : observed E σ a = some σ') : AveragesInv E σ' :=
  observed_rule (fun _ _ hstep => hinv.thread hstep) (fun _ ha hstep => hinv.call hkeeps ha hstep) h

theorem averagesInv_start (E : Env) (cfg : MpsConfig) : AveragesInv E (Scanner.start cfg, []) :=
  ⟨trivial, fun _ => Nat.one_pos, fun _ hxs => absurd hxs List.not_mem_nil, trivial⟩

/-- The averaging step divides, and not by zero. -/
theorem AveragesInv.average {σ : Scanner × List Event} (hinv : AveragesInv E σ)
    (hpc : σ.1.thread.pc = .average) : (threadStep E σ.1).isSome = true := by
  have hpos : 0 < σ.1.device.nSubFrameAverages := hinv.dividing (.inr (by rw [hpc]; rfl))
  simp only [threadStep, hpc]
  rw [if_neg fun hzero => hpos.ne' hzero.1]
  rfl

/-- In every run whose steps keep the samples, and after each of them, all frames were averaged
**over exactly the samples they took**, and where the next frame is to be averaged, the thread does
not divide by zero. -/
theorem averages_throughout (E : Env) (cfg : MpsConfig) (as : List ScanAction)
    (hkeeps : Runs.Along (observed E) (fun σ a => KeepsSamples E σ.1 a)
      (Scanner.start cfg, []) as) :
    Runs.Throughout (observed E)
      (fun σ => AveragesOk [] σ.2 ∧
        (σ.1.thread.pc = .average → (threadStep E σ.1).isSome = true))
      (Scanner.start cfg, []) as := by
  have hinv := Runs.throughout_of_along (fun σ a σ' hinv hC h => AveragesInv.step hinv hC h)
    (averagesInv_start E cfg) hkeeps
  exact hinv.mono fun σ h => ⟨h.ok, h.average⟩

/-- A scan at the initial rate, which averages over fifty sub-frames, with `SET RATE` behind so
many steps of the thread. -/
def rateDuringFrame (before after : ℕ) (rate : String) : List ScanAction :=
  .startScan { steady := 0, system := 0 } :: List.replicate before .thread ++
    .command .quiet ("SET RATE ".toList ++ rate.toList) :: List.replicate after .thread

/-- A rate that asks for more averages, set within the first frame. -/
theorem averages_throughout_slower :
    Runs.Along (observed referenceEnv) (fun σ a => KeepsSamples referenceEnv σ.1 a)
        (Scanner.start (attachConfig mps4216 1), []) (rateDuringFrame 20 90 "5") ∧
      Runs.Throughout (observed referenceEnv)
        (fun σ => AveragesOk [] σ.2 ∧
          (σ.1.thread.pc = .average → (threadStep referenceEnv σ.1).isSome = true))
        (Scanner.start (attachConfig mps4216 1), []) (rateDuringFrame 20 90 "5") := by
  have hkeeps : Runs.Along (observed referenceEnv) (fun σ a => KeepsSamples referenceEnv σ.1 a)
      (Scanner.start (attachConfig mps4216 1), []) (rateDuringFrame 20 90 "5") := by
    decide +kernel
  exact ⟨hkeeps, averages_throughout referenceEnv _ _ hkeeps⟩

/-- A rate of 1000 Hz, set behind the loop over fifty sub-frames: their sum is divided by one, and
a channel that was at 100 counts all the time is reported at 5000. -/
theorem averaged_by_another_number :
    (Runs.exec (observed referenceEnv) (Scanner.start (attachConfig mps4216 1), [])
        (rateDuringFrame 56 1 "1000")).map (fun σ => ((frameSamples σ.2).map fun xs => xs.getD 0 0,
          σ.1.thread.counts 0)) = some (List.replicate 50 100, 5000) ∧
      ¬ Runs.Throughout (observed referenceEnv) (fun σ => AveragesOk [] σ.2)
        (Scanner.start (attachConfig mps4216 1), []) (rateDuringFrame 56 1 "1000") := by
  decide +kernel

end MpsEmulator
