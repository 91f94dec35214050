/-
**The numbers and times of the frames of a scan.**

The scan thread copies the start of the scan into `frame_start` and sets `frame` to one *before* it
looks whether a scan is on.  A scan that starts between these assignments and the test, or while
the thread is still inside the loop of the scan before it, therefore gets the start time and the
number of something else.

* `scanFrames` — the frames emitted so far by the scan in progress;
* `FramesOk` — they are numbered from one, the first is at time zero, and no frame time is negative;
* `CleanStep` — the step is no such start, ends its frame after the scan start, and does not
  exhaust the 32-bit frame number;
* `frames_throughout` — **in a run of clean steps the frames are numbered and timed as they should
  be**;
* `stale_frame_start` — a run in which the first frame comes before the start of its scan.
-/

import MpsEmulator.ScanThread

set_option relaxedAutoImplicit false
set_option autoImplicit false

namespace MpsEmulator

/-! ### The frames of a scan -/

/-- What an event does to the frames of the scan in progress. -/
def scanFramesStep (frames : Option (List Emission)) : Event → Option (List Emission)
  | .scanStarted => some []
  | .scanStopped => none
  | .emitted e => frames.map (· ++ [e])
  | _ => frames

/-- The frames emitted so far by the scan in progress; `none` while no scan is. -/
def scanFrames (seen : List Event) : Option (List Emission) := seen.foldl scanFramesStep none

/-- The frames emitted by a list of events. -/
def emissions (seen : List Event) : List Emission :=
  seen.filterMap fun event =>
    match event with
    | .emitted e => some e
    | _ => none

/-- The frames seen so far carry the numbers and times they should. -/
structure FramesOk (seen : List Event) : Prop where
  numbered : ∀ fs ∈ scanFrames seen, fs.map Emission.frame = List.range' 1 fs.length
  first : ∀ fs ∈ scanFrames seen, ∀ e ∈ fs.head?, e.dt = 0
  nonneg : ∀ e ∈ emissions seen, 0 ≤ e.dt

instance (seen : List Event) : Decidable (FramesOk seen) :=
  decidable_of_iff
    ((∀ fs ∈ scanFrames seen, fs.map Emission.frame = List.range' 1 fs.length) ∧
      (∀ fs ∈ scanFrames seen, ∀ e ∈ fs.head?, e.dt = 0) ∧ ∀ e ∈ emissions seen, 0 ≤ e.dt)
    ⟨fun h => ⟨h.1, h.2.1, h.2.2⟩, fun h => ⟨h.numbered, h.first, h.nonneg⟩⟩

/-- The points at which the thread has no scan loop open and will still read the scan start. -/
def ThreadPc.betweenScans : ThreadPc → Bool
  | .outer | .calTest | .calEnd | .init | .idle | .finished => true
  | _ => false

/-- A step that cannot spoil the numbers and times of frames. -/
structure CleanStep (E : Env) (s : Scanner) (a : ScanAction) : Prop where
  start : (flagChange s a).isStart → s.device.scanning = false → s.thread.pc.betweenScans
  period : a = .thread → s.thread.pc = .frameBegin →
    s.device.scanStartTime ≤ s.thread.frameStart + framePeriod E s.device.cfg
  number : a = .thread → s.thread.pc = .nextFrame → s.thread.frame + 1 < 2 ^ 32

instance (E : Env) (s : Scanner) (a : ScanAction) : Decidable (CleanStep E s a) :=
  decidable_of_iff
    (((flagChange s a).isStart → s.device.scanning = false → s.thread.pc.betweenScans) ∧
      (a = .thread → s.thread.pc = .frameBegin →
        s.device.scanStartTime ≤ s.thread.frameStart + framePeriod E s.device.cfg) ∧
      (a = .thread → s.thread.pc = .nextFrame → s.thread.frame + 1 < 2 ^ 32))
    ⟨fun h => ⟨h.1, h.2.1, h.2.2⟩, fun h => ⟨h.start, h.period, h.number⟩⟩

/-! ### The invariant -/

/-- What the variables of the thread say about time, by the point it is at. -/
def Timing (d : Mps) (t : ScanThread) : Prop :=
  match t.pc with
  | .outer | .calTest | .calEnd | .init | .idle | .finished => True
  | .scanTest | .frameBegin | .limitStop | .nextFrame => d.scanStartTime ≤ t.frameStart
  | .subFrame | .average | .emit => 0 ≤ t.dt ∧ d.scanStartTime ≤ t.frameEnd
  | .frameEnd => d.scanStartTime ≤ t.frameEnd

/-- What they say about the frames of the scan in progress. -/
def Counting (d : Mps) (t : ScanThread) (fs : List Emission) : Prop :=
  match t.pc with
  | .outer | .calTest | .calEnd | .init | .idle | .finished => fs = []
  | .scanTest | .frameBegin =>
      t.frame = fs.length + 1 ∧ (fs = [] → t.frameStart = d.scanStartTime)
  | .subFrame | .average | .emit => t.frame = fs.length + 1 ∧ (fs = [] → t.dt = 0)
  | .frameEnd | .limitStop | .nextFrame => t.frame = fs.length ∧ fs ≠ []

/-- The invariant of runs of clean steps. -/
structure FramesInv (s : Scanner × List Event) : Prop where
  ok : FramesOk s.2
  scanning : (scanFrames s.2).isSome = s.1.device.scanning
  timing : Timing s.1.device s.1.thread
  counting : ∀ fs ∈ scanFrames s.2, Counting s.1.device s.1.thread fs

/-! ### Events -/

theorem emissions_append (seen events : List Event) :
    emissions (seen ++ events) = emissions seen ++ emissions events := by
  rw [emissions, List.filterMap_append]
  rfl

/-- The step of the thread emits its frame, and nothing else. -/
theorem emissions_observeThread (E : Env) (s : Scanner) :
    emissions (observeThread E s) =
      if s.thread.pc = .emit then
        [{ frame := s.thread.frame
           dt := s.thread.dt
           labview := labviewFrame E s.device s.thread.frameData
           packet := binaryFrame E s.device s.thread.frameData }]
      else [] := by
  cases hpc : s.thread.pc <;> simp only [observeThread, hpc]
  case subFrame => split <;> rfl
  all_goals rfl

/-- A step of the thread adds its frame to those of the scan in progress. -/
theorem scanFrames_observeThread (E : Env) (s : Scanner) (seen : List Event) :
    scanFrames (seen ++ observeThread E s) =
      (scanFrames seen).map (· ++ emissions (observeThread E s)) := by
  rw [scanFrames, List.foldl_append, ← scanFrames, emissions_observeThread]
  cases hpc : s.thread.pc <;> simp only [observeThread, hpc]
  case subFrame => split <;> simp [scanFramesStep]
  all_goals simp [scanFramesStep]

/-- A scan that starts has no frames, one that ends takes them with it. -/
theorem scanFrames_observeScan (s s' : Scanner) (seen : List Event) :
    scanFrames (seen ++ observeScan s s') =
      if s'.device.scanning then if s.device.scanning then scanFrames seen else some []
      else if s.device.scanning then none else scanFrames seen := by
  rw [scanFrames, List.foldl_append, ← scanFrames, observeScan]
  cases s.device.scanning <;> cases s'.device.scanning <;> rfl

/-- The frames of the scan in progress are the same as before, or a scan starts with none. -/
theorem mem_scanFrames_observeScan {s s' : Scanner} {seen : List Event} {fs : List Emission}
    (hfs : fs ∈ scanFrames (seen ++ observeScan s s')) :
    fs ∈ scanFrames seen ∨
      (fs = [] ∧ s.device.scanning = false ∧ s'.device.scanning = true) := by
  rw [scanFrames_observeScan] at hfs
  cases hs : s.device.scanning <;> cases hs' : s'.device.scanning <;> simp [hs, hs'] at hfs
  · exact Or.inl hfs
  · exact Or.inr ⟨hfs, rfl, rfl⟩
  · exact Or.inl hfs

theorem emissions_observeScan (s s' : Scanner) : emissions (observeScan s s') = [] := by
  rw [observeScan]
  cases s.device.scanning <;> cases s'.device.scanning <;> rfl

/-! ### The steps -/

variable {E : Env} {s s' : Scanner} {a : ScanAction} {seen : List Event} {fs : List Emission}

/-- The thread keeps its sense of time: only the beginning of a frame has to be clean. -/
theorem threadStep_timing (h : threadStep E s = some s') (hclean : CleanStep E s .thread)
    (htime : Timing s.device s.thread) : Timing s'.device s'.thread := by
  have hperiod := hclean.period rfl
  cases hpc : s.thread.pc <;> simp only [threadStep, hpc] at h <;>
    simp only [Timing, hpc] at htime
  case frameBegin =>
    rw [← Option.some_inj.1 h]
    exact ⟨by simpa using htime, hperiod hpc⟩
  case subFrame =>
    split at h
    · have hsame := SameFlags.of_random
        (sampleChannels_same E s.device.physicalPressureChannelCount s.device)
      rw [← Option.some_inj.1 h]
      simpa only [Timing, hpc, hsame.scanStartTime] using htime
    · rw [← Option.some_inj.1 h]
      exact htime
  case average =>
    obtain ⟨-, h⟩ := Option.ite_none_left_eq_some.1 h
    rw [← Option.some_inj.1 h]
    exact htime
  case emit => rw [← Option.some_inj.1 h]; exact htime.2
  case frameEnd =>
    rw [← Option.some_inj.1 h]
    by_cases hlimit : s.device.cfg.framesPerScan ≠ 0 ∧ s.device.cfg.framesPerScan = s.thread.frame
    · simpa only [Timing, if_pos hlimit] using htime
    · simpa only [Timing, if_neg hlimit] using htime
  case limitStop => rw [← Option.some_inj.1 h]; simpa only [Timing, stopScan_scanStartTime]
  case init => rw [← Option.some_inj.1 h]; exact le_rfl
  case outer => rw [← Option.some_inj.1 h]; cases hr : s.device.running <;> trivial
  case calTest => rw [← Option.some_inj.1 h]; cases hc : s.device.calibrating <;> trivial
  case scanTest =>
    rw [← Option.some_inj.1 h]
    cases hs : s.device.scanning
    · trivial
    · exact htime
  case finished => exact absurd h (by simp)
  case nextFrame => rw [← Option.some_inj.1 h]; exact htime
  all_goals
    rw [← Option.some_inj.1 h]
    trivial

/-- The thread numbers its frames one after the other while its scan goes on. -/
theorem threadStep_counting (h : threadStep E s = some s') (hclean : CleanStep E s .thread)
    (hscan : s'.device.scanning = true) (hcount : Counting s.device s.thread fs) :
    Counting s'.device s'.thread (fs ++ emissions (observeThread E s)) := by
  have hnumber := hclean.number rfl
  rw [emissions_observeThread]
  cases hpc : s.thread.pc <;> simp only [threadStep, hpc] at h <;>
    simp only [Counting, hpc] at hcount <;>
    simp only [reduceCtorEq, if_false, if_true, List.append_nil]
  case emit =>
    rw [← Option.some_inj.1 h]
    exact ⟨by simpa using hcount.1, by simp⟩
  case frameBegin =>
    rw [← Option.some_inj.1 h]
    exact ⟨hcount.1, fun hfs => by simp [hcount.2 hfs]⟩
  case subFrame =>
    split at h
    · rw [← Option.some_inj.1 h]
      simpa only [Counting, hpc] using hcount
    · rw [← Option.some_inj.1 h]
      exact hcount
  case average =>
    obtain ⟨-, h⟩ := Option.ite_none_left_eq_some.1 h
    rw [← Option.some_inj.1 h]
    exact hcount
  case frameEnd =>
    rw [← Option.some_inj.1 h]
    by_cases hlimit : s.device.cfg.framesPerScan ≠ 0 ∧ s.device.cfg.framesPerScan = s.thread.frame
    · simpa only [Counting, if_pos hlimit] using hcount
    · simpa only [Counting, if_neg hlimit] using hcount
  case limitStop =>
    rw [← Option.some_inj.1 h, stopScan_scanning] at hscan
    exact absurd hscan (by simp)
  case nextFrame =>
    rw [← Option.some_inj.1 h]
    refine ⟨?_, fun hfs => absurd hfs hcount.2⟩
    rw [Nat.mod_eq_of_lt (hnumber hpc), hcount.1]
  case init => rw [← Option.some_inj.1 h]; exact ⟨by simp [hcount], fun _ => rfl⟩
  case outer => rw [← Option.some_inj.1 h]; cases hr : s.device.running <;> exact hcount
  case calTest => rw [← Option.some_inj.1 h]; cases hc : s.device.calibrating <;> exact hcount
  case scanTest =>
    rw [← Option.some_inj.1 h] at hscan ⊢
    have hs : s.device.scanning = true := hscan
    simpa only [Counting, hs, if_true] using hcount
  case finished => exact absurd h (by simp)
  all_goals
    rw [← Option.some_inj.1 h]
    exact hcount

/-! ### The invariant is kept -/

/-- A scan that begins or ends cannot spoil the frames seen so far. -/
theorem FramesOk.observeScan (hok : FramesOk seen) (s s' : Scanner) :
    FramesOk (seen ++ observeScan s s') := by
  refine ⟨fun gs hgs => ?_, fun gs hgs => ?_, fun e he => ?_⟩
  · rcases mem_scanFrames_observeScan hgs with hgs | ⟨rfl, -, -⟩
    · exact hok.numbered gs hgs
    · rfl
  · rcases mem_scanFrames_observeScan hgs with hgs | ⟨rfl, -, -⟩
    · exact hok.first gs hgs
    · simp
  · rw [emissions_append, emissions_observeScan, List.append_nil] at he
    exact hok.nonneg e he

/-- The frame the thread emits goes on with the numbers, and is at time zero if it is the first. -/
theorem FramesOk.observeThread (hok : FramesOk seen) (htime : Timing s.device s.thread)
    (hcount : ∀ fs ∈ scanFrames seen, Counting s.device s.thread fs) :
    FramesOk (seen ++ observeThread E s) := by
  by_cases hpc : s.thread.pc = .emit
  · simp only [Timing, hpc] at htime
    refine ⟨fun gs hgs => ?_, fun gs hgs => ?_, fun e he => ?_⟩
    · rw [scanFrames_observeThread, emissions_observeThread, if_pos hpc] at hgs
      obtain ⟨fs, hfs, rfl⟩ := Option.map_eq_some_iff.1 hgs
      have hframe := hcount fs hfs
      simp only [Counting, hpc] at hframe
      rw [List.map_append, hok.numbered fs hfs, List.map_singleton, hframe.1,
        List.length_append, List.length_singleton, List.range'_1_concat, Nat.add_comm 1]
    · rw [scanFrames_observeThread, emissions_observeThread, if_pos hpc] at hgs
      obtain ⟨fs, hfs, rfl⟩ := Option.map_eq_some_iff.1 hgs
      have hframe := hcount fs hfs
      simp only [Counting, hpc] at hframe
      intro e he
      cases fs with
      | nil => rw [← Option.some_inj.1 he]; exact hframe.2 rfl
      | cons f fs => exact hok.first _ hfs e he
    · rw [emissions_append, emissions_observeThread, if_pos hpc] at he
      rcases List.mem_append.1 he with he | he
      · exact hok.nonneg e he
      · rw [List.mem_singleton.1 he]
        exact htime.1
  · have hnil : emissions (MpsEmulator.observeThread E s) = [] := by
      rw [emissions_observeThread, if_neg hpc]
    have hsame : scanFrames (seen ++ MpsEmulator.observeThread E s) = scanFrames seen := by
      rw [scanFrames_observeThread, hnil]
      simp
    refine ⟨?_, ?_, ?_⟩
    · rw [hsame]; exact hok.numbered
    · rw [hsame]; exact hok.first
    · rw [emissions_append, hnil, List.append_nil]; exact hok.nonneg

/-- Whether a scan has frames says whether `m_Scanning` is set. -/
theorem isSome_scanFrames_observeScan (s' : Scanner)
    (hscan : (scanFrames seen).isSome = s.device.scanning) :
    (scanFrames (seen ++ observeScan s s')).isSome = s'.device.scanning := by
  rw [scanFrames_observeScan]
  cases hs : s.device.scanning <;> cases hs' : s'.device.scanning <;> simp [hscan, hs]

/-- A call from another thread keeps the invariant if it is clean. -/
theorem FramesInv.call (hinv : FramesInv (s, seen)) (hclean : CleanStep E s a)
    (ha : a ≠ .thread) (h : step E s a = some s') : FramesInv (s', seen ++ observeScan s s') := by
  have hthread := step_thread h ha
  have hscan := isSome_scanFrames_observeScan s' hinv.scanning
  rcases (step_device h).scanStart with ⟨hstart, hoff⟩ | ⟨htime, hstart⟩
  · -- a scan that starts: nothing is known yet of its start time, and no frame is there
    have hpc := hclean.start hstart hoff
    refine ⟨hinv.ok.observeScan s s', hscan, ?_, fun fs hfs => ?_⟩
    · rw [hthread, Timing]
      revert hpc
      cases s.thread.pc <;> simp [ThreadPc.betweenScans]
    · have hnil : fs = [] := by
        rcases mem_scanFrames_observeScan hfs with hfs | ⟨hnil, -, -⟩
        · have hsome := hinv.scanning
          rw [hfs, hoff] at hsome
          exact absurd hsome (by simp)
        · exact hnil
      rw [hthread, Counting, hnil]
      revert hpc
      cases s.thread.pc <;> simp [ThreadPc.betweenScans]
  · refine ⟨hinv.ok.observeScan s s', hscan, ?_, fun fs hfs => ?_⟩
    · rw [hthread, Timing, htime]
      exact hinv.timing
    · rw [hthread, Counting, htime]
      rcases mem_scanFrames_observeScan hfs with hfs | ⟨-, hoff, hon⟩
      · exact hinv.counting fs hfs
      · exact absurd (hstart hon) (by simp [hoff])

/-- A clean step of the thread keeps the invariant. -/
theorem FramesInv.thread (hinv : FramesInv (s, seen)) (hclean : CleanStep E s .thread)
    (h : threadStep E s = some s') :
    FramesInv (s', seen ++ (observeScan s s' ++ observeThread E s)) := by
  have hscan := isSome_scanFrames_observeScan s' hinv.scanning
  have hstart := scanning_of_threadStep h
  have hcount : ∀ fs ∈ scanFrames (seen ++ observeScan s s'), Counting s.device s.thread fs :=
    fun fs hfs => by
      rcases mem_scanFrames_observeScan hfs with hfs | ⟨-, hoff, hon⟩
      · exact hinv.counting fs hfs
      · exact absurd (hstart hon) (by simp [hoff])
  rw [← List.append_assoc]
  refine ⟨(hinv.ok.observeScan s s').observeThread hinv.timing hcount, ?_,
    threadStep_timing h hclean hinv.timing, fun gs hgs => ?_⟩
  · rw [scanFrames_observeThread, Option.isSome_map]
    exact hscan
  · rw [scanFrames_observeThread] at hgs
    obtain ⟨fs, hfs, rfl⟩ := Option.map_eq_some_iff.1 hgs
    have hon : s'.device.scanning = true := by rw [← hscan, hfs]; rfl
    exact threadStep_counting h hclean hon (hcount fs hfs)

/-- A clean step keeps the invariant. -/
theorem FramesInv.step {σ σ' : Scanner × List Event} (hinv : FramesInv σ)
    (hclean : CleanStep E σ.1 a) (h : observed E σ a = some σ') : FramesInv σ' :=
  observed_rule (fun _ ha hstep => hinv.thread (ha ▸ hclean) hstep)
    (fun _ ha hstep => hinv.call hclean ha hstep) h

/-- Before the first step there are no frames. -/
theorem framesInv_start (cfg : MpsConfig) : FramesInv (Scanner.start cfg, []) :=
  ⟨⟨by simp [scanFrames], by simp [scanFrames], by simp [emissions]⟩, rfl, trivial,
    by simp [scanFrames]⟩

/-- In every run of clean steps, and after each of them, the frames that the scan in progress has
emitted are **numbered one, two, three, …**, the first is at time zero, and no frame time is
negative. -/
theorem frames_throughout (E : Env) (cfg : MpsConfig) (as : List ScanAction)
    (hclean : Runs.Along (observed E) (fun σ a => CleanStep E σ.1 a) (Scanner.start cfg, []) as) :
    Runs.Throughout (observed E) (fun σ => FramesOk σ.2) (Scanner.start cfg, []) as := by
  have hinv := Runs.throughout_of_along (fun σ a σ' hinv hC h => FramesInv.step hinv hC h)
    (framesInv_start cfg) hclean
  exact hinv.mono fun σ h => h.ok

/-- One frame at a rate of 500 Hz: the scan starts behind the first so many steps of the thread, and
the thread goes on until the frame is emitted. -/
def oneFrame (before after : ℕ) : List ScanAction :=
  .command .quiet "SET RATE 500".toList ::
    List.replicate before .thread ++ .startScan { steady := 1000, system := 0 } ::
    List.replicate after .thread

/-- A scan that starts before `frame_start` is assigned. -/
theorem frames_throughout_oneFrame :
    Runs.Along (observed referenceEnv) (fun σ a => CleanStep referenceEnv σ.1 a)
        (Scanner.start (attachConfig mps4216 1), []) (oneFrame 2 9) ∧
      Runs.Throughout (observed referenceEnv) (fun σ => FramesOk σ.2)
        (Scanner.start (attachConfig mps4216 1), []) (oneFrame 2 9) := by
  have hclean : Runs.Along (observed referenceEnv) (fun σ a => CleanStep referenceEnv σ.1 a)
      (Scanner.start (attachConfig mps4216 1), []) (oneFrame 2 9) := by
    decide +kernel
  exact ⟨hclean, frames_throughout referenceEnv _ _ hclean⟩

/-- A scan that starts between `frame_start = m_ScanStartTime` and the test of `m_Scanning`: its
first frame is a microsecond before its start. -/
theorem stale_frame_start :
    (Runs.exec (observed referenceEnv) (Scanner.start (attachConfig mps4216 1), [])
        (oneFrame 3 6)).map (fun σ => (scanFrames σ.2).map fun fs =>
          fs.map fun e => (e.frame, e.dt)) = some (some [(1, -1000)]) ∧
      ¬ Runs.Throughout (observed referenceEnv) (fun σ => FramesOk σ.2)
        (Scanner.start (attachConfig mps4216 1), []) (oneFrame 3 6) := by
  decide +kernel

end MpsEmulator
