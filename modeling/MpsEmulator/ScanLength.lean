/-
**How long a scan goes on.**

A scan with a frame limit ends by itself: the thread makes the frames up to the limit, each from as
many samples as there are averages, and stops the scan.  A scan that is stopped by a call may be in
the middle of a frame, and the thread finishes that one.

* `frameTimes`, `rounds`, `frameRounds`, `planned` — what the log says of the frames that were
  emitted and of the samples that were taken, on the whole and for each frame;
* `Head`, `Taking`, `Sampled`, `Emitted`, `Over` — where the thread is in the scan, and what it has
  done;
* `leads_waiting`, `leads_head`, `leads_sampling`, `leads_sampled`, `leads_next`, `leads_over` —
  from one point to the next;
* `limited_scan` — **left alone, a scan with a limit of `N` frames emits the frames `1` to `N`,
  takes as many samples for each as there are averages and no others, and is over**;
* `stopped_emits_once` — **after a scan was stopped, at most one frame is emitted before the next
  one starts**, whatever else is called.
-/

import MpsEmulator.ScanShutdown

set_option relaxedAutoImplicit false
set_option autoImplicit false

namespace MpsEmulator

/-! ### What was made -/

/-- The samples of all channels were taken once. -/
def Event.isSample : Event → Bool
  | .sampled _ => true
  | _ => false

/-- The numbers and times of the frames that were emitted. -/
def frameTimes (seen : List Event) : List (ℕ × ℤ) := (emissions seen).map fun e => (e.frame, e.dt)

/-- How many times samples were taken. -/
def rounds (seen : List Event) : ℕ := seen.countP Event.isSample

/-- The frames that were emitted, each with the number of times samples were taken since it began;
and that number for the frame at hand. -/
def frameRoundsStep (made : List ℕ × ℕ) : Event → List ℕ × ℕ
  | .frameBegun => (made.1, 0)
  | .sampled _ => (made.1, made.2 + 1)
  | .emitted _ => (made.1 ++ [made.2], made.2)
  | _ => made

/-- The same of all that was seen. -/
def frameRounds (seen : List Event) : List ℕ × ℕ := seen.foldl frameRoundsStep ([], 0)

/-- The numbers and times of the first `k` frames of a scan. -/
def planned (period : ℤ) (k : ℕ) : List (ℕ × ℤ) :=
  (List.range k).map fun i => (i + 1, i * period)

/-- Behind what was seen before, `k` frames were emitted, each from `averages` samples, and samples
taken `r` times, the last `i` of them for the frame at hand. -/
def Made (before : List Event) (period : ℤ) (averages k r i : ℕ) (seen : List Event) : Prop :=
  ∃ new, seen = before ++ new ∧ frameTimes new = planned period k ∧ rounds new = r ∧
    frameRounds new = (List.replicate k averages, i)

theorem frameTimes_append (seen events : List Event) :
    frameTimes (seen ++ events) = frameTimes seen ++ frameTimes events := by
  rw [frameTimes, emissions_append, List.map_append]
  rfl

theorem planned_succ (period : ℤ) (k : ℕ) :
    planned period (k + 1) = planned period k ++ [(k + 1, k * period)] := by
  rw [planned, List.range_succ, List.map_append]
  rfl

section Log

variable {E : Env} {s s' : Scanner} {before new seen : List Event} {period : ℤ}
  {averages k r i : ℕ}

/-- A step of the thread emits the frame with its number and time, at one point only. -/
theorem frameTimes_observe :
    frameTimes (observe E s .thread s') =
      if s.thread.pc = .emit then [(s.thread.frame, s.thread.dt)] else [] := by
  rw [observe, frameTimes_append]
  simp only [frameTimes, emissions_observeScan, emissions_observeThread]
  split <;> rfl

/-- A step of the thread takes samples at one point only. -/
theorem rounds_observe :
    rounds (observe E s .thread s') =
      if s.thread.pc = .subFrame ∧ s.thread.subFrame < s.device.nSubFrameAverages then 1
      else 0 := by
  have hscan : rounds (observeScan s s') = 0 := by
    rw [observeScan]
    cases s.device.scanning <;> cases s'.device.scanning <;> rfl
  have happend : rounds (observe E s .thread s') =
      rounds (observeScan s s') + rounds (observeThread E s) := List.countP_append
  rw [happend, hscan, zero_add]
  cases hpc : s.thread.pc <;> simp only [observeThread, hpc]
  case subFrame =>
    simp only [true_and]
    split <;> rfl
  all_goals rfl

/-- What a step of the thread adds to the samples of the frames. -/
theorem frameRounds_observe :
    frameRounds (new ++ observe E s .thread s') =
      (observeThread E s).foldl frameRoundsStep (frameRounds new) := by
  have hscan : (observeScan s s').foldl frameRoundsStep (frameRounds new) = frameRounds new := by
    rw [observeScan]
    cases s.device.scanning <;> cases s'.device.scanning <;> rfl
  have hnew : frameRounds (new ++ observe E s .thread s') =
      (observeScan s s' ++ observeThread E s).foldl frameRoundsStep (frameRounds new) :=
    List.foldl_append
  rw [hnew, List.foldl_append, hscan]

/-- Most steps make nothing. -/
theorem Made.idle (h : Made before period averages k r i seen) (hemit : s.thread.pc ≠ .emit)
    (hbegin : s.thread.pc ≠ .frameBegin)
    (hsample : s.thread.pc = .subFrame → s.device.nSubFrameAverages ≤ s.thread.subFrame) :
    Made before period averages k r i (seen ++ observe E s .thread s') := by
  obtain ⟨new, rfl, htimes, hrounds, hframes⟩ := h
  refine ⟨new ++ observe E s .thread s', List.append_assoc .., ?_, ?_, ?_⟩
  · rw [frameTimes_append, htimes, frameTimes_observe, if_neg hemit, List.append_nil]
  · have hnone : ¬ (s.thread.pc = .subFrame ∧
        s.thread.subFrame < s.device.nSubFrameAverages) :=
      fun h => absurd h.2 (not_lt.2 (hsample h.1))
    rw [rounds, List.countP_append, ← rounds, ← rounds, hrounds, rounds_observe, if_neg hnone,
      add_zero]
  · rw [frameRounds_observe, hframes]
    cases hpc : s.thread.pc <;> simp only [observeThread, hpc]
    case emit => exact absurd hpc hemit
    case frameBegin => exact absurd hpc hbegin
    case subFrame =>
      rw [if_neg (not_lt.2 (hsample hpc))]
      rfl
    all_goals rfl

/-- The points from which a step neither takes samples nor begins or emits a frame. -/
def ThreadPc.quiet : ThreadPc → Bool
  | .frameBegin | .subFrame | .emit => false
  | _ => true

theorem Made.quiet (h : Made before period averages k r i seen) (hpc : s.thread.pc.quiet = true) :
    Made before period averages k r i (seen ++ observe E s .thread s') := by
  refine h.idle ?_ ?_ ?_
  · intro hemit
    simp [hemit, ThreadPc.quiet] at hpc
  · intro hbegin
    simp [hbegin, ThreadPc.quiet] at hpc
  · intro hsample
    simp [hsample, ThreadPc.quiet] at hpc

/-- A frame begins. -/
theorem Made.begin (h : Made before period averages k r i seen) (hpc : s.thread.pc = .frameBegin) :
    Made before period averages k r 0 (seen ++ observe E s .thread s') := by
  obtain ⟨new, rfl, htimes, hrounds, hframes⟩ := h
  refine ⟨new ++ observe E s .thread s', List.append_assoc .., ?_, ?_, ?_⟩
  · rw [frameTimes_append, htimes, frameTimes_observe, if_neg (by simp [hpc]), List.append_nil]
  · rw [rounds, List.countP_append, ← rounds, ← rounds, hrounds, rounds_observe]
    simp [hpc]
  · rw [frameRounds_observe, hframes]
    simp only [observeThread, hpc]
    rfl

theorem Made.sample (h : Made before period averages k r i seen) (hpc : s.thread.pc = .subFrame)
    (hlt : s.thread.subFrame < s.device.nSubFrameAverages) :
    Made before period averages k (r + 1) (i + 1) (seen ++ observe E s .thread s') := by
  obtain ⟨new, rfl, htimes, hrounds, hframes⟩ := h
  refine ⟨new ++ observe E s .thread s', List.append_assoc .., ?_, ?_, ?_⟩
  · rw [frameTimes_append, htimes, frameTimes_observe, if_neg (by simp [hpc]), List.append_nil]
  · rw [rounds, List.countP_append, ← rounds, ← rounds, hrounds, rounds_observe, if_pos ⟨hpc, hlt⟩]
  · rw [frameRounds_observe, hframes]
    simp only [observeThread, hpc, if_pos hlt]
    rfl

theorem Made.emit (h : Made before period averages k r averages seen)
    (hpc : s.thread.pc = .emit) (hframe : s.thread.frame = k + 1)
    (hdt : s.thread.dt = k * period) :
    Made before period averages (k + 1) r averages (seen ++ observe E s .thread s') := by
  obtain ⟨new, rfl, htimes, hrounds, hframes⟩ := h
  refine ⟨new ++ observe E s .thread s', List.append_assoc .., ?_, ?_, ?_⟩
  · rw [frameTimes_append, htimes, frameTimes_observe, if_pos hpc, hframe, hdt, planned_succ]
  · rw [rounds, List.countP_append, ← rounds, ← rounds, hrounds, rounds_observe]
    simp [hpc]
  · rw [frameRounds_observe, hframes, List.replicate_succ']
    simp only [observeThread, hpc]
    rfl

end Log

/-! ### Where the thread is -/

/-- The start of a scan, the time for a frame, the frame limit, and the number of averages. -/
structure ScanPlan where
  start : ℤ
  period : ℤ
  limit : ℕ
  averages : ℕ

/-- The device is scanning so. -/
structure ScanPlan.On (p : ScanPlan) (E : Env) (d : Mps) : Prop where
  running : d.running = true
  calibrating : d.calibrating = false
  scanning : d.scanning = true
  start : d.scanStartTime = p.start
  period : framePeriod E d.cfg = p.period
  limit : d.cfg.framesPerScan = p.limit
  averages : d.nSubFrameAverages = p.averages

/-- The points that the thread passes before a scan. -/
def ThreadPc.waits : ThreadPc → Bool
  | .idle | .outer | .calTest | .init => true
  | _ => false

variable {E : Env} {p : ScanPlan} {before seen : List Event} {s s' : Scanner} {k i : ℕ}

/-- What was made of the plan. -/
abbrev ScanPlan.Made (p : ScanPlan) (before : List Event) (k r i : ℕ) (seen : List Event) : Prop :=
  MpsEmulator.Made before p.period p.averages k r i seen

/-- `k` frames are made, and the thread is at the head of the inner loop. -/
structure Head (E : Env) (p : ScanPlan) (before : List Event) (k : ℕ)
    (σ : Scanner × List Event) : Prop where
  device : p.On E σ.1.device
  pc : σ.1.thread.pc = .scanTest
  frame : σ.1.thread.frame = k + 1
  frameStart : σ.1.thread.frameStart = p.start + k * p.period
  made : ∃ i, p.Made before k (k * p.averages) i σ.2

/-- The thread has begun a frame behind `k` others. -/
structure InFrame (E : Env) (p : ScanPlan) (k : ℕ) (s : Scanner) : Prop where
  device : p.On E s.device
  frame : s.thread.frame = k + 1
  dt : s.thread.dt = k * p.period
  frameEnd : s.thread.frameEnd = p.start + (k + 1 : ℕ) * p.period

/-- It has taken samples `i` times. -/
structure Taking (E : Env) (p : ScanPlan) (before : List Event) (k i : ℕ)
    (σ : Scanner × List Event) : Prop extends InFrame E p k σ.1 where
  pc : σ.1.thread.pc = .subFrame
  subFrame : σ.1.thread.subFrame = i
  made : p.Made before k (k * p.averages + i) i σ.2

/-- It has taken all samples. -/
structure Sampled (E : Env) (p : ScanPlan) (before : List Event) (k : ℕ)
    (σ : Scanner × List Event) : Prop extends InFrame E p k σ.1 where
  pc : σ.1.thread.pc = .average
  made : p.Made before k ((k + 1) * p.averages) p.averages σ.2

/-- It has emitted the frame. -/
structure Emitted (E : Env) (p : ScanPlan) (before : List Event) (k : ℕ)
    (σ : Scanner × List Event) : Prop extends InFrame E p k σ.1 where
  pc : σ.1.thread.pc = .frameEnd
  made : p.Made before (k + 1) ((k + 1) * p.averages) p.averages σ.2

/-- The scan is over, and all its frames are made. -/
structure Over (p : ScanPlan) (before : List Event) (σ : Scanner × List Event) : Prop where
  scanning : σ.1.device.scanning = false
  status : σ.1.device.status = .ready
  pc : σ.1.thread.pc = .idle
  made : p.Made before p.limit (p.limit * p.averages) p.averages σ.2

/-! ### From one point to the next -/

/-- A step of the thread and what is seen of it. -/
theorem observed_thread (h : threadStep E s = some s') :
    observed E (s, seen) .thread = some (s', seen ++ observe E s .thread s') :=
  Runs.record_eq_some.2 ⟨h, rfl⟩

/-- The thread leads from here to a state with the property. -/
abbrev ThreadLeads (E : Env) (σ : Scanner × List Event) (P : Scanner × List Event → Prop) : Prop :=
  Runs.Leads (observed E) .thread σ P

theorem leads_before {P : Scanner × List Event → Prop} (h : threadStep E s = some s')
    (hnext : ThreadLeads E (s', seen ++ observe E s .thread s') P) : ThreadLeads E (s, seen) P :=
  Runs.Leads.before (observed_thread h) hnext

/-- The thread sets its frame counter. -/
theorem leads_init (hdevice : p.On E s.device) (hpc : s.thread.pc = .init)
    (hmade : p.Made before 0 0 0 seen) : ThreadLeads E (s, seen) (Head E p before 0) := by
  have hstep : threadStep E s = some { s with
      thread := { s.thread with
        pc := .scanTest, frameStart := s.device.scanStartTime, frame := 1 } } := by
    simp [threadStep, hpc]
  refine leads_before hstep (.now ⟨hdevice, rfl, rfl, ?_, ?_⟩)
  · simp [hdevice.start]
  · rw [zero_mul]
    exact ⟨0, hmade.quiet (by rw [hpc]; rfl)⟩

/-- Without a calibration it goes straight on. -/
theorem leads_calTest (hdevice : p.On E s.device) (hpc : s.thread.pc = .calTest)
    (hmade : p.Made before 0 0 0 seen) : ThreadLeads E (s, seen) (Head E p before 0) := by
  have hstep : threadStep E s =
      some { s with thread := { s.thread with pc := .init } } := by
    simp [threadStep, hpc, hdevice.calibrating]
  exact leads_before hstep (leads_init hdevice rfl (hmade.quiet (by rw [hpc]; rfl)))

theorem leads_outer (hdevice : p.On E s.device) (hpc : s.thread.pc = .outer)
    (hmade : p.Made before 0 0 0 seen) : ThreadLeads E (s, seen) (Head E p before 0) := by
  have hstep : threadStep E s =
      some { s with thread := { s.thread with pc := .calTest } } := by
    simp [threadStep, hpc, hdevice.running]
  exact leads_before hstep (leads_calTest hdevice rfl (hmade.quiet (by rw [hpc]; rfl)))

/-- From wherever it waits, the thread comes to its inner loop. -/
theorem leads_waiting (hdevice : p.On E s.device) (hpc : s.thread.pc.waits = true)
    (hmade : p.Made before 0 0 0 seen) : ThreadLeads E (s, seen) (Head E p before 0) := by
  cases hs : s.thread.pc <;> simp only [hs, ThreadPc.waits] at hpc
  case init => exact leads_init hdevice hs hmade
  case calTest => exact leads_calTest hdevice hs hmade
  case outer => exact leads_outer hdevice hs hmade
  case idle =>
    have hstep : threadStep E s =
        some { s with thread := { s.thread with pc := .outer } } := by
      simp [threadStep, hs]
    exact leads_before hstep (leads_outer hdevice rfl (hmade.quiet (by rw [hs]; rfl)))
  all_goals cases hpc

/-- It begins a frame. -/
theorem leads_head {σ : Scanner × List Event} (h : Head E p before k σ) :
    ThreadLeads E σ (Taking E p before k 0) := by
  obtain ⟨s, seen⟩ := σ
  obtain ⟨hdevice, hpc, hframe, hstart, i, hmade⟩ := h
  dsimp only at hdevice hpc hframe hstart hmade
  have henter : threadStep E s =
      some { s with thread := { s.thread with pc := .frameBegin } } := by
    simp [threadStep, hpc, hdevice.scanning]
  refine leads_before henter (leads_before (by simp only [threadStep]; rfl) (.now ?_))
  refine { device := hdevice, frame := hframe, dt := ?_, frameEnd := ?_, pc := rfl, subFrame := rfl,
           made := ?_ }
  · dsimp only
    rw [hstart, hdevice.start]
    ring
  · dsimp only
    rw [hstart, hdevice.period]
    push_cast
    ring
  · exact (hmade.quiet (by rw [hpc]; rfl)).begin rfl

theorem ScanPlan.On.of_random {d d' : Mps} (h : p.On E d) (hsame : SameButRandom d d') :
    p.On E d' := by
  rw [hsame]
  exact ⟨h.running, h.calibrating, h.scanning, h.start, h.period, h.limit, h.averages⟩

/-- It takes the samples that are left. -/
theorem leads_sampling {j : ℕ} (hj : i + j = p.averages) {σ : Scanner × List Event}
    (h : Taking E p before k i σ) : ThreadLeads E σ (Sampled E p before k) := by
  -- on the samples that are left
  induction j generalizing i σ with
  | zero =>
      obtain ⟨s, seen⟩ := σ
      obtain ⟨⟨hdevice, hframe, hdt, hend⟩, hpc, hi, hmade⟩ := h
      dsimp only at hdevice hframe hdt hend hpc hi hmade
      have hlast : s.device.nSubFrameAverages ≤ s.thread.subFrame := by
        rw [hdevice.averages, hi]
        omega
      have hstep : threadStep E s =
          some { s with thread := { s.thread with pc := .average } } := by
        simp [threadStep, hpc, not_lt.2 hlast]
      refine leads_before hstep (.now ⟨⟨hdevice, hframe, hdt, hend⟩, rfl, ?_⟩)
      have hrounds : (k + 1) * p.averages = k * p.averages + i := by
        rw [add_mul, one_mul, ← hj, add_zero]
      have hall : i = p.averages := hj
      subst hall
      rw [hrounds]
      exact hmade.idle (by simp [hpc]) (by simp [hpc]) fun _ => hlast
  | succ j ih =>
      obtain ⟨s, seen⟩ := σ
      obtain ⟨⟨hdevice, hframe, hdt, hend⟩, hpc, hi, hmade⟩ := h
      dsimp only at hdevice hframe hdt hend hpc hi hmade
      have hlt : s.thread.subFrame < s.device.nSubFrameAverages := by
        rw [hdevice.averages, hi]
        omega
      have hstep : ∃ s', threadStep E s = some s' ∧
          s'.device = (sampleChannels E s.device.physicalPressureChannelCount s.device).2 ∧
          s'.thread.pc = .subFrame ∧ s'.thread.subFrame = i + 1 ∧
          s'.thread.frame = s.thread.frame ∧ s'.thread.dt = s.thread.dt ∧
          s'.thread.frameEnd = s.thread.frameEnd := by
        simp only [threadStep, hpc, if_pos hlt]
        exact ⟨_, rfl, rfl, rfl, congrArg (· + 1) hi, rfl, rfl, rfl⟩
      obtain ⟨s', hstep, hdevice', hpc', hi', hframe', hdt', hend'⟩ := hstep
      refine leads_before hstep (ih (i := i + 1) (by omega) ?_)
      have hon : p.On E s'.device := by
        rw [hdevice']
        exact hdevice.of_random (sampleChannels_same E _ _)
      exact ⟨⟨hon, hframe'.trans hframe, hdt'.trans hdt, hend'.trans hend⟩, hpc', hi',
        hmade.sample hpc hlt⟩

/-- It averages them and emits the frame. -/
theorem leads_sampled (hp : 0 < p.averages) {σ : Scanner × List Event}
    (h : Sampled E p before k σ) : ThreadLeads E σ (Emitted E p before k) := by
  obtain ⟨s, seen⟩ := σ
  obtain ⟨⟨hdevice, hframe, hdt, hend⟩, hpc, hmade⟩ := h
  dsimp only at hdevice hframe hdt hend hpc hmade
  have hpos : s.device.nSubFrameAverages ≠ 0 := by
    rw [hdevice.averages]
    exact hp.ne'
  have hstep : ∃ s', threadStep E s = some s' ∧ s'.device = s.device ∧ s'.thread.pc = .emit ∧
      s'.thread.frame = s.thread.frame ∧ s'.thread.dt = s.thread.dt ∧
      s'.thread.frameEnd = s.thread.frameEnd := by
    simp only [threadStep, hpc, hpos, false_and, if_false]
    exact ⟨_, rfl, rfl, rfl, rfl, rfl, rfl⟩
  obtain ⟨s', hstep, hdevice', hpc', hframe', hdt', hend'⟩ := hstep
  have hemit : threadStep E s' =
      some { s' with thread := { s'.thread with pc := .frameEnd } } := by
    simp [threadStep, hpc']
  refine leads_before hstep (leads_before hemit (.now ⟨⟨?_, ?_, ?_, ?_⟩, rfl, ?_⟩))
  · rwa [← hdevice'] at hdevice
  · exact hframe'.trans hframe
  · exact hdt'.trans hdt
  · exact hend'.trans hend
  · exact (hmade.quiet (by rw [hpc]; rfl)).emit hpc' (hframe'.trans hframe) (hdt'.trans hdt)

/-- Below the limit it comes back to the head of the loop. -/
theorem leads_next (hlimit : p.limit < 2 ^ 32) (hk : k + 1 < p.limit) {σ : Scanner × List Event}
    (h : Emitted E p before k σ) : ThreadLeads E σ (Head E p before (k + 1)) := by
  obtain ⟨s, seen⟩ := σ
  obtain ⟨⟨hdevice, hframe, hdt, hend⟩, hpc, hmade⟩ := h
  dsimp only at hdevice hframe hdt hend hpc hmade
  have hmore : ¬ (s.device.cfg.framesPerScan ≠ 0 ∧
      s.device.cfg.framesPerScan = s.thread.frame) := by
    rw [hdevice.limit, hframe]
    omega
  -- the frame counter does not wrap around below the limit
  have hstep : threadStep E s = some { s with
      thread := { s.thread with pc := .nextFrame, frameStart := s.thread.frameEnd } } := by
    simp only [threadStep, hpc, if_neg hmore]
  have hfits : (s.thread.frame + 1) % 2 ^ 32 = k + 1 + 1 := by
    rw [hframe]
    omega
  refine leads_before hstep (leads_before (by simp only [threadStep]; rfl) (.now ?_))
  exact ⟨hdevice, rfl, hfits, hend, p.averages,
    (hmade.quiet (by rw [hpc]; rfl)).quiet rfl⟩

/-- At the limit it stops the scan. -/
theorem leads_over (hk : k + 1 = p.limit) {σ : Scanner × List Event}
    (h : Emitted E p before k σ) : ThreadLeads E σ (Over p before) := by
  obtain ⟨s, seen⟩ := σ
  obtain ⟨⟨hdevice, hframe, hdt, hend⟩, hpc, hmade⟩ := h
  dsimp only at hdevice hframe hdt hend hpc hmade
  have hlast : s.device.cfg.framesPerScan ≠ 0 ∧
      s.device.cfg.framesPerScan = s.thread.frame := by
    rw [hdevice.limit, hframe]
    omega
  have hstep : threadStep E s = some { s with
      thread := { s.thread with pc := .limitStop, frameStart := s.thread.frameEnd } } := by
    simp only [threadStep, hpc, if_pos hlast]
  refine leads_before hstep (leads_before (by simp only [threadStep]; rfl)
    (leads_before (by simp only [threadStep]; rfl)
      (leads_before (by simp only [threadStep]; rfl) (.now ⟨?_, ?_, ?_, ?_⟩))))
  · exact stopScan_scanning
  · show (stopScan s.device).device.status = .ready
    rw [stopScan_device_of_scanning hdevice.scanning]
  · simp [stopScan_scanning]
  · rw [hk] at hmade
    exact (((hmade.quiet (by rw [hpc]; rfl)).quiet rfl).quiet rfl).quiet rfl

/-- From the head of the loop, a whole frame is made. -/
theorem leads_frame (hp : 0 < p.averages) {σ : Scanner × List Event} (h : Head E p before k σ) :
    ThreadLeads E σ (Emitted E p before k) :=
  ((leads_head h).trans fun _ => leads_sampling (zero_add p.averages)).trans
    fun _ => leads_sampled hp

/-- The frames that are left are made, and the scan is over. -/
theorem leads_frames (hp : 0 < p.averages) (hlimit : p.limit < 2 ^ 32) {j : ℕ}
    (hj : k + 1 + j = p.limit) {σ : Scanner × List Event} (h : Head E p before k σ) :
    ThreadLeads E σ (Over p before) := by
  -- on the frames behind this one
  induction j generalizing k σ with
  | zero => exact (leads_frame hp h).trans fun _ => leads_over hj
  | succ j ih =>
      have hnext : ThreadLeads E σ (Head E p before (k + 1)) :=
        (leads_frame hp h).trans fun _ => leads_next hlimit (by omega)
      exact hnext.trans fun _ hhead => ih (by omega) hhead

/-- **Left alone, a scan with a limit of `N` frames is over after them**: from wherever the thread
waits on a device that is not calibrating, it emits the frames `1` to `N`, a period apart, takes as
many samples for each as there are averages and no others, and leaves the device ready. -/
theorem limited_scan (E : Env) (now : Clock) (s : Scanner) (seen : List Event)
    (hoff : s.device.scanning = false) (hrunning : s.device.running = true)
    (hcalibrating : s.device.calibrating = false) (hpc : s.thread.pc.waits = true)
    (hlimit : 0 < s.device.cfg.framesPerScan) (hlimit32 : s.device.cfg.framesPerScan < 2 ^ 32)
    (haverages : 0 < averagesFor E s.device.cfg.scanRateHz) :
    ∃ k t new, Runs.exec (observed E) (s, seen) (.startScan now :: List.replicate k .thread) =
        some (t, seen ++ new) ∧
      t.device.scanning = false ∧ t.device.status = .ready ∧ t.thread.pc = .idle ∧
      frameTimes new = planned (framePeriod E s.device.cfg) s.device.cfg.framesPerScan ∧
      rounds new = s.device.cfg.framesPerScan * averagesFor E s.device.cfg.scanRateHz ∧
      (frameRounds new).1 =
        List.replicate s.device.cfg.framesPerScan (averagesFor E s.device.cfg.scanRateHz) := by
  let d := (MpsEmulator.startScan E now s.device).device
  let p : ScanPlan :=
    { start := now.steady, period := framePeriod E s.device.cfg
      limit := s.device.cfg.framesPerScan, averages := averagesFor E s.device.cfg.scanRateHz }
  obtain ⟨hscanning, -, hstart, hcount⟩ := startScan_of_not_scanning E now hoff
  have hcal : d.calibrating = false := by
    simp [d, startScan, hoff, updateScanAverages, configureScanLayout, hcalibrating]
  have hon : p.On E d :=
    { running := (startScan_running E now s.device).trans hrunning, calibrating := hcal
      scanning := hscanning, start := hstart, period := by rw [startScan_cfg]
      limit := by rw [startScan_cfg], averages := hcount }
  let started : Scanner := { s with device := d }
  have hfirst : observed E (s, seen) (.startScan now) =
      some (started, seen ++ observeScan s started) :=
    Runs.record_eq_some.2 ⟨rfl, by rw [observe_of_ne_thread (by simp)]⟩
  have hmade : p.Made seen 0 0 0 (seen ++ observeScan s started) := by
    refine ⟨observeScan s started, rfl, ?_, ?_, ?_⟩
    · simp [frameTimes, emissions_observeScan, planned]
    · simp [observeScan, started, hoff, hscanning, d, rounds, Event.isSample]
    · simp [observeScan, started, hoff, hscanning, d, frameRounds, frameRoundsStep]
  have hhead : ThreadLeads E (started, seen ++ observeScan s started) (Head E p seen 0) :=
    leads_waiting hon hpc hmade
  have hframes : 0 + 1 + (p.limit - 1) = p.limit := by
    simp only [p]
    omega
  obtain ⟨k, ⟨t, seen'⟩, hrun, hscanning', hstatus, hidle, new, rfl, htimes, hrounds, heach⟩ :=
    hhead.trans fun _ => leads_frames haverages hlimit32 hframes
  exact ⟨k, t, new, Runs.exec_cons_eq_some.2 ⟨_, hfirst, hrun⟩, hscanning', hstatus, hidle, htimes,
    hrounds, congrArg Prod.fst heach⟩

/-- A device that was just started, with a limit of three frames. -/
def threeFrames : Scanner := .start { attachConfig mps4216 1 with framesPerScan := 3 }

theorem limited_scan_three :
    ∃ k t new, Runs.exec (observed referenceEnv) (threeFrames, [])
        (.startScan { steady := 0, system := 0 } :: List.replicate k .thread) =
          some (t, [] ++ new) ∧
      t.device.scanning = false ∧ t.device.status = .ready ∧ t.thread.pc = .idle ∧
      frameTimes new = planned (framePeriod referenceEnv threeFrames.device.cfg) 3 ∧
      rounds new = 3 * averagesFor referenceEnv threeFrames.device.cfg.scanRateHz ∧
      (frameRounds new).1 =
        List.replicate 3 (averagesFor referenceEnv threeFrames.device.cfg.scanRateHz) :=
  limited_scan referenceEnv _ threeFrames [] rfl rfl rfl rfl (by decide) (by decide)
    (by decide +kernel)

/-! ### Behind a stop -/

/-- The frames since a scan started or stopped. -/
def sinceStopStep (n : ℕ) : Event → ℕ
  | .scanStarted | .scanStopped => 0
  | .emitted _ => n + 1
  | _ => n

/-- The frames that were emitted since the last scan started or stopped. -/
def framesSinceStop (seen : List Event) : ℕ := seen.foldl sinceStopStep 0

/-- The points from which the thread emits a frame without looking whether the scan is on. -/
def ThreadPc.willEmit : ThreadPc → Bool
  | .frameBegin | .subFrame | .average | .emit => true
  | _ => false

/-- With the scan off, at most one frame was emitted since it stopped, and none yet if the thread is
in a frame. -/
def StoppedOnce (σ : Scanner × List Event) : Prop :=
  σ.1.device.scanning = false →
    framesSinceStop σ.2 + σ.1.thread.pc.willEmit.toNat ≤ 1

/-- A start or a stop begins to count anew. -/
theorem framesSinceStop_observeScan (s s' : Scanner) (seen : List Event) :
    framesSinceStop (seen ++ observeScan s s') =
      if s.device.scanning = s'.device.scanning then framesSinceStop seen else 0 := by
  rw [framesSinceStop, List.foldl_append, ← framesSinceStop, observeScan]
  cases s.device.scanning <;> cases s'.device.scanning <;> rfl

theorem framesSinceStop_observeThread (E : Env) (s : Scanner) (seen : List Event) :
    framesSinceStop (seen ++ observeThread E s) =
      framesSinceStop seen + (decide (s.thread.pc = .emit)).toNat := by
  rw [framesSinceStop, List.foldl_append, ← framesSinceStop]
  cases hpc : s.thread.pc <;> simp only [observeThread, hpc]
  case subFrame => split <;> rfl
  all_goals rfl

/-- With the scan off, a step of the thread begins no frame. -/
theorem ThreadMove.willEmit_le {d : Mps} {t : ScanThread} {on : Bool} {pc : ThreadPc} {i n : ℕ}
    (h : ThreadMove d t on pc i n) (hoff : d.scanning = false) :
    (decide (t.pc = .emit)).toNat + pc.willEmit.toNat ≤ t.pc.willEmit.toNat := by
  cases h with
  | enter hpc hon => simp [hoff] at hon
  | calibrated hpc =>
      rcases hpc with hpc | hpc
      · simp [hpc, ThreadPc.willEmit]
      · simp [hpc, ThreadPc.willEmit]
  | _ => simp [*, ThreadPc.willEmit]

/-- **Every step keeps it so.** -/
theorem StoppedOnce.step {σ σ' : Scanner × List Event} {a : ScanAction} (hσ : StoppedOnce σ)
    (h : observed E σ a = some σ') : StoppedOnce σ' := by
  refine observed_rule (J := StoppedOnce) (fun s' ha hstep hoff => ?_)
    (fun s' ha hstep hoff => ?_) h
  · rw [observe, ← List.append_assoc, framesSinceStop_observeThread, framesSinceStop_observeScan]
    have hmove := threadStep_move hstep
    dsimp only at hoff ⊢
    cases hbefore : σ.1.device.scanning with
    | false =>
        have hle := hmove.willEmit_le hbefore
        have hcount := hσ hbefore
        rw [hoff, if_pos rfl]
        omega
    | true =>
        -- it is the thread that has stopped the scan, behind a frame
        have hstop : σ.1.thread.pc = .limitStop ∧ s'.thread.pc = .nextFrame := by
          rw [hoff] at hmove
          generalize s'.thread.pc = pc, s'.thread.subFrame = i, s'.thread.frame = n at hmove
          generalize hon : false = on at hmove
          cases hmove with
          | stop hpc => exact ⟨hpc, rfl⟩
          | _ => simp [hbefore] at hon
        rw [hoff, hstop.1, hstop.2]
        simp [ThreadPc.willEmit]
  · rw [framesSinceStop_observeScan]
    dsimp only at hoff ⊢
    rw [step_thread hstep ha, hoff]
    cases hbefore : σ.1.device.scanning with
    | false => simpa using hσ hbefore
    | true => simpa using Bool.toNat_le σ.1.thread.pc.willEmit

/-- **After a scan was stopped, at most one frame is emitted before the next scan starts**, by
whatever calls the device is stopped, and whatever else is called. -/
theorem stopped_emits_once (E : Env) (cfg : MpsConfig) (as : List ScanAction) :
    Runs.Throughout (observed E) (fun σ => σ.1.device.scanning = false → framesSinceStop σ.2 ≤ 1)
      (Scanner.start cfg, []) as :=
  (Runs.throughout_of_step (fun _ _ _ hσ h => StoppedOnce.step hσ h)
    (fun _ => Nat.zero_le 1 : StoppedOnce (Scanner.start cfg, []))).mono
      fun _ hσ hoff => (Nat.le_add_right _ _).trans (hσ hoff)

end MpsEmulator
