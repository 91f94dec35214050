/-
**`Mps::Shutdown` and the scan thread it waits for.**

`Shutdown` stops the scan, clears `m_Running` and waits in `StopAll` for the thread to return.  The
thread tests `m_Running` in its outer loop only, so that a scan keeps it from looking.  While
`Shutdown` is at work the servers go on, and a client may start the next scan between any two of its
statements.

* `Closing`, `Closing.step` — the device, its thread, and the thread that runs `Shutdown`;
* `ThreadMove` — what a step of the scan thread does, as far as it decides where the thread gets to;
* `stepsToEnd`, `stepsToLimit` — how many steps the thread has left;
* `shutdown_returns_iff` — **left alone, `Shutdown` returns exactly if the scan is off, or has a
  frame limit, or the thread is behind the loop of the scan**;
* `shutdown_bounded` — **if nobody starts a scan behind the call of `StopScan`, then whatever else
  is called, the thread makes a bounded number of steps and nothing keeps it from them**.
-/

import MpsEmulator.FrameLimit

set_option relaxedAutoImplicit false
set_option autoImplicit false

namespace MpsEmulator

/-! ### The system -/

/-- The points of `Mps::Shutdown`. -/
inductive ShutdownPc
  | notCalled
  /-- behind `StopScan()` -/
  | scanStopped
  /-- behind `m_Running = false`, in `StopAll` -/
  | joining
  | returned
  deriving DecidableEq

/-- The points behind `m_Running = false`. -/
def ShutdownPc.cleared : ShutdownPc → Bool
  | .joining | .returned => true
  | _ => false

/-- The device with its scan thread, and the thread that shuts it down. -/
structure Closing where
  scanner : Scanner
  shutdown : ShutdownPc

/-- A device that was just started. -/
def Closing.start (cfg : MpsConfig) : Closing :=
  { scanner := .start cfg, shutdown := .notCalled }

/-- A step of the scan thread, a call from another thread, or the next statement of `Shutdown`. -/
inductive ClosingAction
  | scan (a : ScanAction)
  | shutdown
  deriving DecidableEq

/-- One step. -/
def Closing.step (E : Env) (c : Closing) : ClosingAction → Option Closing
  | .scan a => (MpsEmulator.step E c.scanner a).map fun s => { c with scanner := s }
  | .shutdown =>
      let d := c.scanner.device
      match c.shutdown with
      | .notCalled =>
          some {
            scanner := { c.scanner with device := (stopScan d).device }, shutdown := .scanStopped }
      | .scanStopped =>
          some {
            scanner := { c.scanner with device := { d with running := false } }
            shutdown := .joining }
      | .joining =>
          if c.scanner.thread.pc = .finished then some { c with shutdown := .returned } else none
      | .returned => none

/-! ### What the thread does -/

/-- A step of the thread: whether the scan is on behind it, and the point, the index of the
sub-frame and the number of the frame that it leads to. -/
inductive ThreadMove (d : Mps) (t : ScanThread) : Bool → ThreadPc → ℕ → ℕ → Prop
  | again (hpc : t.pc = .outer) (hrun : d.running = true) :
      ThreadMove d t d.scanning .calTest t.subFrame t.frame
  | outer (hpc : t.pc = .outer) (hrun : d.running = false) :
      ThreadMove d t d.scanning .finished t.subFrame t.frame
  | calibrate (hpc : t.pc = .calTest) : ThreadMove d t d.scanning .calEnd t.subFrame t.frame
  | calibrated (hpc : t.pc = .calTest ∨ t.pc = .calEnd) :
      ThreadMove d t d.scanning .init t.subFrame t.frame
  | init (hpc : t.pc = .init) : ThreadMove d t d.scanning .scanTest t.subFrame 1
  | enter (hpc : t.pc = .scanTest) (hon : d.scanning = true) :
      ThreadMove d t d.scanning .frameBegin t.subFrame t.frame
  | leave (hpc : t.pc = .scanTest) (hoff : d.scanning = false) :
      ThreadMove d t d.scanning .idle t.subFrame t.frame
  | frameBegin (hpc : t.pc = .frameBegin) : ThreadMove d t d.scanning .subFrame 0 t.frame
  | sample (hpc : t.pc = .subFrame) (hlt : t.subFrame < d.nSubFrameAverages) :
      ThreadMove d t d.scanning .subFrame (t.subFrame + 1) t.frame
  | sampled (hpc : t.pc = .subFrame) : ThreadMove d t d.scanning .average t.subFrame t.frame
  | average (hpc : t.pc = .average) : ThreadMove d t d.scanning .emit t.subFrame t.frame
  | emit (hpc : t.pc = .emit) : ThreadMove d t d.scanning .frameEnd t.subFrame t.frame
  | limit (hpc : t.pc = .frameEnd)
      (hlimit : d.cfg.framesPerScan ≠ 0 ∧ d.cfg.framesPerScan = t.frame) :
      ThreadMove d t d.scanning .limitStop t.subFrame t.frame
  | more (hpc : t.pc = .frameEnd)
      (hlimit : ¬ (d.cfg.framesPerScan ≠ 0 ∧ d.cfg.framesPerScan = t.frame)) :
      ThreadMove d t d.scanning .nextFrame t.subFrame t.frame
  | stop (hpc : t.pc = .limitStop) : ThreadMove d t false .nextFrame t.subFrame t.frame
  | next (hpc : t.pc = .nextFrame) :
      ThreadMove d t d.scanning .scanTest t.subFrame ((t.frame + 1) % 2 ^ 32)
  | idle (hpc : t.pc = .idle) : ThreadMove d t d.scanning .outer t.subFrame t.frame

variable {E : Env} {s s' : Scanner} {d : Mps} {t : ScanThread}

/-- Every step of the thread is one of these. -/
theorem threadStep_move (h : threadStep E s = some s') :
    ThreadMove s.device s.thread s'.device.scanning s'.thread.pc s'.thread.subFrame
      s'.thread.frame := by
  cases hpc : s.thread.pc <;> simp only [threadStep, hpc] at h
  case outer =>
    rw [← Option.some_inj.1 h]
    dsimp only
    split
    · next hrun => exact .again hpc hrun
    · next hrun => exact .outer hpc (Bool.eq_false_iff.2 hrun)
  case calTest =>
    rw [← Option.some_inj.1 h]
    dsimp only
    split
    · exact .calibrate hpc
    · exact .calibrated (Or.inl hpc)
  case calEnd =>
    rw [← Option.some_inj.1 h]
    exact .calibrated (Or.inr hpc)
  case init =>
    rw [← Option.some_inj.1 h]
    exact .init hpc
  case scanTest =>
    rw [← Option.some_inj.1 h]
    dsimp only
    split
    · next hon => exact .enter hpc hon
    · next hoff => exact .leave hpc (Bool.eq_false_iff.2 hoff)
  case frameBegin =>
    rw [← Option.some_inj.1 h]
    exact .frameBegin hpc
  case subFrame =>
    split at h
    · next hlt =>
      have hsame := SameFlags.of_random
        (sampleChannels_same E s.device.physicalPressureChannelCount s.device)
      rw [← Option.some_inj.1 h]
      dsimp only
      rw [hsame.scanning]
      exact .sample hpc hlt
    · rw [← Option.some_inj.1 h]
      exact .sampled hpc
  case average =>
    obtain ⟨-, h⟩ := Option.ite_none_left_eq_some.1 h
    rw [← Option.some_inj.1 h]
    exact .average hpc
  case emit =>
    rw [← Option.some_inj.1 h]
    exact .emit hpc
  case frameEnd =>
    rw [← Option.some_inj.1 h]
    dsimp only
    split
    · next hlimit => exact .limit hpc hlimit
    · next hlimit => exact .more hpc hlimit
  case limitStop =>
    rw [← Option.some_inj.1 h]
    dsimp only
    rw [stopScan_scanning]
    exact .stop hpc
  case nextFrame =>
    rw [← Option.some_inj.1 h]
    exact .next hpc
  case idle =>
    rw [← Option.some_inj.1 h]
    exact .idle hpc
  case finished => cases h

/-- The thread is stuck in a division by zero only. -/
theorem threadStep_of_averages (havg : 0 < s.device.nSubFrameAverages)
    (hpc : s.thread.pc ≠ .finished) : ∃ s', threadStep E s = some s' := by
  cases hs : s.thread.pc <;> simp only [threadStep, hs]
  case finished => exact absurd hs hpc
  case subFrame => split <;> exact ⟨_, rfl⟩
  case average =>
    rw [if_neg fun h => havg.ne' h.1]
    exact ⟨_, rfl⟩
  all_goals exact ⟨_, rfl⟩

/-! ### The steps that are left -/

/-- The steps to the end of the thread when the scan is off and a frame has at most `k` samples. -/
def stepsToEnd (k : ℕ) : ThreadPc → ℕ → ℕ
  | .finished, _ => 0
  | .outer, _ => 1
  | .idle, _ => 2
  | .scanTest, _ => 3
  | .nextFrame, _ => 4
  | .limitStop, _ => 5
  | .frameEnd, _ => 6
  | .emit, _ => 7
  | .average, _ => 8
  | .subFrame, i => 9 + (k - i)
  | .frameBegin, _ => 10 + k
  | .init, _ => 4
  | .calEnd, _ => 5
  | .calTest, _ => 6

/-- The frames behind this one to the one with the number of the limit. -/
def framesToLimit (fps frame : ℕ) : ℕ := (fps + 2 ^ 32 - frame) % 2 ^ 32

/-- The steps to the end of the thread when the scan is on and has a frame limit. -/
def stepsToLimit (k fps : ℕ) : ThreadPc → ℕ → ℕ → ℕ
  | .finished, _, _ => 0
  | .outer, _, _ => 1
  | .idle, _, _ => 2
  | .limitStop, _, _ => 5
  | .frameEnd, _, n => framesToLimit fps n * (k + 20) + 6
  | .emit, _, n => framesToLimit fps n * (k + 20) + 7
  | .average, _, n => framesToLimit fps n * (k + 20) + 8
  | .subFrame, i, n => framesToLimit fps n * (k + 20) + 9 + (k - i)
  | .frameBegin, _, n => framesToLimit fps n * (k + 20) + 10 + k
  | .scanTest, _, n => framesToLimit fps n * (k + 20) + 11 + k
  | .nextFrame, _, n => framesToLimit fps ((n + 1) % 2 ^ 32) * (k + 20) + 12 + k
  | .init, _, _ => framesToLimit fps 1 * (k + 20) + 12 + k
  | .calEnd, _, _ => framesToLimit fps 1 * (k + 20) + 13 + k
  | .calTest, _, _ => framesToLimit fps 1 * (k + 20) + 14 + k

theorem stepsToEnd_le (k : ℕ) (pc : ThreadPc) (i : ℕ) : stepsToEnd k pc i ≤ 10 + k := by
  cases pc <;> simp only [stepsToEnd] <;> omega

/-- The points from which the thread goes on to its end although the scan is on. -/
def ThreadPc.leaves : ThreadPc → Bool
  | .outer | .limitStop | .idle | .finished => true
  | _ => false

variable {on : Bool} {pc : ThreadPc} {i n k : ℕ}

theorem ThreadMove.frame_lt (h : ThreadMove d t on pc i n) (hframe : t.frame < 2 ^ 32) :
    n < 2 ^ 32 := by
  cases h with
  | next hpc => exact Nat.mod_lt _ (by norm_num)
  | init hpc => norm_num
  | _ => exact hframe

/-- With the scan off, every step brings the thread nearer to its end. -/
theorem ThreadMove.stepsToEnd_lt (h : ThreadMove d t on pc i n) (hrun : d.running = false)
    (hoff : d.scanning = false) (hk : d.nSubFrameAverages ≤ k) :
    on = false ∧ stepsToEnd k pc i < stepsToEnd k t.pc t.subFrame := by
  cases h with
  | again hpc hagain => simp [hrun] at hagain
  | enter hpc hon => simp [hoff] at hon
  | calibrated hpc =>
      refine ⟨hoff, ?_⟩
      rcases hpc with hpc | hpc
      · simp [hpc, stepsToEnd]
      · simp [hpc, stepsToEnd]
  | frameBegin hpc =>
      refine ⟨hoff, ?_⟩
      simp only [hpc, stepsToEnd]
      omega
  | sample hpc hlt =>
      refine ⟨hoff, ?_⟩
      simp only [hpc, stepsToEnd]
      omega
  | sampled hpc =>
      refine ⟨hoff, ?_⟩
      simp only [hpc, stepsToEnd]
      omega
  | stop hpc => exact ⟨rfl, by simp [hpc, stepsToEnd]⟩
  | _ => exact ⟨hoff, by simp [*, stepsToEnd]⟩

/-- One frame less is left behind a frame that is not the last. -/
theorem framesToLimit_next {fps frame : ℕ} (hfps : fps < 2 ^ 32) (hframe : frame < 2 ^ 32)
    (hne : fps ≠ frame) :
    framesToLimit fps ((frame + 1) % 2 ^ 32) + 1 = framesToLimit fps frame := by
  unfold framesToLimit
  omega

/-- The thread of a device that is not running gets to its end, if nobody interferes: the scan is
off, or has a frame limit, or the thread leaves its loop. -/
def Scanner.WillEnd (s : Scanner) : Prop :=
  s.device.scanning = false ∨ s.device.cfg.framesPerScan ≠ 0 ∨ s.thread.pc.leaves = true

instance (s : Scanner) : Decidable s.WillEnd := inferInstanceAs (Decidable (_ ∨ _ ∨ _))

/-- The steps that are left, with the scan on or off. -/
def stepsLeft (k fps : ℕ) (on : Bool) (pc : ThreadPc) (i n : ℕ) : ℕ :=
  if on then stepsToLimit k fps pc i n else stepsToEnd k pc i

/-- With the scan on, every step brings the thread nearer to the frame of the limit. -/
theorem ThreadMove.stepsToLimit_lt (h : ThreadMove d t on pc i n) (hrun : d.running = false)
    (hon : d.scanning = true)
    (hends : d.cfg.framesPerScan ≠ 0 ∨ t.pc.leaves = true) (hk : d.nSubFrameAverages ≤ k)
    (hfps : d.cfg.framesPerScan < 2 ^ 32) (hframe : t.frame < 2 ^ 32) :
    stepsLeft k d.cfg.framesPerScan on pc i n <
      stepsToLimit k d.cfg.framesPerScan t.pc t.subFrame t.frame := by
  cases h with
  | again hpc hagain => simp [hrun] at hagain
  | leave hpc hoff => simp [hon] at hoff
  | calibrated hpc =>
      rcases hpc with hpc | hpc
      · simp [hpc, hon, stepsLeft, stepsToLimit]
      · simp [hpc, hon, stepsLeft, stepsToLimit]
  | frameBegin hpc =>
      simp only [hpc, hon, stepsLeft, stepsToLimit, if_true]
      omega
  | sample hpc hlt =>
      simp only [hpc, hon, stepsLeft, stepsToLimit, if_true]
      omega
  | sampled hpc =>
      simp only [hpc, hon, stepsLeft, stepsToLimit, if_true]
      omega
  | limit hpc hlimit =>
      simp only [hpc, hon, stepsLeft, stepsToLimit, if_true]
      omega
  | more hpc hlimit =>
      have hne : d.cfg.framesPerScan ≠ t.frame := by
        intro heq
        refine hlimit ⟨?_, heq⟩
        simpa [hpc, ThreadPc.leaves] using hends
      simp only [hpc, hon, stepsLeft, stepsToLimit, if_true,
        ← framesToLimit_next hfps hframe hne, Nat.add_mul]
      omega
  | stop hpc => simp [hpc, stepsLeft, stepsToLimit, stepsToEnd]
  | _ => simp [*, stepsLeft, stepsToLimit]

/-! ### Left alone -/

theorem startScan_running (E : Env) (now : Clock) (d : Mps) :
    (startScan E now d).device.running = d.running := by
  cases hs : d.scanning with
  | true => rw [startScan_of_scanning hs]
  | false => simp [startScan, hs, updateScanAverages, configureScanLayout]

theorem stopScan_running (d : Mps) : (stopScan d).device.running = d.running := by
  cases hs : d.scanning with
  | true => rw [stopScan_device_of_scanning hs]
  | false => rw [stopScan_of_not_scanning hs]

/-- No call and no step of the thread writes `m_Running`. -/
theorem step_running {a : ScanAction} (h : step E s a = some s') :
    s'.device.running = s.device.running := by
  cases a with
  | startScan now => rw [← Option.some_inj.1 h]; exact startScan_running E now s.device
  | stopScan => rw [← Option.some_inj.1 h]; exact stopScan_running s.device
  | calZ => rw [← Option.some_inj.1 h]; rfl
  | command x cmd =>
      have heffect := parseCommands_effect E x s.device cmd
      rw [← Option.some_inj.1 h]
      generalize (parseCommands E x s.device cmd).device = d' at heffect
      cases heffect with
      | scan => exact startScan_running E x.now s.device
      | stop => exact stopScan_running s.device
      | calz => rfl
      | settings => rfl
  | thread =>
      have heffect := threadStep_effect h
      generalize s'.device = d' at heffect
      cases heffect with
      | calEnd => rfl
      | limitStop => exact stopScan_running s.device
      | random _ _ hsame => rw [hsame]

/-- What holds in every reachable state: the limit and the number of the frame have 32 bits, and
`m_Running` is not set again. -/
structure Closing.Sound (c : Closing) : Prop where
  fps : c.scanner.device.cfg.framesPerScan < 2 ^ 32
  frame : c.scanner.thread.frame < 2 ^ 32
  running : c.shutdown.cleared = true → c.scanner.device.running = false

variable {c c' : Closing}

theorem Closing.sound_start (deviceId : MpsDeviceID) (serialNumber : ℕ) :
    (Closing.start (attachConfig deviceId serialNumber)).Sound where
  fps := Nat.two_pow_pos 32
  frame := Nat.two_pow_pos 32
  running := by
    intro h
    cases h

/-- The steps of the system: one of the scanner, or one of the three statements of `Shutdown`. -/
inductive ClosingStep (E : Env) (c : Closing) : ClosingAction → Closing → Prop
  | scan (a : ScanAction) (s : Scanner) (h : MpsEmulator.step E c.scanner a = some s) :
      ClosingStep E c (.scan a) { c with scanner := s }
  | stopScan (hpc : c.shutdown = .notCalled) :
      ClosingStep E c .shutdown
        { scanner := { c.scanner with device := (MpsEmulator.stopScan c.scanner.device).device }
          shutdown := .scanStopped }
  | clear (hpc : c.shutdown = .scanStopped) :
      ClosingStep E c .shutdown
        { scanner := { c.scanner with device := { c.scanner.device with running := false } }
          shutdown := .joining }
  | join (hpc : c.shutdown = .joining) (hfinished : c.scanner.thread.pc = .finished) :
      ClosingStep E c .shutdown { c with shutdown := .returned }

/-- Every step is one of these. -/
theorem Closing.step_cases {a : ClosingAction} (h : Closing.step E c a = some c') :
    ClosingStep E c a c' := by
  cases a with
  | scan a =>
      obtain ⟨s, hs, rfl⟩ := Option.map_eq_some_iff.1 h
      exact .scan a s hs
  | shutdown =>
      simp only [Closing.step] at h
      cases hpc : c.shutdown <;> simp only [hpc] at h
      case notCalled =>
        rw [← Option.some_inj.1 h]
        exact .stopScan hpc
      case scanStopped =>
        rw [← Option.some_inj.1 h]
        exact .clear hpc
      case joining =>
        obtain ⟨hfinished, h⟩ := Option.ite_none_right_eq_some.1 h
        rw [← Option.some_inj.1 h]
        exact .join hpc hfinished
      case returned => cases h

/-- **Every step keeps the state sound.** -/
theorem Closing.Sound.step {a : ClosingAction} (hs : c.Sound) (h : Closing.step E c a = some c') :
    c'.Sound := by
  cases Closing.step_cases h with
  | scan a s hstep =>
      refine ⟨?_, ?_, ?_⟩
      · exact CfgStep.preserved (fun _ _ hc hcc' => hcc'.framesPerScan_lt hc) hs.fps
          (step_cfg hstep)
      · by_cases ha : a = .thread
        · subst ha
          exact (threadStep_move hstep).frame_lt hs.frame
        · rw [step_thread hstep ha]
          exact hs.frame
      · intro hpc
        rw [step_running hstep]
        exact hs.running hpc
  | stopScan hpc =>
      refine ⟨?_, hs.frame, ?_⟩
      · rw [stopScan_cfg]
        exact hs.fps
      · intro h
        cases h
  | clear hpc => exact ⟨hs.fps, hs.frame, fun _ => rfl⟩
  | join hpc hfinished =>
      refine ⟨hs.fps, hs.frame, fun _ => hs.running ?_⟩
      rw [hpc]
      rfl

/-- `Shutdown` waits for the thread, which gets to its end. -/
structure Closing.InTime (k : ℕ) (c : Closing) : Prop where
  sound : c.Sound
  joining : c.shutdown = .joining
  averages : c.scanner.device.nSubFrameAverages = k
  ends : c.scanner.WillEnd

/-- The steps that the thread has left. -/
def Closing.stepsLeft (k : ℕ) (c : Closing) : ℕ :=
  let t := c.scanner.thread
  MpsEmulator.stepsLeft k c.scanner.device.cfg.framesPerScan c.scanner.device.scanning t.pc
    t.subFrame t.frame

/-- A thread that gets to its end does so after each of its steps. -/
theorem Scanner.WillEnd.step (hends : s.WillEnd) (hrun : s.device.running = false)
    (h : threadStep E s = some s') : s'.WillEnd := by
  obtain ⟨hcfg, -⟩ := threadStep_settings h
  unfold Scanner.WillEnd at hends ⊢
  rw [hcfg]
  have hmove := threadStep_move h
  generalize s'.device.scanning = on, s'.thread.pc = pc, s'.thread.subFrame = i,
    s'.thread.frame = n at hmove ⊢
  cases hmove with
  | stop hpc => exact Or.inl rfl
  | outer hpc hrun => exact Or.inr (Or.inr rfl)
  | idle hpc => exact Or.inr (Or.inr rfl)
  | leave hpc hoff => exact Or.inl hoff
  | limit hpc hlimit => exact Or.inr (Or.inr rfl)
  | calibrated hpc =>
      rcases hpc with hpc | hpc
      · simpa [hpc, ThreadPc.leaves] using hends
      · simpa [hpc, ThreadPc.leaves] using hends
  | again hpc hagain => simp [hrun] at hagain
  | _ => simpa [*, ThreadPc.leaves] using hends

/-- A thread that does not get to its end is not at its end, and does not after its next step. -/
theorem Scanner.not_willEnd_step (hends : ¬ s.WillEnd) (h : threadStep E s = some s') :
    ¬ s'.WillEnd := by
  obtain ⟨hcfg, -⟩ := threadStep_settings h
  unfold Scanner.WillEnd at hends ⊢
  rw [hcfg]
  have hmove := threadStep_move h
  generalize s'.device.scanning = on, s'.thread.pc = pc, s'.thread.subFrame = i,
    s'.thread.frame = n at hmove ⊢
  simp only [not_or, Bool.not_eq_false, Bool.not_eq_true, not_not] at hends ⊢
  obtain ⟨hon, hfps, hpc⟩ := hends
  refine ⟨?_, hfps, ?_⟩
  · cases hmove with
    | stop hstop => simp [hstop, ThreadPc.leaves] at hpc
    | _ => exact hon
  · cases hmove with
    | outer houter => simp [houter, ThreadPc.leaves] at hpc
    | idle hidle => simp [hidle, ThreadPc.leaves] at hpc
    | leave hleave hoff => simp [hon] at hoff
    | limit hend hlimit => exact absurd hfps hlimit.1
    | _ => rfl

/-- The thread makes its next step, in time. -/
theorem Closing.InTime.progress (hk : 0 < k) (hc : c.InTime k)
    (hpc : c.scanner.thread.pc ≠ .finished) :
    ∃ c', Closing.step E c (.scan .thread) = some c' ∧ c'.InTime k ∧
      c'.stepsLeft k < c.stepsLeft k := by
  have hrun := hc.sound.running (by rw [hc.joining]; rfl)
  obtain ⟨s, hs⟩ := threadStep_of_averages (E := E) (hc.averages ▸ hk) hpc
  have hstep : Closing.step E c (.scan .thread) = some { c with scanner := s } :=
    Option.map_eq_some_iff.2 ⟨s, hs, rfl⟩
  obtain ⟨hcfg, haverages⟩ := threadStep_settings hs
  have hends := hc.ends
  refine ⟨_, hstep, ⟨hc.sound.step hstep, hc.joining, ?_, hends.step hrun hs⟩, ?_⟩
  · rw [← hc.averages]
    exact haverages
  · have hmove := threadStep_move hs
    unfold Closing.stepsLeft
    rw [hcfg]
    cases hon : c.scanner.device.scanning with
    | true =>
        refine hmove.stepsToLimit_lt hrun hon ?_ hc.averages.le hc.sound.fps hc.sound.frame
        simpa [Scanner.WillEnd, hon] using hends
    | false =>
        obtain ⟨hoff, hlt⟩ := hmove.stepsToEnd_lt hrun hon hc.averages.le
        rw [hoff]
        exact hlt

/-- **Left alone, `Shutdown` returns exactly if the scan is off, or has a frame limit, or the thread
is leaving the loop of the scan.**  So in every state of every run in which `Shutdown` waits and the
thread does not divide by zero. -/
theorem shutdown_returns_iff (E : Env) (deviceId : MpsDeviceID) (serialNumber : ℕ)
    (as : List ClosingAction) {c : Closing}
    (hrun : Runs.exec (Closing.step E) (.start (attachConfig deviceId serialNumber)) as = some c)
    (hjoin : c.shutdown = .joining) (havg : 0 < c.scanner.device.nSubFrameAverages) :
    (∃ k, (Runs.exec (Closing.step E) c
        (List.replicate k (.scan .thread) ++ [.shutdown])).isSome = true) ↔
      c.scanner.WillEnd := by
  have hsound : c.Sound :=
    Runs.invariant (P := Closing.Sound) (fun _ _ _ hs h => hs.step h)
      (Closing.sound_start deviceId serialNumber) hrun
  constructor
  · rintro ⟨k, hk⟩
    by_contra hends
    obtain ⟨t, ht⟩ := Option.isSome_iff_exists.1 hk
    obtain ⟨c', hc', ht⟩ := Runs.exec_append_eq_some.1 ht
    obtain ⟨t', ht', -⟩ := Runs.exec_cons_eq_some.1 ht
    -- the steps of the thread keep `Shutdown` where it is, and the thread in its loop
    have hstays : c'.shutdown = .joining ∧ ¬ c'.scanner.WillEnd := by
      refine (Runs.throughout_of_along
        (P := fun c => c.shutdown = .joining ∧ ¬ c.scanner.WillEnd) ?_ ⟨hjoin, hends⟩
        (Runs.along_of_forall fun a ha => List.eq_of_mem_replicate ha)).final hc'
      rintro s a s' ⟨hpc, hnot⟩ rfl hs
      obtain ⟨s₁, hs₁, rfl⟩ := Option.map_eq_some_iff.1 hs
      exact ⟨hpc, Scanner.not_willEnd_step hnot hs₁⟩
    obtain ⟨hpc, hnot⟩ := hstays
    cases Closing.step_cases ht' with
    | stopScan hbefore => simp [hpc] at hbefore
    | clear hbefore => simp [hpc] at hbefore
    | join _ hfinished => exact hnot (Or.inr (Or.inr (by rw [hfinished]; rfl)))
  · intro hends
    have htime : c.InTime c.scanner.device.nSubFrameAverages := ⟨hsound, hjoin, rfl, hends⟩
    obtain ⟨k, c', hc', htime', hfinished⟩ :=
      Runs.exists_replicate_of_measure (P := fun c => c.scanner.thread.pc = .finished)
        (fun _ hc hpc => hc.progress havg hpc) htime
    refine ⟨k, ?_⟩
    have hlast : Closing.step E c' .shutdown = some { c' with shutdown := .returned } := by
      simp [Closing.step, htime'.joining, hfinished]
    rw [Runs.exec_append, hc', Option.bind_some, Runs.exec_cons, hlast]
    rfl

/-- The thread comes to the test of `m_Scanning`, `Shutdown` calls `StopScan`, a client sets the
limit and starts a scan, and `Shutdown` goes on. -/
def scanBehindStop (fps : Bytes) : List ClosingAction :=
  List.replicate 3 (.scan .thread) ++
    [.shutdown, .scan (.command .quiet ("SET FPS ".toList ++ fps)),
      .scan (.startScan { steady := 0, system := 0 }), .shutdown]

/-- With a limit of one frame `Shutdown` returns, and without a limit it never does. -/
theorem shutdown_returns_iff_limit :
    (∃ c, Runs.exec (Closing.step referenceEnv) (.start (attachConfig mps4216 1))
        (scanBehindStop ['1']) = some c ∧
      ∃ k, (Runs.exec (Closing.step referenceEnv) c
        (List.replicate k (.scan .thread) ++ [.shutdown])).isSome = true) ∧
    ∃ c, Runs.exec (Closing.step referenceEnv) (.start (attachConfig mps4216 1))
        (scanBehindStop ['0']) = some c ∧
      ¬ ∃ k, (Runs.exec (Closing.step referenceEnv) c
        (List.replicate k (.scan .thread) ++ [.shutdown])).isSome = true := by
  have hlimit : (Runs.exec (Closing.step referenceEnv) (.start (attachConfig mps4216 1))
      (scanBehindStop ['1'])).map (fun c => (c.shutdown, c.scanner.device.nSubFrameAverages,
        decide c.scanner.WillEnd)) = some (.joining, 50, true) := by
    decide +kernel
  have hnone : (Runs.exec (Closing.step referenceEnv) (.start (attachConfig mps4216 1))
      (scanBehindStop ['0'])).map (fun c => (c.shutdown, c.scanner.device.nSubFrameAverages,
        decide c.scanner.WillEnd)) = some (.joining, 50, false) := by
    decide +kernel
  obtain ⟨c, hc, hends⟩ := Option.map_eq_some_iff.1 hlimit
  obtain ⟨c', hc', hends'⟩ := Option.map_eq_some_iff.1 hnone
  simp only [Prod.mk.injEq, decide_eq_true_eq, decide_eq_false_iff_not] at hends hends'
  refine ⟨⟨c, hc, ?_⟩, c', hc', ?_⟩
  · exact (shutdown_returns_iff referenceEnv _ _ _ hc hends.1 (by omega)).2 hends.2.2
  · rw [shutdown_returns_iff referenceEnv _ _ _ hc' hends'.1 (by omega)]
    exact hends'.2.2

/-! ### With other calls -/

/-- The step starts no scan behind the call of `StopScan` in `Shutdown`. -/
def Closing.Quiet (c : Closing) : ClosingAction → Prop
  | .scan a => c.shutdown ≠ .notCalled → (flagChange c.scanner a).isStart = false
  | .shutdown => True

instance (c : Closing) (a : ClosingAction) : Decidable (c.Quiet a) := by
  unfold Closing.Quiet
  split <;> infer_instance

/-- The invariant of runs without such a start. -/
structure Closing.Stopped (c : Closing) : Prop where
  sound : c.Sound
  off : c.shutdown ≠ .notCalled → c.scanner.device.scanning = false

/-- **Without a start, the scan stays off behind `StopScan`.** -/
theorem Closing.Stopped.step {a : ClosingAction} (hs : c.Stopped) (hquiet : c.Quiet a)
    (h : Closing.step E c a = some c') : c'.Stopped := by
  refine ⟨hs.sound.step h, ?_⟩
  cases Closing.step_cases h with
  | scan a s hstep =>
      intro hpc
      rcases (step_device hstep).scanStart with ⟨hstart, -⟩ | ⟨-, hon⟩
      · rw [hquiet hpc] at hstart
        cases hstart
      · refine Bool.eq_false_iff.2 fun hs' => ?_
        have hoff := hs.off hpc
        rw [hon hs'] at hoff
        cases hoff
  | stopScan hpc => exact fun _ => stopScan_scanning
  | clear hpc => exact fun _ => hs.off (by simp [hpc])
  | join hpc hfinished => exact fun _ => hs.off (by simp [hpc])

theorem Closing.stopped_start (deviceId : MpsDeviceID) (serialNumber : ℕ) :
    (Closing.start (attachConfig deviceId serialNumber)).Stopped where
  sound := Closing.sound_start deviceId serialNumber
  off := fun h => absurd rfl h

/-- A step behind `m_Running = false` leaves the thread no more steps than it had, and a step of the
thread leaves it fewer. -/
theorem Closing.Stopped.stepsToEnd_le {a : ClosingAction} (hs : c.Stopped)
    (hcleared : c.shutdown.cleared = true) (hk : c.scanner.device.nSubFrameAverages ≤ k)
    (h : Closing.step E c a = some c') :
    c'.shutdown.cleared = true ∧
      stepsToEnd k c'.scanner.thread.pc c'.scanner.thread.subFrame +
          (decide (a = .scan .thread)).toNat ≤
        stepsToEnd k c.scanner.thread.pc c.scanner.thread.subFrame := by
  have hcalled : c.shutdown ≠ .notCalled := by
    intro hpc
    simp [hpc, ShutdownPc.cleared] at hcleared
  cases Closing.step_cases h with
  | scan a s hstep =>
      refine ⟨hcleared, ?_⟩
      by_cases ha : a = .thread
      · subst ha
        have hrun := hs.sound.running hcleared
        obtain ⟨-, hlt⟩ := (threadStep_move hstep).stepsToEnd_lt hrun (hs.off hcalled) hk
        simpa using hlt
      · rw [step_thread hstep ha]
        simp [ha]
  | stopScan hpc => exact absurd hpc hcalled
  | clear hpc => simp [hpc, ShutdownPc.cleared] at hcleared
  | join hpc hfinished => exact ⟨rfl, le_rfl⟩

/-- **If nobody starts a scan behind the call of `StopScan` in `Shutdown`, then `Shutdown`
returns**, whatever else is called: while the number of averages is between 1 and `k`, the thread
makes at most `10 + k` steps behind `m_Running = false`, and until `Shutdown` has returned, the
thread or `Shutdown` can make the next one. -/
theorem shutdown_bounded (E : Env) (deviceId : MpsDeviceID) (serialNumber k : ℕ)
    (as bs : List ClosingAction) {c c' : Closing}
    (hquiet : Runs.Along (Closing.step E) Closing.Quiet
      (.start (attachConfig deviceId serialNumber)) (as ++ bs))
    (hrun : Runs.exec (Closing.step E) (.start (attachConfig deviceId serialNumber)) as = some c)
    (hjoin : c.shutdown = .joining) (hcont : Runs.exec (Closing.step E) c bs = some c')
    (havg : Runs.Throughout (Closing.step E)
      (fun c => 0 < c.scanner.device.nSubFrameAverages ∧
        c.scanner.device.nSubFrameAverages ≤ k) c bs) :
    bs.count (.scan .thread) ≤ 10 + k ∧
      (c'.shutdown = .returned ∨ (Closing.step E c' (.scan .thread)).isSome = true ∨
        (Closing.step E c' .shutdown).isSome = true) := by
  have hstopped : c.Stopped :=
    (Runs.throughout_of_along (fun _ _ _ hs hq h => hs.step hq h)
      (Closing.stopped_start deviceId serialNumber) hquiet.left).final hrun
  have hcleared : c.shutdown.cleared = true := by
    rw [hjoin]
    rfl
  have hstep : ∀ c a c', (c.Stopped ∧ c.shutdown.cleared = true) →
      (c.Quiet a ∧ (0 < c.scanner.device.nSubFrameAverages ∧
        c.scanner.device.nSubFrameAverages ≤ k)) → Closing.step E c a = some c' →
      c'.Stopped ∧ c'.shutdown.cleared = true :=
    fun c a c' hc hq h => ⟨hc.1.step hq.1 h, (hc.1.stepsToEnd_le hc.2 hq.2.2 h).1⟩
  have hsteps := (hquiet.right hrun).and havg.along
  constructor
  · have hcount := Runs.countP_add_le_of_along
      (μ := fun c => stepsToEnd k c.scanner.thread.pc c.scanner.thread.subFrame)
      (f := fun a => a == .scan .thread) hstep ?_ ⟨hstopped, hcleared⟩ hsteps hcont
    · have hle := MpsEmulator.stepsToEnd_le k c.scanner.thread.pc c.scanner.thread.subFrame
      rw [List.count]
      omega
    · intro c a c' hc hq h
      exact (hc.1.stepsToEnd_le hc.2 hq.2.2 h).2
  · have hthroughout := Runs.throughout_of_along hstep ⟨hstopped, hcleared⟩ hsteps
    obtain ⟨-, hcleared'⟩ := hthroughout.final hcont
    by_cases hpc : c'.scanner.thread.pc = .finished
    · cases hshutdown : c'.shutdown <;> simp only [hshutdown, ShutdownPc.cleared] at hcleared'
      case joining => exact Or.inr (Or.inr (by simp [Closing.step, hshutdown, hpc]))
      case returned => exact Or.inl rfl
      all_goals cases hcleared'
    · obtain ⟨s, hs⟩ := threadStep_of_averages (E := E) (havg.final hcont).1 hpc
      refine Or.inr (Or.inl ?_)
      rw [Closing.step, MpsEmulator.step, hs]
      rfl

/-- A scan is on when `Shutdown` is called. -/
def stopDuringScan : List ClosingAction :=
  .scan (.startScan { steady := 0, system := 0 }) ::
    List.replicate 6 (.scan .thread) ++ [.shutdown, .shutdown]

/-- A client sets the rate while `Shutdown` waits. -/
def setWhileJoining : List ClosingAction :=
  [.scan .thread, .scan (.command .quiet "SET RATE 500".toList), .scan .thread]

theorem shutdown_bounded_scan :
    ∃ c c', Runs.exec (Closing.step referenceEnv) (.start (attachConfig mps4216 1))
        stopDuringScan = some c ∧
      Runs.exec (Closing.step referenceEnv) c setWhileJoining = some c' ∧
      setWhileJoining.count (.scan .thread) ≤ 10 + 50 ∧
      (c'.shutdown = .returned ∨
        (Closing.step referenceEnv c' (.scan .thread)).isSome = true ∨
        (Closing.step referenceEnv c' .shutdown).isSome = true) := by
  have hrun : (Runs.exec (Closing.step referenceEnv) (.start (attachConfig mps4216 1))
      stopDuringScan).any (fun c =>
        decide (c.shutdown = .joining) &&
          (Runs.exec (Closing.step referenceEnv) c setWhileJoining).isSome &&
          decide (Runs.Throughout (Closing.step referenceEnv)
            (fun c => 0 < c.scanner.device.nSubFrameAverages ∧
              c.scanner.device.nSubFrameAverages ≤ 50) c setWhileJoining)) = true := by
    decide +kernel
  obtain ⟨c, hc, hfacts⟩ := (Option.any_eq_true _ _).1 hrun
  simp only [Bool.and_eq_true, decide_eq_true_eq] at hfacts
  obtain ⟨⟨hjoin, hsome⟩, havg⟩ := hfacts
  obtain ⟨c', hc'⟩ := Option.isSome_iff_exists.1 hsome
  refine ⟨c, c', hc, hc', ?_⟩
  refine shutdown_bounded referenceEnv _ _ 50 _ _ ?_ hc hjoin hc' havg
  decide +kernel

end MpsEmulator
