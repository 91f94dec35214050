/-
**The scan thread and the calls it runs beside.**

`Mps::ScanThreadFn` is two nested loops on a thread of its own, while commands and the binary
server call the device from other threads.  The model is a program counter for the thread and one
step for each piece of its code between two points where the other threads may run.  A step of the
system is a step of the thread or one whole call.

* `ThreadPc`, `ScanThread`, `Scanner` — the points of the code, the local variables of the thread,
  and both together with the device;
* `threadStep` — one step of the thread;
* `ScanAction`, `step` — the system;
* `Event`, `observe` — what is seen of a step: a scan beginning or ending, the samples and averages
  of a frame, and the emission of a frame;
* `FlagChange`, `flagChange` — which of the calls a step makes, whoever asks for it.

`step_device` says once what a step does to the flags of the device, `step_averages` what a call
does to the number of averages, and `step_thread` that only the thread moves its own program counter
and variables.

A step that would divide by zero has no successor: the process is gone.
-/

import MpsEmulator.Packets
import MpsEmulator.ParseCommands
import MpsEmulator.Runs

set_option relaxedAutoImplicit false
set_option autoImplicit false

namespace MpsEmulator

/-! ### The state -/

/-- The points of `ScanThreadFn` between which the thread runs undisturbed. -/
inductive ThreadPc
  /-- `while (m_Running)` -/
  | outer
  /-- `if (m_Calibrating)` -/
  | calTest
  /-- behind the sleep of two seconds -/
  | calEnd
  /-- `frame_start = m_ScanStartTime; frame = 1` -/
  | init
  /-- `while (m_Scanning)` -/
  | scanTest
  /-- the beginning of a frame: its times, and the cleared arrays -/
  | frameBegin
  /-- the test and one round of the loop over the sub-frames -/
  | subFrame
  /-- the averages -/
  | average
  /-- the LabVIEW frame and the binary packet -/
  | emit
  /-- the end of the frame, and the test of the frame limit -/
  | frameEnd
  /-- `StopScan()` at the frame limit -/
  | limitStop
  /-- `frame += 1` -/
  | nextFrame
  /-- the sleep of 100 ms -/
  | idle
  | finished
  deriving DecidableEq

/-- The local variables of the thread.  `dt` is `frame_start - m_ScanStartTime` as it was computed
at the beginning of the frame, and `subFrame` the index of the loop over the sub-frames. -/
structure ScanThread where
  pc : ThreadPc
  frameStart : ℤ
  frameEnd : ℤ
  frame : ℕ
  dt : ℤ
  subFrame : ℕ
  countsAccumulator : ℕ → ℤ
  counts : ℕ → ℤ
  pressure : ℕ → ℚ
  temperature : ℕ → ℚ

/-- The device and its scan thread. -/
structure Scanner where
  device : Mps
  thread : ScanThread

/-- A device that was just started, with its thread before the first test. -/
def Scanner.start (cfg : MpsConfig) : Scanner where
  device := MpsEmulator.start (Mps.init cfg)
  thread :=
    { pc := .outer, frameStart := 0, frameEnd := 0, frame := 0, dt := 0, subFrame := 0
      countsAccumulator := fun _ => 0, counts := fun _ => 0
      pressure := fun _ => 0, temperature := fun _ => 0 }

/-! ### Steps of the thread -/

/-- The nanoseconds from the start of a frame to its end, `(int)(1e9 / scan_rate_hz)`, with an exact
quotient. -/
def framePeriod (E : Env) (cfg : MpsConfig) : ℤ :=
  (cfg.scanRateHz.divInto (10 ^ 9)).toInt32 E.int32OutOfRange

/-- The average of a channel, limited to what the converter can deliver. -/
def averageCounts (E : Env) (d : Mps) (acc : ℕ → ℤ) : ℕ → ℤ := fun i =>
  if i < d.physicalPressureChannelCount then
    max E.mpsMinSignedAdcCounts
      (min ((acc i).tdiv d.nSubFrameAverages) E.mpsMaxSignedAdcCounts)
  else 0

/-- The pressure of a channel in the units in force when the averages are taken, without the
rounding of the `float`s. -/
def pressureOf (E : Env) (d : Mps) (counts : ℕ → ℤ) : ℕ → ℚ := fun i =>
  if i < d.physicalPressureChannelCount then
    counts i / E.mpsMaxSignedAdcCounts * E.mpsUnitsConversionFactor d.cfg.units
  else 0

/-- The temperature of a channel, without the rounding of the `float`s. -/
def temperatureOf (E : Env) (d : Mps) (counts : ℕ → ℤ) : ℕ → ℚ := fun i =>
  if i < d.physicalTemperatureChannelCount then 32 + counts i / E.mpsMaxSignedAdcCounts else 0

/-- The results of the current frame. -/
def ScanThread.frameData (t : ScanThread) : FrameData where
  frame := t.frame
  dt := t.dt
  counts := t.counts
  pressure := t.pressure
  temperature := t.temperature

/-- The accumulator after one sample of every physical channel was added. -/
def addSamples (acc : ℕ → ℤ) (samples : List ℤ) : ℕ → ℤ := fun i => acc i + samples.getD i 0

/-- One step of the scan thread. -/
def threadStep (E : Env) (s : Scanner) : Option Scanner :=
  let d := s.device
  let t := s.thread
  let goto (pc : ThreadPc) : Option Scanner := some { s with thread := { t with pc := pc } }
  match t.pc with
  | .outer => goto (if d.running then .calTest else .finished)
  | .calTest => goto (if d.calibrating then .calEnd else .init)
  | .calEnd =>
      some { device := { d with calibrating := false, status := .ready }
             thread := { t with pc := .init } }
  | .init =>
      some { s with
        thread := { t with pc := .scanTest, frameStart := d.scanStartTime, frame := 1 } }
  | .scanTest => goto (if d.scanning then .frameBegin else .idle)
  | .frameBegin =>
      some { s with thread := { t with
        pc := .subFrame
        frameEnd := t.frameStart + framePeriod E d.cfg
        dt := t.frameStart - d.scanStartTime
        subFrame := 0
        countsAccumulator := fun _ => 0
        counts := fun _ => 0
        pressure := fun _ => 0
        temperature := fun _ => 0 } }
  | .subFrame =>
      if t.subFrame < d.nSubFrameAverages then
        let (samples, d') := sampleChannels E d.physicalPressureChannelCount d
        some { device := d'
               thread := { t with
                 subFrame := t.subFrame + 1
                 countsAccumulator := addSamples t.countsAccumulator samples } }
      else goto .average
  | .average =>
      if d.nSubFrameAverages = 0 ∧ d.physicalPressureChannelCount ≠ 0 then none
      else
        let counts := averageCounts E d t.countsAccumulator
        some { s with thread := { t with
          pc := .emit
          counts := counts
          pressure := pressureOf E d counts
          temperature := temperatureOf E d counts } }
  | .emit => goto .frameEnd
  | .frameEnd =>
      some { s with thread := { t with
        pc := if d.cfg.framesPerScan ≠ 0 ∧ d.cfg.framesPerScan = t.frame then .limitStop
              else .nextFrame
        frameStart := t.frameEnd } }
  | .limitStop =>
      some { device := (stopScan d).device, thread := { t with pc := .nextFrame } }
  | .nextFrame =>
      some { s with thread := { t with pc := .scanTest, frame := (t.frame + 1) % 2 ^ 32 } }
  | .idle => goto .outer
  | .finished => none

/-! ### The system -/

/-- The steps of the system: a call from another thread, or a step of the scan thread. -/
inductive ScanAction
  | startScan (now : Clock)
  | stopScan
  | calZ
  | command (x : Session) (cmd : Bytes)
  | thread
  deriving DecidableEq

/-- The device and the scan thread, one action at a time. -/
def step (E : Env) (s : Scanner) : ScanAction → Option Scanner
  | .startScan now => some { s with device := (MpsEmulator.startScan E now s.device).device }
  | .stopScan => some { s with device := (MpsEmulator.stopScan s.device).device }
  | .calZ => some { s with device := (MpsEmulator.calZ s.device).device }
  | .command x cmd => some { s with device := (parseCommands E x s.device cmd).device }
  | .thread => threadStep E s

/-! ### Observations -/

/-- What a frame carries when it is emitted. -/
structure Emission where
  frame : ℕ
  dt : ℤ
  labview : Option (List ℚ)
  packet : Option Packet

/-- What can be seen of a step. -/
inductive Event
  | scanStarted
  | scanStopped
  | frameBegun
  | sampled (samples : List ℤ)
  | averaged (divisor : ℕ) (channels : ℕ) (counts : ℕ → ℤ)
  | emitted (e : Emission)

/-- What can be seen of a step of the thread, apart from the end of the scan. -/
def observeThread (E : Env) (s : Scanner) : List Event :=
  let d := s.device
  let t := s.thread
  match t.pc with
  | .frameBegin => [.frameBegun]
  | .subFrame =>
      if t.subFrame < d.nSubFrameAverages then
        [.sampled (sampleChannels E d.physicalPressureChannelCount d).1]
      else []
  | .average =>
      [.averaged d.nSubFrameAverages d.physicalPressureChannelCount
        (averageCounts E d t.countsAccumulator)]
  | .emit =>
      [.emitted
        { frame := t.frame
          dt := t.dt
          labview := labviewFrame E d t.frameData
          packet := binaryFrame E d t.frameData }]
  | _ => []

/-- A scan that begins or ends: a call that takes effect changes `m_Scanning`. -/
def observeScan (s s' : Scanner) : List Event :=
  match s.device.scanning, s'.device.scanning with
  | false, true => [.scanStarted]
  | true, false => [.scanStopped]
  | _, _ => []

/-- What can be seen of a step. -/
def observe (E : Env) (s : Scanner) (a : ScanAction) (s' : Scanner) : List Event :=
  observeScan s s' ++
    match a with
    | .thread => observeThread E s
    | _ => []

/-- The system together with everything seen of it so far. -/
def observed (E : Env) : Scanner × List Event → ScanAction → Option (Scanner × List Event) :=
  Runs.record (step E) (observe E)

theorem observe_of_ne_thread {E : Env} {s s' : Scanner} {a : ScanAction} (ha : a ≠ .thread) :
    observe E s a s' = observeScan s s' := by
  cases a with
  | thread => exact absurd rfl ha
  | _ => exact List.append_nil _

/-- A rule for observed steps: one obligation for the thread, and one for the calls, of which only a
scan start is seen. -/
theorem observed_rule {E : Env} {J : Scanner × List Event → Prop} {σ σ' : Scanner × List Event}
    {a : ScanAction}
    (hthread : ∀ s', a = .thread → step E σ.1 .thread = some s' →
      J (s', σ.2 ++ observe E σ.1 .thread s'))
    (hcall : ∀ s', a ≠ .thread → step E σ.1 a = some s' → J (s', σ.2 ++ observeScan σ.1 s'))
    (h : observed E σ a = some σ') : J σ' := by
  obtain ⟨s', seen'⟩ := σ'
  obtain ⟨hstep, hseen⟩ := Runs.record_eq_some.1 h
  dsimp only at hstep hseen
  rw [hseen]
  by_cases ha : a = .thread
  · rw [ha] at hstep ⊢
    exact hthread s' ha hstep
  · rw [observe_of_ne_thread ha]
    exact hcall s' ha hstep

/-! ### What a step does to the device -/

/-- The changes a step can make to the flags of the device. -/
inductive FlagChange
  | start (now : Clock)
  | stop
  | calibrate
  | calibrated
  | none

/-- The change is a call of `StartScan`. -/
def FlagChange.isStart : FlagChange → Bool
  | .start _ => true
  | _ => false

/-- The change a step asks for: by a call, by a command, or by the thread itself. -/
def flagChange (s : Scanner) : ScanAction → FlagChange
  | .startScan now => .start now
  | .stopScan => .stop
  | .calZ => .calibrate
  | .command x cmd =>
      match verb cmd with
      | some .scan => .start x.now
      | some .stop => .stop
      | some .calz => .calibrate
      | _ => .none
  | .thread =>
      match s.thread.pc with
      | .calEnd => .calibrated
      | .limitStop => .stop
      | _ => .none

/-- The two devices have the same flags, scan start and channels. -/
structure SameFlags (d d' : Mps) : Prop where
  status : d'.status = d.status
  scanning : d'.scanning = d.scanning
  calibrating : d'.calibrating = d.calibrating
  scanStartTime : d'.scanStartTime = d.scanStartTime
  pressureChannels : d'.physicalPressureChannelCount = d.physicalPressureChannelCount

theorem SameFlags.refl (d : Mps) : SameFlags d d := ⟨rfl, rfl, rfl, rfl, rfl⟩

theorem SameFlags.of_random {d d' : Mps} (h : SameButRandom d d') : SameFlags d d' := by
  rw [h]
  exact ⟨rfl, rfl, rfl, rfl, rfl⟩

variable {E : Env} {s s' : Scanner} {a : ScanAction}

/-- What a step of the thread can do to the device: end a calibration, stop the scan, or take values
from the random engine. -/
inductive ThreadEffect (s : Scanner) : Mps → Prop
  | calEnd (hpc : s.thread.pc = .calEnd) :
      ThreadEffect s { s.device with calibrating := false, status := .ready }
  | limitStop (hpc : s.thread.pc = .limitStop) : ThreadEffect s (stopScan s.device).device
  | random {d' : Mps} (hcal : s.thread.pc ≠ .calEnd) (hstop : s.thread.pc ≠ .limitStop)
      (hsame : SameButRandom s.device d') : ThreadEffect s d'

theorem threadStep_effect (h : threadStep E s = some s') : ThreadEffect s s'.device := by
  unfold threadStep at h
  cases hpc : s.thread.pc <;> simp only [hpc] at h
  case calEnd =>
    rw [← Option.some_inj.1 h]
    exact .calEnd hpc
  case limitStop =>
    rw [← Option.some_inj.1 h]
    exact .limitStop hpc
  case finished => exact absurd h (by simp)
  all_goals refine .random (by simp [hpc]) (by simp [hpc]) ?_
  case subFrame =>
    split at h
    · rw [← Option.some_inj.1 h]
      exact sampleChannels_same E _ _
    · rw [← Option.some_inj.1 h]
      rfl
  case average =>
    obtain ⟨-, h⟩ := Option.ite_none_left_eq_some.1 h
    rw [← Option.some_inj.1 h]
    rfl
  all_goals
    rw [← Option.some_inj.1 h]
    rfl

/-- The thread leaves the configuration and the number of averages as they are. -/
theorem threadStep_settings (h : threadStep E s = some s') :
    s'.device.cfg = s.device.cfg ∧
      s'.device.nSubFrameAverages = s.device.nSubFrameAverages := by
  have heffect := threadStep_effect h
  generalize s'.device = d' at heffect
  cases heffect with
  | calEnd => exact ⟨rfl, rfl⟩
  | limitStop => exact ⟨stopScan_cfg, stopScan_nSubFrameAverages⟩
  | random _ _ hsame =>
      rw [hsame]
      exact ⟨rfl, rfl⟩

/-- What a change does to the device. -/
inductive DeviceStep (E : Env) (d : Mps) : FlagChange → Mps → Prop
  | start (now : Clock) : DeviceStep E d (.start now) (startScan E now d).device
  | stop : DeviceStep E d .stop (stopScan d).device
  | calibrate : DeviceStep E d .calibrate (calZ d).device
  | calibrated : DeviceStep E d .calibrated { d with calibrating := false, status := .ready }
  | none {d' : Mps} (h : SameFlags d d') : DeviceStep E d .none d'

/-- A command makes the call its first token names, and otherwise changes no flag. -/
theorem parseCommands_deviceStep (E : Env) (x : Session) (s : Scanner) (cmd : Bytes) :
    DeviceStep E s.device (flagChange s (.command x cmd))
      (parseCommands E x s.device cmd).device := by
  have heffect := parseCommands_effect E x s.device cmd
  generalize (parseCommands E x s.device cmd).device = d' at heffect
  rw [flagChange]
  cases heffect with
  | scan hverb =>
      rw [hverb]
      exact .start x.now
  | stop hverb =>
      rw [hverb]
      exact .stop
  | calz hverb =>
      rw [hverb]
      exact .calibrate
  | settings hscan hstop hcalz =>
      split
      · next hverb => exact absurd hverb hscan
      · next hverb => exact absurd hverb hstop
      · next hverb => exact absurd hverb hcalz
      · exact .none ⟨rfl, rfl, rfl, rfl, rfl⟩

/-- A step of the thread ends a calibration, stops the scan, or changes no flag. -/
theorem threadStep_deviceStep (h : threadStep E s = some s') :
    DeviceStep E s.device (flagChange s .thread) s'.device := by
  have heffect := threadStep_effect h
  generalize s'.device = d' at heffect
  cases heffect with
  | calEnd hpc =>
      simp only [flagChange, hpc]
      exact .calibrated
  | limitStop hpc =>
      simp only [flagChange, hpc]
      exact .stop
  | random hcal hstop hsame =>
      have hflag : flagChange s .thread = .none := by
        simp only [flagChange]
      rw [hflag]
      exact .none (SameFlags.of_random hsame)

/-- Every step of the system does to the device what the change it asks for says. -/
theorem step_device (h : step E s a = some s') :
    DeviceStep E s.device (flagChange s a) s'.device := by
  cases a with
  | startScan now => rw [← Option.some_inj.1 h]; exact .start now
  | stopScan => rw [← Option.some_inj.1 h]; exact .stop
  | calZ => rw [← Option.some_inj.1 h]; exact .calibrate
  | command x cmd => rw [← Option.some_inj.1 h]; exact parseCommands_deviceStep E x s cmd
  | thread => exact threadStep_deviceStep h

/-- The other threads do not touch the variables of the scan thread. -/
theorem step_thread (h : step E s a = some s') (ha : a ≠ .thread) : s'.thread = s.thread := by
  cases a with
  | thread => exact absurd rfl ha
  | startScan now => rw [← Option.some_inj.1 h]
  | stopScan => rw [← Option.some_inj.1 h]
  | calZ => rw [← Option.some_inj.1 h]
  | command x cmd => rw [← Option.some_inj.1 h]

/-- A change starts a scan, or leaves the start of the scan as it is and starts none. -/
theorem DeviceStep.scanStart {d d' : Mps} {c : FlagChange} (h : DeviceStep E d c d') :
    (c.isStart ∧ d.scanning = false) ∨
      (d'.scanStartTime = d.scanStartTime ∧ (d'.scanning = true → d.scanning = true)) := by
  cases h with
  | start now =>
      cases hs : d.scanning with
      | true => exact Or.inr ⟨by rw [startScan_of_scanning hs], fun _ => rfl⟩
      | false => exact Or.inl ⟨rfl, rfl⟩
  | stop => exact Or.inr ⟨stopScan_scanStartTime, by simp⟩
  | calibrate => exact Or.inr ⟨rfl, id⟩
  | calibrated => exact Or.inr ⟨rfl, id⟩
  | none hsame => exact Or.inr ⟨hsame.scanStartTime, by simp [hsame.scanning]⟩

/-- The thread never starts a scan. -/
theorem isStart_flagChange_thread : ¬ (flagChange s .thread).isStart := by
  cases hpc : s.thread.pc <;> simp [flagChange, hpc, FlagChange.isStart]

/-- A scan that is on behind a step of the thread was on before. -/
theorem scanning_of_threadStep (h : threadStep E s = some s') (hon : s'.device.scanning = true) :
    s.device.scanning = true := by
  rcases (threadStep_deviceStep h).scanStart with ⟨hstart, -⟩ | ⟨-, hbefore⟩
  · exact absurd hstart isStart_flagChange_thread
  · exact hbefore hon

/-- The thread gets to the emission of a frame from its averages only, and has just computed what is
emitted. -/
theorem average_of_emit (h : threadStep E s = some s') (hemit : s'.thread.pc = .emit) :
    s.thread.pc = .average ∧ s'.device = s.device ∧
      s'.thread.counts = averageCounts E s.device s.thread.countsAccumulator ∧
      s'.thread.pressure = pressureOf E s.device s'.thread.counts ∧
      s'.thread.temperature = temperatureOf E s.device s'.thread.counts := by
  cases hpc : s.thread.pc <;> simp only [threadStep, hpc] at h
  case average =>
    obtain ⟨-, h⟩ := Option.ite_none_left_eq_some.1 h
    obtain rfl := Option.some_inj.1 h
    exact ⟨rfl, rfl, rfl, rfl, rfl⟩
  case finished => cases h
  case subFrame =>
    split at h <;> rw [← Option.some_inj.1 h] at hemit <;> cases hemit
  case outer | calTest | scanTest | frameEnd =>
    rw [← Option.some_inj.1 h] at hemit
    dsimp only at hemit
    split at hemit <;> cases hemit
  all_goals
    rw [← Option.some_inj.1 h] at hemit
    cases hemit

/-- Where a scan is on behind a step and was off before, the step starts one. -/
theorem isStart_of_scanning (h : step E s a = some s') (hoff : s.device.scanning = false)
    (hon : s'.device.scanning = true) : (flagChange s a).isStart = true := by
  rcases (step_device h).scanStart with ⟨hstart, -⟩ | ⟨-, hbefore⟩
  · exact hstart
  · rw [hbefore hon] at hoff
    cases hoff

/-! ### Who writes the number of averages -/

/-- The number of averages that `StartScan` installs if it takes effect. -/
def startedAverages (E : Env) (d : Mps) : Option ℕ :=
  if d.scanning then none else some (averagesFor E d.cfg.scanRateHz)

/-- The number of averages a step installs: a scan that starts and `SET RATE` take it from the rate
that is then in force. -/
def installedAverages (E : Env) (s : Scanner) : ScanAction → Option ℕ
  | .startScan _ => startedAverages E s.device
  | .command _ cmd =>
      match verb cmd with
      | some .scan => startedAverages E s.device
      | _ => (rateToken cmd).map fun t => averagesFor E (rateAfter E s.device.cfg t)
  | _ => none

theorem startScan_averages (now : Clock) (d : Mps) :
    (startScan E now d).device.nSubFrameAverages =
      (startedAverages E d).getD d.nSubFrameAverages := by
  cases hs : d.scanning with
  | true => simp [startScan_of_scanning hs, startedAverages, hs]
  | false => simp [startScan_of_not_scanning E now hs, startedAverages, hs]

/-- A call leaves the number of averages it installs, or the one that was there. -/
theorem step_averages (h : step E s a = some s') (ha : a ≠ .thread) :
    s'.device.nSubFrameAverages = (installedAverages E s a).getD s.device.nSubFrameAverages := by
  cases a with
  | thread => exact absurd rfl ha
  | startScan now => rw [← Option.some_inj.1 h]; exact startScan_averages now s.device
  | stopScan => rw [← Option.some_inj.1 h]; exact stopScan_nSubFrameAverages
  | calZ => rw [← Option.some_inj.1 h]; rfl
  | command x cmd =>
      rw [← Option.some_inj.1 h]
      have hdev := parseCommands_device E x s.device cmd
      rw [installedAverages]
      cases hv : verb cmd with
      | none => rw [hv] at hdev; simp [hdev, rateToken_of_verb_ne, hv]
      | some v =>
          rw [hv] at hdev
          cases v
          case scan => rw [hdev]; exact startScan_averages x.now s.device
          case stop => simp [hdev, rateToken_of_verb_ne, hv]
          case calz => simp [hdev, rateToken_of_verb_ne, hv, calZ]
          case set =>
            cases ht : rateToken cmd with
            | none =>
                simp only [ht] at hdev
                rw [hdev.1]
                rfl
            | some t =>
                simp only [ht] at hdev
                rw [hdev]
                rfl
          all_goals simp [hdev, rateToken_of_verb_ne, hv]

end MpsEmulator
