/-
**The schedule of a scan.**

A frame lasts `(int)(1e9 / rate)` nanoseconds and each of its `n` sub-frames
`(int)(1e9 / (rate * n))`, where `n` is the rounded-up quotient `500 / rate`.  The three roundings
fit together, and as every frame starts where the one before it ends, the times of a scan are
multiples of the period, unless the first frame starts at a wrong time.

* `subFramePeriod`, `FrameTimes`, `ScanTimes`, `noteTimes` — the times that the thread sleeps until,
  which the other modules leave out, noted for each frame of a scan as long as its rate stays;
* `isLeast_averagesFor` — below 500 Hz, the number of averages is the least one with 500 samples a
  second;
* `subFrames_fit` — **the sub-frames end with their frame or less than `n` nanoseconds before it**;
* `plannedFrame`, `Schedule` — frame `k` of a scan starts `k` periods behind the scan start;
* `StartsBetweenScans` — the step starts no scan while the thread is in the loop over the frames or
  about to enter it;
* `schedule_throughout` — **in a run of such steps every scan is on schedule**;
* `late_schedule` — a run with a scan that starts behind the assignment of `frame_start`.
-/

import MpsEmulator.FrameNumbers
import MpsEmulator.RateArithmetic
import MpsEmulator.ScanLayout

set_option relaxedAutoImplicit false
set_option autoImplicit false

/-- The product `x * n` with an unsigned integer. -/
def CFloat.times (n : ℕ) : CFloat → CFloat
  | .fin q => .fin (q * n)
  | .inf negative => if n = 0 then .nan else .inf negative
  | .nan => .nan

namespace MpsEmulator

/-! ### The times of a frame -/

/-- The nanoseconds of a sub-frame, `(int)(1e9 / (scan_rate_hz * m_nSubFrameAverages))`. -/
def subFramePeriod (E : Env) (d : Mps) : ℤ :=
  ((d.cfg.scanRateHz.times d.nSubFrameAverages).divInto (10 ^ 9)).toInt32 E.int32OutOfRange

/-- The times of a frame: `frame_start`, `dt`, the ends of the sub-frames and `frame_end`. -/
structure FrameTimes where
  start : ℤ
  dt : ℤ
  subFrameEnds : List ℤ
  frameEnd : ℤ
  deriving DecidableEq

/-- What is noted of a scan: its rate as long as it stays the same, the variable `subframe_start`
and the ends of the sub-frames of the current frame, and the times of the frames it has emitted. -/
structure ScanTimes where
  rate : Option CFloat
  subFrameStart : ℤ
  subFrameEnds : List ℤ
  frames : List FrameTimes

/-- Nothing is noted before the first scan. -/
def ScanTimes.none : ScanTimes where
  rate := .none
  subFrameStart := 0
  subFrameEnds := []
  frames := []

/-- What the thread does to the times of its frame. -/
def threadTimes (E : Env) (n : ScanTimes) (s : Scanner) : ScanTimes :=
  match s.thread.pc with
  | .frameBegin => { n with subFrameStart := s.thread.frameStart, subFrameEnds := [] }
  | .subFrame =>
      if s.thread.subFrame < s.device.nSubFrameAverages then
        let subFrameEnd := n.subFrameStart + subFramePeriod E s.device
        { n with subFrameStart := subFrameEnd, subFrameEnds := n.subFrameEnds ++ [subFrameEnd] }
      else n
  | .emit =>
      { n with
        frames := n.frames ++
          [{ start := s.thread.frameStart
             dt := s.thread.dt
             subFrameEnds := n.subFrameEnds
             frameEnd := s.thread.frameEnd }] }
  | _ => n

/-- Only the thread changes the times of its frame. -/
def stepTimes (E : Env) (n : ScanTimes) (s : Scanner) : ScanAction → ScanTimes
  | .thread => threadTimes E n s
  | _ => n

/-- What a step does to the note: a scan that begins starts a new one, and a rate that changes is
forgotten. -/
def noteTimes (E : Env) (n : ScanTimes) (s : Scanner) (a : ScanAction) (s' : Scanner) :
    ScanTimes :=
  if s.begins s' then { n with rate := some s'.device.cfg.scanRateHz, frames := [] }
  else
    stepTimes E (if n.rate = some s'.device.cfg.scanRateHz then n else { n with rate := .none }) s a

/-- The system together with the times of the scan. -/
def timed (E : Env) : Scanner × ScanTimes → ScanAction → Option (Scanner × ScanTimes) :=
  Runs.annotate (step E) (noteTimes E)

/-! ### The three roundings -/

variable {E : Env} {r : ℚ} {n : ℕ}

/-- Below 500 Hz the number of averages is the least one that makes up for it. -/
theorem isLeast_averagesFor (hr : 0 < r) (hlt : r < 500) (hrange : RateInRange (.fin r)) :
    IsLeast {m : ℕ | 500 ≤ (m : ℚ) * r} (averagesFor E (.fin r)) := by
  have hceil := averagesFor_of_lt (E := E) hlt (ceil_mem hr hrange) hr
  constructor
  · have hcast : (averagesFor E (.fin r) : ℚ) = ⌈500 / r⌉ := by exact_mod_cast hceil
    rw [Set.mem_ofPred_eq, hcast, ← div_le_iff₀ hr]
    exact Int.le_ceil _
  · intro m hm
    rw [Set.mem_ofPred_eq, ← div_le_iff₀ hr] at hm
    have hle : ⌈500 / r⌉ ≤ (m : ℤ) := Int.ceil_le.2 (by exact_mod_cast hm)
    omega

/-- The `n`-th part of a time, rounded down, fits into it `n` times with less than `n` left. -/
theorem subFrames_fit (hn : 0 < n) (x : ℚ) :
    n * ⌊x / n⌋ ≤ ⌊x⌋ ∧ ⌊x⌋ ≤ n * ⌊x / n⌋ + (n - 1) := by
  have hn' : (0 : ℚ) < n := by exact_mod_cast hn
  constructor
  · rw [Int.le_floor]
    push_cast
    calc (n : ℚ) * ⌊x / n⌋ ≤ n * (x / n) := mul_le_mul_of_nonneg_left (Int.floor_le _) hn'.le
      _ = x := mul_div_cancel₀ x hn'.ne'
  · have hlt : x < n * (⌊x / n⌋ + 1) := by
      calc x = n * (x / n) := (mul_div_cancel₀ x hn'.ne').symm
        _ < n * (⌊x / n⌋ + 1) := mul_lt_mul_of_pos_left (Int.lt_floor_add_one _) hn'
    have hfloor : ⌊x⌋ < n * (⌊x / n⌋ + 1) := Int.floor_lt.2 (by exact_mod_cast hlt)
    rw [mul_add] at hfloor
    omega

/-- A positive `int` is converted by rounding down. -/
theorem toInt32_of_positive {out : CFloat → ℤ} {q : ℚ} (h : PositiveInt32 q) :
    CFloat.toInt32 out (.fin q) = ⌊q⌋ := by
  obtain ⟨hlow, hhigh⟩ := h
  have htrunc : truncate q = ⌊q⌋ := truncate_of_nonneg (by linarith)
  have hpos : 1 ≤ ⌊q⌋ := Int.le_floor.2 (by exact_mod_cast hlow)
  have hle : ⌊q⌋ ≤ 2 ^ 31 - 1 := by
    have hfloor : ((⌊q⌋ : ℤ) : ℚ) ≤ ((2 ^ 31 - 1 : ℤ) : ℚ) := by
      have hq := Int.floor_le q
      push_cast
      linarith
    exact_mod_cast hfloor
  rw [CFloat.toInt32, htrunc, if_pos ⟨by omega, by omega⟩]

/-- The two periods of a rate whose arithmetic is defined. -/
theorem periods_eq {d : Mps} (hrate : d.cfg.scanRateHz = .fin r) (hok : RateOk d) :
    framePeriod E d.cfg = ⌊10 ^ 9 / r⌋ ∧
      subFramePeriod E d = ⌊10 ^ 9 / (r * d.nSubFrameAverages)⌋ := by
  rw [RateOk, hrate] at hok
  obtain ⟨hr, -, hn, hframe, hsub⟩ := hok
  have hn' : (0 : ℚ) < d.nSubFrameAverages := by exact_mod_cast hn
  constructor
  · rw [framePeriod, hrate, CFloat.divInto, if_neg hr.ne', toInt32_of_positive hframe]
  · rw [subFramePeriod, hrate, CFloat.times, CFloat.divInto, if_neg (mul_pos hr hn').ne',
      toInt32_of_positive hsub]

/-! ### The schedule -/

/-- The ends of the first `n` sub-frames of a frame. -/
def plannedEnds (now subFrame : ℤ) (n : ℕ) : List ℤ :=
  (List.range n).map fun j : ℕ => now + (j + 1) * subFrame

/-- The times of frame `k`, counted from zero, of a scan with these periods. -/
def plannedFrame (scanStart frame subFrame : ℤ) (n k : ℕ) : FrameTimes where
  start := scanStart + k * frame
  dt := k * frame
  subFrameEnds := plannedEnds (scanStart + k * frame) subFrame n
  frameEnd := scanStart + k * frame + frame

/-- The scan is on schedule: the number of averages is the least one that gives 500 samples a
second, the sub-frames end with their frame or less than `n` nanoseconds before it, and the frames
emitted so far are the planned ones. -/
structure Schedule (r : ℚ) (d : Mps) (n : ScanTimes) : Prop where
  one : 500 ≤ r → d.nSubFrameAverages = 1
  least : r < 500 → IsLeast {m : ℕ | 500 ≤ (m : ℚ) * r} d.nSubFrameAverages
  fits : d.nSubFrameAverages * ⌊10 ^ 9 / (r * d.nSubFrameAverages)⌋ ≤ ⌊10 ^ 9 / r⌋ ∧
    ⌊10 ^ 9 / r⌋ ≤ d.nSubFrameAverages * ⌊10 ^ 9 / (r * d.nSubFrameAverages)⌋ +
      (d.nSubFrameAverages - 1)
  planned : n.frames = (List.range n.frames.length).map (plannedFrame d.scanStartTime
    ⌊10 ^ 9 / r⌋ ⌊10 ^ 9 / (r * d.nSubFrameAverages)⌋ d.nSubFrameAverages)
  increasing : (n.frames.map FrameTimes.dt).Pairwise (· < ·)

/-- As long as the rate of the scan has stayed the same, and a frame lasts a positive `int` of
nanoseconds, the scan is on schedule. -/
def OnSchedule (σ : Scanner × ScanTimes) : Prop :=
  ∀ r, σ.2.rate = some (.fin r) → 0 < r → PositiveInt32 (10 ^ 9 / r) → Schedule r σ.1.device σ.2

/-- The step starts no scan, or one while the thread has no scan loop open and will still read its
start. -/
def StartsBetweenScans (s : Scanner) (a : ScanAction) : Prop :=
  (flagChange s a).isStart → s.device.scanning = false → s.thread.pc.betweenScans

instance (s : Scanner) (a : ScanAction) : Decidable (StartsBetweenScans s a) :=
  inferInstanceAs (Decidable ((flagChange s a).isStart → s.device.scanning = false →
    s.thread.pc.betweenScans))

/-! ### The invariant -/

/-- The times of the current frame behind `i` of its sub-frames, where `now` is its start. -/
structure CurrentFrame (t : ScanThread) (n : ScanTimes) (now dt frame subFrame : ℤ) (i : ℕ) :
    Prop where
  start : t.frameStart = now
  dt : t.dt = dt
  frameEnd : t.frameEnd = now + frame
  subFrameStart : n.subFrameStart = now + i * subFrame
  subFrameEnds : n.subFrameEnds = plannedEnds now subFrame i

/-- What the variables of the thread say about time, by the point it is at. -/
def Planned (d : Mps) (t : ScanThread) (n : ScanTimes) (frame subFrame : ℤ) : Prop :=
  let dt := n.frames.length * frame
  let now := d.scanStartTime + dt
  match t.pc with
  | .outer | .calTest | .calEnd | .init | .idle | .finished => d.scanning = true → n.frames = []
  | .scanTest => d.scanning = true → t.frameStart = now
  | .frameBegin | .limitStop | .nextFrame => t.frameStart = now
  | .subFrame =>
      t.subFrame ≤ d.nSubFrameAverages ∧ CurrentFrame t n now dt frame subFrame t.subFrame
  | .average | .emit => CurrentFrame t n now dt frame subFrame d.nSubFrameAverages
  | .frameEnd => t.frameEnd = now

/-- The nanoseconds of a frame at the rate `r`, and of its sub-frames. -/
def frameNs (r : ℚ) : ℤ := ⌊10 ^ 9 / r⌋

def subFrameNs (E : Env) (r : ℚ) : ℤ := ⌊10 ^ 9 / (r * averagesFor E (.fin r))⌋

/-- The invariant of a scan at the rate `r`. -/
structure ScheduleInv (E : Env) (r : ℚ) (s : Scanner) (n : ScanTimes) : Prop where
  rate : s.device.cfg.scanRateHz = .fin r
  averages : s.device.nSubFrameAverages = averagesFor E (.fin r)
  frames : n.frames = (List.range n.frames.length).map
    (plannedFrame s.device.scanStartTime (frameNs r) (subFrameNs E r) (averagesFor E (.fin r)))
  planned : Planned s.device s.thread n (frameNs r) (subFrameNs E r)

variable {s s' : Scanner} {a : ScanAction} {note : ScanTimes}

/-- A start that takes effect leaves the scan on. -/
theorem DeviceStep.scanning_of_isStart {d d' : Mps} {c : FlagChange} (h : DeviceStep E d c d')
    (hstart : c.isStart) (hoff : d.scanning = false) : d'.scanning = true := by
  cases h with
  | start now => exact (startScan_of_not_scanning E now hoff).1
  | stop => cases hstart
  | calibrate => cases hstart
  | calibrated => cases hstart
  | none => cases hstart

/-- A step that begins no scan leaves the start of the scan as it is. -/
theorem scanStart_of_not_begins (h : step E s a = some s') (hbegins : s.begins s' = false) :
    s'.device.scanStartTime = s.device.scanStartTime ∧
      (s'.device.scanning = true → s.device.scanning = true) := by
  have hdevice := step_device h
  rcases hdevice.scanStart with ⟨hstart, hoff⟩ | hsame
  · have hon := hdevice.scanning_of_isStart hstart hoff
    rw [Scanner.begins, hoff, hon] at hbegins
    cases hbegins
  · exact hsame

theorem rate_stepTimes (E : Env) (n : ScanTimes) (s : Scanner) (a : ScanAction) :
    (stepTimes E n s a).rate = n.rate := by
  cases a <;> try rfl
  case thread =>
    rw [stepTimes, threadTimes]
    cases s.thread.pc <;> try rfl
    case subFrame =>
      dsimp only
      split <;> rfl

/-- A rate that is still noted was noted before, and is the stored one. -/
theorem rate_noteTimes (hbegins : s.begins s' = false)
    (hrate : (noteTimes E note s a s').rate = some (.fin r)) :
    s'.device.cfg.scanRateHz = .fin r ∧ note.rate = some (.fin r) ∧
      noteTimes E note s a s' = stepTimes E note s a := by
  have hfalse : ¬ (false = true) := by simp
  have hkept : note.rate = some s'.device.cfg.scanRateHz := by
    by_contra hne
    rw [noteTimes, hbegins, if_neg hfalse, if_neg hne, rate_stepTimes] at hrate
    cases hrate
  have hnote : noteTimes E note s a s' = stepTimes E note s a := by
    rw [noteTimes, hbegins, if_neg hfalse, if_pos hkept]
  rw [hnote, rate_stepTimes] at hrate
  exact ⟨Option.some_inj.1 (hkept.symm.trans hrate), hrate, hnote⟩

/-- The variables of the thread say the same of a device with the same scan start and averages, on
which no scan has begun. -/
theorem Planned.of_device {d d' : Mps} {t : ScanThread} {frame subFrame : ℤ}
    (h : Planned d t note frame subFrame) (hstart : d'.scanStartTime = d.scanStartTime)
    (haverages : d'.nSubFrameAverages = d.nSubFrameAverages)
    (hon : d'.scanning = true → d.scanning = true) : Planned d' t note frame subFrame := by
  revert h
  rw [Planned, Planned, hstart, haverages]
  cases t.pc <;> intro h <;> dsimp only at h ⊢
  case subFrame | average | emit | frameBegin | frameEnd | limitStop | nextFrame => exact h
  all_goals exact fun hscan => h (hon hscan)

/-- A call from another thread keeps the invariant of a scan that goes on at its rate. -/
theorem ScheduleInv.call (hinv : ScheduleInv E r s note) (ha : a ≠ .thread)
    (h : step E s a = some s') (hbegins : s.begins s' = false)
    (hrate : s'.device.cfg.scanRateHz = .fin r) : ScheduleInv E r s' note := by
  obtain ⟨hstart, hon⟩ := scanStart_of_not_begins h hbegins
  have haverages : s'.device.nSubFrameAverages = averagesFor E (.fin r) := by
    rcases averages_step h with hnew | ⟨hsame, -⟩
    · rw [hnew, hrate]
    · rw [hsame, hinv.averages]
  refine ⟨hrate, haverages, ?_, ?_⟩
  · rw [hstart]
    exact hinv.frames
  · rw [step_thread h ha]
    exact hinv.planned.of_device hstart (haverages.trans hinv.averages.symm) hon

/-- The current frame is that of every thread with these three variables. -/
theorem CurrentFrame.of_thread {t t' : ScanThread} {now dt frame subFrame : ℤ} {i : ℕ}
    (h : CurrentFrame t note now dt frame subFrame i)
    (ht : t'.frameStart = t.frameStart ∧ t'.dt = t.dt ∧ t'.frameEnd = t.frameEnd) :
    CurrentFrame t' note now dt frame subFrame i :=
  ⟨ht.1.trans h.start, ht.2.1.trans h.dt, ht.2.2.trans h.frameEnd, h.subFrameStart, h.subFrameEnds⟩

/-- One more sub-frame of the current frame. -/
theorem CurrentFrame.next {t : ScanThread} {now dt frame subFrame : ℤ} {i : ℕ}
    (h : CurrentFrame t note now dt frame subFrame i) :
    CurrentFrame t
      { note with
        subFrameStart := note.subFrameStart + subFrame
        subFrameEnds := note.subFrameEnds ++ [note.subFrameStart + subFrame] }
      now dt frame subFrame (i + 1) := by
  have hsub : note.subFrameStart + subFrame = now + (i + 1) * subFrame := by
    rw [h.subFrameStart]
    ring
  refine ⟨h.start, h.dt, h.frameEnd, ?_, ?_⟩
  · dsimp only
    rw [hsub]
    push_cast
    rfl
  · dsimp only
    rw [h.subFrameEnds, hsub, plannedEnds, plannedEnds, List.range_succ, List.map_append]
    rfl

/-- The frame that is emitted is the next one of the schedule. -/
theorem map_plannedFrame_succ {fs : List FrameTimes} {scanStart frame subFrame : ℤ} {n : ℕ}
    (hfs : fs = (List.range fs.length).map (plannedFrame scanStart frame subFrame n))
    {f : FrameTimes} (hf : f = plannedFrame scanStart frame subFrame n fs.length) :
    fs ++ [f] =
      (List.range (fs ++ [f]).length).map (plannedFrame scanStart frame subFrame n) := by
  rw [List.length_append, List.length_singleton, List.range_succ, List.map_append, ← hfs, hf]
  rfl

/-- The frame that is emitted is on schedule, and at no other point is one emitted. -/
theorem ScheduleInv.frames_thread (hinv : ScheduleInv E r s note) :
    (threadTimes E note s).frames = (List.range (threadTimes E note s).frames.length).map
      (plannedFrame s.device.scanStartTime (frameNs r) (subFrameNs E r)
        (averagesFor E (.fin r))) := by
  have hframes := hinv.frames
  have hplanned := hinv.planned
  cases hpc : s.thread.pc <;> simp only [Planned, hpc] at hplanned <;> simp only [threadTimes, hpc]
  case emit =>
    refine map_plannedFrame_succ hframes ?_
    rw [hplanned.start, hplanned.dt, hplanned.frameEnd, hplanned.subFrameEnds, hinv.averages]
    rfl
  case subFrame => split <;> exact hframes
  all_goals exact hframes

/-- At the top of the sub-frame loop: one more sub-frame, or the last one has ended. -/
theorem ScheduleInv.planned_subFrame (hinv : ScheduleInv E r s note)
    (hsub : subFramePeriod E s.device = subFrameNs E r) (hpc : s.thread.pc = .subFrame)
    (h : threadStep E s = some s') :
    Planned s'.device s'.thread (threadTimes E note s) (frameNs r) (subFrameNs E r) := by
  have hplanned := hinv.planned
  simp only [Planned, hpc] at hplanned
  simp only [threadStep, hpc] at h
  simp only [threadTimes, hpc]
  obtain ⟨hle, hcurrent⟩ := hplanned
  split at h
  · next hlt =>
    have hsame := sampleChannels_same E s.device.physicalPressureChannelCount s.device
    have hn : (sampleChannels E s.device.physicalPressureChannelCount
        s.device).2.nSubFrameAverages = s.device.nSubFrameAverages := by
      rw [hsame]
    rw [if_pos hlt, hsub, ← Option.some_inj.1 h]
    simp only [Planned, hn, (SameFlags.of_random hsame).scanStartTime]
    exact ⟨hlt, hcurrent.next.of_thread ⟨rfl, rfl, rfl⟩⟩
  · next hge =>
    have hlast : s.thread.subFrame = s.device.nSubFrameAverages := by omega
    rw [if_neg hge, ← Option.some_inj.1 h]
    rw [hlast] at hcurrent
    exact hcurrent.of_thread ⟨rfl, rfl, rfl⟩

/-- Where the thread goes, its variables say what they have to. -/
theorem ScheduleInv.planned_thread (hinv : ScheduleInv E r s note)
    (hframe : framePeriod E s.device.cfg = frameNs r)
    (hsub : subFramePeriod E s.device = subFrameNs E r) (h : threadStep E s = some s') :
    Planned s'.device s'.thread (threadTimes E note s) (frameNs r) (subFrameNs E r) := by
  have hplanned := hinv.planned
  by_cases hpc : s.thread.pc = .subFrame
  · exact hinv.planned_subFrame hsub hpc h
  revert hpc
  -- the cases are the points of the code; where no branch is taken, the next point is known
  cases hpc : s.thread.pc <;> intro hne <;> simp only [threadStep, hpc] at h <;>
    simp only [Planned, hpc] at hplanned <;> simp only [threadTimes, hpc]
  case subFrame => exact absurd rfl hne
  case finished => exact absurd h (by simp)
  case average =>
    obtain ⟨-, h⟩ := Option.ite_none_left_eq_some.1 h
    rw [← Option.some_inj.1 h]
    exact hplanned.of_thread ⟨rfl, rfl, rfl⟩
  all_goals rw [← Option.some_inj.1 h]
  case frameBegin =>
    refine ⟨Nat.zero_le _, hplanned, ?_, ?_, ?_, rfl⟩
    · dsimp only
      rw [hplanned]
      ring
    · dsimp only
      rw [hplanned, hframe]
    · dsimp only
      rw [hplanned]
      simp
  case emit =>
    simp only [Planned, List.length_append, List.length_singleton]
    rw [hplanned.frameEnd]
    push_cast
    ring
  case frameEnd =>
    by_cases hlimit : s.device.cfg.framesPerScan ≠ 0 ∧ s.device.cfg.framesPerScan = s.thread.frame
    · simpa only [Planned, if_pos hlimit] using hplanned
    · simpa only [Planned, if_neg hlimit] using hplanned
  case limitStop => simpa only [Planned, stopScan_scanStartTime] using hplanned
  case nextFrame => exact fun _ => hplanned
  case init =>
    intro hscan
    rw [hplanned hscan]
    simp
  case scanTest =>
    cases hs : s.device.scanning
    · exact fun hscan => absurd (hs.symm.trans hscan) (by simp)
    · exact hplanned hs
  case outer => cases hrun : s.device.running <;> exact hplanned
  case calTest => cases hcal : s.device.calibrating <;> exact hplanned
  all_goals exact hplanned

/-- A step of the thread keeps it. -/
theorem ScheduleInv.thread (hinv : ScheduleInv E r s note) (hr : 0 < r)
    (hpos : PositiveInt32 (10 ^ 9 / r)) (h : threadStep E s = some s')
    (hbegins : s.begins s' = false) : ScheduleInv E r s' (threadTimes E note s) := by
  have hrange : RateInRange (.fin r) := (positiveInt32_iff hr).1 hpos
  have hok : RateOk s.device := rateOk_of_inRange hinv.rate hinv.averages hrange
  obtain ⟨hframe, hsub⟩ := periods_eq (E := E) hinv.rate hok
  rw [hinv.averages] at hsub
  obtain ⟨hstart, -⟩ := scanStart_of_not_begins (a := .thread) h hbegins
  obtain ⟨hcfg, haverages⟩ := threadStep_settings h
  refine ⟨?_, haverages.trans hinv.averages, ?_, hinv.planned_thread hframe hsub h⟩
  · rw [hcfg, hinv.rate]
  · rw [hstart]
    exact hinv.frames_thread

/-- A scan that begins between two scans has no frames yet. -/
theorem scheduleInv_of_begins (h : step E s a = some s') (hbegins : s.begins s' = true)
    (hbetween : StartsBetweenScans s a) (hframes : note.frames = [])
    (hrate : s'.device.cfg.scanRateHz = .fin r) : ScheduleInv E r s' note := by
  obtain ⟨hoff, hstart, hthread⟩ := isStart_of_begins h hbegins
  rw [Scanner.begins, Bool.and_eq_true] at hbegins
  refine ⟨hrate, ?_, by rw [hframes]; rfl, ?_⟩
  · rw [averages_of_starts h hoff hbegins.2, hrate]
  · have hpc := hbetween hstart hoff
    rw [hthread, Planned]
    revert hpc
    cases s.thread.pc <;> simp [ThreadPc.betweenScans, hframes]

/-! ### Runs -/

/-- The invariant of every scan whose rate has stayed the same and fits. -/
def OnScheduleInv (E : Env) (σ : Scanner × ScanTimes) : Prop :=
  ∀ r, σ.2.rate = some (.fin r) → 0 < r → PositiveInt32 (10 ^ 9 / r) → ScheduleInv E r σ.1 σ.2

/-- A step that starts no scan at a wrong point keeps the invariant. -/
theorem OnScheduleInv.step {σ σ' : Scanner × ScanTimes} (hinv : OnScheduleInv E σ)
    (hbetween : StartsBetweenScans σ.1 a) (h : timed E σ a = some σ') : OnScheduleInv E σ' := by
  obtain ⟨hstep, hnote⟩ := Runs.annotate_eq_some.1 h
  intro r hrate hr hpos
  cases hbegins : σ.1.begins σ'.1 with
  | true =>
      rw [noteTimes, if_pos hbegins] at hnote
      rw [hnote] at hrate ⊢
      exact scheduleInv_of_begins hstep hbegins hbetween rfl (Option.some_inj.1 hrate)
  | false =>
      rw [hnote] at hrate
      obtain ⟨hstored, hold, hsame⟩ := rate_noteTimes hbegins hrate
      have hbefore := hinv r hold hr hpos
      rw [hnote, hsame]
      by_cases ha : a = .thread
      · subst ha
        exact hbefore.thread hr hpos hstep hbegins
      · have hcall : stepTimes E σ.2 σ.1 a = σ.2 := by
          cases a with
          | thread => exact absurd rfl ha
          | _ => rfl
        rw [hcall]
        exact hbefore.call ha hstep hbegins hstored

/-- The times of the frames increase with the frames. -/
theorem pairwise_plannedFrame {scanStart frame subFrame : ℤ} (hframe : 0 < frame) (n k : ℕ) :
    (((List.range k).map (plannedFrame scanStart frame subFrame n)).map
      FrameTimes.dt).Pairwise (· < ·) := by
  rw [List.map_map, List.pairwise_map]
  refine List.pairwise_lt_range.imp fun {i j} hij => ?_
  have hcast : (i : ℤ) < j := by exact_mod_cast hij
  exact mul_lt_mul_of_pos_right hcast hframe

/-- The invariant and the arithmetic give the schedule. -/
theorem ScheduleInv.schedule (hinv : ScheduleInv E r s note) (hr : 0 < r)
    (hpos : PositiveInt32 (10 ^ 9 / r)) : Schedule r s.device note := by
  have hrange : RateInRange (.fin r) := (positiveInt32_iff hr).1 hpos
  have hok : RateOk s.device := rateOk_of_inRange hinv.rate hinv.averages hrange
  have hn : 0 < s.device.nSubFrameAverages := by
    rw [RateOk, hinv.rate] at hok
    exact hok.2.2.1
  have hframe : 0 < ⌊10 ^ 9 / r⌋ := Int.floor_pos.2 hpos.1
  refine ⟨fun hle => ?_, fun hlt => ?_, ?_, ?_, ?_⟩
  · rw [hinv.averages, averagesFor_of_le hle]
  · rw [hinv.averages]
    exact isLeast_averagesFor hr hlt hrange
  · rw [← div_div]
    exact subFrames_fit hn (10 ^ 9 / r)
  · rw [hinv.averages]
    exact hinv.frames
  · rw [hinv.frames]
    exact pairwise_plannedFrame hframe _ _

/-- In every run that starts its scans while the thread is between two scans, and in every state of
it, **the scan is on schedule**: whatever the rate, if it has stayed the same. -/
theorem schedule_throughout (E : Env) (cfg : MpsConfig) (as : List ScanAction)
    (hbetween : Runs.Along (timed E) (fun σ a => StartsBetweenScans σ.1 a)
      (Scanner.start cfg, .none) as) :
    Runs.Throughout (timed E) OnSchedule (Scanner.start cfg, .none) as := by
  have hinit : OnScheduleInv E (Scanner.start cfg, .none) := fun r hrate => nomatch hrate
  have hinv := Runs.throughout_of_along (fun σ a σ' hinv hC h => OnScheduleInv.step hinv hC h)
    hinit hbetween
  exact hinv.mono fun σ h r hrate hr hpos => (h r hrate hr hpos).schedule hr hpos

/-- A scan at 200 Hz, so of three sub-frames a frame, that starts before `frame_start` is assigned;
the thread goes on until it has emitted two frames. -/
def twoFrames : List ScanAction :=
  .command .quiet "SET RATE 200".toList ::
    List.replicate 2 .thread ++ .startScan { steady := 1000, system := 0 } ::
    List.replicate 19 .thread

theorem schedule_throughout_twoFrames :
    ((Runs.exec (timed referenceEnv) (Scanner.start (attachConfig mps4216 1), .none)
        twoFrames).map fun σ => (σ.2.rate, σ.2.frames)) =
      some (some (.fin 200), (List.range 2).map (plannedFrame 1000 5000000 1666666 3)) ∧
      Runs.Throughout (timed referenceEnv) OnSchedule
        (Scanner.start (attachConfig mps4216 1), .none) twoFrames :=
  ⟨by decide +kernel, schedule_throughout referenceEnv _ _ (by decide +kernel)⟩

/-- A scan that starts behind the assignment: its first frame starts a microsecond before it. -/
theorem late_schedule :
    ((Runs.exec (timed referenceEnv) (Scanner.start (attachConfig mps4216 1), .none)
        (oneFrame 3 6)).map fun σ => (σ.2.rate, σ.2.frames.map FrameTimes.dt)) =
      some (some (.fin 500), [-1000]) ∧
      ¬ Runs.Throughout (timed referenceEnv) OnSchedule
        (Scanner.start (attachConfig mps4216 1), .none) (oneFrame 3 6) := by
  have hrun : ((Runs.exec (timed referenceEnv) (Scanner.start (attachConfig mps4216 1), .none)
      (oneFrame 3 6)).map fun σ => (σ.2.rate, σ.2.frames.map FrameTimes.dt)) =
        some (some (.fin 500), [-1000]) := by
    decide +kernel
  refine ⟨hrun, fun h => ?_⟩
  obtain ⟨σ, hσ, hlast⟩ := Option.map_eq_some_iff.1 hrun
  obtain ⟨hrate, hdts⟩ := Prod.mk.inj hlast
  have hschedule := h.final hσ 500 hrate (by norm_num) ⟨by norm_num, by norm_num⟩
  have hone : σ.2.frames.length = 1 := by
    rw [← List.length_map (f := FrameTimes.dt), hdts]
    rfl
  rw [hschedule.planned, hone] at hdts
  simp [plannedFrame] at hdts

end MpsEmulator
