/-
**The limit on the frames of a scan.**

At the end of a frame the scan thread compares `frames_per_scan` with the number of the frame, and
stops the scan if they are equal.  `SET FPS` can pass by that number, and between the comparison and
the stop another scan can start.

* `LimitLog`, `limitNoted` — the system, with a note of the frames the scan has begun and of the
  limit at the last comparison;
* `KeepsLimit` — a step that keeps the promise: no frame above the limit, no scan that goes on
  behind it, and no scan that is stopped but on request or at the end of its own last frame;
* `pendingFrame` — the frame of the scan the next comparison is about;
* `RespectsLimit` — a scan starts only when the thread has left the loop of the one before, or
  inside the loop without a limit in force, which then stays so, and a new limit is not below the
  pending frame;
* `keepsLimit_of_respectsLimit` — **a run of such steps keeps the promise**;
* `limit_passed` — two runs that break it.
-/

import MpsEmulator.FrameNumbers
import MpsEmulator.ScanLayout

set_option relaxedAutoImplicit false
set_option autoImplicit false

namespace MpsEmulator

/-! ### The promise -/

/-- The thread is outside of the loop of a scan, or before its first frame. -/
def ScanThread.fresh (t : ScanThread) : Prop :=
  t.pc.betweenScans = true ∨ (t.pc = .scanTest ∧ t.frame = 1)

instance (t : ScanThread) : Decidable t.fresh :=
  inferInstanceAs (Decidable (t.pc.betweenScans = true ∨ (t.pc = .scanTest ∧ t.frame = 1)))

/-- How many frames the scan in progress has begun, the limit at the last comparison, and whether
the scan was started inside the loop of the one before, so that its frames do not count from one. -/
structure LimitLog where
  own : ℕ
  limit : ℕ
  inLoop : Bool := false

def LimitLog.next (log : LimitLog) (s : Scanner) (a : ScanAction) (s' : Scanner) : LimitLog where
  own :=
    if s.begins s' then 0
    else if a = .thread ∧ s.thread.pc = .frameBegin then log.own + 1
    else log.own
  limit :=
    if a = .thread ∧ s.thread.pc = .frameEnd then s.device.cfg.framesPerScan else log.limit
  inLoop := if s.begins s' then !decide s.thread.fresh else log.inLoop

/-- The system with this note. -/
def limitNoted (E : Env) : Scanner × LimitLog → ScanAction → Option (Scanner × LimitLog) :=
  Runs.annotate (step E) LimitLog.next

/-- The action is a request to stop the scan. -/
def ScanAction.isStop : ScanAction → Bool
  | .stopScan => true
  | .command _ cmd => verb cmd = some .stop
  | _ => false

/-- The scan goes on behind the comparison only below the limit. -/
def ContinuesBelowLimit (E : Env) (s : Scanner) (a : ScanAction) : Prop :=
  a = .thread → s.thread.pc = .frameEnd → s.device.scanning = true →
    s.device.cfg.framesPerScan ≠ 0 →
      ∀ s' ∈ step E s a, s'.thread.pc ≠ .limitStop → s.thread.frame < s.device.cfg.framesPerScan

/-- No frame above the limit is emitted. -/
def EmitsWithinLimit (s : Scanner) (a : ScanAction) : Prop :=
  a = .thread → s.thread.pc = .emit → s.device.cfg.framesPerScan ≠ 0 →
    s.thread.frame ≤ s.device.cfg.framesPerScan

/-- A scan ends on request, or with the thread's stop at the end of the scan's own last frame. -/
def EndsRightly (E : Env) (σ : Scanner × LimitLog) (a : ScanAction) : Prop :=
  ∀ s' ∈ step E σ.1 a, σ.1.device.scanning = true → s'.device.scanning = false →
    a.isStop = true ∨
      (a = .thread ∧ σ.1.thread.pc = .limitStop ∧ σ.2.own = σ.2.limit ∧ σ.2.limit ≠ 0)

/-- A step that keeps the promise of the limit. -/
def KeepsLimit (E : Env) (σ : Scanner × LimitLog) (a : ScanAction) : Prop :=
  ContinuesBelowLimit E σ.1 a ∧ EmitsWithinLimit σ.1 a ∧ EndsRightly E σ a

instance (E : Env) (s : Scanner) (a : ScanAction) : Decidable (ContinuesBelowLimit E s a) :=
  inferInstanceAs (Decidable (_ → _ → _ → _ → ∀ s' ∈ step E s a, _ → _))

instance (s : Scanner) (a : ScanAction) : Decidable (EmitsWithinLimit s a) :=
  inferInstanceAs (Decidable (_ → _ → _ → _))

instance (E : Env) (σ : Scanner × LimitLog) (a : ScanAction) : Decidable (EndsRightly E σ a) :=
  inferInstanceAs (Decidable (∀ s' ∈ step E σ.1 a, _ → _ → _ ∨ _))

instance (E : Env) (σ : Scanner × LimitLog) (a : ScanAction) : Decidable (KeepsLimit E σ a) :=
  inferInstanceAs (Decidable (_ ∧ _ ∧ _))

/-! ### The condition -/

/-- The frame of the scan that the next comparison is about, counted from the start of the scan: the
current one, or the next one; none where no frame is going to be compared, and before the first
one. -/
def pendingFrame (σ : Scanner × LimitLog) : Option ℕ :=
  match σ.1.thread.pc with
  | .outer | .calTest | .calEnd | .init | .idle | .finished | .limitStop => none
  | .scanTest | .nextFrame => if σ.1.device.scanning then some (σ.2.own + 1) else none
  | .frameBegin => some (σ.2.own + 1)
  | .subFrame | .average | .emit => some σ.2.own
  | .frameEnd => if σ.1.device.scanning then some σ.2.own else none

/-- A scan starts only when the thread has left the loop of the scan before, or, if no limit is in
force and the thread is not about to stop the scan, inside the loop; and a command leaves no limit
below the pending frame, and none at all for the frames of a scan that was started inside the
loop. -/
structure RespectsLimit (E : Env) (σ : Scanner × LimitLog) (a : ScanAction) : Prop where
  start : (flagChange σ.1 a).isStart → σ.1.device.scanning = false →
    σ.1.thread.fresh ∨ (σ.1.device.cfg.framesPerScan = 0 ∧ σ.1.thread.pc ≠ .limitStop)
  limit : ∀ s' ∈ step E σ.1 a, a ≠ .thread → s'.device.cfg.framesPerScan ≠ 0 →
    ∀ n ∈ pendingFrame σ, σ.2.inLoop = false ∧ n ≤ s'.device.cfg.framesPerScan

instance (E : Env) (σ : Scanner × LimitLog) (a : ScanAction) : Decidable (RespectsLimit E σ a) :=
  decidable_of_iff
    (((flagChange σ.1 a).isStart → σ.1.device.scanning = false →
        σ.1.thread.fresh ∨ (σ.1.device.cfg.framesPerScan = 0 ∧ σ.1.thread.pc ≠ .limitStop)) ∧
      ∀ s' ∈ step E σ.1 a, a ≠ .thread → s'.device.cfg.framesPerScan ≠ 0 →
        ∀ n ∈ pendingFrame σ, σ.2.inLoop = false ∧ n ≤ s'.device.cfg.framesPerScan)
    ⟨fun h => ⟨h.1, h.2⟩, fun h => ⟨h.start, h.limit⟩⟩

/-! ### The invariant -/

/-- The thread's frame is the `n`th one of the scan, if its frames count from one. -/
def LimitLog.Counts (log : LimitLog) (frame n : ℕ) : Prop :=
  log.inLoop = false → frame = n % 2 ^ 32

/-- A limit is not below the `n`th frame of the scan, whose frames count from one. -/
def LimitLog.Within (log : LimitLog) (fps n : ℕ) : Prop :=
  fps ≠ 0 → log.inLoop = false ∧ n ≤ fps

/-- What the number of the thread's frame and the limit have to do with the frames the scan has
begun, by the point the thread is at. -/
def LimitAt (scanning : Bool) (frame fps : ℕ) (log : LimitLog) : ThreadPc → Prop
  | .outer | .calTest | .calEnd | .init | .idle | .finished =>
      scanning = true → log.own = 0 ∧ log.inLoop = false
  | .scanTest =>
      scanning = true → log.Counts frame (log.own + 1) ∧ log.Within fps (log.own + 1)
  | .frameBegin => log.Counts frame (log.own + 1) ∧ log.Within fps (log.own + 1)
  | .subFrame | .average | .emit => log.Counts frame log.own ∧ log.Within fps log.own
  | .frameEnd => log.Counts frame log.own ∧ (scanning = true → log.Within fps log.own)
  | .limitStop =>
      log.Counts frame log.own ∧ (scanning = true → log.own = log.limit ∧ log.limit ≠ 0)
  | .nextFrame => log.Counts frame log.own ∧ (scanning = true → log.Within fps (log.own + 1))

/-- The invariant of runs that respect the limit. -/
structure LimitInv (σ : Scanner × LimitLog) : Prop where
  range : σ.1.device.cfg.framesPerScan < 2 ^ 32
  at_pc : LimitAt σ.1.device.scanning σ.1.thread.frame σ.1.device.cfg.framesPerScan σ.2
    σ.1.thread.pc

variable {E : Env} {σ σ' : Scanner × LimitLog} {a : ScanAction}

/-- An assignment to the configuration leaves a limit of 32 bits. -/
theorem CfgStep.framesPerScan_lt {c c' : MpsConfig} (hc : c.framesPerScan < 2 ^ 32)
    (h : CfgStep E c c') : c'.framesPerScan < 2 ^ 32 := by
  cases h with
  | fps z =>
      have hpos : (0 : ℤ) < 2 ^ 32 := by norm_num
      have hlow := Int.emod_nonneg z hpos.ne'
      have hhigh := Int.emod_lt_of_pos z hpos
      simp only [CNumeral.wrapUnsigned]
      omega
  | _ => exact hc

/-- A call that starts no scan and leaves no limit below the pending frame. -/
theorem limitAt_call {s : Scanner} {log : LimitLog} {scanning : Bool} {fps : ℕ}
    (h : LimitAt s.device.scanning s.thread.frame s.device.cfg.framesPerScan log s.thread.pc)
    (hscan : scanning = true → s.device.scanning = true)
    (hlimit : fps ≠ 0 → ∀ n ∈ pendingFrame (s, log), log.inLoop = false ∧ n ≤ fps) :
    LimitAt scanning s.thread.frame fps log s.thread.pc := by
  cases hpc : s.thread.pc <;> simp only [pendingFrame, hpc, LimitAt] at h hlimit ⊢
  case scanTest =>
    intro hon
    simp only [hscan hon, if_true] at hlimit
    exact ⟨(h (hscan hon)).1, fun hne => hlimit hne _ rfl⟩
  case frameBegin | subFrame | average | emit => exact ⟨h.1, fun hne => hlimit hne _ rfl⟩
  case frameEnd | nextFrame =>
    refine ⟨h.1, fun hon hne => ?_⟩
    simp only [hscan hon, if_true] at hlimit
    exact hlimit hne _ rfl
  case limitStop => exact ⟨h.1, fun hon => h.2 (hscan hon)⟩
  all_goals exact fun hon => h (hscan hon)

/-- A scan that starts while the thread is outside of the loop, or before its first frame. -/
theorem limitAt_start {t : ScanThread} {fps limit : ℕ} (hfresh : t.fresh) :
    LimitAt true t.frame fps { own := 0, limit := limit } t.pc := by
  rcases hfresh with hbetween | ⟨hpc, hframe⟩
  · cases hpc : t.pc <;> simp_all [LimitAt, ThreadPc.betweenScans]
  · simp only [hpc, hframe, LimitAt]
    exact fun _ => ⟨fun _ => by norm_num, fun hne => ⟨rfl, by omega⟩⟩

/-- A scan that starts inside the loop, without a limit. -/
theorem limitAt_start_inLoop {t : ScanThread} {limit : ℕ} (hfresh : ¬ t.fresh)
    (hpc : t.pc ≠ .limitStop) :
    LimitAt true t.frame 0 { own := 0, limit := limit, inLoop := true } t.pc := by
  have hbetween : t.pc.betweenScans = false :=
    Bool.eq_false_iff.2 fun h => hfresh (.inl h)
  cases hat : t.pc <;>
    simp_all [LimitAt, LimitLog.Counts, LimitLog.Within, ThreadPc.betweenScans]

/-! ### Steps -/

/-- The start of a scan leaves the configuration as it is. -/
theorem begins_cfg {s s' : Scanner} (h : step E s a = some s') (hbegins : s.begins s' = true) :
    s'.device.cfg = s.device.cfg := by
  rw [Scanner.begins, Bool.and_eq_true, Bool.not_eq_true'] at hbegins
  obtain ⟨-, hkeep⟩ | ⟨-, -, hcfg, -⟩ := layoutStep_step h
  · exact absurd (hkeep hbegins.2) (by simp [hbegins.1])
  · exact hcfg

/-- A call from another thread. -/
theorem LimitInv.call (hinv : LimitInv σ) (hC : RespectsLimit E σ a) (ha : a ≠ .thread)
    (h : limitNoted E σ a = some σ') : LimitInv σ' := by
  obtain ⟨s', log'⟩ := σ'
  obtain ⟨hstep, hlog⟩ := Runs.annotate_eq_some.1 h
  dsimp only at hstep hlog
  have hthread : s'.thread = σ.1.thread := step_thread hstep ha
  have hrange : s'.device.cfg.framesPerScan < 2 ^ 32 :=
    CfgStep.preserved (fun _ _ hc hcc' => hcc'.framesPerScan_lt hc) hinv.range (step_cfg hstep)
  refine ⟨hrange, ?_⟩
  dsimp only
  by_cases hbegins : σ.1.begins s' = true
  · obtain ⟨hoff, hstart, -⟩ := isStart_of_begins hstep hbegins
    have hon : s'.device.scanning = true := by
      simpa [Scanner.begins, hoff] using hbegins
    rw [hlog, LimitLog.next, if_pos hbegins, if_neg fun hc => ha hc.1, if_pos hbegins, hon,
      hthread]
    by_cases hfresh : σ.1.thread.fresh
    · rw [decide_eq_true hfresh]
      exact limitAt_start hfresh
    · obtain ⟨hnone, hpc⟩ := (hC.start hstart hoff).resolve_left hfresh
      rw [decide_eq_false hfresh, begins_cfg hstep hbegins, hnone]
      exact limitAt_start_inLoop hfresh hpc
  · have hscan : s'.device.scanning = true → σ.1.device.scanning = true := by
      intro hon
      simpa [Scanner.begins, hon] using hbegins
    rw [hlog, LimitLog.next, if_neg hbegins, if_neg hbegins, if_neg fun hc => ha hc.1,
      if_neg fun hc => ha hc.1, hthread]
    exact limitAt_call hinv.at_pc hscan (hC.limit s' hstep ha)

/-- A step of the thread. -/
theorem LimitInv.thread (hinv : LimitInv σ) (h : limitNoted E σ .thread = some σ') :
    LimitInv σ' := by
  obtain ⟨s, log⟩ := σ
  obtain ⟨s', log'⟩ := σ'
  obtain ⟨hstep, hlog⟩ := Runs.annotate_eq_some.1 h
  obtain ⟨hrange, hat⟩ := hinv
  dsimp only at *
  have hcfg : s'.device.cfg = s.device.cfg := (threadStep_settings hstep).1
  have hbegins : s.begins s' = false := by
    rw [Scanner.begins, ← Bool.not_eq_true, Bool.and_eq_true, Bool.not_eq_true']
    rintro ⟨hoff, hon⟩
    rw [scanning_of_threadStep hstep hon] at hoff
    cases hoff
  simp only [LimitLog.next, hbegins, Bool.false_eq_true, if_false, true_and] at hlog
  refine ⟨hcfg ▸ hrange, ?_⟩
  dsimp only
  rw [hcfg]
  simp only [step, threadStep] at hstep
  cases hpc : s.thread.pc <;>
    simp only [hpc, if_true, if_false, reduceCtorEq] at hstep hlog <;> rw [hpc] at hat
  case outer | calTest =>
    rw [hlog, ← Option.some_inj.1 hstep]
    dsimp only
    split <;> exact hat
  case calEnd | idle =>
    rw [hlog, ← Option.some_inj.1 hstep]
    exact hat
  case init =>
    rw [hlog, ← Option.some_inj.1 hstep]
    refine fun hon => ?_
    obtain ⟨hown, hcounts⟩ := hat hon
    rw [hown]
    exact ⟨fun _ => by norm_num, fun hne => ⟨hcounts, Nat.one_le_iff_ne_zero.2 hne⟩⟩
  case scanTest =>
    rw [hlog, ← Option.some_inj.1 hstep]
    dsimp only
    split
    · exact hat ‹_›
    · exact fun hon => absurd hon ‹_›
  case frameBegin =>
    rw [hlog, ← Option.some_inj.1 hstep]
    exact hat
  case subFrame =>
    rw [hlog]
    split at hstep <;> rw [← Option.some_inj.1 hstep] <;> exact hat
  case average =>
    obtain ⟨-, hstep⟩ := Option.ite_none_left_eq_some.1 hstep
    rw [hlog, ← Option.some_inj.1 hstep]
    exact hat
  case emit =>
    rw [hlog, ← Option.some_inj.1 hstep]
    exact ⟨hat.1, fun _ => hat.2⟩
  case frameEnd =>
    obtain ⟨hframe, hown⟩ := hat
    rw [hlog, ← Option.some_inj.1 hstep]
    dsimp only
    split
    · rename_i hhit
      refine ⟨hframe, fun hon => ⟨?_, hhit.1⟩⟩
      obtain ⟨hcounts, hle⟩ := hown hon hhit.1
      have hnumber := hframe hcounts
      dsimp only
      omega
    · rename_i hmiss
      refine ⟨hframe, fun hon hne => ?_⟩
      obtain ⟨hcounts, hle⟩ := hown hon hne
      have hnumber := hframe hcounts
      refine ⟨hcounts, ?_⟩
      dsimp only at hle ⊢
      omega
  case limitStop =>
    rw [hlog, ← Option.some_inj.1 hstep]
    exact ⟨hat.1, fun hon => absurd hon (by simp)⟩
  case nextFrame =>
    rw [hlog, ← Option.some_inj.1 hstep]
    refine fun hon => ⟨fun hcounts => ?_, hat.2 hon⟩
    have hframe := hat.1 hcounts
    dsimp only at hframe ⊢
    omega

/-- A step that respects the limit keeps the invariant. -/
theorem LimitInv.preserved (hinv : LimitInv σ) (hC : RespectsLimit E σ a)
    (h : limitNoted E σ a = some σ') : LimitInv σ' := by
  by_cases ha : a = .thread
  · exact hinv.thread (ha ▸ h)
  · exact hinv.call hC ha h

/-! ### Every run -/

/-- Only `StopScan` ends a scan: on request, or called by the thread at the limit. -/
theorem isStop_or_limitStop {s s' : Scanner} (h : step E s a = some s')
    (hon : s.device.scanning = true) (hoff : s'.device.scanning = false) :
    a.isStop = true ∨ (a = .thread ∧ s.thread.pc = .limitStop) := by
  have hstop : flagChange s a = .stop := by
    have hdev := step_device h
    generalize flagChange s a = change at hdev
    generalize s'.device = d' at hdev hoff
    cases hdev with
    | stop => rfl
    | start now => rw [startScan_of_scanning hon, hon] at hoff; cases hoff
    | calibrate => rw [calZ, hon] at hoff; cases hoff
    | calibrated => rw [hon] at hoff; cases hoff
    | none hsame => rw [hsame.scanning, hon] at hoff; cases hoff
  cases a with
  | startScan now => cases hstop
  | stopScan => exact .inl rfl
  | calZ => cases hstop
  | command x cmd =>
      left
      simp only [flagChange] at hstop
      split at hstop <;> simp_all [ScanAction.isStop]
  | thread =>
      right
      simp only [flagChange] at hstop
      split at hstop <;> simp_all

/-- A step from a state with the invariant keeps the promise. -/
theorem LimitInv.keepsLimit (hinv : LimitInv σ) : KeepsLimit E σ a := by
  have hat := hinv.at_pc
  refine ⟨?_, ?_, ?_⟩
  · rintro rfl hpc hon hne s' hs' hmiss
    rw [hpc] at hat
    obtain ⟨hcounts, hle⟩ := hat.2 hon hne
    have hframe : σ.1.thread.frame = σ.2.own % 2 ^ 32 := hat.1 hcounts
    have hnot : σ.1.device.cfg.framesPerScan ≠ σ.1.thread.frame := by
      rintro hhit
      simp only [step, threadStep, hpc, Option.mem_def, Option.some.injEq] at hs'
      rw [← hs', if_pos ⟨hne, hhit⟩] at hmiss
      exact hmiss rfl
    omega
  · rintro rfl hpc hne
    rw [hpc] at hat
    obtain ⟨hcounts, hle⟩ := hat.2 hne
    have hframe : σ.1.thread.frame = σ.2.own % 2 ^ 32 := hat.1 hcounts
    omega
  · intro s' hs' hon hoff
    rcases isStop_or_limitStop hs' hon hoff with hstop | ⟨rfl, hpc⟩
    · exact .inl hstop
    · rw [hpc] at hat
      exact .inr ⟨rfl, hpc, hat.2 hon⟩

theorem limitInv_start {cfg : MpsConfig} (hfps : cfg.framesPerScan < 2 ^ 32) :
    LimitInv (Scanner.start cfg, { own := 0, limit := 0 }) where
  range := hfps
  at_pc := fun _ => ⟨rfl, rfl⟩

/-- **The frame limit.**  In a run in which scans start only when the thread has left the loop of
the scan before, or inside the loop without a limit that could concern them, and no command leaves a
limit below the pending frame, no frame above the limit in force is emitted, no scan goes on behind
its limit, and a scan ends only on request or with its own last frame. -/
theorem keepsLimit_of_respectsLimit (E : Env) {cfg : MpsConfig} (hfps : cfg.framesPerScan < 2 ^ 32)
    (as : List ScanAction)
    (h : Runs.Along (limitNoted E) (RespectsLimit E)
      (Scanner.start cfg, { own := 0, limit := 0 }) as) :
    Runs.Along (limitNoted E) (KeepsLimit E) (Scanner.start cfg, { own := 0, limit := 0 }) as :=
  Runs.along_of_inv (J := LimitInv) (fun _ _ _ hinv hC hstep => hinv.preserved hC hstep)
    (fun _ _ hinv => hinv.keepsLimit) (limitInv_start hfps) h

/-- A scan with one sample for each frame, two commands before it, and then the given steps. -/
def limitedScan (fps : String) (rest : List ScanAction) : List ScanAction :=
  .command .quiet "SET RATE 500".toList ::
    .command .quiet ("SET FPS ".toList ++ fps.toList) ::
    .startScan { steady := 0, system := 0 } :: rest

/-- The limit is raised during the last frame, and reached in the one behind it. -/
def raisedLimit : List ScanAction :=
  limitedScan "1" (List.replicate 7 .thread ++
    .command .quiet "SET FPS 2".toList :: List.replicate 13 .thread)

/-- A scan of two frames, and nothing goes on behind its limit. -/
theorem keepsLimit_of_respectsLimit_raised :
    ((Runs.exec (limitNoted referenceEnv)
        (Scanner.start (attachConfig mps4216 1), { own := 0, limit := 0 }) raisedLimit).map fun σ =>
          (σ.1.device.scanning, σ.2.own)) = some (false, 2) ∧
      Runs.Along (limitNoted referenceEnv) (KeepsLimit referenceEnv)
        (Scanner.start (attachConfig mps4216 1), { own := 0, limit := 0 }) raisedLimit :=
  ⟨by decide +kernel,
    keepsLimit_of_respectsLimit referenceEnv (by decide) raisedLimit (by decide +kernel)⟩

/-- A limit of one frame that is set during the second one is passed; and a scan that starts between
the comparison for the last frame of the scan before and its stop is ended by that stop. -/
theorem limit_passed :
    ¬ Runs.Along (limitNoted referenceEnv) (KeepsLimit referenceEnv)
        (Scanner.start (attachConfig mps4216 1), { own := 0, limit := 0 })
        (limitedScan "0" (List.replicate 13 .thread ++
          .command .quiet "SET FPS 1".toList :: List.replicate 5 .thread)) ∧
      ¬ Runs.Along (limitNoted referenceEnv) (KeepsLimit referenceEnv)
        (Scanner.start (attachConfig mps4216 1), { own := 0, limit := 0 })
        (limitedScan "1" (List.replicate 10 .thread ++
          [.stopScan, .startScan { steady := 1, system := 1 }, .thread])) := by
  decide +kernel

end MpsEmulator
