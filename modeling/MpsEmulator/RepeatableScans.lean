/-
**Scans are repeatable.**

`StartScan` seeds the random engine anew from the name of the device, but it does not reset the
normal distribution, which makes its values in pairs and keeps the second one of a pair for the next
call.  A scan therefore repeats the one before it only if that one took an even number of values.
It did: the thread takes one value for each channel of a sub-frame, all devices have an even number
of channels, and the thread leaves the loop over the sub-frames only between two of them.

* `Mps.source`, `nextNormal_source` — the engine and the distribution as a source of pairs;
* `sampleOf`, `sampleChannels_after` — the samples that a name determines;
* `ScanRecord`, `scanned` — the system, with the samples and the frames of each scan so far;
* `StartsOutsideFrames` — no scan starts while the thread makes a frame;
* `Repeatable` — the samples of all scans come from the name, and scans that have read the same rate
  and units have the same frames;
* `ScansInv` — the invariant: what the variables of the thread say about the samples of the frame;
* `scans_repeatable` — **in every run in which scans do not start within frames, they are
  repeatable**.
-/

import MpsEmulator.PairedSource
import MpsEmulator.RateArithmetic
import MpsEmulator.ScanLayout

set_option relaxedAutoImplicit false
set_option autoImplicit false

namespace MpsEmulator

/-! ### The samples of a name -/

/-- The random engine and the normal distribution of a device. -/
def Mps.source (d : Mps) : PairedSource ℚ :=
  { made := d.randomGenerator.pairs, kept := d.normalSaved }

/-- The seed that `StartScan` makes from a name. -/
def seedOf (E : Env) (name : Bytes) : ℕ := E.stdHash name % 2 ^ 32

/-- What `RandomSampleCounts` makes of a value of the normal distribution. -/
def toCounts (E : Env) (value : ℚ) : ℤ :=
  truncate (max (E.mpsMinSignedAdcCounts : ℚ) (min value E.mpsMaxSignedAdcCounts))

/-- The samples of a scan of a device with this name, in order. -/
def sampleOf (E : Env) (name : Bytes) (k : ℕ) : ℤ :=
  toCounts E (pairedStream (E.normalPair (seedOf E name)) k)

/-- The device has taken `k` values since it was seeded with its name. -/
structure Drawn (E : Env) (name : Bytes) (k : ℕ) (d : Mps) : Prop where
  seed : d.randomGenerator.seed = seedOf E name
  source : d.source = .after (E.normalPair (seedOf E name)) k

variable {E : Env} {name : Bytes} {k : ℕ} {d : Mps}

/-- The distribution gives out the next value of the source. -/
theorem nextNormal_source (E : Env) (d : Mps) :
    (nextNormal E d).1 = (d.source.next (E.normalPair d.randomGenerator.seed)).1 ∧
      (nextNormal E d).2.source = (d.source.next (E.normalPair d.randomGenerator.seed)).2 ∧
      (nextNormal E d).2.randomGenerator.seed = d.randomGenerator.seed := by
  cases hsaved : d.normalSaved with
  | none => simp [nextNormal, PairedSource.next, Mps.source, hsaved]
  | some value => simp [nextNormal, PairedSource.next, Mps.source, hsaved]

/-- One sample. -/
theorem randomSampleCounts_drawn (h : Drawn E name k d) :
    (randomSampleCounts E d).1 = sampleOf E name k ∧
      Drawn E name (k + 1) (randomSampleCounts E d).2 := by
  obtain ⟨hvalue, hsource, hseed⟩ := nextNormal_source E d
  rw [h.seed, h.source, PairedSource.next_after] at hvalue hsource
  refine ⟨?_, hseed.trans h.seed, hsource⟩
  change toCounts E (nextNormal E d).1 = _
  rw [hvalue]
  rfl

/-- **One sample for each channel**: the next ones of the name. -/
theorem sampleChannels_drawn (n : ℕ) (h : Drawn E name k d) :
    (sampleChannels E n d).1 = (List.range n).map (fun i => sampleOf E name (k + i)) ∧
      Drawn E name (k + n) (sampleChannels E n d).2 := by
  induction n generalizing k d with
  | zero => exact ⟨rfl, h⟩
  | succ n ih =>
      obtain ⟨hsample, hdrawn⟩ := randomSampleCounts_drawn h
      obtain ⟨hsamples, hdrawn'⟩ := ih hdrawn
      rw [List.range_succ_eq_map, List.map_cons, List.map_map]
      refine ⟨?_, ?_⟩
      · change (randomSampleCounts E d).1 :: (sampleChannels E n (randomSampleCounts E d).2).1 = _
        rw [hsample, hsamples]
        simp only [Nat.add_zero, List.cons.injEq, true_and]
        refine List.map_congr_left fun i _ => ?_
        rw [Function.comp_apply, Nat.succ_eq_add_one, Nat.add_comm i 1, Nat.add_assoc]
      · have hcount : k + 1 + n = k + (n + 1) := by omega
        rw [hcount] at hdrawn'
        exact hdrawn'

/-- What does not touch the engine and the distribution keeps the values taken. -/
theorem Drawn.congr {d' : Mps} (h : Drawn E name k d)
    (hgenerator : d'.randomGenerator = d.randomGenerator)
    (hsaved : d'.normalSaved = d.normalSaved) : Drawn E name k d' := by
  obtain ⟨hseed, hsource⟩ := h
  refine ⟨by rw [hgenerator]; exact hseed, ?_⟩
  rw [Mps.source, hgenerator, hsaved]
  exact hsource

/-! ### The frames of a name -/

/-- The values of the channels in a frame. -/
structure FrameValues where
  counts : ℕ → ℤ
  pressure : ℕ → ℚ
  temperature : ℕ → ℚ

/-- The values that the thread hands out. -/
def ScanThread.values (t : ScanThread) : FrameValues :=
  { counts := t.counts, pressure := t.pressure, temperature := t.temperature }

/-- The sums over the first `rounds` rounds of a frame that begins with the given sample. -/
def sumsOf (E : Env) (name : Bytes) (channels start rounds : ℕ) : ℕ → ℤ := fun i =>
  ((List.range rounds).map fun m =>
    if i < channels then sampleOf E name (start + m * channels + i) else 0).sum

/-- A device like the one that was made with `cfg`, in a scan at this rate and in these units. -/
def scanningAt (E : Env) (cfg : MpsConfig) (rate : CFloat) (units : MpsUnits) : Mps :=
  { Mps.init cfg with
    cfg := { cfg with units := units }
    physicalPressureChannelCount := (physicalChannels (Mps.init cfg)).1
    physicalTemperatureChannelCount := (physicalChannels (Mps.init cfg)).2
    nSubFrameAverages := averagesFor E rate }

/-- The values of a frame with these sums. -/
def valuesOf (E : Env) (d : Mps) (sums : ℕ → ℤ) : FrameValues :=
  let counts := averageCounts E d sums
  { counts := counts, pressure := pressureOf E d counts, temperature := temperatureOf E d counts }

/-- The values of the frame with index `i` of a scan at this rate and in these units. -/
def frameOf (E : Env) (cfg : MpsConfig) (rate : CFloat) (units : MpsUnits) (i : ℕ) : FrameValues :=
  let channels := (physicalChannels (Mps.init cfg)).1
  let averages := averagesFor E rate
  valuesOf E (scanningAt E cfg rate units)
    (sumsOf E (Mps.init cfg).name channels (i * averages * channels) averages)

/-- All devices have an even number of pressure channels. -/
theorem channels_even (cfg : MpsConfig) : (physicalChannels (Mps.init cfg)).1 % 2 = 0 := by
  have hinit : (Mps.init cfg).physicalPressureChannelCount = 64 := rfl
  rw [physicalChannels]
  generalize Mps.init cfg = d at hinit
  split_ifs
  · rfl
  · rfl
  · rfl
  · dsimp only
    rw [hinit]

theorem sumsOf_zero (channels start : ℕ) : sumsOf E name channels start 0 = fun _ => 0 := rfl

/-- One more round. -/
theorem sumsOf_succ (channels start rounds : ℕ) :
    addSamples (sumsOf E name channels start rounds)
        ((List.range channels).map fun i => sampleOf E name (start + rounds * channels + i)) =
      sumsOf E name channels start (rounds + 1) := by
  funext i
  rw [addSamples, sumsOf, sumsOf, List.range_succ, List.map_append, List.sum_append]
  congr 1
  rw [List.getD_eq_getElem?_getD, List.getElem?_map]
  by_cases hi : i < channels
  · simp [hi]
  · simp [hi]

/-- The values depend on the device through the channels, the averages and the units only. -/
theorem valuesOf_congr {d d' : Mps} (sums : ℕ → ℤ)
    (hpressure : d.physicalPressureChannelCount = d'.physicalPressureChannelCount)
    (htemperature : d.physicalTemperatureChannelCount = d'.physicalTemperatureChannelCount)
    (haverages : d.nSubFrameAverages = d'.nSubFrameAverages) (hunits : d.cfg.units = d'.cfg.units) :
    valuesOf E d sums = valuesOf E d' sums := by
  have hcounts : averageCounts E d sums = averageCounts E d' sums := by
    funext i
    rw [averageCounts, averageCounts, hpressure, haverages]
  rw [valuesOf, valuesOf, hcounts]
  congr 1
  · funext i
    rw [pressureOf, pressureOf, hpressure, hunits]
  · funext i
    rw [temperatureOf, temperatureOf, htemperature]

/-! ### The scans of a run -/

/-- What is noted of a scan: its samples, the rate and the units in force whenever the thread read
them, and the values of the frames it emitted. -/
structure ScanRecord where
  samples : List ℤ
  reads : List (CFloat × MpsUnits)
  frames : List FrameValues

/-- A scan that has just started. -/
def ScanRecord.empty : ScanRecord := { samples := [], reads := [], frames := [] }

/-- The scan read no other rate and no other units. -/
def ScanRecord.ReadsOnly (r : ScanRecord) (rate : CFloat) (units : MpsUnits) : Prop :=
  ∀ p ∈ r.reads, p = (rate, units)

/-- What a step of the thread adds.  The rate, through the number of averages, is read by the loop
over the sub-frames and by the averages, and the units by the averages. -/
def ScanRecord.thread (E : Env) (s : Scanner) (r : ScanRecord) : ScanRecord :=
  let d := s.device
  match s.thread.pc with
  | .subFrame =>
      { r with
        samples := r.samples ++
          if s.thread.subFrame < d.nSubFrameAverages then
            (sampleChannels E d.physicalPressureChannelCount d).1
          else []
        reads := r.reads ++ [(d.cfg.scanRateHz, d.cfg.units)] }
  | .average => { r with reads := r.reads ++ [(d.cfg.scanRateHz, d.cfg.units)] }
  | .emit => { r with frames := r.frames ++ [s.thread.values] }
  | _ => r

/-- A step of the thread adds to the newest scan. -/
def threadScans (E : Env) (s : Scanner) : List ScanRecord → List ScanRecord
  | [] => []
  | r :: rs => r.thread E s :: rs

/-- The scans so far, the newest one first, behind a step. -/
def noteScans (E : Env) (scans : List ScanRecord) (s : Scanner) (a : ScanAction) (s' : Scanner) :
    List ScanRecord :=
  if s.begins s' then .empty :: scans
  else if a = .thread then threadScans E s scans
  else scans

/-- The system, with the scans so far. -/
def scanned (E : Env) :
    Scanner × List ScanRecord → ScanAction → Option (Scanner × List ScanRecord) :=
  Runs.annotate (step E) (noteScans E)

/-- The points at which the thread holds sums or averages of a frame. -/
def ThreadPc.holdsFrame : ThreadPc → Bool
  | .subFrame | .average | .emit => true
  | _ => false

/-- No scan starts while the thread makes a frame.  Where the loop of every scan has been left
before the next one starts, this is so. -/
def StartsOutsideFrames (s : Scanner) (a : ScanAction) : Prop :=
  (flagChange s a).isStart = true → s.device.scanning = false → s.thread.pc.holdsFrame = false

instance (s : Scanner) (a : ScanAction) : Decidable (StartsOutsideFrames s a) :=
  inferInstanceAs (Decidable ((flagChange s a).isStart = true → s.device.scanning = false →
    s.thread.pc.holdsFrame = false))

/-- The samples of every scan are those of the name, in order; and two scans that have read the same
rate and the same units have the same values in every frame that both have emitted. -/
def Repeatable (E : Env) (name : Bytes) (scans : List ScanRecord) : Prop :=
  (∀ r ∈ scans, ∀ (k : ℕ) x, r.samples[k]? = some x → x = sampleOf E name k) ∧
    ∀ r ∈ scans, ∀ r' ∈ scans, ∀ rate units, r.ReadsOnly rate units → r'.ReadsOnly rate units →
      ∀ (i : ℕ) f f', r.frames[i]? = some f → r'.frames[i]? = some f' → f = f'

/-! ### The invariant -/

/-- A record that agrees with the name and the configuration. -/
structure ScanRecord.Agrees (E : Env) (cfg : MpsConfig) (r : ScanRecord) : Prop where
  samples : r.samples = (List.range r.samples.length).map (sampleOf E (Mps.init cfg).name)
  frames : ∀ rate units, r.ReadsOnly rate units →
    r.frames = (List.range r.frames.length).map (frameOf E cfg rate units)

/-- What the variables of the thread say about a scan at this rate and in these units that has taken
`n` samples and emitted `i` frames. -/
def Making (E : Env) (cfg : MpsConfig) (rate : CFloat) (units : MpsUnits) (t : ScanThread)
    (n i : ℕ) : Prop :=
  let name := (Mps.init cfg).name
  let channels := (physicalChannels (Mps.init cfg)).1
  let averages := averagesFor E rate
  let first := i * averages * channels
  match t.pc with
  | .subFrame =>
      n = first + t.subFrame * channels ∧ t.subFrame ≤ averages ∧
        t.countsAccumulator = sumsOf E name channels first t.subFrame
  | .average =>
      n = first + averages * channels ∧
        t.countsAccumulator = sumsOf E name channels first averages
  | .emit => n = first + averages * channels ∧ t.values = frameOf E cfg rate units i
  | _ => n = first

/-- What the device and the thread say about the scan in progress, or the last one. -/
structure Current (E : Env) (cfg : MpsConfig) (s : Scanner) (r : ScanRecord) : Prop where
  drawn : Drawn E (Mps.init cfg).name r.samples.length s.device
  even : r.samples.length % 2 = 0
  channels : s.device.physicalPressureChannelCount = (physicalChannels (Mps.init cfg)).1 ∧
    s.device.physicalTemperatureChannelCount = (physicalChannels (Mps.init cfg)).2
  making : ∀ rate units, r.ReadsOnly rate units →
    Making E cfg rate units s.thread r.samples.length r.frames.length

/-- The invariant of runs in which scans start outside frames. -/
structure ScansInv (E : Env) (cfg : MpsConfig) (σ : Scanner × List ScanRecord) : Prop where
  name : σ.1.device.name = (Mps.init cfg).name
  layout : physicalChannels σ.1.device = physicalChannels (Mps.init cfg)
  latched : Latched E σ.1
  fresh : σ.2 = [] →
    σ.1.device.source = { made := 0, kept := none } ∧ σ.1.device.scanning = false ∧
      σ.1.thread.pc.inFrame = false
  current : ∀ r rs, σ.2 = r :: rs → Current E cfg σ.1 r
  agrees : ∀ r ∈ σ.2, r.Agrees E cfg

/-! ### What a step leaves alone -/

/-- Nothing was sampled, and the channels are the same. -/
structure Unsampled (d d' : Mps) : Prop where
  name : d'.name = d.name
  generator : d'.randomGenerator = d.randomGenerator
  saved : d'.normalSaved = d.normalSaved
  pressure : d'.physicalPressureChannelCount = d.physicalPressureChannelCount
  temperature : d'.physicalTemperatureChannelCount = d.physicalTemperatureChannelCount
  packetTemperature : d'.packetTemperatureChannelCount = d.packetTemperatureChannelCount

theorem Unsampled.refl (d : Mps) : Unsampled d d := ⟨rfl, rfl, rfl, rfl, rfl, rfl⟩

theorem unsampled_stopScan (d : Mps) : Unsampled d (stopScan d).device := by
  cases h : d.scanning with
  | false =>
      rw [stopScan_of_not_scanning h]
      exact .refl d
  | true =>
      rw [stopScan_device_of_scanning h]
      exact ⟨rfl, rfl, rfl, rfl, rfl, rfl⟩

variable {s s' : Scanner} {a : ScanAction} {cfg : MpsConfig}

/-- A step begins a scan exactly by a call of `StartScan` that takes effect. -/
theorem startScan_of_begins (h : step E s a = some s') (hbegins : s.begins s' = true) :
    ∃ now, s'.device = (startScan E now s.device).device := by
  have hdevice := step_device h
  obtain ⟨-, hstart, -⟩ := isStart_of_begins h hbegins
  generalize flagChange s a = c at hstart hdevice
  generalize s'.device = d' at hdevice
  cases hdevice with
  | start now => exact ⟨now, rfl⟩
  | _ => cases hstart

/-- A call that begins no scan samples nothing. -/
theorem unsampled_call (h : step E s a = some s') (ha : a ≠ .thread)
    (hbegins : s.begins s' = false) : Unsampled s.device s'.device := by
  have hstart : ∀ now, s'.device = (startScan E now s.device).device →
      Unsampled s.device s'.device := by
    intro now hdevice
    cases hs : s.device.scanning with
    | true =>
        rw [hdevice, startScan_of_scanning hs]
        exact .refl _
    | false =>
        rw [Scanner.begins, hs, hdevice, (startScan_of_not_scanning E now hs).1] at hbegins
        cases hbegins
  cases a with
  | thread => exact absurd rfl ha
  | startScan now =>
      obtain rfl := Option.some_inj.1 h
      exact hstart now rfl
  | stopScan =>
      obtain rfl := Option.some_inj.1 h
      exact unsampled_stopScan s.device
  | calZ =>
      obtain rfl := Option.some_inj.1 h
      exact ⟨rfl, rfl, rfl, rfl, rfl, rfl⟩
  | command x cmd =>
      obtain rfl := Option.some_inj.1 h
      have heffect := parseCommands_effect E x s.device cmd
      dsimp only at hstart ⊢
      generalize (parseCommands E x s.device cmd).device = d' at heffect hstart
      cases heffect with
      | scan => exact hstart x.now rfl
      | stop => exact unsampled_stopScan s.device
      | calz => exact ⟨rfl, rfl, rfl, rfl, rfl, rfl⟩
      | settings => exact ⟨rfl, rfl, rfl, rfl, rfl, rfl⟩

/-- No step changes the type of the device. -/
theorem step_deviceId (h : step E s a = some s') :
    s'.device.cfg.deviceId = s.device.cfg.deviceId :=
  CfgStep.preserved (P := fun c => c.deviceId = s.device.cfg.deviceId)
    (fun _ _ hc hstep => hstep.identity.1.trans hc) rfl (step_cfg h)

/-- The channels follow from the type of the device and the channels before. -/
theorem physicalChannels_congr {d d' : Mps} (hdevice : d'.cfg.deviceId = d.cfg.deviceId)
    (hpressure : d'.physicalPressureChannelCount = d.physicalPressureChannelCount)
    (htemperature : d'.physicalTemperatureChannelCount = d.physicalTemperatureChannelCount) :
    physicalChannels d' = physicalChannels d := by
  rw [physicalChannels, physicalChannels, hdevice, hpressure, htemperature]

/-- A scan start sets the channels, and setting them again would not change them. -/
theorem startScan_channels (now : Clock) (d : Mps) (hoff : d.scanning = false) :
    (startScan E now d).device.physicalPressureChannelCount = (physicalChannels d).1 ∧
      (startScan E now d).device.physicalTemperatureChannelCount = (physicalChannels d).2 ∧
      physicalChannels (startScan E now d).device = physicalChannels d := by
  have hpressure : (startScan E now d).device.physicalPressureChannelCount =
      (physicalChannels d).1 := by
    simp [startScan, hoff, updateScanAverages, configureScanLayout, physicalChannels]
  have htemperature : (startScan E now d).device.physicalTemperatureChannelCount =
      (physicalChannels d).2 := by
    simp [startScan, hoff, updateScanAverages, configureScanLayout, physicalChannels]
  refine ⟨hpressure, htemperature, ?_⟩
  rw [physicalChannels, hpressure, htemperature, startScan_cfg]
  rw [physicalChannels]
  split_ifs <;> rfl

/-- **A scan start seeds the engine**; the source starts over if an even number of values was
taken. -/
theorem startScan_drawn (now : Clock) (hoff : d.scanning = false)
    (hsource : d.source = .after (E.normalPair (seedOf E d.name)) k) (hk : k % 2 = 0) :
    (startScan E now d).device.name = d.name ∧ Drawn E d.name 0 (startScan E now d).device := by
  have hseeded : (startScan E now d).device.randomGenerator =
      { seed := seedOf E d.name, pairs := 0 } := by
    simp [startScan, hoff, updateScanAverages, configureScanLayout, seedOf]
  have hsaved : (startScan E now d).device.normalSaved = d.normalSaved := by
    simp [startScan, hoff, updateScanAverages, configureScanLayout]
  refine ⟨by simp [startScan, hoff, updateScanAverages, configureScanLayout], ?_, ?_⟩
  · rw [hseeded]
  · have hrestart : (startScan E now d).device.source = d.source.restart := by
      rw [Mps.source, hseeded, hsaved]
      rfl
    rw [hrestart, hsource]
    exact PairedSource.restart_after_iff.2 hk

/-! ### Steps of the thread -/

/-- Between frames, a scan has taken the samples of whole frames. -/
theorem making_iff {rate : CFloat} {units : MpsUnits} {t : ScanThread} {n i : ℕ}
    (h : t.pc.holdsFrame = false) :
    Making E cfg rate units t n i ↔
      n = i * averagesFor E rate * (physicalChannels (Mps.init cfg)).1 := by
  cases hpc : t.pc <;> simp_all [Making, ThreadPc.holdsFrame]

/-- Outside the frames the thread samples nothing, and it gets into a frame by beginning one. -/
theorem threadStep_outside (h : threadStep E s = some s') (hout : s.thread.pc.holdsFrame = false)
    (hbegin : s.thread.pc ≠ .frameBegin) :
    s'.thread.pc.holdsFrame = false ∧ Unsampled s.device s'.device := by
  cases hpc : s.thread.pc <;> simp only [threadStep, hpc] at h
  case frameBegin => exact absurd hpc hbegin
  case subFrame | average | emit =>
    rw [hpc] at hout
    cases hout
  case finished => cases h
  case outer | calTest | scanTest | frameEnd =>
    rw [← Option.some_inj.1 h]
    refine ⟨?_, .refl _⟩
    dsimp only
    split <;> rfl
  case calEnd =>
    rw [← Option.some_inj.1 h]
    exact ⟨rfl, rfl, rfl, rfl, rfl, rfl, rfl⟩
  case limitStop =>
    rw [← Option.some_inj.1 h]
    exact ⟨rfl, unsampled_stopScan s.device⟩
  all_goals
    rw [← Option.some_inj.1 h]
    exact ⟨rfl, .refl _⟩

variable {r : ScanRecord} {scans : List ScanRecord}

/-- Where a step leaves the record alone, what was said of it stays true. -/
theorem Current.unsampled (hcurrent : Current E cfg s r) (h : Unsampled s.device s'.device)
    (hmaking : ∀ rate units, r.ReadsOnly rate units →
      Making E cfg rate units s'.thread r.samples.length r.frames.length) :
    Current E cfg s' r where
  drawn := hcurrent.drawn.congr h.generator h.saved
  even := hcurrent.even
  channels := ⟨h.pressure.trans hcurrent.channels.1, h.temperature.trans hcurrent.channels.2⟩
  making := hmaking

/-- What one more read says of the reads before it, and of itself. -/
theorem readsOnly_append {reads : List (CFloat × MpsUnits)} {samples : List ℤ}
    {frames : List FrameValues} {rate₁ rate : CFloat} {units₁ units : MpsUnits}
    (h : ScanRecord.ReadsOnly
      { samples := samples, reads := reads ++ [(rate₁, units₁)], frames := frames } rate units) :
    (∀ p ∈ reads, p = (rate, units)) ∧ rate₁ = rate ∧ units₁ = units := by
  have hlast := h (rate₁, units₁) (List.mem_append_right _ List.mem_cons_self)
  rw [Prod.mk.injEq] at hlast
  exact ⟨fun p hp => h p (List.mem_append_left _ hp), hlast⟩

/-- A round of the loop over the sub-frames. -/
theorem Current.sample (hcurrent : Current E cfg s r) (hagrees : r.Agrees E cfg)
    (hlatched : Latched E s) (hpc : s.thread.pc = .subFrame)
    (hlt : s.thread.subFrame < s.device.nSubFrameAverages) (h : threadStep E s = some s') :
    Current E cfg s' (r.thread E s) ∧ (r.thread E s).Agrees E cfg := by
  obtain ⟨hsamples, hdrawn⟩ :=
    sampleChannels_drawn s.device.physicalPressureChannelCount hcurrent.drawn
  have hsame := sampleChannels_same E s.device.physicalPressureChannelCount s.device
  rw [hcurrent.channels.1] at hsamples hdrawn hsame
  simp only [threadStep, hpc, if_pos hlt, hcurrent.channels.1] at h
  obtain rfl := Option.some_inj.1 h
  have hnote : r.thread E s =
      { r with
        samples := r.samples ++ (List.range (physicalChannels (Mps.init cfg)).1).map
          fun i => sampleOf E (Mps.init cfg).name (r.samples.length + i)
        reads := r.reads ++ [(s.device.cfg.scanRateHz, s.device.cfg.units)] } := by
    simp only [ScanRecord.thread, hpc, if_pos hlt, hcurrent.channels.1, hsamples]
  have hcount : (r.samples ++ (List.range (physicalChannels (Mps.init cfg)).1).map
      fun i => sampleOf E (Mps.init cfg).name (r.samples.length + i)).length =
        r.samples.length + (physicalChannels (Mps.init cfg)).1 := by simp
  have heven := channels_even cfg
  rw [hnote]
  refine ⟨⟨?_, ?_, ?_, ?_⟩, ?_, ?_⟩
  · dsimp only
    rw [hcount]
    exact hdrawn
  · dsimp only
    rw [hcount]
    have := hcurrent.even
    omega
  · dsimp only
    rw [hsame]
    exact hcurrent.channels
  · intro rate units hreads
    obtain ⟨hbefore, hrate, -⟩ := readsOnly_append hreads
    have haverages : s.device.nSubFrameAverages = averagesFor E rate := by
      rw [hlatched (Or.inr (by rw [hpc]; rfl)), hrate]
    have hmaking := hcurrent.making rate units hbefore
    simp only [Making, hpc] at hmaking ⊢
    obtain ⟨hn, -, hacc⟩ := hmaking
    refine ⟨?_, ?_, ?_⟩
    · rw [hcount, hn, Nat.add_one_mul, Nat.add_assoc]
    · omega
    · rw [hacc, hsamples, hn, sumsOf_succ]
  · dsimp only
    rw [hcount, List.range_add, List.map_append, List.map_map, ← hagrees.samples]
    rfl
  · intro rate units hreads
    exact hagrees.frames rate units (readsOnly_append hreads).1

/-- The end of the loop over the sub-frames. -/
theorem Current.loopEnd (hcurrent : Current E cfg s r) (hagrees : r.Agrees E cfg)
    (hlatched : Latched E s) (hpc : s.thread.pc = .subFrame)
    (hge : ¬ s.thread.subFrame < s.device.nSubFrameAverages) (h : threadStep E s = some s') :
    Current E cfg s' (r.thread E s) ∧ (r.thread E s).Agrees E cfg := by
  simp only [threadStep, hpc, if_neg hge] at h
  obtain rfl := Option.some_inj.1 h
  have hnote : r.thread E s =
      { r with reads := r.reads ++ [(s.device.cfg.scanRateHz, s.device.cfg.units)] } := by
    simp only [ScanRecord.thread, hpc, if_neg hge, List.append_nil]
  rw [hnote]
  refine ⟨⟨hcurrent.drawn, hcurrent.even, hcurrent.channels, ?_⟩, hagrees.samples, ?_⟩
  · intro rate units hreads
    obtain ⟨hbefore, hrate, -⟩ := readsOnly_append hreads
    have haverages : s.device.nSubFrameAverages = averagesFor E rate := by
      rw [hlatched (Or.inr (by rw [hpc]; rfl)), hrate]
    have hmaking := hcurrent.making rate units hbefore
    simp only [Making, hpc] at hmaking ⊢
    obtain ⟨hn, hle, hacc⟩ := hmaking
    have hrounds : s.thread.subFrame = averagesFor E rate := by omega
    rw [hrounds] at hn hacc
    exact ⟨hn, hacc⟩
  · intro rate units hreads
    exact hagrees.frames rate units (readsOnly_append hreads).1

/-- The averages of a frame are those of its samples. -/
theorem Current.average (hcurrent : Current E cfg s r) (hagrees : r.Agrees E cfg)
    (hlatched : Latched E s) (hpc : s.thread.pc = .average) (h : threadStep E s = some s') :
    Current E cfg s' (r.thread E s) ∧ (r.thread E s).Agrees E cfg := by
  simp only [threadStep, hpc] at h
  obtain ⟨-, h⟩ := Option.ite_none_left_eq_some.1 h
  obtain rfl := Option.some_inj.1 h
  have hnote : r.thread E s =
      { r with reads := r.reads ++ [(s.device.cfg.scanRateHz, s.device.cfg.units)] } := by
    simp only [ScanRecord.thread, hpc]
  rw [hnote]
  refine ⟨⟨hcurrent.drawn, hcurrent.even, hcurrent.channels, ?_⟩, hagrees.samples, ?_⟩
  · intro rate units hreads
    obtain ⟨hbefore, hrate, hunits⟩ := readsOnly_append hreads
    have haverages : s.device.nSubFrameAverages = averagesFor E rate := by
      rw [hlatched (Or.inr (by rw [hpc]; rfl)), hrate]
    have hmaking := hcurrent.making rate units hbefore
    simp only [Making, hpc] at hmaking ⊢
    obtain ⟨hn, hacc⟩ := hmaking
    refine ⟨hn, ?_⟩
    rw [frameOf, ← hacc]
    exact valuesOf_congr _ hcurrent.channels.1 hcurrent.channels.2 haverages hunits
  · intro rate units hreads
    exact hagrees.frames rate units (readsOnly_append hreads).1

/-- A frame is emitted. -/
theorem Current.emit (hcurrent : Current E cfg s r) (hagrees : r.Agrees E cfg)
    (hpc : s.thread.pc = .emit) (h : threadStep E s = some s') :
    Current E cfg s' (r.thread E s) ∧ (r.thread E s).Agrees E cfg := by
  simp only [threadStep, hpc] at h
  obtain rfl := Option.some_inj.1 h
  have hnote : r.thread E s = { r with frames := r.frames ++ [s.thread.values] } := by
    simp only [ScanRecord.thread, hpc]
  rw [hnote]
  have hmaking : ∀ rate units, r.ReadsOnly rate units →
      Making E cfg rate units s.thread r.samples.length r.frames.length := hcurrent.making
  simp only [Making, hpc] at hmaking
  refine ⟨⟨hcurrent.drawn, hcurrent.even, hcurrent.channels, ?_⟩, hagrees.samples, ?_⟩
  · intro rate units hreads
    rw [making_iff rfl, (hmaking rate units hreads).1, List.length_append, List.length_singleton]
    ring
  · intro rate units hreads
    dsimp only
    rw [List.length_append, List.length_singleton, List.range_succ, List.map_append,
      ← hagrees.frames rate units hreads, (hmaking rate units hreads).2]
    rfl

/-- The beginning of a frame. -/
theorem Current.frameBegin (hcurrent : Current E cfg s r) (hpc : s.thread.pc = .frameBegin)
    (h : threadStep E s = some s') : Current E cfg s' r := by
  simp only [threadStep, hpc] at h
  obtain rfl := Option.some_inj.1 h
  refine hcurrent.unsampled (.refl _) ?_
  intro rate units hreads
  have hmaking := (making_iff (by rw [hpc]; rfl)).1 (hcurrent.making rate units hreads)
  simp only [Making]
  exact ⟨by omega, Nat.zero_le _, (sumsOf_zero _ _).symm⟩

/-- **A step of the thread** keeps what is said of the current scan. -/
theorem Current.step (hcurrent : Current E cfg s r) (hagrees : r.Agrees E cfg)
    (hlatched : Latched E s) (h : threadStep E s = some s') :
    Current E cfg s' (r.thread E s) ∧ (r.thread E s).Agrees E cfg := by
  by_cases hpc : s.thread.pc = .subFrame
  · by_cases hlt : s.thread.subFrame < s.device.nSubFrameAverages
    · exact hcurrent.sample hagrees hlatched hpc hlt h
    · exact hcurrent.loopEnd hagrees hlatched hpc hlt h
  by_cases hpc' : s.thread.pc = .average
  · exact hcurrent.average hagrees hlatched hpc' h
  by_cases hpc'' : s.thread.pc = .emit
  · exact hcurrent.emit hagrees hpc'' h
  -- the other steps are not noted
  have hout : s.thread.pc.holdsFrame = false := by
    cases hpc₀ : s.thread.pc <;> simp_all [ThreadPc.holdsFrame]
  have hnote : r.thread E s = r := by
    cases hpc₀ : s.thread.pc <;> simp_all [ScanRecord.thread]
  rw [hnote]
  refine ⟨?_, hagrees⟩
  by_cases hbegin : s.thread.pc = .frameBegin
  · exact hcurrent.frameBegin hbegin h
  · obtain ⟨hout', hunsampled⟩ := threadStep_outside h hout hbegin
    refine hcurrent.unsampled hunsampled ?_
    intro rate units hreads
    exact (making_iff hout').2 ((making_iff hout).1 (hcurrent.making rate units hreads))

/-! ### Steps of the system -/

/-- The number of values taken since the engine was seeded is even, whether or not a scan has
started yet. -/
theorem ScansInv.source (hinv : ScansInv E cfg (s, scans)) :
    ∃ k, s.device.source = .after (E.normalPair (seedOf E s.device.name)) k ∧ k % 2 = 0 := by
  cases scans with
  | nil => exact ⟨0, (hinv.fresh rfl).1, rfl⟩
  | cons r rs =>
      have hcurrent := hinv.current r rs rfl
      refine ⟨r.samples.length, ?_, hcurrent.even⟩
      have hname : s.device.name = (Mps.init cfg).name := hinv.name
      rw [hname]
      exact hcurrent.drawn.source

/-- A scan that starts outside the frames begins a record that agrees. -/
theorem ScansInv.begins (hinv : ScansInv E cfg (s, scans)) (hclean : StartsOutsideFrames s a)
    (h : step E s a = some s') (hbegins : s.begins s' = true) :
    ScansInv E cfg (s', .empty :: scans) := by
  obtain ⟨hoff, hstart, hthread⟩ := isStart_of_begins h hbegins
  obtain ⟨now, hdevice⟩ := startScan_of_begins h hbegins
  obtain ⟨k, hsource, hk⟩ := hinv.source
  obtain ⟨hname, hdrawn⟩ := startScan_drawn now hoff hsource hk
  obtain ⟨hpressure, htemperature, hlayout⟩ := startScan_channels (E := E) now s.device hoff
  have hsame : s.device.name = (Mps.init cfg).name := hinv.name
  have hchannels : physicalChannels s.device = physicalChannels (Mps.init cfg) := hinv.layout
  rw [← hdevice] at hname hdrawn hpressure htemperature hlayout
  refine ⟨hname.trans hsame, hlayout.trans hchannels, hinv.latched.step h,
    fun hnil => absurd hnil (List.cons_ne_nil _ _), ?_, ?_⟩
  · intro r rs heq
    obtain ⟨rfl, -⟩ := List.cons_eq_cons.1 heq
    rw [hsame] at hdrawn
    rw [hchannels] at hpressure htemperature
    refine ⟨hdrawn, rfl, ⟨hpressure, htemperature⟩, ?_⟩
    intro rate units _
    dsimp only
    rw [hthread, making_iff (hclean hstart hoff)]
    simp [ScanRecord.empty]
  · intro r hr
    rcases List.mem_cons.1 hr with rfl | hr
    · exact ⟨rfl, fun _ _ _ => rfl⟩
    · exact hinv.agrees r hr

/-- A call that begins no scan changes nothing that is noted. -/
theorem ScansInv.call (hinv : ScansInv E cfg (s, scans)) (h : step E s a = some s')
    (ha : a ≠ .thread) (hbegins : s.begins s' = false) : ScansInv E cfg (s', scans) := by
  have hunsampled := unsampled_call h ha hbegins
  have hthread := step_thread h ha
  refine ⟨hunsampled.name.trans hinv.name, ?_, hinv.latched.step h, ?_, ?_, hinv.agrees⟩
  · exact (physicalChannels_congr (step_deviceId h) hunsampled.pressure
      hunsampled.temperature).trans hinv.layout
  · intro hnil
    obtain ⟨hsource, hoff, hpc⟩ := hinv.fresh hnil
    dsimp only at hsource hoff hpc ⊢
    rw [hthread, Mps.source, hunsampled.generator, hunsampled.saved]
    refine ⟨hsource, ?_, hpc⟩
    rw [Scanner.begins, hoff] at hbegins
    simpa using hbegins
  · intro r rs heq
    have hcurrent := hinv.current r rs heq
    refine hcurrent.unsampled hunsampled ?_
    intro rate units hreads
    rw [hthread]
    exact hcurrent.making rate units hreads

/-- The thread changes neither the name nor the channels of the device. -/
theorem threadStep_identity (h : threadStep E s = some s') :
    s'.device.name = s.device.name ∧ physicalChannels s'.device = physicalChannels s.device := by
  have hdevice : s'.device.cfg.deviceId = s.device.cfg.deviceId := by
    rw [(threadStep_settings h).1]
  have heffect := threadStep_effect h
  generalize s'.device = d' at heffect hdevice
  cases heffect with
  | calEnd => exact ⟨rfl, rfl⟩
  | limitStop =>
      have hunsampled := unsampled_stopScan s.device
      exact ⟨hunsampled.name,
        physicalChannels_congr hdevice hunsampled.pressure hunsampled.temperature⟩
  | random _ _ hsame =>
      rw [hsame]
      exact ⟨rfl, rfl⟩

/-- A step of the thread. -/
theorem ScansInv.thread (hinv : ScansInv E cfg (s, scans)) (h : threadStep E s = some s') :
    ScansInv E cfg (s', threadScans E s scans) := by
  obtain ⟨hname, hlayout⟩ := threadStep_identity h
  refine ⟨hname.trans hinv.name, hlayout.trans hinv.layout, hinv.latched.step (a := .thread) h,
    ?_, ?_, ?_⟩
  · intro hnil
    cases scans with
    | cons r rs => cases hnil
    | nil =>
        -- without a scan the thread does not get to a frame
        obtain ⟨hsource, hoff, hpc⟩ := hinv.fresh rfl
        dsimp only at hsource hoff hpc ⊢
        have hout : s.thread.pc.holdsFrame = false := by
          cases hpc₀ : s.thread.pc <;> simp_all [ThreadPc.holdsFrame, ThreadPc.inFrame]
        have hbegin : s.thread.pc ≠ .frameBegin := by
          intro hpc₀
          rw [hpc₀] at hpc
          cases hpc
        obtain ⟨-, hunsampled⟩ := threadStep_outside h hout hbegin
        refine ⟨?_, ?_, ?_⟩
        · rw [Mps.source, hunsampled.generator, hunsampled.saved]
          exact hsource
        · rw [← Bool.not_eq_true]
          intro hon
          rw [scanning_of_threadStep h hon] at hoff
          cases hoff
        · rw [← Bool.not_eq_true]
          intro hin
          rcases inFrame_of_threadStep h hin with hon | hin
          · rw [hoff] at hon
            cases hon
          · rw [hpc] at hin
            cases hin
  · intro r' rs' heq
    cases scans with
    | nil => cases heq
    | cons r rs =>
        obtain ⟨rfl, -⟩ := List.cons_eq_cons.1 heq
        exact ((hinv.current r rs rfl).step (hinv.agrees r List.mem_cons_self) hinv.latched h).1
  · intro r' hr'
    cases scans with
    | nil => cases hr'
    | cons r rs =>
        rcases List.mem_cons.1 hr' with rfl | hr'
        · exact ((hinv.current r rs rfl).step (hinv.agrees r List.mem_cons_self) hinv.latched h).2
        · exact hinv.agrees r' (List.mem_cons_of_mem _ hr')

/-- **Step lemma**: a step that starts no scan within a frame keeps the invariant. -/
theorem ScansInv.step {σ σ' : Scanner × List ScanRecord} (hinv : ScansInv E cfg σ)
    (hclean : StartsOutsideFrames σ.1 a) (h : scanned E σ a = some σ') : ScansInv E cfg σ' := by
  obtain ⟨s, scans⟩ := σ
  obtain ⟨s', scans'⟩ := σ'
  obtain ⟨hstep, hscans⟩ := Runs.annotate_eq_some.1 h
  dsimp only at hstep hscans hclean
  rw [hscans, noteScans]
  cases hbegins : s.begins s' with
  | true =>
      rw [if_pos rfl]
      exact hinv.begins hclean hstep hbegins
  | false =>
      rw [if_neg Bool.false_ne_true]
      by_cases ha : a = .thread
      · rw [if_pos ha]
        rw [ha] at hstep
        exact hinv.thread hstep
      · rw [if_neg ha]
        exact hinv.call hstep ha hbegins

theorem scansInv_start (E : Env) (cfg : MpsConfig) : ScansInv E cfg (Scanner.start cfg, []) where
  name := rfl
  layout := rfl
  latched := fun h => by rcases h with h | h <;> cases h
  fresh := fun _ => ⟨rfl, rfl, rfl⟩
  current := fun _ _ h => by cases h
  agrees := fun _ h => by cases h

/-- A list that is read off a function holds its values. -/
theorem eq_of_getElem?_map_range {β : Type*} {f : ℕ → β} {n i : ℕ} {x : β}
    (h : ((List.range n).map f)[i]? = some x) : x = f i := by
  obtain ⟨hi, rfl⟩ := List.getElem?_eq_some_iff.1 h
  simp

/-- The invariant says that the scans are repeatable. -/
theorem ScansInv.repeatable {σ : Scanner × List ScanRecord} (hinv : ScansInv E cfg σ) :
    Repeatable E (Mps.init cfg).name σ.2 := by
  constructor
  · intro r hr k x hx
    rw [(hinv.agrees r hr).samples] at hx
    exact eq_of_getElem?_map_range hx
  · intro r hr r' hr' rate units hreads hreads' i f f' hf hf'
    have hframe : ∀ r₁ ∈ σ.2, r₁.ReadsOnly rate units → ∀ f₁, r₁.frames[i]? = some f₁ →
        f₁ = frameOf E cfg rate units i := by
      intro r₁ hr₁ hreads₁ f₁ hf₁
      rw [(hinv.agrees r₁ hr₁).frames rate units hreads₁] at hf₁
      exact eq_of_getElem?_map_range hf₁
    rw [hframe r hr hreads f hf, hframe r' hr' hreads' f' hf']

/-- In every run of a device in which no scan starts while the thread makes a frame, and after each
step of it, **the scans so far are repeatable**. -/
theorem scans_repeatable (E : Env) (cfg : MpsConfig) (as : List ScanAction)
    (hclean : Runs.Along (scanned E) (fun σ a => StartsOutsideFrames σ.1 a)
      (Scanner.start cfg, []) as) :
    Runs.Throughout (scanned E) (fun σ => Repeatable E (Mps.init cfg).name σ.2)
      (Scanner.start cfg, []) as := by
  have hinv := Runs.throughout_of_along (fun σ a σ' hinv hC h => ScansInv.step hinv hC h)
    (scansInv_start E cfg) hclean
  exact hinv.mono fun σ h => h.repeatable

/-- Two scans of one frame, one after the other. -/
def twoScans : List ScanAction :=
  .command .quiet "SET RATE 500".toList :: .startScan { steady := 0, system := 0 } ::
    (List.replicate 10 .thread ++ .stopScan :: List.replicate 8 .thread ++
      .startScan { steady := 1000, system := 0 } :: List.replicate 10 .thread)

theorem scans_repeatable_twice :
    Runs.Along (scanned referenceEnv) (fun σ a => StartsOutsideFrames σ.1 a)
        (Scanner.start (attachConfig mps4216 1), []) twoScans ∧
      Runs.Throughout (scanned referenceEnv)
        (fun σ => Repeatable referenceEnv (Mps.init (attachConfig mps4216 1)).name σ.2)
        (Scanner.start (attachConfig mps4216 1), []) twoScans := by
  have hclean : Runs.Along (scanned referenceEnv) (fun σ a => StartsOutsideFrames σ.1 a)
      (Scanner.start (attachConfig mps4216 1), []) twoScans := by
    decide +kernel
  exact ⟨hclean, scans_repeatable referenceEnv _ _ hclean⟩

end MpsEmulator
