/-
**Legacy packets and the units they name.**

`StartScan` fixes whether the packets hold raw counts; the pressures are scaled when the averages of
a frame are taken; and the units index and the conversion factor in the header of a legacy packet
are those in force when the packet is built.  `SET UNITS` can come in between any two of these.

* `Packet.SelfConsistent` — a packet that holds what its header says;
* `UnitsLog`, `noted` — the system, with a note of the units at the scan start and at the averages;
* `UnitsKept` — the units in force when a packet is built are those;
* `describes_iff_unitsKept` — **exactly in the runs where they are, every legacy packet describes
  its own payload**;
* `units_changed` — three runs in which one does not.
-/

import MpsEmulator.ScanLayout

set_option relaxedAutoImplicit false
set_option autoImplicit false

namespace MpsEmulator

/-! ### Packets that describe themselves -/

/-- The pressure for a reading, with a conversion factor. -/
def scaled (E : Env) (factor : ℚ) (count : ℤ) : ℚ := count / E.mpsMaxSignedAdcCounts * factor

/-- The word for a reading in a packet with this header: the reading itself if the header names raw
units, and otherwise the pressure with the factor in the header. -/
def LegacyHeader.word (E : Env) (h : LegacyHeader) (count : ℤ) : Word :=
  if h.unitIndex = E.mpsUnitsIndex .raw then .count count
  else .value (scaled E h.unitConversion count)

/-- A legacy packet whose payload is what its header says. -/
def Packet.SelfConsistent (E : Env) (counts : ℕ → ℤ) (p : Packet) : Prop :=
  ∃ h ∈ p.legacy, ∀ i < 64, p.values.getD i .zero = h.word E (counts i)

instance (E : Env) (counts : ℕ → ℤ) : DecidablePred (Packet.SelfConsistent E counts) := fun p =>
  inferInstanceAs
    (Decidable (∃ h ∈ p.legacy, ∀ i < 64, p.values.getD i .zero = h.word E (counts i)))

/-- A step that emits a legacy packet emits one that describes itself. -/
def DescribesItself (E : Env) (s : Scanner) (a : ScanAction) : Prop :=
  a = .thread → s.thread.pc = .emit →
    ∀ p ∈ binaryFrame E s.device s.thread.frameData,
      p.type = .legacy → p.SelfConsistent E s.thread.counts

instance (E : Env) (s : Scanner) (a : ScanAction) : Decidable (DescribesItself E s a) :=
  inferInstanceAs (Decidable (a = .thread → s.thread.pc = .emit →
    ∀ p ∈ binaryFrame E s.device s.thread.frameData,
      p.type = .legacy → p.SelfConsistent E s.thread.counts))

/-! ### The units so far -/

/-- The units in force when the last scan started, and when the last averages were taken. -/
structure UnitsLog where
  atScanStart : MpsUnits
  atAverages : MpsUnits

/-- No scan has started yet. -/
def UnitsLog.none : UnitsLog := { atScanStart := .pa, atAverages := .pa }

def UnitsLog.next (log : UnitsLog) (s : Scanner) (a : ScanAction) (s' : Scanner) : UnitsLog where
  atScanStart := if s.begins s' then s.device.cfg.units else log.atScanStart
  atAverages :=
    if a = .thread ∧ s.thread.pc = .average then s.device.cfg.units else log.atAverages

/-- The system, with a note of these units. -/
def noted (E : Env) : Scanner × UnitsLog → ScanAction → Option (Scanner × UnitsLog) :=
  Runs.annotate (step E) UnitsLog.next

/-- The packets of the scan are legacy packets, of a positive size. -/
def SendsLegacy (E : Env) (d : Mps) : Prop :=
  d.useBinary ∧ d.packetType = .legacy ∧ 0 < d.packetInfo.getD (E.packetSizeof .legacy)

/-- When a legacy packet is built, the units are raw exactly if they were raw at the scan start; and
if not, their factor is still that of the averages, unless all readings are zero. -/
def UnitsKept (E : Env) (σ : Scanner × UnitsLog) (a : ScanAction) : Prop :=
  a = .thread → σ.1.thread.pc = .emit → SendsLegacy E σ.1.device →
    (E.mpsUnitsIndex σ.1.device.cfg.units = E.mpsUnitsIndex .raw ↔ σ.2.atScanStart = .raw) ∧
      (σ.2.atScanStart ≠ .raw →
        E.mpsUnitsConversionFactor σ.2.atAverages =
            E.mpsUnitsConversionFactor σ.1.device.cfg.units ∨
          ∀ i < 64, σ.1.thread.counts i = 0)

/-! ### The packet of a frame -/

variable {E : Env}

/-- The legacy packets among those that are emitted. -/
theorem mem_binaryFrame_legacy {d : Mps} {f : FrameData} {p : Packet} :
    (p ∈ binaryFrame E d f ∧ p.type = .legacy) ↔
      SendsLegacy E d ∧ p = fillPacket E d f d.useRaw (some (legacyHeader E d)) := by
  constructor
  · rintro ⟨hp, htype⟩
    obtain ⟨hbinary, hp⟩ := Option.ite_none_right_eq_some.1 hp
    obtain ⟨hbuild, hsize⟩ := Option.filter_eq_some_iff.1 hp
    have hlegacy : d.packetType = .legacy := by
      cases ht : d.packetType <;> simp only [buildPacket, ht] at hbuild
      case legacy => rfl
      case undefined => cases hbuild
      all_goals
        rw [← Option.some_inj.1 hbuild] at htype
        exact absurd (ht.symm.trans htype) (by decide)
    simp only [buildPacket, hlegacy, Option.some.injEq] at hbuild
    subst hbuild
    exact ⟨⟨hbinary, hlegacy, by simpa [fillPacket, hlegacy] using hsize⟩, rfl⟩
  · rintro ⟨⟨hbinary, hlegacy, hsize⟩, rfl⟩
    refine ⟨?_, hlegacy⟩
    rw [binaryFrame, if_pos hbinary]
    refine Option.filter_eq_some_iff.2 ⟨by simp only [buildPacket, hlegacy], ?_⟩
    simpa [fillPacket, hlegacy] using hsize

/-- The payload of a packet with 64 channels. -/
theorem fillPacket_values {d : Mps} {f : FrameData} {raw : Bool} {legacy : Option LegacyHeader}
    (hchannels : d.packetPressureChannelCount = 64) {i : ℕ} (hi : i < 64) :
    (fillPacket E d f raw legacy).values.getD i .zero =
      if raw then .count (f.counts i) else .value (f.pressure i) := by
  simp only [fillPacket, memcpyArray, hchannels]
  rw [List.getD_append _ _ _ _ (by simpa using hi), List.getD_eq_getElem _ _ (by simpa using hi)]
  simp

/-- Two factors give the same pressure only for a reading of zero. -/
theorem scaled_eq_iff {f g : ℚ} {z : ℤ} : scaled E f z = scaled E g z ↔ f = g ∨ z = 0 := by
  have hmax : (E.mpsMaxSignedAdcCounts : ℚ) ≠ 0 := by exact_mod_cast E.maxSigned_pos.ne'
  rw [scaled, scaled, mul_eq_mul_left_iff, div_eq_zero_iff, or_iff_left hmax, Int.cast_eq_zero]

/-- **One packet.**  What a legacy packet of 64 channels says of itself is true exactly if the units
are raw as they were at the scan start, and otherwise no pressure would be another one with the
factor now in force. -/
theorem selfConsistent_fillPacket {d : Mps} {f : FrameData} {atAverages : MpsUnits}
    (hchannels : d.packetPressureChannelCount = 64)
    (hpressure : ∀ i,
      f.pressure i = scaled E (E.mpsUnitsConversionFactor atAverages) (f.counts i)) :
    (fillPacket E d f d.useRaw (some (legacyHeader E d))).SelfConsistent E f.counts ↔
      (E.mpsUnitsIndex d.cfg.units = E.mpsUnitsIndex .raw ↔ d.useRaw = true) ∧
        (¬ d.useRaw = true →
          E.mpsUnitsConversionFactor atAverages = E.mpsUnitsConversionFactor d.cfg.units ∨
            ∀ i < 64, f.counts i = 0) := by
  have hvalues : ∀ i < 64,
      (fillPacket E d f d.useRaw (some (legacyHeader E d))).values.getD i .zero =
        if d.useRaw then .count (f.counts i)
        else .value (scaled E (E.mpsUnitsConversionFactor atAverages) (f.counts i)) := by
    intro i hi
    rw [fillPacket_values hchannels hi, hpressure]
  have hself : (fillPacket E d f d.useRaw (some (legacyHeader E d))).SelfConsistent E f.counts ↔
      ∀ i < 64, (if d.useRaw then Word.count (f.counts i)
        else .value (scaled E (E.mpsUnitsConversionFactor atAverages) (f.counts i))) =
          (legacyHeader E d).word E (f.counts i) := by
    constructor
    · rintro ⟨h, hh, hall⟩ i hi
      rw [← hvalues i hi, hall i hi, ← Option.some_inj.1 hh]
    · intro hall
      exact ⟨legacyHeader E d, rfl, fun i hi => (hvalues i hi).trans (hall i hi)⟩
  rw [hself]
  simp only [LegacyHeader.word, legacyHeader]
  -- a count is no pressure, so raw and other units must not be mixed
  by_cases hraw : d.useRaw <;> by_cases hindex : E.mpsUnitsIndex d.cfg.units = E.mpsUnitsIndex .raw
  · simp [hraw, hindex]
  · simp only [hraw, hindex, if_true, if_false, false_iff, not_true_eq_false, false_and, iff_false]
    exact fun h => nomatch h 0 (by omega)
  · simp only [hraw, hindex, if_true, Bool.false_eq_true, if_false, iff_false, not_true_eq_false,
      false_and]
    exact fun h => nomatch h 0 (by omega)
  · simp only [hraw, hindex, Bool.false_eq_true, if_false, Word.value.injEq, scaled_eq_iff,
      not_false_eq_true, true_and, forall_const, forall_or_left]

/-! ### Runs -/

/-- What holds of the notes in every state: raw packets are those of a scan that started with raw
units, a legacy packet has 64 channels, and the pressures were scaled in the units of the averages.
-/
structure UnitsNoted (E : Env) (σ : Scanner × UnitsLog) : Prop where
  raw : σ.1.device.layout.useRaw = decide (σ.2.atScanStart = .raw)
  channels : σ.1.device.layout.useBinary = true → σ.1.device.layout.packetType = .legacy →
    σ.1.device.layout.packetPressureChannelCount = 64
  pressure : σ.1.thread.pc = .emit → ∀ i, σ.1.thread.pressure i =
    scaled E (E.mpsUnitsConversionFactor σ.2.atAverages) (σ.1.thread.counts i)

theorem unitsNoted_start (E : Env) (cfg : MpsConfig) :
    UnitsNoted E (Scanner.start cfg, .none) where
  raw := rfl
  channels h := nomatch h
  pressure h := nomatch h

/-- Only without zero padding is the packet type another one than the legacy type. -/
theorem configureScanLayout_channels {d : Mps}
    (hbinary : (configureScanLayout E d).useBinary = true)
    (hlegacy : (configureScanLayout E d).packetType = .legacy) :
    (configureScanLayout E d).packetPressureChannelCount = 64 := by
  simp only [configureScanLayout, decide_eq_true_eq] at hbinary hlegacy ⊢
  rw [if_pos hbinary] at hlegacy
  by_cases hpad : d.cfg.sim &&& mpsSimSimulated64Ch ≠ 0
  · simp [hpad]
  · rw [if_neg (by simpa using hpad)] at hlegacy
    unfold unpaddedPacketType at hlegacy
    split_ifs at hlegacy

/-- The step that takes the averages scales the pressures with the factor of the units then in
force. -/
theorem pressure_of_step {s s' : Scanner} {a : ScanAction} (h : step E s a = some s')
    (hemit : s'.thread.pc = .emit) :
    (a ≠ .thread ∧ s'.thread = s.thread) ∨
      (a = .thread ∧ s.thread.pc = .average ∧ ∀ i, s'.thread.pressure i =
        scaled E (E.mpsUnitsConversionFactor s.device.cfg.units) (s'.thread.counts i)) := by
  by_cases ha : a = .thread
  · subst ha
    obtain ⟨hpc, -, hcounts, hpressure, -⟩ := average_of_emit h hemit
    refine .inr ⟨rfl, hpc, fun i => ?_⟩
    rw [hpressure, hcounts, pressureOf, averageCounts]
    split_ifs <;> simp [scaled]
  · exact .inl ⟨ha, step_thread h ha⟩

theorem UnitsNoted.step {σ σ' : Scanner × UnitsLog} {a : ScanAction} (hσ : UnitsNoted E σ)
    (h : noted E σ a = some σ') : UnitsNoted E σ' := by
  obtain ⟨hstep, hlog⟩ := Runs.annotate_eq_some.1 h
  have hlayout := step_layout hstep
  refine ⟨?_, ?_, fun hemit i => ?_⟩
  · rw [hlayout, hlog, UnitsLog.next]
    split
    · rfl
    · exact hσ.raw
  · rw [hlayout]
    split
    · exact configureScanLayout_channels (E := E) (d := σ.1.device)
    · exact hσ.channels
  · have haverages : σ'.2.atAverages =
        if a = .thread ∧ σ.1.thread.pc = .average then σ.1.device.cfg.units
        else σ.2.atAverages := by rw [hlog]; rfl
    rw [haverages]
    rcases pressure_of_step hstep hemit with ⟨ha, hthread⟩ | ⟨ha, hpc, hpressure⟩
    · rw [if_neg fun hc => ha hc.1, hthread]
      exact hσ.pressure (hthread ▸ hemit) i
    · rw [if_pos ⟨ha, hpc⟩]
      exact hpressure i

/-- A step emits what describes itself exactly if the units were kept. -/
theorem describesItself_iff {σ : Scanner × UnitsLog} {a : ScanAction} (hσ : UnitsNoted E σ) :
    DescribesItself E σ.1 a ↔ UnitsKept E σ a := by
  have hraw : σ.1.device.useRaw = true ↔ σ.2.atScanStart = .raw := by
    have h : σ.1.device.useRaw = decide (σ.2.atScanStart = .raw) := hσ.raw
    rw [h, decide_eq_true_iff]
  refine forall_congr' fun ha => forall_congr' fun hemit => ?_
  constructor
  · intro hdescribes hsends
    obtain ⟨hmem, htype⟩ := mem_binaryFrame_legacy.2 ⟨hsends, rfl⟩
    have hself := hdescribes _ hmem htype
    simp only [ne_eq, ← hraw]
    exact (selfConsistent_fillPacket (hσ.channels hsends.1 hsends.2.1) (hσ.pressure hemit)).1 hself
  · intro hkept p hmem htype
    obtain ⟨hsends, rfl⟩ := mem_binaryFrame_legacy.1 ⟨hmem, htype⟩
    have hunits := hkept hsends
    simp only [ne_eq, ← hraw] at hunits
    exact (selfConsistent_fillPacket (hσ.channels hsends.1 hsends.2.1) (hσ.pressure hemit)).2 hunits

/-- **Legacy packets.**  Every legacy packet of a run describes its own payload exactly if, whenever
one is built, the units are raw as they were at the scan start, and their factor is that of the
averages. -/
theorem describes_iff_unitsKept (E : Env) (cfg : MpsConfig) (as : List ScanAction) :
    Runs.Along (noted E) (fun σ a => DescribesItself E σ.1 a) (Scanner.start cfg, .none) as ↔
      Runs.Along (noted E) (UnitsKept E) (Scanner.start cfg, .none) as :=
  Runs.along_iff_along (J := UnitsNoted E) (fun _ _ _ hσ h => hσ.step h)
    (fun _ _ hσ => describesItself_iff hσ) (unitsNoted_start E cfg)

/-- The reference environment with one more unit, PSI, whose factor is one. -/
def psiEnv : Env :=
  { referenceEnv with
    mpsUnitsFromString := fun s =>
      if s = "PSI".toList then some (.other 2) else referenceEnv.mpsUnitsFromString s }

/-- A scan with one sample for each frame, in the units `before`; they are set anew after `steps`
steps of the thread, and the first packet is built after the ninth. -/
def unitsDuringFrame (before after : String) (steps : ℕ) : List ScanAction :=
  .command .quiet "SET RATE 500".toList ::
    .command .quiet ("SET UNITS ".toList ++ before.toList) ::
    .startScan { steady := 0, system := 0 } ::
    (List.replicate steps .thread ++
      .command .quiet ("SET UNITS ".toList ++ after.toList) :: List.replicate (9 - steps) .thread)

/-- Pressures under the units index of raw counts, raw counts under that of Pascal, and pressures in
Pascal under the factor of another unit. -/
theorem units_changed :
    ¬ Runs.Along (noted psiEnv) (fun σ a => DescribesItself psiEnv σ.1 a)
        (Scanner.start (attachConfig mps4216 1), .none) (unitsDuringFrame "PA" "RAW" 2) ∧
      ¬ Runs.Along (noted psiEnv) (fun σ a => DescribesItself psiEnv σ.1 a)
        (Scanner.start (attachConfig mps4216 1), .none) (unitsDuringFrame "RAW" "PA" 2) ∧
      ¬ Runs.Along (noted psiEnv) (fun σ a => DescribesItself psiEnv σ.1 a)
        (Scanner.start (attachConfig mps4216 1), .none) (unitsDuringFrame "PA" "PSI" 8) := by
  decide +kernel

end MpsEmulator
