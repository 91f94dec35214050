/-
**The virtual scanner: configuration, state, and the calls that start and stop it.**

`Mps` has the members of the class `mps::Mps`.  Every call is a function from the state before it
to the state after it; `Called` adds the calls of the status callback it makes, each with the value
of `m_Status` at that moment.  Log lines are left out.

* `MpsConfig`, `Mps`, `Mps.init`, `attachConfig` — the state, the constructor, and the
  configuration `ServerLayer::OnAttach` passes to it;
* `updateScanAverages`, `configureScanLayout` — what a scan latches from the configuration;
* `startScan`, `stopScan`, `calZ` — the three calls;
* `randomSampleCounts`, `sampleChannels` — drawing samples;
* `setDataFormat`, `buildDataFormatResponse` — the three data formats.
-/

import MpsEmulator.Protocol

set_option relaxedAutoImplicit false
set_option autoImplicit false

namespace MpsEmulator

/-! ### The state -/

/-- The configuration `MpsConfig`. -/
structure MpsConfig where
  deviceId : MpsDeviceID
  serialNumber : ℕ
  telnetFormat : MpsDataFormat
  ftpUdpFormat : MpsDataFormat
  binaryFormat : MpsDataFormat
  scanRateHz : CFloat
  framesPerScan : ℕ
  units : MpsUnits
  udpEnabled : Bool
  udpTargetIp : Bytes
  udpTargetPort : ℕ
  ftpEnabled : Bool
  sim : ℕ
  deriving DecidableEq

/-- A random engine is determined by its seed and by how many pairs of normally distributed values
were taken from it. -/
structure RandomGenerator where
  seed : ℕ
  pairs : ℕ
  deriving DecidableEq

/-- The members of `mps::Mps`.  The time of the scan start is in nanoseconds of the steady clock;
`normalSaved` is the value `std::normal_distribution` keeps back from its last pair. -/
structure Mps where
  name : Bytes
  cfg : MpsConfig
  status : MpsStatus
  packetType : MpsBinaryPacketType
  packetInfo : Option ℕ
  physicalPressureChannelCount : ℕ
  physicalTemperatureChannelCount : ℕ
  packetPressureChannelCount : ℕ
  packetTemperatureChannelCount : ℕ
  running : Bool
  scanning : Bool
  calibrating : Bool
  useLabview : Bool
  useBinary : Bool
  useRaw : Bool
  zeroPad : Bool
  nSubFrameAverages : ℕ
  randomGenerator : RandomGenerator
  normalSaved : Option ℚ
  scanStartTime : ℤ
  scanStartTimePTPSeconds : ℕ
  scanStartTimePTPNanoseconds : ℕ

/-- The decimal text of an unsigned integer. -/
def showNat (n : ℕ) : Bytes := Nat.toDigits 10 n

/-- The constructor.  The two PTP fields have no initialiser; they are read only after a scan start
has set them. -/
def Mps.init (cfg : MpsConfig) : Mps where
  name := "Virtual-MPS-".toList ++ showNat cfg.deviceId ++ "-SN".toList ++ showNat cfg.serialNumber
  cfg := cfg
  status := .ready
  packetType := .legacy
  packetInfo := none
  physicalPressureChannelCount := 64
  physicalTemperatureChannelCount := 8
  packetPressureChannelCount := 64
  packetTemperatureChannelCount := 8
  running := false
  scanning := false
  calibrating := false
  useLabview := false
  useBinary := false
  useRaw := false
  zeroPad := true
  nSubFrameAverages := 1
  randomGenerator := { seed := 5489, pairs := 0 }
  normalSaved := none
  scanStartTime := 0
  scanStartTimePTPSeconds := 0
  scanStartTimePTPNanoseconds := 0

/-- The configuration made in `ServerLayer::OnAttach` from the device type and the last octet of
the bound address. -/
def attachConfig (deviceId : MpsDeviceID) (serialNumber : ℕ) : MpsConfig where
  deviceId := deviceId
  serialNumber := serialNumber
  telnetFormat := .ascii
  ftpUdpFormat := .binary
  binaryFormat := .binary
  scanRateHz := .fin 10
  framesPerScan := 0
  units := .pa
  udpEnabled := true
  udpTargetIp := "127.0.0.1".toList
  udpTargetPort := 23
  ftpEnabled := false
  sim := mpsSimSimulated64Ch

/-- `Mps::Start`; that it also queues the scan thread is part of the thread's model. -/
def start (d : Mps) : Mps := { d with running := true }

/-- The device `ServerLayer::OnAttach` constructs and starts. -/
def attachedDevice (deviceId : MpsDeviceID) (serialNumber : ℕ) : Mps :=
  start (Mps.init (attachConfig deviceId serialNumber))

/-- The state after a call, and the status callbacks made during it. -/
structure Called where
  device : Mps
  notices : List MpsStatus

/-! ### What a scan latches -/

/-- The number of internal averages for a rate: one from 500 Hz on, and below that the rounded-up
quotient, converted to `uint32_t`.  The quotient is exact where the code divides `float`s. -/
def averagesFor (E : Env) (rate : CFloat) : ℕ :=
  if rate.ge 500 then 1 else ((rate.divInto 500).ceil).toUInt32 E.uint32OutOfRange

/-- `Mps::UpdateScanAverages`. -/
def updateScanAverages (E : Env) (d : Mps) : Mps :=
  { d with nSubFrameAverages := averagesFor E d.cfg.scanRateHz }

/-- The numbers of physical pressure and temperature channels; there is no default case, so another
device type keeps the numbers it had. -/
def physicalChannels (d : Mps) : ℕ × ℕ :=
  if d.cfg.deviceId = mps4264 then (64, 8)
  else if d.cfg.deviceId = mps4232 then (32, 4)
  else if d.cfg.deviceId = mps4216 then (16, 4)
  else (d.physicalPressureChannelCount, d.physicalTemperatureChannelCount)

/-- The type of the binary packets without zero padding. -/
def unpaddedPacketType (deviceId : MpsDeviceID) (useRaw : Bool) : MpsBinaryPacketType :=
  if deviceId = mps4264 then if useRaw then .raw64 else .type64
  else if deviceId = mps4232 then if useRaw then .raw32 else .type32
  else if deviceId = mps4216 then if useRaw then .raw16 else .type16
  else .undefined

/-- `Mps::ConfigureScanLayout`. -/
def configureScanLayout (E : Env) (d : Mps) : Mps :=
  let cfg := d.cfg
  let useBinary := cfg.binaryFormat = .binary ∨
    (cfg.ftpUdpFormat = .binary ∧ (cfg.udpEnabled ∨ cfg.ftpEnabled))
  let useRaw := cfg.units = .raw
  let zeroPad := cfg.sim &&& mpsSimSimulated64Ch ≠ 0
  let physical := physicalChannels d
  let packetType :=
    if useBinary then if zeroPad then .legacy else unpaddedPacketType cfg.deviceId useRaw
    else .undefined
  { d with
    useLabview := cfg.binaryFormat = .labview
    useBinary := useBinary
    useRaw := useRaw
    zeroPad := zeroPad
    physicalPressureChannelCount := physical.1
    physicalTemperatureChannelCount := physical.2
    packetPressureChannelCount := if zeroPad then 64 else physical.1
    packetTemperatureChannelCount := if zeroPad then 8 else physical.2
    packetType := packetType
    packetInfo := if useBinary then E.mpsGetBinaryPacketInfoByType packetType else none }

/-! ### Starting, stopping and calibrating -/

/-- The two clocks, in nanoseconds, as `StartScan` reads them. -/
structure Clock where
  steady : ℤ
  system : ℤ
  deriving DecidableEq

/-- `Mps::StartScan`. -/
def startScan (E : Env) (now : Clock) (d : Mps) : Called :=
  if d.scanning then { device := d, notices := [] }
  else
    let seeded := { d with
      randomGenerator := { seed := E.stdHash d.name % 2 ^ 32, pairs := 0 }
      scanStartTime := now.steady
      scanStartTimePTPSeconds := (now.system.tdiv (10 ^ 9) % 2 ^ 32).toNat
      scanStartTimePTPNanoseconds := (now.system.tmod (10 ^ 9) % 2 ^ 32).toNat }
    let configured := updateScanAverages E (configureScanLayout E seeded)
    { device := { configured with scanning := true, status := .scan }, notices := [.scan] }

/-- `Mps::StopScan`. -/
def stopScan (d : Mps) : Called :=
  if !d.scanning then { device := d, notices := [] }
  else if d.status = .ready then { device := { d with scanning := false }, notices := [] }
  else { device := { d with scanning := false, status := .ready }, notices := [.ready] }

/-- `Mps::CalZ`. -/
def calZ (d : Mps) : Called :=
  { device := { d with calibrating := true, status := .calz }, notices := [.calz] }

section Calls

variable {E : Env} {now : Clock} {d : Mps}

theorem startScan_of_scanning (h : d.scanning = true) : (startScan E now d).device = d := by
  rw [startScan, if_pos h]

/-- A scan start that takes effect: what it sets among the fields that later steps read. -/
theorem startScan_of_not_scanning (E : Env) (now : Clock) (h : d.scanning = false) :
    (startScan E now d).device.scanning = true ∧ (startScan E now d).device.status = .scan ∧
      (startScan E now d).device.scanStartTime = now.steady ∧
      (startScan E now d).device.nSubFrameAverages = averagesFor E d.cfg.scanRateHz := by
  simp [startScan, h, updateScanAverages, configureScanLayout]

@[simp] theorem startScan_cfg : (startScan E now d).device.cfg = d.cfg := by
  by_cases h : d.scanning <;> simp [startScan, h, updateScanAverages, configureScanLayout]

theorem stopScan_of_not_scanning (h : d.scanning = false) : (stopScan d).device = d := by
  simp [stopScan, h]

theorem stopScan_device_of_scanning (h : d.scanning = true) :
    (stopScan d).device = { d with scanning := false, status := .ready } := by
  by_cases hs : d.status = .ready <;> simp [stopScan, h, hs]

@[simp] theorem stopScan_scanning : (stopScan d).device.scanning = false := by
  cases h : d.scanning
  · rw [stopScan_of_not_scanning h, h]
  · rw [stopScan_device_of_scanning h]

@[simp] theorem stopScan_cfg : (stopScan d).device.cfg = d.cfg := by
  cases h : d.scanning
  · rw [stopScan_of_not_scanning h]
  · rw [stopScan_device_of_scanning h]

@[simp] theorem stopScan_scanStartTime :
    (stopScan d).device.scanStartTime = d.scanStartTime := by
  cases h : d.scanning
  · rw [stopScan_of_not_scanning h]
  · rw [stopScan_device_of_scanning h]

@[simp] theorem stopScan_nSubFrameAverages :
    (stopScan d).device.nSubFrameAverages = d.nSubFrameAverages := by
  cases h : d.scanning
  · rw [stopScan_of_not_scanning h]
  · rw [stopScan_device_of_scanning h]

end Calls

/-! ### Samples -/

/-- The next value of the normal distribution.  Values come in pairs; the second one is kept for
the next call. -/
def nextNormal (E : Env) (d : Mps) : ℚ × Mps :=
  match d.normalSaved with
  | some value => (value, { d with normalSaved := none })
  | none =>
      let g := d.randomGenerator
      let pair := E.normalPair g.seed g.pairs
      (pair.1, { d with
        randomGenerator := { g with pairs := g.pairs + 1 }, normalSaved := some pair.2 })

/-- `Mps::RandomSampleCounts`. -/
def randomSampleCounts (E : Env) (d : Mps) : ℤ × Mps :=
  let (value, d') := nextNormal E d
  (truncate (max (E.mpsMinSignedAdcCounts : ℚ) (min value E.mpsMaxSignedAdcCounts)), d')

/-- One sample for each of `n` channels, in channel order. -/
def sampleChannels (E : Env) : ℕ → Mps → List ℤ × Mps
  | 0, d => ([], d)
  | n + 1, d =>
      let (sample, d₁) := randomSampleCounts E d
      let (samples, d₂) := sampleChannels E n d₁
      (sample :: samples, d₂)

/-- Drawing a sample changes the engine and the distribution only. -/
def SameButRandom (d d' : Mps) : Prop :=
  d' = { d with randomGenerator := d'.randomGenerator, normalSaved := d'.normalSaved }

theorem SameButRandom.trans {d d' d'' : Mps} (h : SameButRandom d d') (h' : SameButRandom d' d'') :
    SameButRandom d d'' := by
  rw [SameButRandom] at h h' ⊢
  rw [h', h]

theorem randomSampleCounts_same (E : Env) (d : Mps) :
    SameButRandom d (randomSampleCounts E d).2 := by
  cases h : d.normalSaved <;> simp [SameButRandom, randomSampleCounts, nextNormal, h]

theorem sampleChannels_same (E : Env) (n : ℕ) (d : Mps) :
    SameButRandom d (sampleChannels E n d).2 := by
  induction n generalizing d with
  | zero => rfl
  | succ n ih => exact (randomSampleCounts_same E d).trans (ih _)

/-- A sample lies between the limits of the converter. -/
theorem randomSampleCounts_mem (E : Env) (d : Mps) :
    E.mpsMinSignedAdcCounts ≤ (randomSampleCounts E d).1 ∧
      (randomSampleCounts E d).1 ≤ E.mpsMaxSignedAdcCounts := by
  have hlow := E.minSigned_neg
  have hhigh := E.maxSigned_pos
  have hlh : (E.mpsMinSignedAdcCounts : ℚ) ≤ E.mpsMaxSignedAdcCounts := by
    exact_mod_cast (hlow.trans hhigh).le
  constructor
  · exact le_truncate hlow.le (le_max_left _ _)
  · exact truncate_le hhigh.le (max_le hlh (min_le_right _ _))

theorem sampleChannels_mem (E : Env) (n : ℕ) (d : Mps) :
    ∀ x ∈ (sampleChannels E n d).1,
      E.mpsMinSignedAdcCounts ≤ x ∧ x ≤ E.mpsMaxSignedAdcCounts := by
  induction n generalizing d with
  | zero => simp [sampleChannels]
  | succ n ih =>
      intro x hx
      rcases List.mem_cons.1 hx with rfl | hx
      · exact randomSampleCounts_mem E d
      · exact ih _ x hx

/-! ### Data formats -/

/-- The format a letter stands for on a channel that allows the given letters. -/
def allowedFormat (E : Env) (allowed : List Char) (fmt : Char) : Option MpsDataFormat :=
  if fmt ∈ allowed then E.mpsFormatFromChar fmt else none

/-- `Mps::SetDataFormat`; `none` when it returns false. -/
def setDataFormat (E : Env) (d : Mps) (type fmt : Char) : Option Mps :=
  if type = 'T' ∨ type = 't' then
    (allowedFormat E ['A', 'a', 'F', 'f', 'C', 'c'] fmt).map fun f =>
      { d with cfg := { d.cfg with telnetFormat := f } }
  else if type = 'F' ∨ type = 'f' then
    (allowedFormat E ['A', 'a', 'B', 'b', 'C', 'c'] fmt).map fun f =>
      { d with cfg := { d.cfg with ftpUdpFormat := f } }
  else if type = 'B' ∨ type = 'b' then
    (allowedFormat E ['B', 'b', 'L', 'l'] fmt).map fun f =>
      { d with cfg := { d.cfg with binaryFormat := f } }
  else none

/-- What an accepted format changes, and on which letters it was accepted. -/
theorem setDataFormat_cases {E : Env} {d d' : Mps} {type fmt : Char}
    (h : setDataFormat E d type fmt = some d') :
    ∃ f, (allowedFormat E ['A', 'a', 'F', 'f', 'C', 'c'] fmt = some f ∧
        d' = { d with cfg := { d.cfg with telnetFormat := f } }) ∨
      (allowedFormat E ['A', 'a', 'B', 'b', 'C', 'c'] fmt = some f ∧
        d' = { d with cfg := { d.cfg with ftpUdpFormat := f } }) ∨
      (allowedFormat E ['B', 'b', 'L', 'l'] fmt = some f ∧
        d' = { d with cfg := { d.cfg with binaryFormat := f } }) := by
  rw [setDataFormat] at h
  split at h
  · obtain ⟨f, hf, rfl⟩ := Option.map_eq_some_iff.1 h
    exact ⟨f, .inl ⟨hf, rfl⟩⟩
  · split at h
    · obtain ⟨f, hf, rfl⟩ := Option.map_eq_some_iff.1 h
      exact ⟨f, .inr (.inl ⟨hf, rfl⟩)⟩
    · obtain ⟨-, h⟩ := Option.ite_none_right_eq_some.1 h
      obtain ⟨f, hf, rfl⟩ := Option.map_eq_some_iff.1 h
      exact ⟨f, .inr (.inr ⟨hf, rfl⟩)⟩

/-- `Mps::BuildDataFormatResponse`. -/
def buildDataFormatResponse (E : Env) (d : Mps) : Bytes :=
  " T ".toList ++ [E.mpsFormatToChar d.cfg.telnetFormat] ++ ",".toList ++
    " F ".toList ++ [E.mpsFormatToChar d.cfg.ftpUdpFormat] ++ ",".toList ++
    " B ".toList ++ [E.mpsFormatToChar d.cfg.binaryFormat]

end MpsEmulator
