/-
**The frames handed to the server layer: binary packets and LabVIEW frames.**

Once the averages of a frame are known, the scan thread builds a LabVIEW frame when that format is
in use, and a binary packet when one is needed by the TCP binary server, UDP or FTP.  A packet is
given by the fields its structure has.  All packet types have a type, a frame number, a frame time
and two arrays; the legacy type has a longer header.

* `FrameData` — what the scan thread knows about the frame;
* `memcpyArray` — filling an array of a structure that was cleared: copying more elements than it
  holds shows as an array that is too long;
* `buildPacket`, `labviewFrame` — the code.
-/

import MpsEmulator.Device

set_option relaxedAutoImplicit false
set_option autoImplicit false

namespace MpsEmulator

/-- A 32-bit word of an array: cleared, a reading in ADC counts, or a pressure. -/
inductive Word
  | zero
  | count (z : ℤ)
  | value (q : ℚ)
  deriving DecidableEq

/-- The header fields that only the legacy packet has. -/
structure LegacyHeader where
  size : ℕ
  serialNumber : ℕ
  framerate : CFloat
  valveStatus : ℤ
  unitIndex : ℕ
  unitConversion : ℚ
  ptpScanStartTimeS : ℕ
  ptpScanStartTimeNs : ℕ
  externalTriggerTimeUs : ℕ
  externalTriggerTimeS : ℕ
  externalTriggerTimeNs : ℕ
  deriving DecidableEq

/-- A binary packet, read through the structure of its type, and the size of its buffer. -/
structure Packet where
  type : MpsBinaryPacketType
  frame : ℕ
  frameTimeS : ℕ
  frameTimeNs : ℕ
  values : List Word
  temperature : List Word
  legacy : Option LegacyHeader
  size : ℕ
  deriving DecidableEq

/-- The results of a frame: its number, the time since the scan start in nanoseconds, and one entry
of each array for a channel. -/
structure FrameData where
  frame : ℕ
  dt : ℤ
  counts : ℕ → ℤ
  pressure : ℕ → ℚ
  temperature : ℕ → ℚ

/-- The array `dst` after `memcpy` of `n` elements into it. -/
def memcpyArray {α : Type*} (dst : List α) (src : ℕ → α) (n : ℕ) : List α :=
  (List.range n).map src ++ dst.drop n

/-- The seconds of a frame time, cast to `uint32_t`. -/
def frameTimeS (dt : ℤ) : ℕ := (dt.tdiv (10 ^ 9) % 2 ^ 32).toNat

/-- The nanoseconds of a frame time, cast to `uint32_t`. -/
def frameTimeNs (dt : ℤ) : ℕ := (dt.tmod (10 ^ 9) % 2 ^ 32).toNat

/-- The case of the switch for one packet type: the structure is cleared, the two arrays and the
common fields are filled in.  Only whether counts or pressures are copied, and the legacy header,
differ from case to case. -/
def fillPacket (E : Env) (d : Mps) (f : FrameData) (raw : Bool) (legacy : Option LegacyHeader) :
    Packet where
  type := d.packetType
  frame := f.frame
  frameTimeS := frameTimeS f.dt
  frameTimeNs := frameTimeNs f.dt
  values :=
    memcpyArray (List.replicate (E.pressureSlots d.packetType) .zero)
      (fun i => if raw then .count (f.counts i) else .value (f.pressure i))
      d.packetPressureChannelCount
  temperature :=
    memcpyArray (List.replicate (E.temperatureSlots d.packetType) .zero)
      (fun i => .value (f.temperature i)) d.packetTemperatureChannelCount
  legacy := legacy
  size := d.packetInfo.getD (E.packetSizeof d.packetType)

/-- The header of a legacy packet.  The units are those of the configuration in force now, whatever
they were when the scan started. -/
def legacyHeader (E : Env) (d : Mps) : LegacyHeader where
  size := E.packetSizeof .legacy
  serialNumber := d.cfg.serialNumber
  framerate := d.cfg.scanRateHz
  valveStatus := 0
  unitIndex := E.mpsUnitsIndex d.cfg.units
  unitConversion := E.mpsUnitsConversionFactor d.cfg.units
  ptpScanStartTimeS := d.scanStartTimePTPSeconds
  ptpScanStartTimeNs := d.scanStartTimePTPNanoseconds
  externalTriggerTimeUs := 0
  externalTriggerTimeS := 0
  externalTriggerTimeNs := 0

/-- The switch over the packet type; nothing is built for an undefined type. -/
def buildPacket (E : Env) (d : Mps) (f : FrameData) : Option Packet :=
  match d.packetType with
  | .legacy => some (fillPacket E d f d.useRaw (some (legacyHeader E d)))
  | .type16 | .type32 | .type64 => some (fillPacket E d f false none)
  | .raw16 | .raw32 | .raw64 => some (fillPacket E d f true none)
  | .undefined => none

/-- What is handed to `m_OnFrame`: a packet of a positive size, when binary packets are in use. -/
def binaryFrame (E : Env) (d : Mps) (f : FrameData) : Option Packet :=
  if d.useBinary then (buildPacket E d f).filter fun p => 0 < p.size else none

/-- The size of a LabVIEW frame for the packet's number of pressure channels. -/
def labviewSize (E : Env) (d : Mps) : ℕ :=
  if d.packetPressureChannelCount = 64 then E.mpsPkt64LabviewSize
  else if d.packetPressureChannelCount = 32 then E.mpsPkt32LabviewSize
  else if d.packetPressureChannelCount = 16 then E.mpsPkt16LabviewSize
  else 0

/-- The mean of the temperatures of the physical channels, in the arithmetic of the platform. -/
def meanTemperature (E : Env) (d : Mps) (f : FrameData) : ℚ :=
  E.floatMean ((List.range d.physicalTemperatureChannelCount).map f.temperature)

/-- The array `lv.values`: the frame number, the mean temperature, and the pressures. -/
def labviewValues (E : Env) (d : Mps) (f : FrameData) : List ℚ :=
  (f.frame : ℚ) :: meanTemperature E d f ::
    memcpyArray (List.replicate (E.mpsMaxLabviewElements - 2) 0) f.pressure
      d.packetPressureChannelCount

/-- What is handed to `m_OnLabviewFrame`: the first bytes of the array, as many as the size says. -/
def labviewFrame (E : Env) (d : Mps) (f : FrameData) : Option (List ℚ) :=
  if d.useLabview ∧ 0 < labviewSize E d then
    some ((labviewValues E d f).take (labviewSize E d / 4))
  else none

end MpsEmulator
