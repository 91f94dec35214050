/-
**What the emulator takes from outside: the protocol package and the platform.**

The enumerations, packet structures and lookup functions of the Scanivalve protocol come from the
package `scanivalve-mps-protocol`, which the build fetches.  The emulator relies on its interface
only, so the functions are parameters here: `Protocol` lists what the code calls, and `Platform`
lists what it leaves to the C++ implementation.

* `MpsDataFormat`, `MpsUnits`, `MpsStatus`, `MpsBinaryPacketType` — the enumerations, with the
  enumerators the code names;
* `Protocol` — the functions and constants of the package; the two limits of a signed ADC reading
  carry what the code relies on, that they enclose zero and fit 24 bits;
* `Platform` — rounding to `float`, the text of a `float`, conversions that do not fit, the size of
  `unsigned long`, string hashing and the pairs of normally distributed values;
* `Env` — both together, and `referenceEnv`, a concrete one.

A lookup that reports success and writes its result through a pointer is an `Option`: it writes
only when it succeeds.
-/

import MpsEmulator.CFloat
import MpsEmulator.SplitString

set_option relaxedAutoImplicit false
set_option autoImplicit false

namespace MpsEmulator

/-! ### Enumerations -/

/-- The data formats: ASCII, VT100, CSV, binary and LabVIEW. -/
inductive MpsDataFormat
  | ascii
  | vt100
  | csv
  | binary
  | labview
  deriving DecidableEq

/-- The pressure units.  Only these two are named in the code; the others are numbered. -/
inductive MpsUnits
  | pa
  | raw
  | other (index : ℕ)
  deriving DecidableEq

/-- The device states. -/
inductive MpsStatus
  | ready
  | scan
  | calz
  deriving DecidableEq

/-- The binary packet types. -/
inductive MpsBinaryPacketType
  | legacy
  | type16
  | type32
  | type64
  | raw16
  | raw32
  | raw64
  | undefined
  deriving DecidableEq

/-- A device type is whatever number it was configured with; these three are enumerators. -/
abbrev MpsDeviceID := ℕ

def mps4264 : MpsDeviceID := 4264
def mps4232 : MpsDeviceID := 4232
def mps4216 : MpsDeviceID := 4216

/-- The bit of the simulation flags that asks for 64-channel packets on every device (bit 6). -/
def mpsSimSimulated64Ch : ℕ := 0x40

/-! ### The protocol package -/

/-- The functions and constants of the protocol package. -/
structure Protocol where
  mpsFormatFromChar : Char → Option MpsDataFormat
  mpsFormatToChar : MpsDataFormat → Char
  mpsUnitsFromString : Bytes → Option MpsUnits
  mpsUnitsToString : MpsUnits → Bytes
  mpsUnitsConversionFactor : MpsUnits → ℚ
  /-- The enumerator's number, sent as `unit_index`. -/
  mpsUnitsIndex : MpsUnits → ℕ
  mpsStatusToString : MpsStatus → Option Bytes
  /-- The field `size_bytes` of `mps_get_binary_packet_info_by_type`, which may be null. -/
  mpsGetBinaryPacketInfoByType : MpsBinaryPacketType → Option ℕ
  /-- The `sizeof` of the packet structure of a type. -/
  packetSizeof : MpsBinaryPacketType → ℕ
  /-- The length of the pressure or counts array of a packet structure. -/
  pressureSlots : MpsBinaryPacketType → ℕ
  temperatureSlots : MpsBinaryPacketType → ℕ
  mpsMaxLabviewElements : ℕ
  mpsPkt64LabviewSize : ℕ
  mpsPkt32LabviewSize : ℕ
  mpsPkt16LabviewSize : ℕ
  mpsMinSignedAdcCounts : ℤ
  mpsMaxSignedAdcCounts : ℤ
  mpsFirmwareVersionString : Bytes
  mpsEmulatorVersionString : Bytes
  minSigned_neg : mpsMinSignedAdcCounts < 0
  maxSigned_pos : 0 < mpsMaxSignedAdcCounts
  minSigned_ge : -2 ^ 23 ≤ mpsMinSignedAdcCounts
  maxSigned_le : mpsMaxSignedAdcCounts ≤ 2 ^ 23

/-! ### The platform -/

/-- What the code leaves to the C++ implementation. -/
structure Platform where
  /-- The `float` that `sscanf` stores for a rational number. -/
  roundToFloat : ℚ → CFloat
  /-- Whether `errno` is `ERANGE` behind a call of `sscanf` for a text, by whether it was before. -/
  sscanfErrno : Bytes → Bool → Bool
  /-- The text `operator<<` writes for a `float`. -/
  showFloat : CFloat → Bytes
  /-- The result of a conversion to `uint32_t` that is undefined. -/
  uint32OutOfRange : CFloat → ℕ
  /-- The result of a conversion to `int` that is undefined. -/
  int32OutOfRange : CFloat → ℤ
  /-- The largest value of `unsigned long`. -/
  ulongMax : ℕ
  stdHash : Bytes → ℕ
  /-- The pair of values `std::normal_distribution` makes from an engine that was seeded with the
  first argument and has already delivered as many pairs as the second one says. -/
  normalPair : ℕ → ℕ → ℚ × ℚ
  /-- The mean of some `float`s, as their sum divided by their number. -/
  floatMean : List ℚ → ℚ
  /-- The platform's `sscanf` leaves `errno` alone. -/
  sscanfErrno_eq : ∀ text range, sscanfErrno text range = range

/-- The surroundings of the emulator. -/
structure Env extends Protocol, Platform

/-! ### A reference environment -/

/-- Formats by their letters, in either case. -/
def referenceFormat (c : Char) : Option MpsDataFormat :=
  match c.toUpper with
  | 'A' => some .ascii
  | 'F' => some .vt100
  | 'C' => some .csv
  | 'B' => some .binary
  | 'L' => some .labview
  | _ => none

/-- The numbers of pressure or count slots and of temperature slots of a packet type. -/
def referenceSlots : MpsBinaryPacketType → ℕ × ℕ
  | .type16 | .raw16 => (16, 4)
  | .type32 | .raw32 => (32, 4)
  | .legacy | .type64 | .raw64 => (64, 8)
  | .undefined => (0, 0)

/-- An environment with the letters and sizes of the protocol, a 24-bit converter, exact `float`s
and a 32-bit `unsigned long`.  The general results are about every environment; concrete runs are
made in this one. -/
def referenceEnv : Env where
  mpsFormatFromChar := referenceFormat
  mpsFormatToChar
    | .ascii => 'A'
    | .vt100 => 'F'
    | .csv => 'C'
    | .binary => 'B'
    | .labview => 'L'
  mpsUnitsFromString s :=
    if s = "PA".toList then some .pa else if s = "RAW".toList then some .raw else none
  mpsUnitsToString
    | .pa => "PA".toList
    | .raw => "RAW".toList
    | .other _ => []
  mpsUnitsConversionFactor u := if u = .pa then 689476 / 100 else 1
  mpsUnitsIndex
    | .pa => 0
    | .raw => 1
    | .other index => index
  mpsStatusToString
    | .ready => some "READY".toList
    | .scan => some "SCAN".toList
    | .calz => some "CALZ".toList
  mpsGetBinaryPacketInfoByType _ := none
  packetSizeof t := 4 * (4 + (referenceSlots t).1 + (referenceSlots t).2)
  pressureSlots t := (referenceSlots t).1
  temperatureSlots t := (referenceSlots t).2
  mpsMaxLabviewElements := 66
  mpsPkt64LabviewSize := 264
  mpsPkt32LabviewSize := 136
  mpsPkt16LabviewSize := 72
  mpsMinSignedAdcCounts := -2 ^ 23
  mpsMaxSignedAdcCounts := 2 ^ 23 - 1
  mpsFirmwareVersionString := "4.01".toList
  mpsEmulatorVersionString := "0.2.1-dev".toList
  minSigned_neg := by norm_num
  maxSigned_pos := by norm_num
  minSigned_ge := by norm_num
  maxSigned_le := by norm_num
  roundToFloat := .fin
  sscanfErrno _ range := range
  showFloat _ := []
  uint32OutOfRange _ := 0
  int32OutOfRange _ := -2 ^ 31
  ulongMax := 2 ^ 32 - 1
  stdHash s := s.length
  normalPair _ _ := (100, -50)
  floatMean xs := xs.sum / xs.length
  sscanfErrno_eq _ _ := rfl

end MpsEmulator
