/-
**Binary packets, read back.**

The seven packet types have arrays of different lengths, and the number of elements copied into them
comes from the layout that `ConfigureScanLayout` has computed from the type of the device, the
simulation flags and the units.  The two agree for each of the three devices: every array is filled
to its end and not beyond, so a packet gives back what it was made from.  Only the frame time is
limited: its seconds are sent as a 32-bit number.

* `PacketStructs` — what is relied on of the packet structures;
* `FrameData.Cleared` — the data of a frame is zero behind the physical channels;
* `SameLayout` — what a scan start latches of the layout has not changed since;
* `Packet.ReadsBack` — a packet that gives back the data of its frame;
* `FitsLayout`, `fitsLayout_startScan` — the layout fits the structure of the packet;
* `packet_readsBack` — **the packet of a frame before 2³² seconds gives back its data**;
* `packet_time_wraps` — the frame time of a later one;
* `emitted_readsBack` — every packet of a run of the device is of this kind.
-/

import MpsEmulator.FrameSinks
import MpsEmulator.RepeatableScans

set_option relaxedAutoImplicit false
set_option autoImplicit false

namespace MpsEmulator

/-! ### Reading a packet -/

/-- What is relied on of the packet structures: the lengths of their arrays, and that the table of
packet types, where it has an entry, has the size of the structure. -/
structure PacketStructs (E : Env) : Prop where
  pressure : ∀ t, t ≠ .undefined → E.pressureSlots t = (referenceSlots t).1
  temperature : ∀ t, t ≠ .undefined → E.temperatureSlots t = (referenceSlots t).2
  size : ∀ t, t ≠ .undefined → ∀ n ∈ E.mpsGetBinaryPacketInfoByType t, n = E.packetSizeof t
  positive : ∀ t, t ≠ .undefined → 0 < E.packetSizeof t

/-- The data of a frame is zero behind the physical channels, whose arrays are cleared first. -/
structure FrameData.Cleared (d : Mps) (f : FrameData) : Prop where
  counts : ∀ i, d.physicalPressureChannelCount ≤ i → f.counts i = 0
  pressure : ∀ i, d.physicalPressureChannelCount ≤ i → f.pressure i = 0
  temperature : ∀ i, d.physicalTemperatureChannelCount ≤ i → f.temperature i = 0

/-- The members of the device that a frame is built by, which a scan start has written. -/
structure SameLayout (d d' : Mps) : Prop where
  layout : d'.layout = d.layout
  pressure : d'.physicalPressureChannelCount = d.physicalPressureChannelCount
  temperature : d'.physicalTemperatureChannelCount = d.physicalTemperatureChannelCount
  packetTemperature : d'.packetTemperatureChannelCount = d.packetTemperatureChannelCount

/-- The types whose array holds counts. -/
def MpsBinaryPacketType.isRaw : MpsBinaryPacketType → Bool
  | .raw16 | .raw32 | .raw64 => true
  | _ => false

/-- A word of a counts array that is read as a number; a cleared word is zero. -/
def Word.ReadsCount (w : Word) (z : ℤ) : Prop := w = .count z ∨ w = .zero ∧ z = 0

/-- A word of a `float` array that is read as a number; a cleared word is zero. -/
def Word.ReadsValue (w : Word) (q : ℚ) : Prop := w = .value q ∨ w = .zero ∧ q = 0

/-- The packet, read through the structure of its type, gives back the data of the frame: the arrays
are as long as those of the structure, and hold the values of the physical channels and zeros behind
them. -/
structure Packet.ReadsBack (E : Env) (d : Mps) (f : FrameData) (p : Packet) : Prop where
  type : p.type = d.packetType
  raw : p.type ≠ .legacy → p.type.isRaw = d.useRaw
  frame : p.frame = f.frame
  time : (p.frameTimeS * 10 ^ 9 + p.frameTimeNs : ℤ) = f.dt
  timeNs : p.frameTimeNs < 10 ^ 9
  size : p.size = E.packetSizeof p.type
  slots : p.values.length = E.pressureSlots p.type ∧
    p.temperature.length = E.temperatureSlots p.type
  room : d.physicalPressureChannelCount ≤ p.values.length ∧
    d.physicalTemperatureChannelCount ≤ p.temperature.length
  values : ∀ (i : ℕ) (w : Word), p.values[i]? = some w →
    if d.useRaw then
      w.ReadsCount (if i < d.physicalPressureChannelCount then f.counts i else 0)
    else w.ReadsValue (if i < d.physicalPressureChannelCount then f.pressure i else 0)
  temperature : ∀ (i : ℕ) (w : Word), p.temperature[i]? = some w →
    w.ReadsValue (if i < d.physicalTemperatureChannelCount then f.temperature i else 0)

/-! ### The layout fits the packet -/

/-- The layout fits the structure of its packet type. -/
structure FitsLayout (E : Env) (d : Mps) : Prop where
  type : d.packetType ≠ .undefined
  raw : d.packetType ≠ .legacy → d.packetType.isRaw = d.useRaw
  pressure : E.pressureSlots d.packetType = d.packetPressureChannelCount
  temperature : E.temperatureSlots d.packetType = d.packetTemperatureChannelCount
  room : d.physicalPressureChannelCount ≤ d.packetPressureChannelCount ∧
    d.physicalTemperatureChannelCount ≤ d.packetTemperatureChannelCount
  size : d.packetInfo.getD (E.packetSizeof d.packetType) = E.packetSizeof d.packetType

variable {E : Env} {d d' : Mps} {f : FrameData}

theorem SameLayout.fits (h : SameLayout d d') (hfits : FitsLayout E d) : FitsLayout E d' := by
  have htype : d'.packetType = d.packetType := congrArg ScanLayout.packetType h.layout
  have hraw : d'.useRaw = d.useRaw := congrArg ScanLayout.useRaw h.layout
  have hinfo : d'.packetInfo = d.packetInfo := congrArg ScanLayout.packetInfo h.layout
  have hpressure : d'.packetPressureChannelCount = d.packetPressureChannelCount :=
    congrArg ScanLayout.packetPressureChannelCount h.layout
  obtain ⟨h₁, h₂, h₃, h₄, h₅, h₆⟩ := hfits
  refine ⟨?_, ?_, ?_, ?_, ?_, ?_⟩
  · rwa [htype]
  · rwa [htype, hraw]
  · rwa [htype, hpressure]
  · rwa [htype, h.packetTemperature]
  · rwa [h.pressure, h.temperature, hpressure, h.packetTemperature]
  · rwa [htype, hinfo]

/-- A scan start latches the layout for the configuration. -/
theorem sameLayout_startScan (now : Clock) (hoff : d.scanning = false) :
    SameLayout (configureScanLayout E d) (startScan E now d).device := by
  have hscanning : ¬ d.scanning = true := by simp [hoff]
  refine ⟨?_, ?_, ?_, ?_⟩ <;> rw [startScan, if_neg hscanning] <;> rfl

/-- The channels of the three devices, and the type of their packets without padding. -/
theorem scanner_channels (hdevice : d.cfg.deviceId ∈ scanners) (useRaw : Bool) :
    physicalChannels d = referenceSlots (unpaddedPacketType d.cfg.deviceId useRaw) ∧
      unpaddedPacketType d.cfg.deviceId useRaw ≠ .undefined ∧
      (unpaddedPacketType d.cfg.deviceId useRaw).isRaw = useRaw := by
  simp only [scanners, List.mem_cons, List.not_mem_nil, or_false] at hdevice
  rcases hdevice with h | h | h <;> cases useRaw <;>
    simp [physicalChannels, unpaddedPacketType, referenceSlots, MpsBinaryPacketType.isRaw, h,
      mps4264, mps4232, mps4216]

/-- No packet has more channels than the legacy one. -/
theorem referenceSlots_le (t : MpsBinaryPacketType) :
    (referenceSlots t).1 ≤ 64 ∧ (referenceSlots t).2 ≤ 8 := by
  cases t <;> decide

/-- The size of a packet is that of its structure, whether the table has it or not. -/
theorem PacketStructs.getD_size (hE : PacketStructs E) {t : MpsBinaryPacketType}
    (ht : t ≠ .undefined) :
    (E.mpsGetBinaryPacketInfoByType t).getD (E.packetSizeof t) = E.packetSizeof t := by
  cases hinfo : E.mpsGetBinaryPacketInfoByType t with
  | none => rfl
  | some n => exact hE.size t ht n hinfo

/-- The layout of each of the three devices, with and without padding, fits the packets. -/
theorem fitsLayout_configureScanLayout (hE : PacketStructs E) (hdevice : d.cfg.deviceId ∈ scanners)
    (hbinary : (configureScanLayout E d).useBinary = true) :
    FitsLayout E (configureScanLayout E d) := by
  obtain ⟨hchannels, htype, hraw⟩ := scanner_channels hdevice (decide (d.cfg.units = .raw))
  simp only [configureScanLayout, decide_eq_true_eq] at hbinary
  by_cases hpad : d.cfg.sim &&& mpsSimSimulated64Ch ≠ 0
  · -- padded to the legacy packet
    have hle := referenceSlots_le (unpaddedPacketType d.cfg.deviceId (decide (d.cfg.units = .raw)))
    have hlegacy : MpsBinaryPacketType.legacy ≠ .undefined := by decide
    refine ⟨?_, ?_, ?_, ?_, ?_, ?_⟩ <;>
      simp only [configureScanLayout, if_pos hbinary, if_pos hpad]
    · exact hlegacy
    · intro hne
      exact absurd rfl hne
    · exact hE.pressure _ hlegacy
    · exact hE.temperature _ hlegacy
    · rw [hchannels]
      exact hle
    · exact hE.getD_size hlegacy
  · -- as many channels as the device has
    refine ⟨?_, ?_, ?_, ?_, ?_, ?_⟩ <;>
      simp only [configureScanLayout, if_pos hbinary, if_neg hpad]
    · exact htype
    · intro _
      exact hraw
    · rw [hchannels]
      exact hE.pressure _ htype
    · rw [hchannels]
      exact hE.temperature _ htype
    · exact ⟨le_rfl, le_rfl⟩
    · exact hE.getD_size htype

/-- The layout that a scan start latches fits the packets. -/
theorem fitsLayout_startScan (hE : PacketStructs E) (hdevice : d.cfg.deviceId ∈ scanners)
    (now : Clock) (hoff : d.scanning = false)
    (hbinary : (startScan E now d).device.useBinary = true) :
    FitsLayout E (startScan E now d).device := by
  have hsame := sameLayout_startScan (E := E) now hoff
  have hbinary' : (configureScanLayout E d).useBinary = true :=
    (congrArg ScanLayout.useBinary hsame.layout).symm.trans hbinary
  exact hsame.fits (fitsLayout_configureScanLayout hE hdevice hbinary')

/-! ### The packet of a frame -/

/-- Filling an array to its end leaves the elements that were copied. -/
theorem memcpyArray_of_length {α : Type*} {dst : List α} {n : ℕ} (h : dst.length = n)
    (src : ℕ → α) : memcpyArray dst src n = (List.range n).map src := by
  rw [memcpyArray, List.drop_eq_nil_of_le h.le, List.append_nil]

/-- Nanoseconds of a frame time below 2³² seconds are split without loss. -/
theorem frameTime_eq {dt : ℤ} (hnonneg : 0 ≤ dt) (hlt : dt < 2 ^ 32 * 10 ^ 9) :
    (frameTimeS dt * 10 ^ 9 + frameTimeNs dt : ℤ) = dt ∧ frameTimeNs dt < 10 ^ 9 := by
  rw [frameTimeS, frameTimeNs, Int.tdiv_eq_ediv_of_nonneg hnonneg,
    Int.tmod_eq_emod_of_nonneg hnonneg]
  omega

/-- The switch over the packet type builds one packet, whose array is that of its type. -/
theorem buildPacket_eq (htype : d.packetType ≠ .undefined)
    (hraw : d.packetType ≠ .legacy → d.packetType.isRaw = d.useRaw) (f : FrameData) :
    ∃ legacy, buildPacket E d f = some (fillPacket E d f d.useRaw legacy) := by
  rw [buildPacket.eq_def]
  cases ht : d.packetType <;> rw [ht] at hraw htype
  case undefined => exact absurd rfl htype
  case legacy => exact ⟨_, rfl⟩
  all_goals
    rw [← hraw (by decide)]
    exact ⟨none, rfl⟩

/-- A packet that fits its structure gives back the data of its frame. -/
theorem fillPacket_readsBack (hfits : FitsLayout E d) (hcleared : f.Cleared d)
    (hnonneg : 0 ≤ f.dt) (hlt : f.dt < 2 ^ 32 * 10 ^ 9) (legacy : Option LegacyHeader) :
    (fillPacket E d f d.useRaw legacy).ReadsBack E d f := by
  have hvalues : (fillPacket E d f d.useRaw legacy).values =
      (List.range d.packetPressureChannelCount).map fun i =>
        if d.useRaw then .count (f.counts i) else .value (f.pressure i) :=
    memcpyArray_of_length (by rw [List.length_replicate, hfits.pressure]) _
  have htemperature : (fillPacket E d f d.useRaw legacy).temperature =
      (List.range d.packetTemperatureChannelCount).map fun i => .value (f.temperature i) :=
    memcpyArray_of_length (by rw [List.length_replicate, hfits.temperature]) _
  obtain ⟨htime, htimeNs⟩ := frameTime_eq hnonneg hlt
  refine ⟨rfl, hfits.raw, rfl, htime, htimeNs, hfits.size, ?_, ?_, ?_, ?_⟩
  · rw [hvalues, htemperature, List.length_map, List.length_map, List.length_range,
      List.length_range]
    exact ⟨hfits.pressure.symm, hfits.temperature.symm⟩
  · rw [hvalues, htemperature, List.length_map, List.length_map, List.length_range,
      List.length_range]
    exact hfits.room
  · intro i w hw
    rw [hvalues] at hw
    rw [eq_of_getElem?_map_range hw]
    by_cases hi : i < d.physicalPressureChannelCount
    · rw [if_pos hi, if_pos hi]
      split <;> exact Or.inl rfl
    · -- behind the physical channels the arrays of the thread are zero
      rw [if_neg hi, if_neg hi, hcleared.counts i (by omega), hcleared.pressure i (by omega)]
      split <;> exact Or.inl rfl
  · intro i w hw
    rw [htemperature] at hw
    rw [eq_of_getElem?_map_range hw]
    by_cases hi : i < d.physicalTemperatureChannelCount
    · rw [if_pos hi]
      exact Or.inl rfl
    · rw [if_neg hi, hcleared.temperature i (by omega)]
      exact Or.inl rfl

/-- What is handed out for a layout that fits. -/
theorem binaryFrame_readsBack (hE : PacketStructs E) (hfits : FitsLayout E d)
    (hbinary : d.useBinary = true) (hcleared : f.Cleared d) (hnonneg : 0 ≤ f.dt)
    (hlt : f.dt < 2 ^ 32 * 10 ^ 9) : ∃ p, binaryFrame E d f = some p ∧ p.ReadsBack E d f := by
  obtain ⟨legacy, hbuild⟩ := buildPacket_eq (E := E) hfits.type hfits.raw f
  have hreads := fillPacket_readsBack hfits hcleared hnonneg hlt legacy
  refine ⟨_, ?_, hreads⟩
  have hpositive : 0 < (fillPacket E d f d.useRaw legacy).size := by
    rw [hreads.size, hreads.type]
    exact hE.positive _ hfits.type
  rw [binaryFrame, if_pos hbinary, hbuild, Option.filter_some, if_pos (decide_eq_true hpositive)]

/-- For each of the three devices, every configuration that a scan start has latched with binary
packets in use, and all data of a frame that is less than 2³² seconds old, **the packet that is
handed out gives back the data of the frame**. -/
theorem packet_readsBack (E : Env) (hE : PacketStructs E) (d₀ : Mps)
    (hdevice : d₀.cfg.deviceId ∈ scanners) (hoff : d₀.scanning = false) (now : Clock) (d : Mps)
    (hlatched : SameLayout (startScan E now d₀).device d) (hbinary : d.useBinary = true)
    (f : FrameData) (hcleared : f.Cleared d) (hnonneg : 0 ≤ f.dt)
    (hlt : f.dt < 2 ^ 32 * 10 ^ 9) : ∃ p, binaryFrame E d f = some p ∧ p.ReadsBack E d f := by
  have hbinary' : (startScan E now d₀).device.useBinary = true :=
    (congrArg ScanLayout.useBinary hlatched.layout).symm.trans hbinary
  have hfits := hlatched.fits (fitsLayout_startScan hE hdevice now hoff hbinary')
  exact binaryFrame_readsBack hE hfits hbinary hcleared hnonneg hlt

theorem packetStructs_referenceEnv : PacketStructs referenceEnv where
  pressure := fun _ _ => rfl
  temperature := fun _ _ => rfl
  size := fun _ _ _ h => by cases h
  positive := fun t _ => by cases t <;> decide

/-- A frame with different readings on all physical channels, behind some seconds of the scan. -/
def readingFrame (d : Mps) : FrameData where
  frame := 7
  dt := 3250000001
  counts i := if i < d.physicalPressureChannelCount then 100 * i - 50 else 0
  pressure i := if i < d.physicalPressureChannelCount then i + 1 else 0
  temperature i := if i < d.physicalTemperatureChannelCount then 20 + i else 0

theorem readingFrame_cleared (d : Mps) : (readingFrame d).Cleared d where
  counts _ hi := if_neg (Nat.not_lt.2 hi)
  pressure _ hi := if_neg (Nat.not_lt.2 hi)
  temperature _ hi := if_neg (Nat.not_lt.2 hi)

/-- A scan of a device with 16 channels, whose packets are padded to 64. -/
def paddedScan : Mps :=
  (startScan referenceEnv { steady := 5, system := 9 } (attachedDevice mps4216 1)).device

theorem packet_readsBack_first :
    ∃ p, binaryFrame referenceEnv paddedScan (readingFrame paddedScan) = some p ∧
      p.ReadsBack referenceEnv paddedScan (readingFrame paddedScan) :=
  packet_readsBack referenceEnv packetStructs_referenceEnv (attachedDevice mps4216 1) (by decide)
    rfl { steady := 5, system := 9 } paddedScan ⟨rfl, rfl, rfl, rfl⟩ rfl (readingFrame paddedScan)
    (readingFrame_cleared paddedScan) (by decide) (by decide)

/-- The first scan of a device that was just attached. -/
def firstScan : Mps :=
  (startScan referenceEnv { steady := 0, system := 0 } (attachedDevice mps4264 1)).device

/-- A frame without readings, after so many nanoseconds. -/
def blankFrame (dt : ℤ) : FrameData :=
  { frame := 1, dt := dt, counts := fun _ => 0, pressure := fun _ => 0, temperature := fun _ => 0 }

theorem blankFrame_cleared (dt : ℤ) : (blankFrame dt).Cleared firstScan :=
  ⟨fun _ _ => rfl, fun _ _ => rfl, fun _ _ => rfl⟩

/-- After 2³² seconds the packet says that no time has passed. -/
theorem packet_time_wraps :
    PacketStructs referenceEnv ∧ (attachedDevice mps4264 1).cfg.deviceId ∈ scanners ∧
      firstScan.useBinary = true ∧ (blankFrame (2 ^ 32 * 10 ^ 9)).Cleared firstScan ∧
      (0 : ℤ) ≤ 2 ^ 32 * 10 ^ 9 ∧
      ¬ ∃ p, binaryFrame referenceEnv firstScan (blankFrame (2 ^ 32 * 10 ^ 9)) = some p ∧
        p.ReadsBack referenceEnv firstScan (blankFrame (2 ^ 32 * 10 ^ 9)) := by
  refine ⟨packetStructs_referenceEnv, by decide, rfl, blankFrame_cleared _, by decide, ?_⟩
  rintro ⟨p, hp, hreads⟩
  have htime : (binaryFrame referenceEnv firstScan (blankFrame (2 ^ 32 * 10 ^ 9))).map
      (fun p => (p.frameTimeS, p.frameTimeNs)) = some (0, 0) := by
    decide +kernel
  rw [hp] at htime
  obtain ⟨hs, hns⟩ := Prod.mk.inj (Option.some_inj.1 htime)
  have hread := hreads.time
  rw [hs, hns] at hread
  exact absurd hread (by decide)

/-! ### The packets of a run -/

variable {s s' : Scanner} {a : ScanAction}

/-- While a scan is on, and while the thread is still in a frame of it, the layout is one that a
scan start has made for this type of device; and what is emitted is zero behind the channels. -/
structure LayoutInv (E : Env) (s : Scanner) : Prop where
  device : s.device.cfg.deviceId ∈ scanners
  latched : s.device.scanning = true ∨ s.thread.pc.inFrame = true →
    ∃ d₀ : Mps, d₀.cfg.deviceId = s.device.cfg.deviceId ∧
      SameLayout (configureScanLayout E d₀) s.device
  cleared : s.thread.pc = .emit → s.thread.frameData.Cleared s.device

theorem SameLayout.trans {d'' : Mps} (h : SameLayout d d') (h' : SameLayout d' d'') :
    SameLayout d d'' where
  layout := h'.layout.trans h.layout
  pressure := h'.pressure.trans h.pressure
  temperature := h'.temperature.trans h.temperature
  packetTemperature := h'.packetTemperature.trans h.packetTemperature

/-- A step that begins no scan leaves the layout as it is. -/
theorem sameLayout_step (h : step E s a = some s') (hbegins : s.begins s' = false) :
    SameLayout s.device s'.device := by
  have hlayout : s'.device.layout = s.device.layout := by
    rw [step_layout h, hbegins]
    rfl
  by_cases ha : a = .thread
  · rw [ha] at h
    have heffect := threadStep_effect h
    generalize s'.device = d' at heffect hlayout
    cases heffect with
    | calEnd => exact ⟨hlayout, rfl, rfl, rfl⟩
    | limitStop =>
        have hunsampled := unsampled_stopScan s.device
        exact ⟨hlayout, hunsampled.pressure, hunsampled.temperature, hunsampled.packetTemperature⟩
    | random _ _ hsame =>
        refine ⟨hlayout, ?_, ?_, ?_⟩ <;> rw [hsame]
  · have hunsampled := unsampled_call h ha hbegins
    exact ⟨hlayout, hunsampled.pressure, hunsampled.temperature, hunsampled.packetTemperature⟩

/-- The data of a frame stays cleared where the channels stay the same. -/
theorem FrameData.Cleared.congr (h : f.Cleared d)
    (hpressure : d'.physicalPressureChannelCount = d.physicalPressureChannelCount)
    (htemperature : d'.physicalTemperatureChannelCount = d.physicalTemperatureChannelCount) :
    f.Cleared d' := by
  obtain ⟨h₁, h₂, h₃⟩ := h
  refine ⟨?_, ?_, ?_⟩
  · rwa [hpressure]
  · rwa [hpressure]
  · rwa [htemperature]

/-- The thread gets to the emission of a frame from its averages, behind which the arrays are
zero. -/
theorem threadStep_cleared (h : threadStep E s = some s') (hpc : s'.thread.pc = .emit) :
    s'.thread.frameData.Cleared s'.device := by
  obtain ⟨-, hdevice, hcounts, hpressure, htemperature⟩ := average_of_emit h hpc
  rw [hdevice]
  refine ⟨?_, ?_, ?_⟩
  · intro i hi
    exact (congrFun hcounts i).trans (if_neg (not_lt.2 hi))
  · intro i hi
    exact (congrFun hpressure i).trans (if_neg (not_lt.2 hi))
  · intro i hi
    exact (congrFun htemperature i).trans (if_neg (not_lt.2 hi))

/-- **Step lemma**: every step keeps the invariant. -/
theorem LayoutInv.step (hinv : LayoutInv E s) (h : step E s a = some s') : LayoutInv E s' := by
  have hid : s'.device.cfg.deviceId = s.device.cfg.deviceId := step_deviceId h
  cases hbegins : s.begins s' with
  | true =>
      obtain ⟨hoff, -, hthread⟩ := isStart_of_begins h hbegins
      obtain ⟨now, hdevice⟩ := startScan_of_begins h hbegins
      refine ⟨by rw [hid]; exact hinv.device, fun _ => ⟨s.device, hid.symm, ?_⟩, ?_⟩
      · rw [hdevice]
        exact sameLayout_startScan now hoff
      · intro hpc
        rw [hthread] at hpc ⊢
        -- the thread is in a frame of the scan before, on a device with the same channels
        obtain ⟨d₀, hid₀, hlayout⟩ := hinv.latched (Or.inr (by rw [hpc]; rfl))
        have hchannels : physicalChannels s.device = physicalChannels d₀ := by
          have hdevice₀ : d₀.cfg.deviceId ∈ scanners := by
            rw [hid₀]
            exact hinv.device
          rw [(scanner_channels hinv.device false).1, (scanner_channels hdevice₀ false).1, hid₀]
        obtain ⟨hpressure, htemperature, -⟩ := startScan_channels (E := E) now s.device hoff
        refine (hinv.cleared hpc).congr ?_ ?_
        · rw [hdevice, hpressure, hchannels, hlayout.pressure]
          rfl
        · rw [hdevice, htemperature, hchannels, hlayout.temperature]
          rfl
  | false =>
      have hsame := sameLayout_step h hbegins
      refine ⟨by rw [hid]; exact hinv.device, ?_, ?_⟩
      · intro hon
        have hbefore : s.device.scanning = true ∨ s.thread.pc.inFrame = true := by
          by_cases ha : a = .thread
          · rw [ha] at h
            rcases hon with hon | hin
            · exact Or.inl (scanning_of_threadStep h hon)
            · exact inFrame_of_threadStep h hin
          · rcases hon with hon | hin
            · left
              rw [Scanner.begins, hon, Bool.and_true, Bool.not_eq_false'] at hbegins
              exact hbegins
            · right
              rwa [step_thread h ha] at hin
        obtain ⟨d₀, hid₀, hlayout⟩ := hinv.latched hbefore
        exact ⟨d₀, hid₀.trans hid.symm, hlayout.trans hsame⟩
      · intro hpc
        by_cases ha : a = .thread
        · rw [ha] at h
          exact threadStep_cleared h hpc
        · have hthread := step_thread h ha
          rw [hthread] at hpc ⊢
          exact (hinv.cleared hpc).congr hsame.pressure hsame.temperature

theorem layoutInv_start {cfg : MpsConfig} (hdevice : cfg.deviceId ∈ scanners) :
    LayoutInv E (Scanner.start cfg) where
  device := hdevice
  latched := fun h => by rcases h with h | h <;> cases h
  cleared := fun h => by cases h

/-- The step, if it emits a frame less than 2³² seconds after the scan start with binary packets in
use, hands out a packet that gives back the data of the frame. -/
def EmitsReadable (E : Env) (s : Scanner) (a : ScanAction) : Prop :=
  a = .thread → s.thread.pc = .emit → s.device.useBinary = true → 0 ≤ s.thread.dt →
    s.thread.dt < 2 ^ 32 * 10 ^ 9 →
      ∃ p, binaryFrame E s.device s.thread.frameData = some p ∧
        p.ReadsBack E s.device s.thread.frameData

/-- In every run of one of the three devices, **every packet that is handed out in the first 2³²
seconds of a scan gives back the data of its frame**. -/
theorem emitted_readsBack (hE : PacketStructs E) {cfg : MpsConfig}
    (hdevice : cfg.deviceId ∈ scanners) (as : List ScanAction) :
    Runs.Along (step E) (EmitsReadable E) (Scanner.start cfg) as := by
  refine Runs.along_of_step (fun _ _ _ hinv h => LayoutInv.step hinv h) ?_
    (layoutInv_start hdevice)
  rintro s a hinv - hpc hbinary hnonneg hlt
  obtain ⟨d₀, hid₀, hlayout⟩ := hinv.latched (Or.inr (by rw [hpc]; rfl))
  have hbinary₀ : (configureScanLayout E d₀).useBinary = true :=
    (congrArg ScanLayout.useBinary hlayout.layout).symm.trans hbinary
  have hdevice₀ : d₀.cfg.deviceId ∈ scanners := by
    rw [hid₀]
    exact hinv.device
  have hfits := hlayout.fits (fitsLayout_configureScanLayout hE hdevice₀ hbinary₀)
  exact binaryFrame_readsBack hE hfits hbinary (hinv.cleared hpc) hnonneg hlt

end MpsEmulator
