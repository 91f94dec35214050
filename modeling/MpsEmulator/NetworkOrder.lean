/-
**LabVIEW frames go out in network order.**

The device builds a LabVIEW frame as an array of `float`s that a union makes available as bytes, and
copies as many bytes as the channels of the layout need.  The server layer turns the words of this
buffer around in place before it sends it on port 503.

* `Buffer`, `swapToNetworkOrderInPlace` — a buffer of bytes, and the swap;
* `SwapsWords` — what the swap does to a buffer, and that twice is nothing;
* `labviewBuf`, `labviewBuffer`, `labviewSends` — the union, the buffer, and what is sent of it;
* `labviewSends_eq` — these are the LabVIEW frames that the server layer sends on, as bytes;
* `LabviewSizes` — what is relied on of the sizes;
* `FitsLabview`, `sentChannels` — the layout fits the frame, and its number of channels;
* `labview_in_network_order` — **the bytes that are sent, read as big-endian words, are the frame
  number, the mean temperature, the pressures, and zeros**;
* `emitted_in_network_order` — the frames of a run.

A `float` is a word that only its own conversion knows; zero is the word that `memset` leaves.
-/

import MpsEmulator.ByteOrder
import MpsEmulator.PacketReadBack

set_option relaxedAutoImplicit false
set_option autoImplicit false

namespace MpsEmulator

/-! ### The swap -/

/-- What an `aero::Buffer` points to: memory from `data` on, of which `size` bytes belong to the
buffer. -/
@[ext] structure Buffer where
  data : ℕ → BitVec 8
  size : ℕ

/-- The bytes of a buffer. -/
def Buffer.bytes (buf : Buffer) : List (BitVec 8) := (List.range buf.size).map buf.data

/-- `aero::SwapToNetworkOrderInPlace`. -/
def swapToNetworkOrderInPlace (buf : Buffer) : Buffer :=
  if buf.size % 4 ≠ 0 then buf else { buf with data := swapWords buf.data (buf.size / 4) }

/-- The swap turns the bytes of each word of a buffer around if it holds whole words, and otherwise
leaves it as it is; it changes no byte behind the buffer, and done twice it changes nothing. -/
structure SwapsWords (buf : Buffer) : Prop where
  size : (swapToNetworkOrderInPlace buf).size = buf.size
  words : buf.size % 4 = 0 → ∀ i j, 4 * i < buf.size → j < 4 →
    (swapToNetworkOrderInPlace buf).data (4 * i + j) = buf.data (4 * i + (3 - j))
  odd : buf.size % 4 ≠ 0 → swapToNetworkOrderInPlace buf = buf
  behind : ∀ k, buf.size ≤ k → (swapToNetworkOrderInPlace buf).data k = buf.data k
  twice : swapToNetworkOrderInPlace (swapToNetworkOrderInPlace buf) = buf

theorem swapToNetworkOrderInPlace_of_words {buf : Buffer} (h : buf.size % 4 = 0) :
    swapToNetworkOrderInPlace buf = { buf with data := swapWords buf.data (buf.size / 4) } :=
  if_neg (not_not.2 h)

/-- Turning the words around twice changes nothing. -/
theorem swapWords_swapWords (mem : ℕ → BitVec 8) (count : ℕ) :
    swapWords (swapWords mem count) count = mem := by
  funext k
  rw [swapWords_apply]
  by_cases hk : k / 4 < count
  · have hword : (4 * (k / 4) + (3 - k % 4)) / 4 = k / 4 := by omega
    have hbyte : 4 * (k / 4) + (3 - (4 * (k / 4) + (3 - k % 4)) % 4) = k := by omega
    rw [if_pos hk, swapWords_apply, hword, if_pos hk, hbyte]
  · rw [if_neg hk, swapWords_apply, if_neg hk]

/-- **The swap does what it should**, to every buffer. -/
theorem swapsWords (buf : Buffer) : SwapsWords buf := by
  by_cases hsize : buf.size % 4 = 0
  · have hswap := swapToNetworkOrderInPlace_of_words hsize
    refine ⟨by rw [hswap], ?_, fun h => absurd hsize h, ?_, ?_⟩
    · intro _ i j hi hj
      have hword : (4 * i + j) / 4 = i := by omega
      have hbyte : (4 * i + j) % 4 = j := by omega
      rw [hswap]
      dsimp only
      rw [swapWords_apply, hword, hbyte, if_pos (by omega)]
    · intro k hk
      rw [hswap]
      dsimp only
      rw [swapWords_apply, if_neg (by omega)]
    · have hagain := @swapToNetworkOrderInPlace_of_words
        { buf with data := swapWords buf.data (buf.size / 4) } hsize
      rw [hswap, hagain]
      dsimp only
      rw [swapWords_swapWords]
  · have hswap : swapToNetworkOrderInPlace buf = buf := if_pos hsize
    refine ⟨by rw [hswap], fun h => absurd h hsize, fun _ => hswap, ?_, ?_⟩
    · intro k _
      rw [hswap]
    · rw [hswap, hswap]

/-- A buffer without bytes stays as it is. -/
theorem swapToNetworkOrderInPlace_of_size_zero {buf : Buffer} (h : buf.size = 0) :
    swapToNetworkOrderInPlace buf = buf := by
  have hswap := swapsWords buf
  exact Buffer.ext (funext fun k => hswap.behind k (h.trans_le (Nat.zero_le k))) hswap.size

/-! ### The frame as bytes -/

section

variable (E : Env) (toFloat : ℚ → BitVec 32)

/-- The bytes of the union `LabviewBuf` on a little-endian host. -/
def labviewBuf (values : List ℚ) : ℕ → BitVec 8 := fun k =>
  byteOf ((values.map toFloat).getD (k / 4) 0) (k % 4)

/-- The buffer handed to `m_OnLabviewFrame`: a copy of the first bytes of the union. -/
def labviewBuffer (d : Mps) (f : FrameData) : Option Buffer :=
  if d.useLabview ∧ 0 < labviewSize E d then
    some { data := labviewBuf toFloat (labviewValues E d f), size := labviewSize E d }
  else none

/-- `ServerLayer::OnLabviewFrame` on a buffer: the bytes sent, and to which client. -/
def onLabviewBuffer (cfg : MpsConfig) (b : BinaryClients) (buf : Buffer) :
    List (ℕ × List (BitVec 8)) :=
  if b.connected ∧ cfg.binaryFormat = .labview then
    (b.receivers b.activeId).map fun id => (id, (swapToNetworkOrderInPlace buf).bytes)
  else []

/-- What is sent of a LabVIEW frame. -/
def labviewSends (cfg : MpsConfig) (b : BinaryClients) (d : Mps) (f : FrameData) :
    List (ℕ × List (BitVec 8)) :=
  (labviewBuffer E toFloat d f).toList.flatMap (onLabviewBuffer cfg b)

/-- The words of the values, as bytes in network order. -/
def networkBytes (values : List ℚ) : List (BitVec 8) :=
  (List.range (4 * values.length)).map (swapWords (labviewBuf toFloat values) values.length)

/-- A LabVIEW frame among the outputs, as the bytes sent. -/
def FrameOutput.labviewBytes : FrameOutput → Option (ℕ × List (BitVec 8))
  | .labview id values => some (id, networkBytes toFloat values)
  | _ => none

end

variable {E : Env} {toFloat : ℚ → BitVec 32} {d : Mps} {f : FrameData}

/-- The words of the union are those of its values. -/
theorem wordAt_labviewBuf (values : List ℚ) (i : ℕ) :
    wordAt (labviewBuf toFloat values) i = (values.map toFloat).getD i 0 := by
  refine Eq.trans ?_ (wordOf_byteOf _)
  refine wordOf_congr fun j hj => ?_
  have hword : (4 * i + j) / 4 = i := by omega
  have hbyte : (4 * i + j) % 4 = j := by omega
  rw [labviewBuf, hword, hbyte]

/-- **The bytes of values are read back as their words.** -/
theorem bigEndianWords_networkBytes (values : List ℚ) :
    bigEndianWords (networkBytes toFloat values) = values.map toFloat := by
  rw [networkBytes, bigEndianWords_swapWords]
  refine List.ext_getElem (by simp) ?_
  intro i h₁ h₂
  rw [List.getElem_map, List.getElem_range, wordAt_labviewBuf, List.getD_eq_getElem _ _ h₂]

/-- What is sent of the union is what its first values are as bytes. -/
theorem bytes_labviewBuf (values : List ℚ) (n : ℕ) (hn : n ≤ values.length) :
    (swapToNetworkOrderInPlace
        { data := labviewBuf toFloat values, size := 4 * n }).bytes =
      networkBytes toFloat (values.take n) := by
  have hwhole : (4 * n) % 4 = 0 := by omega
  have hcount : 4 * n / 4 = n := by omega
  rw [swapToNetworkOrderInPlace_of_words hwhole, Buffer.bytes, networkBytes, List.length_take,
    min_eq_left hn]
  dsimp only
  rw [hcount]
  refine List.map_congr_left fun k hk => ?_
  rw [List.mem_range] at hk
  have hlt : k / 4 < n := by omega
  have hword : (4 * (k / 4) + (3 - k % 4)) / 4 = k / 4 := by omega
  rw [swapWords_apply, swapWords_apply, if_pos hlt, if_pos hlt, labviewBuf, labviewBuf, hword,
    List.map_take, List.getD_eq_getElem?_getD, List.getD_eq_getElem?_getD,
    List.getElem?_take_of_lt hlt]

/-! ### The layout fits the frame -/

/-- What is relied on of the sizes of LabVIEW frames. -/
structure LabviewSizes (E : Env) : Prop where
  size64 : E.mpsPkt64LabviewSize = 4 * (64 + 2)
  size32 : E.mpsPkt32LabviewSize = 4 * (32 + 2)
  size16 : E.mpsPkt16LabviewSize = 4 * (16 + 2)
  elements : 66 ≤ E.mpsMaxLabviewElements

/-- The layout fits a LabVIEW frame: its size is that of two values and one for each channel, and
the union has room for them. -/
structure FitsLabview (E : Env) (d : Mps) : Prop where
  size : labviewSize E d = 4 * (d.packetPressureChannelCount + 2)
  elements : d.packetPressureChannelCount + 2 ≤ E.mpsMaxLabviewElements
  room : d.physicalPressureChannelCount ≤ d.packetPressureChannelCount

/-- The pressure channels of a frame: 64 if they are padded, and else those of the device. -/
def sentChannels (d : Mps) : ℕ :=
  if d.cfg.sim &&& mpsSimSimulated64Ch ≠ 0 then 64 else (physicalChannels d).1

theorem configureScanLayout_sentChannels (E : Env) (d : Mps) :
    (configureScanLayout E d).packetPressureChannelCount = sentChannels d := by
  simp only [configureScanLayout]
  rfl

/-- The channel counts for which there is a size. -/
theorem labviewSize_eq (hE : LabviewSizes E)
    (hchannels : d.packetPressureChannelCount ∈ [64, 32, 16]) :
    labviewSize E d = 4 * (d.packetPressureChannelCount + 2) ∧
      d.packetPressureChannelCount ≤ 64 := by
  simp only [List.mem_cons, List.not_mem_nil, or_false] at hchannels
  rw [labviewSize]
  rcases hchannels with h | h | h <;> rw [h]
  · exact ⟨by rw [if_pos rfl, hE.size64], by omega⟩
  · exact ⟨by rw [if_neg (by omega), if_pos rfl, hE.size32], by omega⟩
  · exact ⟨by rw [if_neg (by omega), if_neg (by omega), if_pos rfl, hE.size16], by omega⟩

theorem fitsLabview_configureScanLayout (hE : LabviewSizes E)
    (hdevice : d.cfg.deviceId ∈ scanners) : FitsLabview E (configureScanLayout E d) := by
  have hchannels : (configureScanLayout E d).packetPressureChannelCount ∈ [64, 32, 16] :=
    (latchedFrom_configureScanLayout (E := E) hdevice).channels
  obtain ⟨hsize, hle⟩ := labviewSize_eq hE hchannels
  refine ⟨hsize, ?_, ?_⟩
  · have := hE.elements
    omega
  · rw [configureScanLayout_sentChannels, sentChannels]
    split
    · have hphysical : (configureScanLayout E d).physicalPressureChannelCount =
          (referenceSlots (unpaddedPacketType d.cfg.deviceId false)).1 :=
        congrArg Prod.fst (scanner_channels hdevice false).1
      rw [hphysical]
      exact (referenceSlots_le _).1
    · exact le_rfl

theorem SameLayout.fitsLabview {d' : Mps} (h : SameLayout d d') (hfits : FitsLabview E d) :
    FitsLabview E d' := by
  have hpressure : d'.packetPressureChannelCount = d.packetPressureChannelCount :=
    congrArg ScanLayout.packetPressureChannelCount h.layout
  obtain ⟨hsize, helements, hroom⟩ := hfits
  refine ⟨?_, ?_, ?_⟩
  · rw [labviewSize, hpressure]
    exact hsize
  · rwa [hpressure]
  · rwa [h.pressure, hpressure]

/-! ### The words of a frame -/

/-- The words of a LabVIEW frame with `n` channels. -/
def labviewWords (E : Env) (toFloat : ℚ → BitVec 32) (d : Mps) (f : FrameData) (n : ℕ) :
    List (BitVec 32) :=
  toFloat f.frame :: toFloat (meanTemperature E d f) ::
    (List.range n).map fun i =>
      if i < d.physicalPressureChannelCount then toFloat (f.pressure i) else 0

/-- The values that fill the frame. -/
theorem take_labviewValues (E : Env) (d : Mps) (f : FrameData) :
    (labviewValues E d f).take (d.packetPressureChannelCount + 2) =
      (f.frame : ℚ) :: meanTemperature E d f ::
        (List.range d.packetPressureChannelCount).map f.pressure := by
  rw [labviewValues, List.take_succ_cons, List.take_succ_cons, memcpyArray,
    List.take_left' (by rw [List.length_map, List.length_range])]

theorem le_length_labviewValues (E : Env) (d : Mps) (f : FrameData) :
    d.packetPressureChannelCount + 2 ≤ (labviewValues E d f).length := by
  simp only [labviewValues, memcpyArray, List.length_cons, List.length_append, List.length_map,
    List.length_range, List.length_drop, List.length_replicate]
  omega

/-- Behind the physical channels the pressures are zero, and zero is the zero word. -/
theorem map_toFloat_pressure (hzero : toFloat 0 = 0) (hcleared : f.Cleared d) (n : ℕ) :
    ((List.range n).map f.pressure).map toFloat =
      (List.range n).map fun i =>
        if i < d.physicalPressureChannelCount then toFloat (f.pressure i) else 0 := by
  rw [List.map_map]
  refine List.map_congr_left fun i _ => ?_
  rw [Function.comp_apply]
  split
  · rfl
  · next hi => rw [hcleared.pressure i (by omega), hzero]

/-- What is sent of a frame: the same bytes to every receiver, and they are read back. -/
theorem labviewSends_of_fits (hfits : FitsLabview E d) (hlabview : d.useLabview = true)
    (hzero : toFloat 0 = 0) (hcleared : f.Cleared d) (cfg : MpsConfig) (b : BinaryClients) :
    ∃ bytes,
      labviewSends E toFloat cfg b d f =
        (if b.connected ∧ cfg.binaryFormat = .labview then
          (b.receivers b.activeId).map fun id => (id, bytes)
        else []) ∧
      bytes.length = 4 * (d.packetPressureChannelCount + 2) ∧
      bigEndianWords bytes = labviewWords E toFloat d f d.packetPressureChannelCount := by
  have hpositive : d.useLabview ∧ 0 < labviewSize E d := ⟨hlabview, by rw [hfits.size]; omega⟩
  have hlength := le_length_labviewValues E d f
  refine ⟨networkBytes toFloat
    ((labviewValues E d f).take (d.packetPressureChannelCount + 2)), ?_, ?_, ?_⟩
  · rw [labviewSends, labviewBuffer, if_pos hpositive, hfits.size, Option.toList_some,
      List.flatMap_cons, List.flatMap_nil, List.append_nil, onLabviewBuffer,
      bytes_labviewBuf _ _ hlength]
  · rw [networkBytes, List.length_map, List.length_range, List.length_take, min_eq_left hlength]
  · rw [bigEndianWords_networkBytes, take_labviewValues, List.map_cons, List.map_cons,
      map_toFloat_pressure hzero hcleared]
    rfl

/-- The bytes sent are those of the LabVIEW frames among the outputs of the server layer. -/
theorem labviewSends_eq (hfits : FitsLabview E d) (cfg : MpsConfig) (b : BinaryClients) :
    labviewSends E toFloat cfg b d f =
      ((labviewFrame E d f).toList.flatMap (onLabviewFrame cfg b)).filterMap
        (FrameOutput.labviewBytes toFloat) := by
  have hcount : 4 * (d.packetPressureChannelCount + 2) / 4 = d.packetPressureChannelCount + 2 := by
    omega
  rw [labviewSends, labviewBuffer, labviewFrame]
  by_cases h : d.useLabview ∧ 0 < labviewSize E d
  · rw [if_pos h, if_pos h, hfits.size, hcount, Option.toList_some, Option.toList_some,
      List.flatMap_cons, List.flatMap_nil, List.append_nil, List.flatMap_cons, List.flatMap_nil,
      List.append_nil, onLabviewBuffer, onLabviewFrame,
      bytes_labviewBuf _ _ (le_length_labviewValues E d f)]
    split
    · rw [List.filterMap_map]
      exact (congrFun List.filterMap_eq_map _).symm
    · rfl
  · rw [if_neg h, if_neg h]
    rfl

/-- For each of the three devices, every `SIM` setting that a scan start has latched, and all data
of a frame, **the bytes sent to a client on port 503, read as big-endian words, are the frame
number, the mean temperature, the pressures of the physical channels, and zeros** up to the channels
of the device, or to 64 if they are padded.  The swap does what it should to every buffer. -/
theorem labview_in_network_order (E : Env) (hE : LabviewSizes E) (toFloat : ℚ → BitVec 32)
    (hzero : toFloat 0 = 0) :
    (∀ d₀ : Mps, d₀.cfg.deviceId ∈ scanners → d₀.scanning = false → ∀ (now : Clock) (d : Mps),
      SameLayout (startScan E now d₀).device d → d.useLabview = true →
        ∀ f : FrameData, f.Cleared d → ∀ (cfg : MpsConfig) (b : BinaryClients),
          ∃ bytes,
            labviewSends E toFloat cfg b d f =
              (if b.connected ∧ cfg.binaryFormat = .labview then
                (b.receivers b.activeId).map fun id => (id, bytes)
              else []) ∧
            bytes.length = 4 * (sentChannels d₀ + 2) ∧
            bigEndianWords bytes = labviewWords E toFloat d f (sentChannels d₀)) ∧
      ∀ buf : Buffer, SwapsWords buf := by
  refine ⟨?_, swapsWords⟩
  intro d₀ hdevice hoff now d hlatched hlabview f hcleared cfg b
  have hsame := (sameLayout_startScan (E := E) now hoff).trans hlatched
  have hfits := hsame.fitsLabview (fitsLabview_configureScanLayout hE hdevice)
  have hchannels : d.packetPressureChannelCount = sentChannels d₀ :=
    (congrArg ScanLayout.packetPressureChannelCount hsame.layout).trans
      (configureScanLayout_sentChannels E d₀)
  rw [← hchannels]
  exact labviewSends_of_fits hfits hlabview hzero hcleared cfg b

theorem labviewSizes_referenceEnv : LabviewSizes referenceEnv :=
  ⟨rfl, rfl, rfl, by decide⟩

/-- An MPS-4232 that is asked for LabVIEW frames, which are padded to 64 channels. -/
def labviewDevice : Mps :=
  start (Mps.init { attachConfig mps4232 1 with binaryFormat := .labview })

/-- A scan of it. -/
def labviewScan : Mps := (startScan referenceEnv { steady := 5, system := 9 } labviewDevice).device

/-- Some words that stand for numbers: those of the numerators. -/
def numeratorFloat (q : ℚ) : BitVec 32 := BitVec.ofInt 32 q.num

/-- The mean of the temperatures 20 to 23 is 43 / 2. -/
theorem labview_in_network_order_first :
    ∃ bytes,
      labviewSends referenceEnv numeratorFloat labviewDevice.cfg
          { connections := [7], connected := true, activeId := 7 } labviewScan
          (readingFrame labviewScan) = [(7, bytes)] ∧
      bytes.length = 264 ∧
      bigEndianWords bytes =
        7 :: 43 :: ((List.range 32).map fun i => BitVec.ofNat 32 (i + 1)) ++
          List.replicate 32 0 := by
  have hlabview := labview_in_network_order referenceEnv labviewSizes_referenceEnv numeratorFloat
    rfl
  obtain ⟨bytes, hsends, hlength, hwords⟩ := hlabview.1 labviewDevice (by decide) rfl
    { steady := 5, system := 9 } labviewScan ⟨rfl, rfl, rfl, rfl⟩ rfl (readingFrame labviewScan)
    (readingFrame_cleared labviewScan) labviewDevice.cfg
    { connections := [7], connected := true, activeId := 7 }
  exact ⟨bytes, hsends, hlength, hwords.trans (by decide +kernel)⟩

/-! ### The frames of a run -/

/-- The step, if it emits a frame with LabVIEW frames in use, sends bytes that are read as the words
of the frame. -/
def EmitsNetworkOrder (E : Env) (toFloat : ℚ → BitVec 32) (b : BinaryClients) (s : Scanner)
    (a : ScanAction) : Prop :=
  a = .thread → s.thread.pc = .emit → s.device.useLabview = true →
    ∃ bytes,
      ((labviewFrame E s.device s.thread.frameData).toList.flatMap
          (onLabviewFrame s.device.cfg b)).filterMap (FrameOutput.labviewBytes toFloat) =
        (if b.connected ∧ s.device.cfg.binaryFormat = .labview then
          (b.receivers b.activeId).map fun id => (id, bytes)
        else []) ∧
      bigEndianWords bytes =
        labviewWords E toFloat s.device s.thread.frameData s.device.packetPressureChannelCount

/-- In every run of one of the three devices, **every LabVIEW frame that is sent is read back in
network order**. -/
theorem emitted_in_network_order (hE : LabviewSizes E) (hzero : toFloat 0 = 0) {cfg : MpsConfig}
    (hdevice : cfg.deviceId ∈ scanners) (b : BinaryClients) (as : List ScanAction) :
    Runs.Along (step E) (EmitsNetworkOrder E toFloat b) (Scanner.start cfg) as := by
  refine Runs.along_of_step (fun _ _ _ hinv h => LayoutInv.step hinv h) ?_
    (layoutInv_start hdevice)
  rintro s a hinv - hpc hlabview
  obtain ⟨d₀, hid₀, hlayout⟩ := hinv.latched (Or.inr (by rw [hpc]; rfl))
  have hdevice₀ : d₀.cfg.deviceId ∈ scanners := by
    rw [hid₀]
    exact hinv.device
  have hfits := hlayout.fitsLabview (fitsLabview_configureScanLayout hE hdevice₀)
  obtain ⟨bytes, hsends, -, hwords⟩ :=
    labviewSends_of_fits hfits hlabview hzero (hinv.cleared hpc) s.device.cfg b
  exact ⟨bytes, (labviewSends_eq hfits s.device.cfg b).symm.trans hsends, hwords⟩

end MpsEmulator
