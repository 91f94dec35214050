/-
**Where the frames of a scan go.**

A frame can go to three places: as a binary packet to a UDP target or to the client of the binary
server, or as a LabVIEW frame to that client.  The device makes the packets with the flags a scan
latched when it started; the server layer sends them on by the configuration in force when the frame
comes.  UDP packets go through a queue, from which a thread of its own sends them.

* `BinaryClients`, `onScanFrame`, `onLabviewFrame` — the server layer;
* `Sinks`, `Sinks.step` — the device, the client, the queue and the thread that empties it, with a
  note of the configuration at the scan start;
* `Served` — the frame goes exactly where the configuration in force wants it;
* `SinksLatched` — what is wanted was in use when the scan started;
* `served_iff_sinksLatched` — **every frame of a run is served exactly if that holds at every frame,
  and the UDP packets are sent in frame order in any case**;
* `sink_enabled_during_scan` — three runs in which a sink that is enabled gets no frame.
-/

import MpsEmulator.ScanLayout

set_option relaxedAutoImplicit false
set_option autoImplicit false

namespace MpsEmulator

/-! ### The server layer -/

/-- A packet on its way to a UDP target. -/
structure Datagram where
  ip : Bytes
  port : ℕ
  packet : Packet
  deriving DecidableEq

/-- The clients of the binary server: those that are registered, and the active one. -/
structure BinaryClients where
  connections : List ℕ
  connected : Bool
  activeId : ℕ

/-- `Server::KickClient` with `OnTCPBinaryClientDisconnected`. -/
def BinaryClients.kick (b : BinaryClients) (id : ℕ) : BinaryClients where
  connections := b.connections.filter (· ≠ id)
  connected := if id = b.activeId then false else b.connected
  activeId := if id = b.activeId then 0 else b.activeId

/-- A client is accepted, with `OnTCPBinaryClientConnected`. -/
def BinaryClients.accept (b : BinaryClients) (id : ℕ) : BinaryClients :=
  let registered := { b with connections := b.connections.insert id }
  if id = b.activeId then registered
  else
    let others := if b.connected then registered.kick b.activeId else registered
    { others with connected := true, activeId := id }

/-- The clients `Server::SendBuffer` sends to. -/
def BinaryClients.receivers (b : BinaryClients) (id : ℕ) : List ℕ :=
  if id = 0 then b.connections else if id ∈ b.connections then [id] else []

/-- What the server layer does with a frame. -/
inductive FrameOutput
  | streamTo (d : Datagram)
  | packet (id : ℕ) (p : Packet)
  | labview (id : ℕ) (values : List ℚ)

def FrameOutput.datagram? : FrameOutput → Option Datagram
  | .streamTo d => some d
  | _ => none

/-- The output is a packet for this client. -/
def FrameOutput.isPacketTo (id : ℕ) : FrameOutput → Bool
  | .packet id' _ => id' = id
  | _ => false

/-- The output is a LabVIEW frame for this client. -/
def FrameOutput.isLabviewTo (id : ℕ) : FrameOutput → Bool
  | .labview id' _ => id' = id
  | _ => false

/-- UDP gets the binary packets. -/
def MpsConfig.wantsUdp (cfg : MpsConfig) : Bool := cfg.udpEnabled ∧ cfg.ftpUdpFormat = .binary

/-- `ServerLayer::OnScanFrame`. -/
def onScanFrame (cfg : MpsConfig) (b : BinaryClients) (p : Packet) : List FrameOutput :=
  (if cfg.wantsUdp then
    [.streamTo { ip := cfg.udpTargetIp, port := cfg.udpTargetPort, packet := p }] else []) ++
  (if b.connected ∧ cfg.binaryFormat = .binary then
    (b.receivers b.activeId).map fun id => .packet id p else [])

/-- `ServerLayer::OnLabviewFrame`. -/
def onLabviewFrame (cfg : MpsConfig) (b : BinaryClients) (values : List ℚ) : List FrameOutput :=
  if b.connected ∧ cfg.binaryFormat = .labview then
    (b.receivers b.activeId).map fun id => .labview id values else []

/-- All that is done with a frame. -/
def frameOutputs (E : Env) (s : Scanner) (b : BinaryClients) : List FrameOutput :=
  (labviewFrame E s.device s.thread.frameData).toList.flatMap (onLabviewFrame s.device.cfg b) ++
    (binaryFrame E s.device s.thread.frameData).toList.flatMap (onScanFrame s.device.cfg b)

/-! ### Runs -/

/-- The device, the clients of the binary server, and UDP.  `streamed` and `scanCfg` are notes: the
datagrams made by the frames so far, and the configuration when the last scan started. -/
structure Sinks where
  scanner : Scanner
  clients : BinaryClients
  /-- `m_DataQueue` -/
  queue : List Datagram
  /-- The packet `DataStreamThreadFn` has taken and not sent yet. -/
  inHand : Option Datagram
  sent : List Datagram
  streamed : List Datagram
  scanCfg : MpsConfig

/-- A device that was just started, and no clients. -/
def Sinks.start (cfg : MpsConfig) : Sinks where
  scanner := .start cfg
  clients := { connections := [], connected := false, activeId := 0 }
  queue := []
  inHand := none
  sent := []
  streamed := []
  scanCfg := cfg

/-- A step of the device, a client that comes or goes, or a step of the thread that sends. -/
inductive SinkAction
  | device (a : ScanAction)
  | accept (id : ℕ)
  | kick (id : ℕ)
  | take
  | send
  deriving DecidableEq

/-- The step hands out a frame. -/
def Sinks.emits (s : Sinks) (a : SinkAction) : Prop :=
  a = .device .thread ∧ s.scanner.thread.pc = .emit

instance (s : Sinks) (a : SinkAction) : Decidable (s.emits a) :=
  inferInstanceAs (Decidable (a = .device .thread ∧ s.scanner.thread.pc = .emit))

/-- The datagrams a step makes. -/
def Sinks.newDatagrams (E : Env) (s : Sinks) (a : SinkAction) : List Datagram :=
  if s.emits a then (frameOutputs E s.scanner s.clients).filterMap FrameOutput.datagram? else []

/-- One step.  No socket has the number 0. -/
def Sinks.step (E : Env) (s : Sinks) : SinkAction → Option Sinks
  | .device a =>
      (MpsEmulator.step E s.scanner a).map fun scanner => { s with
        scanner := scanner
        queue := s.queue ++ s.newDatagrams E (.device a)
        streamed := s.streamed ++ s.newDatagrams E (.device a)
        scanCfg := if s.scanner.begins scanner then s.scanner.device.cfg else s.scanCfg }
  | .accept id => if id = 0 then none else some { s with clients := s.clients.accept id }
  | .kick id => some { s with clients := s.clients.kick id }
  | .take =>
      match s.inHand, s.queue with
      | none, d :: queue => some { s with queue := queue, inHand := some d }
      | _, _ => none
  | .send => s.inHand.map fun d => { s with inHand := none, sent := s.sent ++ [d] }

/-- A frame of a running scan goes once to every sink the configuration in force wants, and to no
other. -/
def Served (E : Env) (s : Sinks) (a : SinkAction) : Prop :=
  s.emits a → s.scanner.device.scanning = true →
    ((frameOutputs E s.scanner s.clients).filterMap FrameOutput.datagram?).length =
        (if s.scanner.device.cfg.wantsUdp then 1 else 0) ∧
      (s.clients.connected = true →
        (frameOutputs E s.scanner s.clients).countP (FrameOutput.isPacketTo s.clients.activeId) =
            (if s.scanner.device.cfg.binaryFormat = .binary then 1 else 0) ∧
          (frameOutputs E s.scanner s.clients).countP (FrameOutput.isLabviewTo s.clients.activeId) =
            (if s.scanner.device.cfg.binaryFormat = .labview then 1 else 0))

instance (E : Env) (s : Sinks) (a : SinkAction) : Decidable (Served E s a) :=
  inferInstanceAs (Decidable (s.emits a → s.scanner.device.scanning = true → _ ∧ (_ → _ ∧ _)))

/-- The datagrams sent so far, then the one on its way, then those still queued, are those of the
frames in frame order. -/
def InOrder (s : Sinks) : Prop := s.sent ++ s.inHand.toList ++ s.queue = s.streamed

/-- Binary packets are in use with this configuration. -/
def MpsConfig.usesBinary (cfg : MpsConfig) : Bool :=
  cfg.binaryFormat = .binary ∨ (cfg.ftpUdpFormat = .binary ∧ (cfg.udpEnabled ∨ cfg.ftpEnabled))

/-- When a frame of a running scan is handed out: a sink that wants a packet finds that packets were
in use when the scan started, and one that wants a LabVIEW frame that LabVIEW was. -/
def SinksLatched (s : Sinks) (a : SinkAction) : Prop :=
  s.emits a → s.scanner.device.scanning = true →
    (s.scanner.device.cfg.wantsUdp = true → s.scanCfg.usesBinary = true) ∧
      (s.clients.connected = true →
        (s.scanner.device.cfg.binaryFormat = .binary → s.scanCfg.usesBinary = true) ∧
          (s.scanner.device.cfg.binaryFormat = .labview → s.scanCfg.binaryFormat = .labview))

instance (s : Sinks) (a : SinkAction) : Decidable (SinksLatched s a) :=
  inferInstanceAs (Decidable (s.emits a → s.scanner.device.scanning = true →
    (_ → _) ∧ (_ → (_ → _) ∧ (_ → _))))

/-! ### The outputs for one frame -/

variable {E : Env}

/-- What the code relies on: the sizes of the packets and of the LabVIEW frames are positive. -/
structure PositiveSizes (E : Env) : Prop where
  packet : ∀ t, t ≠ .undefined →
    0 < (E.mpsGetBinaryPacketInfoByType t).getD (E.packetSizeof t)
  labview : 0 < E.mpsPkt64LabviewSize ∧ 0 < E.mpsPkt32LabviewSize ∧ 0 < E.mpsPkt16LabviewSize

/-- The device types with a layout of their own. -/
def scanners : List MpsDeviceID := [mps4264, mps4232, mps4216]

/-- A layout that was made for this configuration, by a device of one of the three types. -/
structure LatchedFrom (E : Env) (cfg : MpsConfig) (l : ScanLayout) : Prop where
  useBinary : l.useBinary = cfg.usesBinary
  useLabview : l.useLabview = decide (cfg.binaryFormat = .labview)
  packetType : l.useBinary = true → l.packetType ≠ .undefined
  packetInfo : l.useBinary = true → l.packetInfo = E.mpsGetBinaryPacketInfoByType l.packetType
  channels : l.packetPressureChannelCount ∈ [64, 32, 16]

theorem latchedFrom_configureScanLayout {d : Mps} (hdevice : d.cfg.deviceId ∈ scanners) :
    LatchedFrom E d.cfg (configureScanLayout E d).layout := by
  have huse : (configureScanLayout E d).useBinary = d.cfg.usesBinary := rfl
  refine ⟨huse, rfl, fun h => ?_, fun h => ?_, ?_⟩
  · have huse' : d.cfg.usesBinary = true := huse ▸ h
    simp only [MpsConfig.usesBinary, decide_eq_true_eq] at huse'
    simp only [Mps.layout, configureScanLayout, if_pos huse', unpaddedPacketType]
    simp only [scanners, List.mem_cons, List.not_mem_nil, or_false] at hdevice
    rcases hdevice with hd | hd | hd <;> rw [hd] <;> split_ifs <;>
      simp_all [mps4264, mps4232, mps4216]
  · have huse' : d.cfg.usesBinary = true := huse ▸ h
    simp only [MpsConfig.usesBinary, decide_eq_true_eq] at huse'
    simp only [Mps.layout, configureScanLayout, if_pos huse']
  · simp only [Mps.layout, configureScanLayout, physicalChannels]
    simp only [scanners, List.mem_cons, List.not_mem_nil, or_false] at hdevice
    rcases hdevice with hd | hd | hd <;> rw [hd] <;> split_ifs <;>
      simp_all [mps4264, mps4232, mps4216]

/-- The switch over the packet type builds a packet of the size the table or the structure says. -/
theorem buildPacket_size {d : Mps} (f : FrameData) (htype : d.packetType ≠ .undefined) :
    ∃ p, buildPacket E d f = some p ∧ p.size = d.packetInfo.getD (E.packetSizeof d.packetType) := by
  unfold buildPacket
  cases ht : d.packetType
  case undefined => exact absurd ht htype
  all_goals exact ⟨_, rfl, by rw [← ht]; rfl⟩

/-- A binary packet is built for a frame exactly if packets were in use at the scan start. -/
theorem binaryFrame_of_latched {d : Mps} {cfg : MpsConfig} (f : FrameData)
    (hsizes : PositiveSizes E) (hlatched : LatchedFrom E cfg d.layout) :
    (binaryFrame E d f).isSome = cfg.usesBinary := by
  have huse : d.useBinary = cfg.usesBinary := hlatched.useBinary
  rw [← huse, binaryFrame]
  cases hbinary : d.useBinary with
  | false => rfl
  | true =>
      have htype : d.packetType ≠ .undefined := hlatched.packetType hbinary
      have hinfo : d.packetInfo = E.mpsGetBinaryPacketInfoByType d.packetType :=
        hlatched.packetInfo hbinary
      obtain ⟨p, hbuild, hsize⟩ := buildPacket_size (E := E) f htype
      have hpos : 0 < p.size := by
        rw [hsize, hinfo]
        exact hsizes.packet d.packetType htype
      simp [hbuild, hpos]

/-- A LabVIEW frame is built exactly if LabVIEW was in use at the scan start. -/
theorem labviewFrame_of_latched {d : Mps} {cfg : MpsConfig} (f : FrameData)
    (hsizes : PositiveSizes E) (hlatched : LatchedFrom E cfg d.layout) :
    (labviewFrame E d f).isSome = decide (cfg.binaryFormat = .labview) := by
  have huse : d.useLabview = decide (cfg.binaryFormat = .labview) := hlatched.useLabview
  have hsize : 0 < labviewSize E d := by
    have hchannels : d.packetPressureChannelCount ∈ [64, 32, 16] := hlatched.channels
    obtain ⟨h64, h32, h16⟩ := hsizes.labview
    simp only [List.mem_cons, List.not_mem_nil, or_false] at hchannels
    rcases hchannels with hc | hc | hc <;> simpa [labviewSize, hc]
  rw [← huse, labviewFrame]
  cases d.useLabview <;> simp [hsize]

/-- The active client is registered. -/
def BinaryClients.Registered (b : BinaryClients) : Prop :=
  b.connected = true → b.activeId ≠ 0 ∧ b.activeId ∈ b.connections

theorem BinaryClients.Registered.receivers {b : BinaryClients} (hb : b.Registered)
    (hconnected : b.connected = true) : b.receivers b.activeId = [b.activeId] := by
  obtain ⟨hne, hmem⟩ := hb hconnected
  rw [BinaryClients.receivers, if_neg hne, if_pos hmem]

/-- `OnScanFrame` queues a datagram if UDP wants one. -/
theorem datagrams_onScanFrame (cfg : MpsConfig) (b : BinaryClients) (p : Packet) :
    ((onScanFrame cfg b p).filterMap FrameOutput.datagram?).length =
      if cfg.wantsUdp then 1 else 0 := by
  have hpackets : ∀ ids : List ℕ,
      (ids.map fun id => FrameOutput.packet id p).filterMap FrameOutput.datagram? = [] := by
    intro ids
    rw [List.filterMap_eq_nil_iff]
    intro o ho
    obtain ⟨id, -, rfl⟩ := List.mem_map.1 ho
    rfl
  rw [onScanFrame, List.filterMap_append]
  split_ifs <;> simp [hpackets, FrameOutput.datagram?]

theorem datagrams_onLabviewFrame (cfg : MpsConfig) (b : BinaryClients) (values : List ℚ) :
    (onLabviewFrame cfg b values).filterMap FrameOutput.datagram? = [] := by
  rw [List.filterMap_eq_nil_iff]
  intro o ho
  rw [onLabviewFrame] at ho
  split at ho
  · obtain ⟨id, -, rfl⟩ := List.mem_map.1 ho
    rfl
  · exact absurd ho List.not_mem_nil

/-- The number of datagrams of a frame. -/
theorem datagrams_frameOutputs (s : Scanner) (b : BinaryClients) :
    ((frameOutputs E s b).filterMap FrameOutput.datagram?).length =
      if (binaryFrame E s.device s.thread.frameData).isSome ∧ s.device.cfg.wantsUdp = true
      then 1 else 0 := by
  rw [frameOutputs, List.filterMap_append, List.length_append]
  have hlabview : ((labviewFrame E s.device s.thread.frameData).toList.flatMap
      (onLabviewFrame s.device.cfg b)).filterMap FrameOutput.datagram? = [] := by
    cases labviewFrame E s.device s.thread.frameData with
    | none => rfl
    | some values => simpa using datagrams_onLabviewFrame s.device.cfg b values
  rw [hlabview]
  cases binaryFrame E s.device s.thread.frameData with
  | none => rfl
  | some p => simpa using datagrams_onScanFrame s.device.cfg b p

/-- `OnScanFrame` sends the active client a packet if it wants one. -/
theorem countP_onScanFrame {b : BinaryClients} (hb : b.Registered) (hconnected : b.connected = true)
    (cfg : MpsConfig) (p : Packet) :
    (onScanFrame cfg b p).countP (FrameOutput.isPacketTo b.activeId) =
        (if cfg.binaryFormat = .binary then 1 else 0) ∧
      (onScanFrame cfg b p).countP (FrameOutput.isLabviewTo b.activeId) = 0 := by
  simp only [onScanFrame, hconnected, hb.receivers hconnected, true_and]
  constructor <;> split_ifs <;> simp [FrameOutput.isPacketTo, FrameOutput.isLabviewTo]

/-- `OnLabviewFrame` sends the active client a LabVIEW frame if it wants one. -/
theorem countP_onLabviewFrame {b : BinaryClients} (hb : b.Registered)
    (hconnected : b.connected = true) (cfg : MpsConfig) (values : List ℚ) :
    (onLabviewFrame cfg b values).countP (FrameOutput.isPacketTo b.activeId) = 0 ∧
      (onLabviewFrame cfg b values).countP (FrameOutput.isLabviewTo b.activeId) =
        (if cfg.binaryFormat = .labview then 1 else 0) := by
  simp only [onLabviewFrame, hconnected, hb.receivers hconnected, true_and]
  constructor <;> split_ifs <;> simp [FrameOutput.isPacketTo, FrameOutput.isLabviewTo]

/-- The number of packets, and of LabVIEW frames, for the active client. -/
theorem countP_frameOutputs (s : Scanner) {b : BinaryClients} (hb : b.Registered)
    (hconnected : b.connected = true) :
    (frameOutputs E s b).countP (FrameOutput.isPacketTo b.activeId) =
        (if (binaryFrame E s.device s.thread.frameData).isSome ∧
          s.device.cfg.binaryFormat = .binary then 1 else 0) ∧
      (frameOutputs E s b).countP (FrameOutput.isLabviewTo b.activeId) =
        (if (labviewFrame E s.device s.thread.frameData).isSome ∧
          s.device.cfg.binaryFormat = .labview then 1 else 0) := by
  have hscan := countP_onScanFrame hb hconnected s.device.cfg
  have hlabview := countP_onLabviewFrame hb hconnected s.device.cfg
  simp only [frameOutputs, List.countP_append]
  cases labviewFrame E s.device s.thread.frameData <;>
    cases binaryFrame E s.device s.thread.frameData <;> simp [hscan, hlabview]

/-- **One frame** is served exactly if what is wanted was in use at the scan start. -/
theorem served_iff {s : Sinks} {a : SinkAction} (hsizes : PositiveSizes E)
    (hlatched : s.scanner.device.scanning = true →
      LatchedFrom E s.scanCfg s.scanner.device.layout)
    (hclients : s.clients.Registered) : Served E s a ↔ SinksLatched s a := by
  refine forall_congr' fun _ => forall_congr' fun hscanning => ?_
  have hbinary := binaryFrame_of_latched s.scanner.thread.frameData hsizes (hlatched hscanning)
  have hlabview := labviewFrame_of_latched s.scanner.thread.frameData hsizes (hlatched hscanning)
  rw [datagrams_frameOutputs, hbinary]
  refine and_congr ?_ (forall_congr' fun hconnected => ?_)
  · cases s.scanner.device.cfg.wantsUdp <;> cases s.scanCfg.usesBinary <;> simp
  · obtain ⟨hpackets, hframes⟩ := countP_frameOutputs (E := E) s.scanner hclients hconnected
    rw [hpackets, hframes, hbinary, hlabview]
    refine and_congr ?_ ?_
    · by_cases hfmt : s.scanner.device.cfg.binaryFormat = .binary <;>
        cases s.scanCfg.usesBinary <;> simp [hfmt]
    · by_cases hfmt : s.scanner.device.cfg.binaryFormat = .labview <;>
        by_cases hstart : s.scanCfg.binaryFormat = .labview <;> simp [hfmt, hstart]

/-! ### Every run -/

/-- What holds in every state. -/
structure SinksInv (E : Env) (s : Sinks) : Prop where
  device : s.scanner.device.cfg.deviceId ∈ scanners
  latched : s.scanner.device.scanning = true → LatchedFrom E s.scanCfg s.scanner.device.layout
  clients : s.clients.Registered
  order : InOrder s

theorem BinaryClients.Registered.kick {b : BinaryClients} (hb : b.Registered) (id : ℕ) :
    (b.kick id).Registered := by
  intro hconnected
  simp only [BinaryClients.kick] at hconnected ⊢
  by_cases hid : id = b.activeId
  · simp [hid] at hconnected
  · rw [if_neg hid] at hconnected ⊢
    obtain ⟨hne, hmem⟩ := hb hconnected
    exact ⟨hne, List.mem_filter.2 ⟨hmem, by simpa using Ne.symm hid⟩⟩

theorem BinaryClients.Registered.accept {b : BinaryClients} (hb : b.Registered) {id : ℕ}
    (hid : id ≠ 0) : (b.accept id).Registered := by
  intro hconnected
  rw [BinaryClients.accept] at hconnected ⊢
  split at hconnected
  · obtain ⟨hne, hmem⟩ := hb hconnected
    rw [if_pos ‹_›]
    exact ⟨hne, List.mem_insert_of_mem hmem⟩
  · rename_i hactive
    rw [if_neg hactive]
    refine ⟨hid, ?_⟩
    have hmem : id ∈ b.connections.insert id := List.mem_insert_self
    split
    · exact List.mem_filter.2 ⟨hmem, by simpa using hactive⟩
    · exact hmem

/-- The layout of a running scan stays the one for the configuration at its start. -/
theorem latched_step {s s' : Scanner} {a : ScanAction} {cfg : MpsConfig}
    (hdevice : s.device.cfg.deviceId ∈ scanners)
    (hlatched : s.device.scanning = true → LatchedFrom E cfg s.device.layout)
    (h : step E s a = some s') (hscanning : s'.device.scanning = true) :
    LatchedFrom E (if s.begins s' then s.device.cfg else cfg) s'.device.layout := by
  rw [step_layout h]
  by_cases hbegins : s.begins s' = true
  · rw [if_pos hbegins, if_pos hbegins]
    exact latchedFrom_configureScanLayout hdevice
  · rw [if_neg hbegins, if_neg hbegins]
    refine hlatched ?_
    simpa [Scanner.begins, hscanning] using hbegins

theorem SinksInv.step {s s' : Sinks} {a : SinkAction} (hs : SinksInv E s)
    (h : Sinks.step E s a = some s') : SinksInv E s' := by
  cases a with
  | device a =>
      obtain ⟨scanner, hstep, rfl⟩ := Option.map_eq_some_iff.1 h
      refine ⟨?_, fun hscanning => latched_step hs.device hs.latched hstep hscanning,
        hs.clients, ?_⟩
      · exact CfgStep.preserved (P := fun c => c.deviceId ∈ scanners)
          (fun c c' hc hcc' => hcc'.identity.1 ▸ hc) hs.device (step_cfg hstep)
      · have horder := hs.order
        simp only [InOrder, ← List.append_assoc] at horder ⊢
        rw [horder]
  | accept id =>
      obtain ⟨hid, h⟩ := Option.ite_none_left_eq_some.1 h
      rw [← Option.some_inj.1 h]
      exact ⟨hs.device, hs.latched, hs.clients.accept hid, hs.order⟩
  | kick id =>
      rw [← Option.some_inj.1 h]
      exact ⟨hs.device, hs.latched, hs.clients.kick id, hs.order⟩
  | take =>
      simp only [Sinks.step] at h
      split at h
      · rename_i hhand hqueue
        rw [← Option.some_inj.1 h]
        refine ⟨hs.device, hs.latched, hs.clients, ?_⟩
        have horder := hs.order
        simp only [InOrder, hhand, hqueue] at horder ⊢
        simpa using horder
      · cases h
  | send =>
      obtain ⟨d, hhand, rfl⟩ := Option.map_eq_some_iff.1 h
      refine ⟨hs.device, hs.latched, hs.clients, ?_⟩
      have horder := hs.order
      simp only [InOrder, hhand] at horder ⊢
      simpa using horder

theorem sinksInv_start {cfg : MpsConfig} (hdevice : cfg.deviceId ∈ scanners) :
    SinksInv E (.start cfg) where
  device := hdevice
  latched h := nomatch h
  clients h := nomatch h
  order := rfl

/-- **Every enabled sink gets every frame**, and the UDP packets are sent in frame order, exactly in
the runs in which, whenever a frame is handed out, what is enabled was in use when the scan started.
-/
theorem served_iff_sinksLatched (hsizes : PositiveSizes E) {cfg : MpsConfig}
    (hdevice : cfg.deviceId ∈ scanners) (as : List SinkAction) :
    (Runs.Along (Sinks.step E) (Served E) (.start cfg) as ∧
        Runs.Throughout (Sinks.step E) InOrder (.start cfg) as) ↔
      Runs.Along (Sinks.step E) SinksLatched (.start cfg) as := by
  have horder : Runs.Throughout (Sinks.step E) InOrder (.start cfg) as :=
    (Runs.throughout_of_step (P := SinksInv E) (fun _ _ _ hs h => hs.step h)
      (sinksInv_start hdevice)).mono fun _ hs => hs.order
  rw [and_iff_left horder]
  exact Runs.along_iff_along (J := SinksInv E) (fun _ _ _ hs h => hs.step h)
    (fun _ _ hs => served_iff hsizes hs.latched hs.clients) (sinksInv_start hdevice)

/-- A scan with one sample for each frame, for a client of the binary server; commands come in
before the scan and one more in its first frame, and the packet of that frame is sent. -/
def settingsDuringScan (before : List String) (after : String) : List SinkAction :=
  .accept 7 :: ("SET RATE 500" :: before).map (fun cmd => .device (.command .quiet cmd.toList)) ++
    .device (.startScan { steady := 0, system := 0 }) ::
    (List.replicate 5 (.device .thread) ++
      .device (.command .quiet after.toList) ::
        List.replicate 4 (.device .thread) ++ [.take, .send])

/-- UDP is enabled, to a new target, while the client gets packets. -/
theorem served_iff_sinksLatched_udp :
    Runs.Along (Sinks.step referenceEnv) (Served referenceEnv) (.start (attachConfig mps4216 1))
        (settingsDuringScan ["SET ENUDP 0"] "SET ENUDP 1") ∧
      Runs.Throughout (Sinks.step referenceEnv) InOrder (.start (attachConfig mps4216 1))
        (settingsDuringScan ["SET ENUDP 0"] "SET ENUDP 1") :=
  (served_iff_sinksLatched
    ⟨fun t _ => by cases t <;> decide, by decide⟩
    (by decide) (settingsDuringScan ["SET ENUDP 0"] "SET ENUDP 1")).2 (by decide +kernel)

/-- A scan that started for LabVIEW alone sends no packets, neither to UDP nor to the client, and
one that started for packets sends no LabVIEW frames. -/
theorem sink_enabled_during_scan :
    ¬ Runs.Along (Sinks.step referenceEnv) (Served referenceEnv) (.start (attachConfig mps4216 1))
        (settingsDuringScan ["SET ENUDP 0", "SET FORMAT B L"] "SET ENUDP 1") ∧
      ¬ Runs.Along (Sinks.step referenceEnv) (Served referenceEnv) (.start (attachConfig mps4216 1))
        (settingsDuringScan ["SET ENUDP 0", "SET FORMAT B L"] "SET FORMAT B B") ∧
      ¬ Runs.Along (Sinks.step referenceEnv) (Served referenceEnv) (.start (attachConfig mps4216 1))
        (settingsDuringScan [] "SET FORMAT B L") := by
  decide +kernel

end MpsEmulator
