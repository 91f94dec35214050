/-
**The threads that pass buffers on, as programs.**

A `Buffer` is copied by value, shares its allocation with the copy, and is given back by a call of
`Release` that somebody has to make exactly once.  The bytes that come in, the frames and the
replies pass through such buffers from function to function, and UDP packets wait in a queue that
any thread fills and one empties.  Here every function is a program of the operations it performs on
memory, on the queue and on the sockets, and threads perform them in turn.

* `MemOp`, `act` — what the threads do to memory, to the queue and to the sockets, and what they ask
  of the rest of the program;
* `allocate`, …, `sendBuffer`, `streamTo`, `onScanFrame`, … — the functions;
* `Block`, `code` — the thread functions, a block for each turn of a loop;
* `Threads`, `step` — any number of threads, at any points of their blocks;
* `alone_allocate`, `alone_release`, `alone_zero`, `alone_copyData` — without others in between, the
  programs for buffers do what the functions on buffers do;
* `view`, `alone_swapToNetworkOrderInPlace` — and so does the swap, on the bytes of a buffer.

What the operations answer is up to the environment: the allocator, the network, the state of the
connections and of the device, and the strings a command is answered with.  The memory is that of
the buffers.  The elements of `m_Connections` and of the command buffers, which other threads erase,
are not part of it, and neither are allocations that fail: nothing in the program catches
`std::bad_alloc`.
-/

import MpsEmulator.HeapBuffers
import MpsEmulator.NetworkOrder
import MpsEmulator.Server
import MpsEmulator.Views

set_option relaxedAutoImplicit false
set_option autoImplicit false

namespace HeapServer

open Aero (Buffer)
open BlockMemory (Allocation)
open MpsEmulator (Port serverInfo)
open Views (Prog)

/-! ### Operations -/

/-- `DataPacket`. -/
structure DataPacket where
  ip : Bytes
  port : ℕ
  data : Buffer
  deriving DecidableEq

/-- What the operating system is given to send. -/
inductive Message
  | tcp (socket : ℕ) (bytes : List UInt8)
  | udp (ip : Bytes) (port : ℕ) (bytes : List UInt8)
  deriving DecidableEq

/-- Bytes whose number fits into a size. -/
abbrev ByteString := { bytes : List UInt8 // bytes.length < 2 ^ 64 }

/-- The memory, the queue `m_DataQueue`, and what was sent so far. -/
structure ServerHeap where
  memory : BlockMemory
  dataQueue : List DataPacket
  sent : List Message

/-- The events that may send strings to clients: a command, and a change of the device status. -/
inductive Cause
  | command (id : ℕ) (cmd : List UInt8)
  | status

/-- An operation of a thread. -/
inductive MemOp
  | new (n : ℕ)
  | delete (p : Option ℕ)
  | memset (p : Option ℕ) (value : UInt8) (n : ℕ)
  | memcpy (dest src : Option ℕ) (n : ℕ)
  | read (p : Option ℕ) (n : ℕ)
  | write (p : Option ℕ) (bytes : List UInt8)
  | recv (id : ℕ) (p : Option ℕ) (n : ℕ)
  | send (socket : ℕ) (p : Option ℕ) (n : ℕ)
  | sendto (ip : Bytes) (port : ℕ) (p : Option ℕ) (n : ℕ)
  /-- `m_DataQueue.push`, with the lock held. -/
  | push (packet : DataPacket)
  /-- The front of `m_DataQueue` is taken, with the lock held. -/
  | pop
  /-- `m_ServerIsRunning` -/
  | running
  /-- `m_Connections.find(id)` -/
  | find (id : ℕ)
  /-- `m_Connections[id].id` -/
  | clientId (id : ℕ)
  /-- `it->second.ip` for `m_Connections.find(id)` -/
  | clientIp (id : ℕ)
  /-- The sockets in `m_Connections`. -/
  | connections
  /-- The target of a frame, if UDP is enabled with the binary format. -/
  | udpTarget
  /-- The active client of port 503, if there is one and the format is this one. -/
  | binaryClient (fmt : MpsEmulator.MpsDataFormat)
  /-- `m_Device` is not null. -/
  | device
  /-- The strings that are sent, and to whom. -/
  | strings (cause : Cause)

/-- The type of the answer to an operation. -/
abbrev MemOp.Answer : MemOp → Type
  | .new _ => ℕ
  | .read .. => List UInt8
  | .recv .. => Option ℕ
  | .pop => Option DataPacket
  | .running | .find _ | .device => Bool
  | .clientId _ => ℕ
  | .clientIp _ => Option Bytes
  | .connections => List ℕ
  | .udpTarget => Option (Bytes × ℕ)
  | .binaryClient _ => Option ℕ
  | .strings _ => List (ℕ × ByteString)
  | .delete _ | .memset .. | .memcpy .. | .write .. | .send .. | .sendto .. | .push _ => Unit

/-- The operation only asks for something that is not modelled. -/
def MemOp.asks : MemOp → Bool
  | .running | .find _ | .clientId _ | .clientIp _ | .connections | .udpTarget | .binaryClient _
  | .device => true
  | _ => false

/-- What the environment decides. -/
inductive Choice
  | nothing
  | allocated (fresh : Allocation)
  /-- What `recv` has received, or that it has failed. -/
  | received (bytes : Option (List UInt8))
  | flag (b : Bool)
  | socket (id : ℕ)
  | address (ip : Option Bytes)
  | sockets (ids : List ℕ)
  | target (t : Option (Bytes × ℕ))
  | client (id : Option ℕ)
  | strings (l : List (ℕ × ByteString))

/-- The heap after an access: beyond an allocation it is a fault. -/
def ServerHeap.faulted (w : ServerHeap) : ServerHeap := { w with memory := w.memory.faulted }

/-- Handing bytes of memory to the operating system. -/
def ServerHeap.hand (w : ServerHeap) (p : Option ℕ) (n : ℕ) (message : List UInt8 → Message) :
    ServerHeap :=
  match w.memory.load p n with
  | some bytes => { w with sent := w.sent ++ [message bytes] }
  | none => w.faulted

/-- The operations: the answer and what becomes of the heap, for a choice that fits. -/
def act : (o : MemOp) → Choice → ServerHeap → Option (o.Answer × ServerHeap)
  | .new n, .allocated fresh, w =>
      if w.memory.MayAllocate n fresh then
        some (fresh.address, { w with memory := w.memory.new fresh })
      else none
  | .delete p, .nothing, w => some ((), { w with memory := w.memory.delete p })
  | .memset p value n, .nothing, w => some ((), { w with memory := w.memory.memset p value n })
  | .memcpy dest src n, .nothing, w =>
      some ((), { w with memory := w.memory.memcpy dest src n })
  | .read p n, .nothing, w =>
      match w.memory.load p n with
      | some bytes => some (bytes, w)
      | none => some ([], w.faulted)
  | .write p bytes, .nothing, w => some ((), { w with memory := w.memory.store p bytes })
  | .recv _ _ _, .received none, w => some (none, w)
  | .recv _ p n, .received (some bytes), w =>
      if bytes ≠ [] ∧ bytes.length ≤ n then
        some (some bytes.length, { w with memory := w.memory.store p bytes })
      else none
  | .send socket p n, .nothing, w => some ((), w.hand p n (.tcp socket))
  | .sendto ip port p n, .nothing, w => some ((), w.hand p n (.udp ip port))
  | .push packet, .nothing, w => some ((), { w with dataQueue := w.dataQueue ++ [packet] })
  | .pop, .nothing, w =>
      match w.dataQueue with
      | [] => some (none, w)
      | packet :: rest => some (some packet, { w with dataQueue := rest })
  | .running, .flag b, w => some (b, w)
  | .find _, .flag b, w => some (b, w)
  | .device, .flag b, w => some (b, w)
  | .clientId _, .socket id, w => some (id, w)
  | .clientIp _, .address ip, w => some (ip, w)
  | .connections, .sockets ids, w => some (ids, w)
  | .udpTarget, .target t, w => some (t, w)
  | .binaryClient _, .client id, w => some (id, w)
  | .strings _, .strings l, w => some (l, w)
  | _, _, _ => none

/-- A program of the emulator. -/
abbrev Program (α : Type) := Prog MemOp MemOp.Answer α

/-- The program of one operation. -/
def perform (o : MemOp) : Program o.Answer := Prog.perform o

/-! ### `aero::Buffer` -/

/-- `Buffer::Allocate`. -/
def allocate (buff : Buffer) (size : UInt64) : Program Buffer := do
  perform (.delete buff.data)
  if size = 0 then return { buff with data := none }
  else
    let a ← perform (.new size.toNat)
    return { data := some a, size := size }

/-- `Buffer::Release`. -/
def release (buff : Buffer) : Program Buffer := do
  perform (.delete buff.data)
  return .init

/-- `Buffer::Zero`. -/
def zero (buff : Buffer) : Program Unit :=
  if buff.data.isSome then perform (.memset buff.data 0 buff.size.toNat) else return ()

/-- `Buffer::Copy` of bytes that are in an allocation. -/
def copy (data : Option ℕ) (size : UInt64) : Program Buffer := do
  let buff ← allocate .init size
  perform (.memcpy buff.data data size.toNat)
  return buff

/-- `Buffer::Copy` of bytes that are not: a string, or an array of the scan thread. -/
def copyData (bytes : ByteString) : Program Buffer := do
  let buff ← allocate .init (.ofNat bytes.1.length)
  perform (.write buff.data bytes.1)
  return buff

/-- Bytes as a buffer of bytes. -/
def bufferOf (bytes : List UInt8) : MpsEmulator.Buffer :=
  { data := fun k => (bytes.getD k 0).toBitVec, size := bytes.length }

/-- The bytes of a buffer with the words turned around, if it holds whole words. -/
def inNetworkOrder (bytes : List UInt8) : List UInt8 :=
  (MpsEmulator.swapToNetworkOrderInPlace (bufferOf bytes)).bytes.map UInt8.ofBitVec

/-- `aero::SwapToNetworkOrderInPlace`. -/
def swapToNetworkOrderInPlace (buf : Buffer) : Program Unit := do
  let bytes ← perform (.read buf.data buf.size.toNat)
  perform (.write buf.data (inNetworkOrder bytes))

/-! ### `aero::networking::Server` -/

/-- `Server::SendBufferToAll`. -/
def sendBufferToAll (buf : Buffer) : Program Unit := do
  let ids ← perform .connections
  ids.forM fun id => perform (.send id buf.data buf.size.toNat)
  let _ ← release buf

/-- `Server::SendBuffer`. -/
def sendBuffer (id : ℕ) (buf : Buffer) : Program Unit := do
  if id = 0 then sendBufferToAll buf
  else
    let found ← perform (.find id)
    if found then
      let socket ← perform (.clientId id)
      perform (.send socket buf.data buf.size.toNat)
      let _ ← release buf
    else
      let _ ← release buf

/-- `Server::SendString`. -/
def sendString (id : ℕ) (str : ByteString) : Program Unit := do
  let buf ← copyData str
  sendBuffer id buf

/-- `Server::SendStringToAll`. -/
def sendStringToAll (str : ByteString) : Program Unit := do
  let buf ← copyData str
  sendBufferToAll buf

/-- `Server::StreamTo`. -/
def streamTo (ip : Bytes) (port : ℕ) (buf : Buffer) : Program Unit := do
  let data ← copy buf.data buf.size
  perform (.push { ip := ip, port := port, data := data })
  let _ ← release buf

/-- `Server::StreamData`. -/
def streamData (id port : ℕ) (buf : Buffer) : Program Unit := do
  match ← perform (.clientIp id) with
  | none =>
      let _ ← release buf
  | some ip => streamTo ip port buf

/-! ### `ServerLayer` -/

/-- The strings that a command or a change of the status sends. -/
def sendStrings (cause : Cause) : Program Unit := do
  let l ← perform (.strings cause)
  l.forM fun (id, str) => sendString id str

/-- The first part of `ServerLayer::OnScanFrame`. -/
def streamFrame (buf : Buffer) : Option (Bytes × ℕ) → Program Unit
  | some (ip, port) => do
      let data ← copy buf.data buf.size
      streamTo ip port data
  | none => return ()

/-- Sending a copy of a frame to the client of port 503. -/
def sendFrame (buf : Buffer) : Option ℕ → Program Unit
  | some id => do
      let data ← copy buf.data buf.size
      sendBuffer id data
  | none => return ()

/-- `ServerLayer::OnScanFrame`. -/
def onScanFrame (buf : Buffer) : Program Unit := do
  let target ← perform .udpTarget
  streamFrame buf target
  let client ← perform (.binaryClient .binary)
  sendFrame buf client
  let _ ← release buf

/-- `ServerLayer::OnLabviewFrame`. -/
def onLabviewFrame (buf : Buffer) : Program Unit := do
  match ← perform (.binaryClient .labview) with
  | some id =>
      swapToNetworkOrderInPlace buf
      sendFrame buf (some id)
      let _ ← release buf
  | none =>
      let _ ← release buf

/-- `ServerLayer::IsValidMsg`. -/
def isValidMsg (_ : List UInt8) : Bool := true

/-- `ServerLayer::OnDataReceived`. -/
def onDataReceived (id : ℕ) (buf : Buffer) : Program Unit := do
  let cmd ← perform (.read buf.data buf.size.toNat)
  if isValidMsg cmd then
    sendStrings (.command id cmd)
    let _ ← release buf
  else
    let _ ← release buf

/-- `ServerLayer::OnTCPBinaryDataReceived`; the first byte decides whether the status changes. -/
def onTCPBinaryDataReceived (buf : Buffer) : Program Unit := do
  let device ← perform .device
  if device ∧ 1 ≤ buf.size then
    let val ← perform (.read buf.data 1)
    if val = [0] ∨ val = [1] then sendStrings .status
    let _ ← release buf
  else
    let _ ← release buf

/-- The data callback of a server. -/
def dataReceivedCallback (port : Port) (id : ℕ) (buf : Buffer) : Program Unit :=
  match port with
  | .control => onDataReceived id buf
  | .binary => onTCPBinaryDataReceived buf

/-- A frame that the scan thread has made goes to its callback. -/
def handOut (callback : Buffer → Program Unit) : Option ByteString → Program Unit
  | some bytes => do
      let buf ← copyData bytes
      callback buf
  | none => return ()

/-! ### The threads -/

/-- A block of a thread function. -/
inductive Block
  /-- `HandleConnectionThreadFn` -/
  | handleConnection (port : Port) (id : ℕ)
  /-- its loop, with the buffer that data is received in -/
  | receive (port : Port) (id : ℕ) (buf : Buffer)
  /-- the loop of `DataStreamThreadFn` -/
  | dataStream
  /-- a turn of the inner loop of `ScanThreadFn`, with the frames it makes -/
  | scanFrame (labview packet : Option ByteString)
  /-- a call that sends strings to clients: `OnStatusChanged`, `OnClientConnected`, or
  `OnConsoleInput` with a command -/
  | strings (cause : Cause)
  /-- `OnConsoleInput` with a text for everybody -/
  | toAll (str : ByteString)
  /-- `StreamData`, with a buffer of its own -/
  | streamData (id port : ℕ) (bytes : ByteString)

/-- The blocks that a thread may begin with. -/
def Block.entry : Block → Bool
  | .receive .. => false
  | _ => true

/-- The end of `HandleConnectionThreadFn`; `KickClient` has nothing to do with buffers. -/
def leave (buf : Buffer) : Program (Option Block) := do
  let _ ← release buf
  return none

/-- The code of the blocks. -/
def code : Block → Program (Option Block)
  | .handleConnection port id => do
      let buf ← allocate .init (.ofNat (serverInfo port).bufferSize)
      return some (.receive port id buf)
  | .receive port id buf => do
      let running ← perform .running
      if running then
        zero buf
        let found ← perform (.find id)
        if found then
          match ← perform (.recv id buf.data buf.size.toNat) with
          | some n =>
              let data ← copy buf.data (.ofNat n)
              dataReceivedCallback port id data
              return some (.receive port id buf)
          | none => leave buf
        else leave buf
      else leave buf
  | .dataStream => do
      let running ← perform .running
      if running then
        match ← perform .pop with
        | none => return some .dataStream
        | some packet =>
            perform (.sendto packet.ip packet.port packet.data.data packet.data.size.toNat)
            let _ ← release packet.data
            return some .dataStream
      else return none
  | .scanFrame labview packet => do
      handOut onLabviewFrame labview
      handOut onScanFrame packet
      return none
  | .strings cause => do
      sendStrings cause
      return none
  | .toAll str => do
      sendStringToAll str
      return none
  | .streamData id port bytes => do
      let buf ← copyData bytes
      streamData id port buf
      return none

/-- A step of the threads. -/
abbrev Action (ι : Type*) := Views.Action ι Block Choice

/-- The heap, and where every thread is. -/
abbrev Threads (ι : Type*) := Views.Config ι MemOp MemOp.Answer Block ServerHeap

/-- Nothing is allocated, queued or sent, and no thread runs. -/
def start (ι : Type*) : Threads ι :=
  .idle ι MemOp.Answer Block { memory := Aero.noMemory, dataQueue := [], sent := [] }

/-- The threads take a step, one of them at a time. -/
def step {ι : Type*} [DecidableEq ι] : Threads ι → Action ι → Option (Threads ι) :=
  Views.step act code Block.entry

/-! ### Buffers without others in between -/

/-- The heap with the memory that a call leaves. -/
def ServerHeap.after (w : ServerHeap) {α : Type} (r : BlockMemory × α) : α × ServerHeap :=
  (r.2, { w with memory := r.1 })

variable {w : ServerHeap} {buff : Buffer} {size : UInt64} {fresh : Allocation}

theorem alone_release :
    Views.alone act (release buff) [.nothing] w = some (w.after (buff.release w.memory)) := rfl

/-- The choices for an allocation of this size. -/
def allocating (size : UInt64) (fresh : Allocation) : List Choice :=
  if size = 0 then [] else [.allocated fresh]

/-- What is done after an allocation goes on in the memory it leaves. -/
theorem alone_allocate_bind {α : Type} {f : Buffer → Program α} {cs : List Choice}
    (hfresh : Aero.Answers (w.memory.delete buff.data) size fresh) :
    Views.alone act (allocate buff size >>= f) (.nothing :: (allocating size fresh ++ cs)) w =
      Views.alone act (f (buff.allocate w.memory size fresh).2) cs
        { w with memory := (buff.allocate w.memory size fresh).1 } := by
  rw [allocate, allocating, Buffer.allocate]
  by_cases hsize : size = 0
  · rw [if_pos hsize, if_pos hsize, if_pos hsize]
    rfl
  · rw [if_neg hsize, if_neg hsize, if_neg hsize]
    have hanswer : act (.new size.toNat) (.allocated fresh)
        { w with memory := w.memory.delete buff.data } =
          some (fresh.address, { w with memory := (w.memory.delete buff.data).new fresh }) :=
      if_pos (hfresh hsize)
    show (act (.new size.toNat) (.allocated fresh) _).bind _ = _
    rw [hanswer]
    rfl

theorem alone_allocate (hfresh : Aero.Answers (w.memory.delete buff.data) size fresh) :
    Views.alone act (allocate buff size) (.nothing :: allocating size fresh) w =
      some (w.after (buff.allocate w.memory size fresh)) := by
  have halone : Views.alone act (allocate buff size >>= Prog.done)
      (.nothing :: (allocating size fresh ++ [])) w =
        some (w.after (buff.allocate w.memory size fresh)) := alone_allocate_bind hfresh
  rwa [List.append_nil, Prog.bind_done] at halone

theorem alone_zero :
    Views.alone act (zero buff) (if buff.data.isSome then [.nothing] else []) w =
      some ((), { w with memory := buff.zero w.memory }) := by
  rw [zero, Buffer.zero]
  split <;> rfl

/-- `Buffer::Copy`, without others in between. -/
theorem alone_copy {other : Buffer} (hfresh : Aero.Answers w.memory other.size fresh) :
    Views.alone act (copy other.data other.size)
        (.nothing :: (allocating other.size fresh ++ [.nothing])) w =
      some (w.after (other.copy w.memory fresh)) := by
  have hinit : Aero.Answers (w.memory.delete Buffer.init.data) other.size fresh := hfresh
  rw [copy, alone_allocate_bind hinit]
  rfl

/-! ### The swap -/

/-- The bytes of a buffer. -/
def view (m : BlockMemory) (buff : Buffer) : MpsEmulator.Buffer where
  data k := (((buff.data.bind m.block).getD []).getD k 0).toBitVec
  size := buff.size.toNat

theorem length_inNetworkOrder (bytes : List UInt8) :
    (inNetworkOrder bytes).length = bytes.length := by
  rw [inNetworkOrder, List.length_map, MpsEmulator.Buffer.bytes, List.length_map,
    List.length_range, (MpsEmulator.swapsWords _).size, bufferOf]

theorem view_of_block {m : BlockMemory} {a : ℕ} {bytes : List UInt8}
    (hblock : m.block a = some bytes) (hlength : bytes.length = size.toNat) :
    view m { data := some a, size := size } = bufferOf bytes := by
  rw [view, bufferOf, hlength]
  dsimp only
  rw [Option.bind_some, hblock, Option.getD_some]

/-- The bytes in network order are those of the buffer that was swapped. -/
theorem view_inNetworkOrder (bytes : List UInt8) :
    bufferOf (inNetworkOrder bytes) = MpsEmulator.swapToNetworkOrderInPlace (bufferOf bytes) := by
  have hswap := MpsEmulator.swapsWords (bufferOf bytes)
  refine MpsEmulator.Buffer.ext (funext fun k => ?_)
    ((length_inNetworkOrder bytes).trans hswap.size.symm)
  change ((inNetworkOrder bytes).getD k 0).toBitVec = _
  by_cases hk : k < bytes.length
  · rw [List.getD_eq_getElem _ _ (by rwa [length_inNetworkOrder])]
    simp [inNetworkOrder, MpsEmulator.Buffer.bytes, bufferOf]
  · have hbehind : (inNetworkOrder bytes).length ≤ k := by
      rw [length_inNetworkOrder]
      exact Nat.not_lt.1 hk
    rw [List.getD_eq_default _ _ hbehind, hswap.behind k (Nat.not_lt.1 hk), bufferOf]
    dsimp only
    rw [List.getD_eq_default _ _ (Nat.not_lt.1 hk)]

/-- **The swap in memory is the swap of the buffer's bytes**, and it stays inside the allocation. -/
theorem alone_swapToNetworkOrderInPlace (h : Aero.Represents w.memory buff) :
    ∃ m, Views.alone act (swapToNetworkOrderInPlace buff) [.nothing, .nothing] w =
        some ((), { w with memory := m }) ∧
      m.fault = w.memory.fault ∧
      view m buff = MpsEmulator.swapToNetworkOrderInPlace (view w.memory buff) := by
  obtain ⟨data, size⟩ := buff
  cases data with
  | none =>
      have hsize : size = 0 := h.null.1 rfl
      subst hsize
      exact ⟨w.memory, rfl, rfl,
        (MpsEmulator.swapToNetworkOrderInPlace_of_size_zero rfl).symm⟩
  | some a =>
      obtain ⟨bytes, hblock, hlength⟩ := h.sized a rfl
      have hload : w.memory.load (some a) size.toNat = some bytes := by
        rw [← hlength, BlockMemory.load_eq hblock]
      have hread : act (.read (some a) size.toNat) .nothing w = some (bytes, w) := by
        simp [act, hload]
      have hstore := BlockMemory.store_eq_new hblock (length_inNetworkOrder bytes)
      refine ⟨w.memory.store (some a) (inNetworkOrder bytes), ?_, ?_, ?_⟩
      · show (act (.read (some a) size.toNat) .nothing w).bind _ = _
        rw [hread]
        rfl
      · rw [hstore, BlockMemory.fault_new]
      · rw [hstore, view_of_block BlockMemory.block_new_self
            ((length_inNetworkOrder bytes).trans hlength), view_of_block hblock hlength]
        exact view_inNetworkOrder bytes

theorem alone_copyData {bytes : ByteString}
    (hfresh : Aero.Answers w.memory (.ofNat bytes.1.length) fresh) :
    Views.alone act (copyData bytes)
        (.nothing :: (allocating (.ofNat bytes.1.length) fresh ++ [.nothing])) w =
      some (w.after (Buffer.copyData w.memory bytes.1 (.ofNat bytes.1.length) fresh)) := by
  have hinit : Aero.Answers (w.memory.delete Buffer.init.data) (.ofNat bytes.1.length) fresh :=
    hfresh
  rw [copyData, alone_allocate_bind hinit]
  rfl

end HeapServer
