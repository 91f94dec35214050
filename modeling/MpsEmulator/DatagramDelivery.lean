/-
**What is streamed is sent, once.**

Any thread may push a packet, any number of stream threads may take packets out, and a stream thread
sends what it has taken.  Beside the bytes, which are somewhere in memory all the while, this is a
relay: the queue is that of the relay, and a stream thread between `pop` and `sendto` has a message
in hand.

* `datagram`, `inHand`, `relay` — the messages that the packets stand for;
* `Plain`, `Orderly` — a thread takes a packet only to send it next;
* `loads_sendto`, `act_quiet` — a packet stands for the same bytes until it is sent;
* `relay_of_step` — **every step of the threads is a move of the relay, or none**;
* `datagrams_once` — **every packet that is pushed is queued, in a hand, or sent, and once only**;
* `datagrams_in_order` — **a single stream thread sends them in the order they are pushed**.
-/

import MpsEmulator.BufferOwnership
import MpsEmulator.Relay

set_option relaxedAutoImplicit false
set_option autoImplicit false

namespace HeapServer

open Aero (Buffer)
open BlockMemory (Cells Owns)
open MpsEmulator (Port)
open Views (Prog Safe)

/-! ### The relay -/

/-- The datagram that a packet stands for. -/
def datagram (m : BlockMemory) (packet : DataPacket) : Message :=
  .udp packet.ip packet.port ((m.load packet.data.data packet.data.size.toNat).getD [])

/-- The datagram that a thread is about to send. -/
def inHand (m : BlockMemory) : Option (Program (Option Block)) → Option Message
  | some (.op (.sendto ip port p n) _) => some (.udp ip port ((m.load p n).getD []))
  | _ => none

/-- The message is a datagram. -/
def Message.isUdp : Message → Bool
  | .udp .. => true
  | .tcp .. => false

/-- The datagrams in the queue, in the hands of the threads, and sent. -/
def relay {ι : Type*} (s : Threads ι) : Relay ι Message where
  queue := s.state.dataQueue.map (datagram s.state.memory)
  hand := fun i => inHand s.state.memory (s.thread i)
  delivered := s.state.sent.filter Message.isUdp

/-- The move that a step of the threads makes. -/
def moves {ι : Type*} (s : Threads ι) : Action ι → List (Relay.Move ι Message)
  | .start _ _ => []
  | .turn i _ =>
      match s.thread i with
      | some (.op (.push packet) _) => [.post (datagram s.state.memory packet)]
      | some (.op .pop _) => if s.state.dataQueue = [] then [] else [.take i]
      | some (.op (.sendto _ _ _ _) _) => [.deliver i]
      | _ => []

/-- The datagrams of the packets that a run pushes, with the bytes they have then. -/
def pushed {ι : Type*} [DecidableEq ι] (as : List (Action ι)) : List Message :=
  (Runs.trace step moves (start ι) as).flatMap Relay.Move.posted

/-! ### Taking and sending -/

/-- The operation takes a packet or sends one. -/
def MemOp.streams : MemOp → Bool
  | .pop | .sendto .. => true
  | _ => false

/-- The program neither takes nor sends a packet, and ends with a result of `Q`. -/
def Plain {α : Type} (Q : α → Prop) : Program α → Prop
  | .done a => Q a
  | .op o next => o.streams = false ∧ ∀ x, Plain Q (next x)

/-- The program neither takes nor sends a packet. -/
abbrev Quiet {α : Type} (c : Program α) : Prop := Plain (fun _ => True) c

/-- The program takes a packet only to send it next, and sends none otherwise. -/
def Orderly : Program (Option Block) → Prop
  | .done _ => True
  | .op .pop next =>
      Orderly (next none) ∧ ∀ packet, ∃ rest,
        next (some packet) =
          .op (.sendto packet.ip packet.port packet.data.data packet.data.size.toNat) rest ∧
        Quiet (rest ())
  | .op o next => o.streams = false ∧ ∀ x, Orderly (next x)

/-- What a thread has left to do: it may be about to send the packet that it has taken. -/
def Streams (c : Program (Option Block)) : Prop :=
  Orderly c ∨ ∃ ip port p n rest, c = .op (.sendto ip port p n) rest ∧ Quiet (rest ())

section Plain

variable {α β : Type} {P : α → Prop} {Q : β → Prop} {c : Program α}

theorem Plain.bind {f : α → Program β} (hc : Quiet c) (hf : ∀ a, Plain Q (f a)) :
    Plain Q (c >>= f) := by
  induction c with
  | done a => exact hf a
  | op o next ih => exact ⟨hc.1, fun x => ih x (hc.2 x)⟩

theorem plain_perform {o : MemOp} (ho : o.streams = false) : Quiet (perform o) :=
  ⟨ho, fun _ => trivial⟩

/-- Going on after an operation that does not stream. -/
theorem Plain.op {o : MemOp} {f : o.Answer → Program β} (ho : o.streams = false)
    (hf : ∀ x, Plain Q (f x)) : Plain Q (perform o >>= f) := Plain.bind (plain_perform ho) hf

theorem plain_forM {l : List α} {f : α → Program Unit} (hf : ∀ a, Quiet (f a)) :
    Quiet (l.forM f) := by
  induction l with
  | nil => exact trivial
  | cons a l ih =>
      show Quiet (f a >>= fun _ => l.forM f)
      exact Plain.bind (hf a) fun _ => ih

theorem orderly_of_plain {R : Option Block → Prop} {c : Program (Option Block)}
    (h : Plain R c) : Orderly c := by
  induction c with
  | done a => exact trivial
  | op o next ih =>
      obtain ⟨ho, hnext⟩ := h
      cases o with
      | pop | sendto => cases ho
      | _ => exact ⟨rfl, fun x => ih x (hnext x)⟩

end Plain

/-! ### The functions -/

variable {buff : Buffer} {Q : Option Block → Prop}

theorem quiet_allocate (size : UInt64) : Quiet (allocate buff size) := by
  rw [allocate]
  refine Plain.op rfl fun _ => ?_
  split
  · exact trivial
  · exact Plain.op rfl fun _ => trivial

theorem quiet_release : Quiet (release buff) := Plain.op rfl fun _ => trivial

theorem quiet_zero : Quiet (zero buff) := by
  rw [zero]
  split
  · exact plain_perform rfl
  · exact trivial

theorem quiet_copy (data : Option ℕ) (size : UInt64) : Quiet (copy data size) :=
  Plain.bind (quiet_allocate size) fun _ => Plain.op rfl fun _ => trivial

theorem quiet_copyData (bytes : ByteString) : Quiet (copyData bytes) :=
  Plain.bind (quiet_allocate _) fun _ => Plain.op rfl fun _ => trivial

theorem quiet_sendBufferToAll : Quiet (sendBufferToAll buff) := by
  refine Plain.op rfl fun ids => ?_
  refine Plain.bind (plain_forM fun id => plain_perform rfl) fun _ => ?_
  exact Plain.bind quiet_release fun _ => trivial

theorem quiet_sendBuffer (id : ℕ) : Quiet (sendBuffer id buff) := by
  rw [sendBuffer]
  split
  · exact quiet_sendBufferToAll
  · refine Plain.op rfl fun found => ?_
    split
    · refine Plain.op rfl fun socket => Plain.op rfl fun _ => ?_
      exact Plain.bind quiet_release fun _ => trivial
    · exact Plain.bind quiet_release fun _ => trivial

theorem quiet_sendString (id : ℕ) (str : ByteString) : Quiet (sendString id str) :=
  Plain.bind (quiet_copyData str) fun _ => quiet_sendBuffer id

theorem quiet_sendStringToAll (str : ByteString) : Quiet (sendStringToAll str) :=
  Plain.bind (quiet_copyData str) fun _ => quiet_sendBufferToAll

/-- A packet is pushed, which neither takes nor sends one. -/
theorem quiet_streamTo (ip : Bytes) (port : ℕ) : Quiet (streamTo ip port buff) := by
  refine Plain.bind (quiet_copy _ _) fun data => Plain.op rfl fun _ => ?_
  exact Plain.bind quiet_release fun _ => trivial

theorem quiet_streamData (id port : ℕ) : Quiet (streamData id port buff) := by
  refine Plain.op rfl fun ip => ?_
  cases ip with
  | none => exact Plain.bind quiet_release fun _ => trivial
  | some ip => exact quiet_streamTo ip port

theorem quiet_sendStrings (cause : Cause) : Quiet (sendStrings cause) :=
  Plain.op rfl fun _ => plain_forM fun s => quiet_sendString s.1 s.2

theorem quiet_streamFrame (target : Option (Bytes × ℕ)) : Quiet (streamFrame buff target) := by
  cases target with
  | none => exact trivial
  | some target => exact Plain.bind (quiet_copy _ _) fun _ => quiet_streamTo _ _

theorem quiet_sendFrame (client : Option ℕ) : Quiet (sendFrame buff client) := by
  cases client with
  | none => exact trivial
  | some id => exact Plain.bind (quiet_copy _ _) fun _ => quiet_sendBuffer id

theorem quiet_onScanFrame : Quiet (onScanFrame buff) := by
  refine Plain.op rfl fun target => Plain.bind (quiet_streamFrame target) fun _ => ?_
  refine Plain.op rfl fun client => Plain.bind (quiet_sendFrame client) fun _ => ?_
  exact Plain.bind quiet_release fun _ => trivial

theorem quiet_onLabviewFrame : Quiet (onLabviewFrame buff) := by
  refine Plain.op rfl fun client => ?_
  cases client with
  | none => exact Plain.bind quiet_release fun _ => trivial
  | some id =>
      have hswap : Quiet (swapToNetworkOrderInPlace buff) :=
        Plain.op rfl fun _ => plain_perform rfl
      refine Plain.bind hswap fun _ => Plain.bind (quiet_sendFrame (some id)) fun _ => ?_
      exact Plain.bind quiet_release fun _ => trivial

theorem quiet_dataReceivedCallback (port : Port) (id : ℕ) :
    Quiet (dataReceivedCallback port id buff) := by
  cases port with
  | control =>
      refine Plain.op rfl fun cmd => Plain.bind (quiet_sendStrings _) fun _ => ?_
      exact Plain.bind quiet_release fun _ => trivial
  | binary =>
      refine Plain.op rfl fun device => ?_
      split
      · refine Plain.op rfl fun val => ?_
        have hend : Quiet (release buff >>= fun _ => pure () : Program Unit) :=
          Plain.bind quiet_release fun _ => trivial
        split
        · exact Plain.bind (quiet_sendStrings _) fun _ => hend
        · exact hend
      · exact Plain.bind quiet_release fun _ => trivial

theorem quiet_handOut {callback : Buffer → Program Unit} (hcallback : ∀ buf, Quiet (callback buf))
    (frame : Option ByteString) : Quiet (handOut callback frame) := by
  cases frame with
  | none => exact trivial
  | some bytes => exact Plain.bind (quiet_copyData bytes) hcallback

/-! ### The blocks -/

/-- The thread does not stream next. -/
def NotStream (next : Option Block) : Prop := next ≠ some .dataStream

/-- **All blocks but one neither take nor send packets**, and that one is not what follows them. -/
theorem plain_code {l : Block} (hl : l ≠ .dataStream) : Plain NotStream (code l) := by
  have hnone : NotStream none := by simp [NotStream]
  have hreceive : ∀ port id buf, NotStream (some (.receive port id buf)) := by
    simp [NotStream]
  have hleave : ∀ buf, Plain NotStream (leave buf) := fun buf =>
    Plain.bind quiet_release fun _ => hnone
  cases l with
  | handleConnection port id => exact Plain.bind (quiet_allocate _) fun buf => hreceive port id buf
  | receive port id buf =>
      refine Plain.op rfl fun running => ?_
      cases running with
      | false => exact hleave buf
      | true =>
          refine Plain.bind quiet_zero fun _ => Plain.op rfl fun found => ?_
          cases found with
          | false => exact hleave buf
          | true =>
              refine Plain.op rfl fun read => ?_
              cases read with
              | none => exact hleave buf
              | some n =>
                  refine Plain.bind (quiet_copy _ _) fun data => ?_
                  exact Plain.bind (quiet_dataReceivedCallback port id) fun _ =>
                    hreceive port id buf
  | dataStream => exact absurd rfl hl
  | scanFrame labview packet =>
      refine Plain.bind (quiet_handOut (fun _ => quiet_onLabviewFrame) labview) fun _ => ?_
      exact Plain.bind (quiet_handOut (fun _ => quiet_onScanFrame) packet) fun _ => hnone
  | strings cause => exact Plain.bind (quiet_sendStrings cause) fun _ => hnone
  | toAll str => exact Plain.bind (quiet_sendStringToAll str) fun _ => hnone
  | streamData id port bytes =>
      refine Plain.bind (quiet_copyData bytes) fun buf => ?_
      exact Plain.bind (quiet_streamData id port) fun _ => hnone

/-- **Every block takes a packet only to send it next.** -/
theorem orderly_code (l : Block) : Orderly (code l) := by
  by_cases hl : l = .dataStream
  · subst hl
    refine ⟨rfl, fun running => ?_⟩
    cases running with
    | false => exact trivial
    | true =>
        refine ⟨trivial, fun packet => ⟨_, rfl, ?_⟩⟩
        show Quiet (release packet.data >>= fun _ => pure (some Block.dataStream))
        exact Plain.bind quiet_release fun _ => trivial
  · exact orderly_of_plain (plain_code hl)

/-! ### A packet keeps its bytes -/

variable {D : Supply} {p q : Cells} {m m' : BlockMemory} {w w' : ServerHeap}

/-- What a buffer stands for can be read wherever its cells are. -/
theorem Stands.load {bytes : List UInt8} (h : Stands buff bytes p) (howns : Owns (p + q) m) :
    m.load buff.data buff.size.toNat = some bytes := by
  cases h with
  | null => rfl
  | block a size bytes hsize hlen =>
      rw [Multiset.singleton_add] at howns
      have hload := howns.load (le_refl bytes.length)
      rw [List.take_length, hlen] at hload
      exact hload

/-- The packets in the queue stand for the same datagrams in all memories that have their cells. -/
theorem datagram_eq {queue : List DataPacket} {queued : List Cells}
    (hqueued : List.Forall₂ (Queued D) queue queued) :
    ∀ {p q : Cells}, Owns (p + queued.sum) m → Owns (q + queued.sum) m' →
      queue.map (datagram m) = queue.map (datagram m') := by
  induction hqueued with
  | nil => exact fun _ _ => rfl
  | @cons packet cells queue queued hpacket hrest ih =>
      intro p q hm hm'
      obtain ⟨bytes, -, hstands⟩ := hpacket
      rw [List.sum_cons, add_left_comm] at hm hm'
      rw [List.map_cons, List.map_cons, datagram, datagram, hstands.load hm, hstands.load hm']
      rw [← add_assoc] at hm hm'
      rw [ih hm hm']

/-- **What a thread may send is in its own cells**, so that no other thread can change it. -/
theorem loads_sendto {ip : Bytes} {port : ℕ} {d : Option ℕ} {n : ℕ}
    {rest : Unit → Program (Option Block)} {R : Option Block → Cells → Prop}
    (h : Ok D R (.op (.sendto ip port d n) rest) p) (howns : Owns (p + q) m) :
    ∃ bytes, ∀ {r : Cells} {m' : BlockMemory}, Owns (p + r) m' → m'.load d n = some bytes := by
  obtain ⟨part, hpart⟩ := howns.part
  let alone : ServerHeap := { memory := part, dataQueue := [], sent := [] }
  have hreify : Reify D (p + 0) alone := by
    refine ⟨⟨[], .nil, ?_⟩, by simp [alone]⟩
    rwa [List.sum_nil, add_zero, add_zero]
  obtain ⟨p', hafter, -⟩ := h 0 alone .nothing () _ hreify trivial rfl
  obtain ⟨_, -, hafter⟩ := hafter.owns
  -- if nothing could be read there, the step was a fault
  cases hload : part.load d n with
  | none =>
      have hfault := hafter.inBounds
      simp [ServerHeap.hand, alone, hload, ServerHeap.faulted, BlockMemory.faulted] at hfault
  | some bytes => exact ⟨bytes, fun hm' => hpart.load_whole hm' hload⟩

/-- An operation that does not stream does to the memory what it does without packets in the queue,
leaves these where they are, and sends no datagram. -/
theorem act_quiet {o : MemOp} {c : Choice} {x : o.Answer} (ho : o.streams = false)
    (hpush : ∀ packet, o ≠ .push packet) (hact : act o c w = some (x, w')) :
    act o c { w with dataQueue := [] } = some (x, { w' with dataQueue := [] }) ∧
      w'.dataQueue = w.dataQueue ∧
      w'.sent.filter Message.isUdp = w.sent.filter Message.isUdp := by
  cases o with
  | push packet => exact absurd rfl (hpush packet)
  | pop | sendto => cases ho
  | new n =>
      cases c with
      | allocated fresh =>
          obtain ⟨hfresh, hact⟩ := Option.ite_none_right_eq_some.1 hact
          cases hact
          exact ⟨if_pos hfresh, rfl, rfl⟩
      | _ => cases hact
  | read d n =>
      cases c with
      | nothing =>
          rw [act] at hact ⊢
          dsimp only
          cases hload : w.memory.load d n with
          | none =>
              rw [hload] at hact
              cases hact
              exact ⟨rfl, rfl, rfl⟩
          | some bytes =>
              rw [hload] at hact
              cases hact
              exact ⟨rfl, rfl, rfl⟩
      | _ => cases hact
  | recv id d n =>
      cases c with
      | received seg =>
          cases seg with
          | none =>
              cases hact
              exact ⟨rfl, rfl, rfl⟩
          | some seg =>
              obtain ⟨hseg, hact⟩ := Option.ite_none_right_eq_some.1 hact
              cases hact
              exact ⟨if_pos hseg, rfl, rfl⟩
      | _ => cases hact
  | send socket d n =>
      cases c with
      | nothing =>
          cases hact
          simp only [act, ServerHeap.hand]
          cases hload : w.memory.load d n with
          | none => exact ⟨rfl, rfl, rfl⟩
          | some bytes => exact ⟨rfl, rfl, by simp [Message.isUdp]⟩
      | _ => cases hact
  | _ =>
      cases c <;> cases hact
      exact ⟨rfl, rfl, rfl⟩

/-! ### A step -/

theorem inHand_of_orderly {c : Program (Option Block)} (h : Orderly c) :
    inHand m (some c) = none := by
  cases c with
  | done next => rfl
  | op o next =>
      cases o with
      | sendto => cases h.1
      | _ => rfl

/-- The datagram in the hand of a thread is made of its own cells. -/
theorem inHand_eq {c : Option (Program (Option Block))} {r : Cells}
    (hstreams : ∀ rest ∈ c, Streams rest)
    (hholds : Views.Holds act (Good D) (Reify D) (Entered D) c p)
    (hm : Owns (p + q) m) (hm' : Owns (p + r) m') : inHand m' c = inHand m c := by
  cases c with
  | none => rfl
  | some rest =>
      rcases hstreams rest rfl with horderly | ⟨ip, port, d, n, rest, rfl, -⟩
      · rw [inHand_of_orderly horderly, inHand_of_orderly horderly]
      · obtain ⟨bytes, hload⟩ := loads_sendto hholds hm
        rw [inHand, inHand, hload hm, hload hm']

variable {ι : Type*} [DecidableEq ι] {s s' : Threads ι} {a : Action ι} {i : ι}

/-- What a step does: a block is begun, it ends, or an operation is performed. -/
theorem step_cases (hstep : step s a = some s') :
    (∃ i rest, (∀ m, inHand m (s.thread i) = none) ∧
        (∀ c ∈ rest, ∃ l, c = code l ∧ (a = .start i l ∨ s.thread i = some (.done (some l)))) ∧
        moves s a = [] ∧ s' = s.setThread i rest) ∨
      ∃ i o next c x w, a = .turn i c ∧ s.thread i = some (.op o next) ∧
        act o c s.state = some (x, w) ∧ s' = { s.setThread i (some (next x)) with state := w } := by
  cases a with
  | start i l =>
      left
      rw [step, Views.step] at hstep
      cases hi : s.thread i with
      | some c =>
          rw [hi] at hstep
          cases hstep
      | none =>
          rw [hi] at hstep
          obtain ⟨-, hstep⟩ := Option.ite_none_right_eq_some.1 hstep
          refine ⟨i, some (code l), fun _ => by rw [hi]; rfl, ?_, rfl, ?_⟩
          · rintro c ⟨⟩
            exact ⟨l, rfl, .inl rfl⟩
          · exact (Option.some_inj.1 hstep).symm
  | turn i c =>
      rw [step, Views.step] at hstep
      cases hi : s.thread i with
      | none =>
          rw [hi] at hstep
          cases hstep
      | some rest =>
          rw [hi] at hstep
          cases rest with
          | done next =>
              left
              have hmoves : moves s (.turn i c) = [] := by rw [moves, hi]
              cases next with
              | none =>
                  refine ⟨i, none, fun _ => by rw [hi]; rfl, ?_, hmoves, ?_⟩
                  · exact fun c hc => absurd hc (Option.not_mem_none c)
                  · exact (Option.some_inj.1 hstep).symm
              | some l =>
                  refine ⟨i, some (code l), fun _ => by rw [hi]; rfl, ?_, hmoves, ?_⟩
                  · rintro c ⟨⟩
                    exact ⟨l, rfl, .inr hi⟩
                  · exact (Option.some_inj.1 hstep).symm
          | op o next =>
              right
              obtain ⟨⟨x, w⟩, hact, hs'⟩ := Option.map_eq_some_iff.1 hstep
              exact ⟨i, o, next, c, x, w, rfl, hi, hact, hs'.symm⟩

/-- After an operation a thread has as much left to do as before. -/
theorem Streams.next {o : MemOp} {next : o.Answer → Program (Option Block)}
    (h : Streams (.op o next)) (x : o.Answer) : Streams (next x) := by
  rcases h with horderly | ⟨ip, port, d, n, rest, heq, hquiet⟩
  · cases o with
    | sendto => cases horderly.1
    | pop =>
        cases x with
        | none => exact .inl horderly.1
        | some packet =>
            obtain ⟨rest, hnext, hquiet⟩ := horderly.2 packet
            exact .inr ⟨_, _, _, _, rest, hnext, hquiet⟩
    | _ => exact .inl (horderly.2 x)
  · cases heq
    exact .inl (orderly_of_plain hquiet)

/-- The threads keep to taking packets only to send them. -/
theorem streams_step (h : ∀ i, ∀ c ∈ s.thread i, Streams c) (hstep : step s a = some s') :
    ∀ i, ∀ c ∈ s'.thread i, Streams c := by
  intro j c hc
  rcases step_cases hstep with
    ⟨i, rest, -, hrest, -, rfl⟩ | ⟨i, o, next, d, x, w, rfl, hi, -, rfl⟩
  · by_cases hj : j = i
    · subst hj
      simp only [Views.Config.setThread, Function.update_self] at hc
      obtain ⟨l, rfl, -⟩ := hrest c hc
      exact .inl (orderly_code l)
    · simp only [Views.Config.setThread, Function.update_of_ne hj] at hc
      exact h j c hc
  · by_cases hj : j = i
    · subst hj
      simp only [Views.Config.setThread, Function.update_self] at hc
      rw [← Option.some_inj.1 hc]
      exact (h j _ hi).next x
    · simp only [Views.Config.setThread, Function.update_of_ne hj] at hc
      exact h j c hc

/-- The relay after a step of one thread, if the datagrams of the others have not changed. -/
theorem relay_setThread {rest : Option (Program (Option Block))}
    (hothers : ∀ j ≠ i, inHand w.memory (s.thread j) = inHand s.state.memory (s.thread j)) :
    relay { s.setThread i rest with state := w } =
      { queue := w.dataQueue.map (datagram w.memory)
        hand := Function.update (relay s).hand i (inHand w.memory rest)
        delivered := w.sent.filter Message.isUdp } := by
  have hhand : (fun j => inHand w.memory (Function.update s.thread i rest j)) =
      Function.update (relay s).hand i (inHand w.memory rest) := by
    funext j
    by_cases hj : j = i
    · subst hj
      rw [Function.update_self, Function.update_self]
    · rw [Function.update_of_ne hj, Function.update_of_ne hj, hothers j hj]
      rfl
  rw [← hhand]
  rfl

/-- A thread whose hand stays empty has moved nothing. -/
theorem relay_setThread_same {rest : Option (Program (Option Block))}
    (hothers : ∀ j ≠ i, inHand w.memory (s.thread j) = inHand s.state.memory (s.thread j))
    (hqueue : w.dataQueue.map (datagram w.memory) = (relay s).queue)
    (hsent : w.sent.filter Message.isUdp = (relay s).delivered)
    (hbefore : inHand s.state.memory (s.thread i) = none) (hafter : inHand w.memory rest = none) :
    relay { s.setThread i rest with state := w } = relay s := by
  rw [relay_setThread hothers, hqueue, hsent, hafter, ← hbefore]
  show ({ relay s with hand := Function.update (relay s).hand i ((relay s).hand i) } :
    Relay ι Message) = relay s
  rw [Function.update_eq_self]

/-- Beside what one thread does to the memory, the datagrams stay what they are. -/
theorem relay_quiet [Fintype ι] {o : MemOp} {next : o.Answer → Program (Option Block)} {c : Choice}
    {x : o.Answer} (howned : Owned anything s) (hstreams : ∀ i, ∀ c ∈ s.thread i, Streams c)
    (hi : s.thread i = some (.op o next)) (ho : o.streams = false)
    (hpush : ∀ packet, o ≠ .push packet) (hact : act o c s.state = some (x, w)) :
    (∀ j ≠ i, inHand w.memory (s.thread j) = inHand s.state.memory (s.thread j)) ∧
      w.dataQueue.map (datagram w.memory) = s.state.dataQueue.map (datagram s.state.memory) ∧
      w.sent.filter Message.isUdp = s.state.sent.filter Message.isUdp := by
  obtain ⟨view, hview, ⟨queued, hqueued, howns⟩, -⟩ := howned
  obtain ⟨hact', hqueue, hsent⟩ := act_quiet ho hpush hact
  -- the thread does the same while the cells of the queue are somebody else's
  let others : Cells := ∑ j ∈ Finset.univ.erase i, view j
  have hsum : ∑ j, view j = view i + others := (Finset.add_sum_erase _ _ (Finset.mem_univ i)).symm
  rw [hsum] at howns
  have hreify : Reify anything (view i + (others + queued.sum))
      { s.state with dataQueue := [] } := by
    refine ⟨⟨[], .nil, ?_⟩, fun msg _ => ?_⟩
    · rwa [List.sum_nil, add_zero, ← add_assoc]
    · cases msg <;> exact trivial
  have hsafe := hview i
  rw [hi] at hsafe
  have hgood : Good anything c := by
    cases c <;> simp [Good, anything]
  obtain ⟨p, ⟨⟨_, hnil, hafter⟩, -⟩, -⟩ := hsafe _ _ c x _ hreify hgood hact'
  cases hnil
  rw [List.sum_nil, add_zero, ← add_assoc] at hafter
  refine ⟨fun j hj => ?_, ?_, hsent⟩
  · have hsplit : others = view j + ∑ k ∈ (Finset.univ.erase i).erase j, view k :=
      (Finset.add_sum_erase _ _ (Finset.mem_erase.2 ⟨hj, Finset.mem_univ j⟩)).symm
    rw [hsplit, add_left_comm, add_assoc] at howns hafter
    exact inHand_eq (hstreams j) (hview j) howns hafter
  · rw [hqueue]
    exact datagram_eq hqueued hafter howns

section Operations

variable {c : Choice}

/-- Pushing a packet posts its datagram. -/
theorem relay_push {packet : DataPacket} {next : Unit → Program (Option Block)} {x : Unit}
    (hi : s.thread i = some (.op (.push packet) next)) (hnext : Orderly (next x))
    (hact : act (.push packet) c s.state = some (x, w)) :
    (relay s).step (.post (datagram s.state.memory packet)) =
      some (relay { s.setThread i (some (next x)) with state := w }) := by
  have hempty : (relay s).hand i = none := congrArg (inHand s.state.memory) hi
  cases c <;> cases hact
  rw [relay_setThread (w := { s.state with dataQueue := s.state.dataQueue ++ [packet] })
      fun _ _ => rfl,
    inHand_of_orderly hnext, ← hempty, Function.update_eq_self, List.map_append]
  rfl

/-- Taking a packet takes its datagram, if there is one. -/
theorem relay_pop {next : Option DataPacket → Program (Option Block)} {x : Option DataPacket}
    (hi : s.thread i = some (.op .pop next)) (horderly : Orderly (.op .pop next))
    (hact : act .pop c s.state = some (x, w)) :
    Runs.exec Relay.step (relay s) (moves s (.turn i c)) =
      some (relay { s.setThread i (some (next x)) with state := w }) := by
  have hempty : (relay s).hand i = none := congrArg (inHand s.state.memory) hi
  rw [moves, hi]
  cases c with
  | nothing =>
      rw [act] at hact
      cases hqueue : s.state.dataQueue with
      | nil =>
          rw [hqueue] at hact
          cases hact
          exact congrArg some
            (relay_setThread_same (w := s.state) (fun _ _ => rfl) rfl rfl hempty
              (inHand_of_orderly horderly.1)).symm
      | cons packet rest =>
          rw [hqueue] at hact
          cases hact
          obtain ⟨_, hnext, -⟩ := horderly.2 packet
          have hfirst : (relay s).queue =
              datagram s.state.memory packet :: rest.map (datagram s.state.memory) :=
            congrArg (List.map _) hqueue
          have htake := Relay.step_take hfirst hempty
          rw [relay_setThread (w := { s.state with dataQueue := rest }) fun _ _ => rfl, hnext]
          simp only [reduceCtorEq, if_false, Runs.exec_cons, htake]
          rfl
  | _ => cases hact

/-- Sending a packet delivers its datagram. -/
theorem relay_sendto [Fintype ι] {ip : Bytes} {port : ℕ} {d : Option ℕ} {n : ℕ}
    {next : Unit → Program (Option Block)} {x : Unit} (howned : Owned anything s)
    (hi : s.thread i = some (.op (.sendto ip port d n) next)) (hnext : Orderly (next x))
    (hact : act (.sendto ip port d n) c s.state = some (x, w)) :
    (relay s).step (.deliver i) =
      some (relay { s.setThread i (some (next x)) with state := w }) := by
  obtain ⟨view, hview, ⟨queued, -, howns⟩, -⟩ := howned
  have hsafe := hview i
  rw [hi] at hsafe
  rw [← Finset.add_sum_erase _ _ (Finset.mem_univ i), add_assoc] at howns
  obtain ⟨bytes, hload⟩ := loads_sendto hsafe howns
  have hhand : (relay s).hand i = some (.udp ip port bytes) := by
    have hsame : (relay s).hand i = inHand s.state.memory (some (.op (.sendto ip port d n) next)) :=
      congrArg (inHand s.state.memory) hi
    rw [hsame, inHand, hload howns]
    rfl
  cases c <;> cases hact
  have hsent : s.state.hand d n (.udp ip port) =
      { s.state with sent := s.state.sent ++ [.udp ip port bytes] } := by
    rw [ServerHeap.hand, hload howns]
  rw [hsent,
    relay_setThread (w := { s.state with sent := s.state.sent ++ [.udp ip port bytes] })
      fun _ _ => rfl,
    inHand_of_orderly hnext, List.filter_append]
  exact Relay.step_deliver hhand

end Operations

/-- **Every step of the threads is a move of the relay, or none.** -/
theorem relay_of_step [Fintype ι] (howned : Owned anything s)
    (hstreams : ∀ i, ∀ c ∈ s.thread i, Streams c) (hstep : step s a = some s') :
    Runs.exec Relay.step (relay s) (moves s a) = some (relay s') := by
  rcases step_cases hstep with
    ⟨i, rest, hnone, hrest, hmoves, rfl⟩ | ⟨i, o, next, c, x, w, rfl, hi, hact, rfl⟩
  · have hafter : inHand s.state.memory rest = none := by
      cases rest with
      | none => rfl
      | some c =>
          obtain ⟨l, rfl, -⟩ := hrest c rfl
          exact inHand_of_orderly (orderly_code l)
    rw [hmoves, Runs.exec_nil]
    exact congrArg some
      (relay_setThread_same (w := s.state) (fun _ _ => rfl) rfl rfl (hnone _) hafter).symm
  · rcases hstreams i _ hi with horderly | ⟨ip, port, d, n, rest, heq, hquiet⟩
    · have hempty : o.streams = false → inHand s.state.memory (s.thread i) = none := by
        intro _
        rw [hi]
        exact inHand_of_orderly horderly
      cases o with
      | sendto => cases horderly.1
      | pop => exact relay_pop hi horderly hact
      | push packet =>
          rw [moves, hi]
          exact congrArg (Option.bind · _) (relay_push hi (horderly.2 x) hact)
      | _ =>
          obtain ⟨hothers, hqueue, hsent⟩ :=
            relay_quiet howned hstreams hi horderly.1 (by simp) hact
          rw [moves, hi]
          exact congrArg some (relay_setThread_same hothers hqueue hsent (hempty rfl)
            (inHand_of_orderly (horderly.2 x))).symm
    · cases heq
      rw [moves, hi]
      exact congrArg (Option.bind · _) (relay_sendto howned hi (orderly_of_plain hquiet) hact)

/-! ### Runs -/

/-- **A run of the threads is one of the relay.** -/
theorem relay_of_run [Fintype ι] {as : List (Action ι)} {t : Threads ι}
    (hrun : Runs.exec step (start ι) as = some t) :
    Runs.exec Relay.step (Relay.empty ι Message) (Runs.trace step moves (start ι) as) =
      some (relay t) := by
  have hmatch : ∀ (s : Threads ι) r a s',
      (Owned anything s ∧ (∀ i, ∀ c ∈ s.thread i, Streams c) ∧ relay s = r) →
      step s a = some s' → ∃ r', Runs.exec Relay.step r (moves s a) = some r' ∧
        Owned anything s' ∧ (∀ i, ∀ c ∈ s'.thread i, Streams c) ∧ relay s' = r' := by
    rintro s r a s' ⟨howned, hstreams, rfl⟩ hstep
    refine ⟨relay s', relay_of_step howned hstreams hstep, ?_, streams_step hstreams hstep, rfl⟩
    exact Views.owned_step (verified anything) howned (ok_anything a) hstep
  obtain ⟨r, hexec, -, -, rfl⟩ := Runs.exec_trace hmatch
    ⟨owned_start anything, nofun, (rfl : relay (start ι) = Relay.empty ι Message)⟩ hrun
  exact hexec

/-- **Packets are taken in the order in which they are pushed, and every packet that was taken is
sent, or in the hand of a stream thread, once, with the bytes it was pushed with**, whichever
threads push and however many of them send. -/
theorem datagrams_once [Fintype ι] (as : List (Action ι)) {t : Threads ι}
    (hrun : Runs.exec step (start ι) as = some t) :
    ∃ taken, pushed as = taken ++ t.state.dataQueue.map (datagram t.state.memory) ∧
      (↑taken : Multiset Message) =
        ↑(t.state.sent.filter Message.isUdp) +
          ∑ i, (↑(inHand t.state.memory (t.thread i)).toList : Multiset Message) :=
  Relay.inLine_empty.exec (relay_of_run hrun)

/-- A call of `StreamData` by a thread, up to where the packet is pushed. -/
def streamBytes (i : ι) (bytes : ByteString) (a b : ℕ) : List (Action ι) :=
  let room : List UInt8 := bytes.1.map fun _ => 0
  .start i (.streamData 1 5000 bytes) ::
    [.nothing, .allocated { address := a, contents := room }, .nothing, .address (some ['1']),
      .nothing, .allocated { address := b, contents := room }, .nothing, .nothing].map (.turn i)

/-- Two packets are pushed, and the first one is taken in between. -/
def twoPackets (i j : ι) : List (Action ι) :=
  streamBytes i ⟨[1, 2], by decide⟩ 7 8 ++ [.start j .dataStream, .turn j (.flag true)] ++
    [.turn i .nothing, .turn j .nothing, .turn i .nothing] ++
    streamBytes i ⟨[3], by decide⟩ 7 9

/-- One packet is in a hand and one in the queue. -/
theorem datagrams_once_two : ∃ t, Runs.exec step (start (Fin 2)) (twoPackets 0 1) = some t ∧
    t.state.dataQueue.length = 1 ∧
    ∃ taken, pushed (twoPackets (0 : Fin 2) 1) =
        taken ++ t.state.dataQueue.map (datagram t.state.memory) ∧
      (↑taken : Multiset Message) =
        ↑(t.state.sent.filter Message.isUdp) +
          ∑ i, (↑(inHand t.state.memory (t.thread i)).toList : Multiset Message) := by
  have hlength : (Runs.exec step (start (Fin 2)) (twoPackets 0 1)).map
      (·.state.dataQueue.length) = some 1 := by
    decide +kernel
  obtain ⟨t, ht, hlength⟩ := Option.map_eq_some_iff.1 hlength
  exact ⟨t, ht, hlength, datagrams_once (twoPackets 0 1) ht⟩

/-! ### One stream thread -/

/-- Only this thread is started with the loop of `DataStreamThreadFn`. -/
def OnlyStream (i : ι) : Action ι → Prop
  | .start j l => l = .dataStream → j = i
  | .turn _ _ => True

/-- The other threads do not stream. -/
def OthersPlain (i : ι) (s : Threads ι) : Prop :=
  ∀ j ≠ i, ∀ c ∈ s.thread j, Plain NotStream c

theorem othersPlain_setThread {j : ι} {rest : Option (Program (Option Block))} {w : ServerHeap}
    (h : OthersPlain i s) (hrest : j ≠ i → ∀ c ∈ rest, Plain NotStream c) :
    OthersPlain i { s.setThread j rest with state := w } := by
  intro k hk c hc
  by_cases hkj : k = j
  · subst hkj
    simp only [Views.Config.setThread, Function.update_self] at hc
    exact hrest hk c hc
  · simp only [Views.Config.setThread, Function.update_of_ne hkj] at hc
    exact h k hk c hc

theorem othersPlain_step (h : OthersPlain i s) (ha : OnlyStream i a) (hstep : step s a = some s') :
    OthersPlain i s' := by
  rcases step_cases hstep with
    ⟨j, rest, -, hrest, -, rfl⟩ | ⟨j, o, next, c, x, w, rfl, hj, -, rfl⟩
  · refine othersPlain_setThread (w := s.state) h fun hne c hc => ?_
    obtain ⟨l, rfl, hl⟩ := hrest c hc
    refine plain_code ?_
    rcases hl with rfl | hdone
    · exact fun hstream => hne (ha hstream)
    · rintro rfl
      exact h j hne _ hdone rfl
  · refine othersPlain_setThread h fun hne c hc => ?_
    rw [← Option.some_inj.1 hc]
    exact (h j hne _ hj).2 x

/-- The moves of the relay are those of the stream thread. -/
theorem isBy_of_othersPlain (h : OthersPlain i s) : ∀ b ∈ moves s a, b.IsBy i := by
  intro b hb
  cases a with
  | start j l => cases hb
  | turn j c =>
      have hstreams : ∀ {o : MemOp} {next : o.Answer → Program (Option Block)},
          s.thread j = some (.op o next) → o.streams = true → j = i := by
        intro o next hj ho
        by_contra hne
        rw [(h j hne _ hj).1] at ho
        cases ho
      rw [moves] at hb
      split at hb
      · rw [List.mem_singleton.1 hb]
        exact trivial
      · next hj =>
        split at hb
        · cases hb
        · rw [List.mem_singleton.1 hb]
          exact hstreams hj rfl
      · next hj =>
        rw [List.mem_singleton.1 hb]
        exact hstreams hj rfl
      · cases hb

/-- **A single stream thread sends the packets in the order in which they are pushed**: those sent,
the one in its hand and those in the queue are the packets pushed, whichever threads push. -/
theorem datagrams_in_order [Fintype ι] (i : ι) (as : List (Action ι)) {t : Threads ι}
    (hstream : ∀ a ∈ as, OnlyStream i a) (hrun : Runs.exec step (start ι) as = some t) :
    t.state.sent.filter Message.isUdp ++ (inHand t.state.memory (t.thread i)).toList ++
        t.state.dataQueue.map (datagram t.state.memory) = pushed as := by
  have hby : ∀ b ∈ Runs.trace step moves (start ι) as, b.IsBy i :=
    Runs.forall_mem_trace (fun s a s' => othersPlain_step) (fun s a h _ => isBy_of_othersPlain h)
      nofun hstream
  have hline := Relay.line_exec hby (relay_of_run hrun)
  have hempty : (Relay.empty ι Message).line i = [] := rfl
  rw [hempty, List.nil_append] at hline
  exact hline

/-- The first of two packets is in the hand of the stream thread. -/
theorem datagrams_in_order_two : ∃ t, Runs.exec step (start (Fin 2)) (twoPackets 0 1) = some t ∧
    t.state.sent.filter Message.isUdp ++ (inHand t.state.memory (t.thread 1)).toList ++
        t.state.dataQueue.map (datagram t.state.memory) = pushed (twoPackets (0 : Fin 2) 1) ∧
      pushed (twoPackets (0 : Fin 2) 1) = [.udp ['1'] 5000 [1, 2], .udp ['1'] 5000 [3]] := by
  have hsome : (Runs.exec step (start (Fin 2)) (twoPackets 0 1)).isSome = true := by
    decide +kernel
  obtain ⟨t, ht⟩ := Option.isSome_iff_exists.1 hsome
  refine ⟨t, ht, datagrams_in_order 1 (twoPackets 0 1) ?_ ht, by decide +kernel⟩
  simp [twoPackets, streamBytes, OnlyStream]

end HeapServer
