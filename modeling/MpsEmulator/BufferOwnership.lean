/-
**Who owns a buffer, across all threads.**

Every block of a thread has a specification: what it owns when it is entered, and what it owns when
it ends.  A buffer owns its allocation, `Release` takes that away, and a packet that is pushed takes
it along into the queue; whoever takes the packet out gets it.  As all blocks keep to what they own,
no interleaving can do anything undefined.

* `Stands`, `Reify` — a buffer owns its allocation, and the queue owns those of its packets;
* `ok_copy`, `ok_sendBuffer`, `ok_streamTo`, `ok_onScanFrame`, … — the functions keep to what they
  own;
* `verified` — so does every block;
* `no_memory_fault` — **in no interleaving is the memory of a buffer given back twice, used after
  that, or accessed beyond its allocation**;
* `live_iff_held` — **when the threads are between blocks, the live allocations are those of the
  queued packets and of the receive buffers**, as long as the server is there with its queue;
* `sent_is_supplied` — **what is sent is what was supplied, byte for byte**.
-/

import MpsEmulator.OwnedBlocks
import MpsEmulator.ServerPrograms

set_option relaxedAutoImplicit false
set_option autoImplicit false

namespace HeapServer

open Aero (Buffer)
open BlockMemory (Cells Owns)
open MpsEmulator (Port)
open Views (Safe Does)

/-! ### What is owned -/

/-- The buffer stands for the bytes and owns the cells. -/
inductive Stands : Buffer → List UInt8 → Cells → Prop
  | null : Stands .init [] 0
  | block (a : ℕ) (size : UInt64) (bytes : List UInt8) (hsize : size ≠ 0)
      (hlen : bytes.length = size.toNat) :
      Stands { data := some a, size := size } bytes {(a, bytes)}

theorem Stands.length {buff : Buffer} {bytes : List UInt8} {p : Cells} (h : Stands buff bytes p) :
    bytes.length = buff.size.toNat := by
  cases h with
  | null => rfl
  | block a size bytes hsize hlen => exact hlen

/-- What may be streamed, and what may be sent to clients. -/
structure Supply where
  stream : List UInt8 → Prop
  send : List UInt8 → Prop

/-- The message has bytes that may be sent so. -/
def Supply.allows (D : Supply) : Message → Prop
  | .tcp _ bytes => D.send bytes
  | .udp _ _ bytes => D.stream bytes

/-- A packet of the queue owns the cells and has bytes that may be streamed. -/
def Queued (D : Supply) (packet : DataPacket) (cells : Cells) : Prop :=
  ∃ bytes, D.stream bytes ∧ Stands packet.data bytes cells

/-- The cells and those of the queue are what is allocated. -/
structure Reify (D : Supply) (v : Cells) (w : ServerHeap) : Prop where
  owns : ∃ queued, List.Forall₂ (Queued D) w.dataQueue queued ∧ Owns (v + queued.sum) w.memory
  sent : ∀ msg ∈ w.sent, D.allows msg

/-- The strings that the environment chooses may be sent. -/
def Good (D : Supply) : Choice → Prop
  | .strings l => ∀ s ∈ l, D.send s.2
  | _ => True

/-- A program is safe in this sense. -/
abbrev Ok (D : Supply) {α : Type} (Q : α → Cells → Prop) (c : Program α) (p : Cells) : Prop :=
  Safe act (Good D) (Reify D) Q c p

variable {D : Supply} {p q r : Cells} {buff : Buffer} {bytes : List UInt8} {w : ServerHeap}
  {α : Type}

/-! ### The operations -/

/-- The memory changes where the thread owns it. -/
theorem Reify.memory (h : Reify D (p + r) w) {m : BlockMemory}
    (hm : ∀ v, Owns (p + v) w.memory → Owns (q + v) m) :
    Reify D (q + r) { w with memory := m } := by
  obtain ⟨⟨queued, hqueued, howns⟩, hsent⟩ := h
  rw [add_assoc] at howns
  refine ⟨⟨queued, hqueued, ?_⟩, hsent⟩
  rw [add_assoc]
  exact hm _ howns

/-- What is in an owned cell can be read, whatever else there is. -/
theorem Reify.load (h : Reify D (p + r) w) (hstands : Stands buff bytes p) {n : ℕ}
    (hn : n ≤ bytes.length) : w.memory.load buff.data n = some (bytes.take n) := by
  obtain ⟨⟨queued, -, howns⟩, -⟩ := h
  cases hstands with
  | null =>
      rw [Nat.le_zero.1 hn]
      rfl
  | block a size bytes hsize hlen =>
      rw [add_assoc, Multiset.singleton_add] at howns
      exact howns.load hn

/-- A question leaves everything as it is. -/
theorem does_ask {o : MemOp} (ho : o.asks = true) :
    Does act (Good D) (Reify D) o p fun _ q => q = p := by
  intro r w c x w' hw _ hact
  have hsame : w' = w := by
    cases o with
    | running | find | device | clientId | clientIp | connections | udpTarget | binaryClient =>
        cases c <;> cases hact
        rfl
    | _ => cases ho
  rw [hsame]
  exact ⟨p, hw, rfl⟩

/-- Giving back what a buffer owns. -/
theorem does_delete (h : Stands buff bytes p) :
    Does act (Good D) (Reify D) (.delete buff.data) p fun _ q => q = 0 := by
  intro r w c x w' hw _ hact
  cases c <;> cases hact
  refine ⟨0, hw.memory fun v hv => ?_, rfl⟩
  cases h with
  | null => exact hv
  | block a size bytes hsize hlen =>
      rw [Multiset.singleton_add] at hv
      rw [zero_add]
      exact hv.delete

theorem does_new (n : ℕ) :
    Does act (Good D) (Reify D) (.new n) 0
      fun a q => ∃ bytes : List UInt8, bytes.length = n ∧ q = {(a, bytes)} := by
  intro r w c x w' hw _ hact
  cases c with
  | allocated fresh =>
      obtain ⟨hfresh, hact⟩ := Option.ite_none_right_eq_some.1 hact
      cases hact
      refine ⟨{(fresh.address, fresh.contents)}, hw.memory fun v hv => ?_, fresh.contents,
        hfresh.2, rfl⟩
      rw [zero_add] at hv
      rw [Multiset.singleton_add]
      exact hv.new hfresh
  | _ => cases hact

/-- Writing to the front of what a buffer owns. -/
theorem Reify.write (h : Reify D (p + r) w) (hstands : Stands buff bytes p)
    {data : List UInt8} (hdata : data.length ≤ bytes.length) :
    ∃ q, Stands buff (data ++ bytes.drop data.length) q ∧
      Reify D (q + r) { w with memory := w.memory.store buff.data data } := by
  cases hstands with
  | null =>
      obtain rfl : data = [] := List.length_eq_zero_iff.1 (Nat.le_zero.1 hdata)
      exact ⟨0, .null, h⟩
  | block a size bytes hsize hlen =>
      have hlen' : (data ++ bytes.drop data.length).length = size.toNat := by
        rw [List.length_append, List.length_drop, ← hlen]
        omega
      refine ⟨_, .block a size _ hsize hlen', h.memory fun v hv => ?_⟩
      rw [Multiset.singleton_add] at hv ⊢
      exact hv.store hdata

theorem does_write (h : Stands buff bytes p) {data : List UInt8}
    (hdata : data.length = bytes.length) :
    Does act (Good D) (Reify D) (.write buff.data data) p fun _ q => Stands buff data q := by
  intro r w c x w' hw _ hact
  cases c <;> cases hact
  obtain ⟨q, hq, hw'⟩ := hw.write h hdata.le
  rw [hdata, List.drop_length, List.append_nil] at hq
  exact ⟨q, hw', hq⟩

theorem does_recv (h : Stands buff bytes p) (id : ℕ) :
    Does act (Good D) (Reify D) (.recv id buff.data bytes.length) p
      fun n q => (∀ k ∈ n, k ≤ bytes.length) ∧
        ∃ bytes', bytes'.length = bytes.length ∧ Stands buff bytes' q := by
  intro r w c x w' hw _ hact
  cases c with
  | received seg =>
      cases seg with
      | none =>
          cases hact
          exact ⟨p, hw, by simp, bytes, rfl, h⟩
      | some seg =>
          obtain ⟨⟨-, hlen⟩, hact⟩ := Option.ite_none_right_eq_some.1 hact
          cases hact
          obtain ⟨q, hq, hw'⟩ := hw.write h hlen
          refine ⟨q, hw', by simpa using hlen, _, ?_, hq⟩
          rw [List.length_append, List.length_drop]
          omega
  | _ => cases hact

theorem does_memset (h : Stands buff bytes p) (value : UInt8) :
    Does act (Good D) (Reify D) (.memset buff.data value bytes.length) p
      fun _ q => Stands buff (List.replicate bytes.length value) q := by
  intro r w c x w' hw _ hact
  cases c <;> cases hact
  have hlen : (List.replicate bytes.length value).length = bytes.length := List.length_replicate
  obtain ⟨q, hq, hw'⟩ := hw.write h hlen.le
  rw [hlen, List.drop_length, List.append_nil] at hq
  exact ⟨q, hw', hq⟩

/-- Copying from what one buffer owns to all that another one does. -/
theorem does_memcpy {src : Buffer} {old : List UInt8} (h : Stands buff old p)
    (hsrc : Stands src bytes q) (hlen : old.length ≤ bytes.length) :
    Does act (Good D) (Reify D) (.memcpy buff.data src.data old.length) (p + q)
      fun _ p' => ∃ new, Stands buff (bytes.take old.length) new ∧ p' = new + q := by
  intro r w c x w' hw _ hact
  cases c <;> cases hact
  have hload : w.memory.load src.data old.length = some (bytes.take old.length) := by
    have hswap : Reify D (q + (p + r)) w := by rwa [← add_assoc, add_comm q p]
    exact hswap.load hsrc hlen
  have htake : (bytes.take old.length).length = old.length := by
    rw [List.length_take, min_eq_left hlen]
  have hw : Reify D (p + (q + r)) w := by rwa [← add_assoc]
  obtain ⟨new, hnew, hw'⟩ := hw.write h htake.le
  rw [htake, List.drop_length, List.append_nil] at hnew
  refine ⟨new + q, ?_, new, hnew, rfl⟩
  rw [add_assoc]
  simpa only [BlockMemory.memcpy_of_load hload] using hw'

theorem does_read (h : Stands buff bytes p) {n : ℕ} (hn : n ≤ bytes.length) :
    Does act (Good D) (Reify D) (.read buff.data n) p
      fun x q => x = bytes.take n ∧ q = p := by
  intro r w c x w' hw _ hact
  have hload := hw.load h hn
  cases c with
  | nothing =>
      simp only [act, hload] at hact
      cases hact
      exact ⟨p, hw, rfl, rfl⟩
  | _ => cases hact

/-- Bytes of a buffer are handed to the operating system. -/
theorem Reify.hand (h : Reify D (p + r) w) (hstands : Stands buff bytes p)
    {message : List UInt8 → Message} (hmessage : D.allows (message bytes)) :
    Reify D (p + r) (w.hand buff.data bytes.length message) := by
  rw [ServerHeap.hand, h.load hstands le_rfl, List.take_length]
  refine ⟨h.owns, fun msg hmsg => ?_⟩
  rcases List.mem_append.1 hmsg with hmsg | hmsg
  · exact h.sent msg hmsg
  · rw [List.mem_singleton.1 hmsg]
    exact hmessage

theorem does_send (h : Stands buff bytes p) (hbytes : D.send bytes) (socket : ℕ) :
    Does act (Good D) (Reify D) (.send socket buff.data bytes.length) p fun _ q => q = p := by
  intro r w c x w' hw _ hact
  cases c <;> cases hact
  exact ⟨p, hw.hand h hbytes, rfl⟩

theorem does_sendto (h : Stands buff bytes p) (hbytes : D.stream bytes) (ip : Bytes) (port : ℕ) :
    Does act (Good D) (Reify D) (.sendto ip port buff.data bytes.length) p fun _ q => q = p := by
  intro r w c x w' hw _ hact
  cases c <;> cases hact
  exact ⟨p, hw.hand h hbytes, rfl⟩

/-- A packet that is pushed passes what it owns to the queue. -/
theorem does_push {packet : DataPacket} (h : Stands packet.data bytes p) (hbytes : D.stream bytes) :
    Does act (Good D) (Reify D) (.push packet) p fun _ q => q = 0 := by
  intro r w c x w' hw _ hact
  cases c <;> cases hact
  obtain ⟨⟨queued, hqueued, howns⟩, hsent⟩ := hw
  refine ⟨0, ⟨⟨queued ++ [p], ?_, ?_⟩, hsent⟩, rfl⟩
  · exact List.rel_append hqueued (.cons ⟨bytes, hbytes, h⟩ .nil)
  · have hsum : 0 + r + (queued ++ [p]).sum = p + r + queued.sum := by
      rw [List.sum_append, List.sum_singleton]
      abel
    rwa [hsum]

/-- A packet that is taken from the queue brings along what it owns. -/
theorem does_pop :
    Does act (Good D) (Reify D) .pop 0 fun packet q =>
      (packet = none ∧ q = 0) ∨
        ∃ y bytes, packet = some y ∧ D.stream bytes ∧ Stands y.data bytes q := by
  intro r w c x w' hw _ hact
  obtain ⟨⟨queued, hqueued, howns⟩, hsent⟩ := hw
  cases c with
  | nothing =>
      rw [act] at hact
      cases hqueue : w.dataQueue with
      | nil =>
          rw [hqueue] at hact
          cases hact
          exact ⟨0, ⟨⟨queued, hqueued, howns⟩, hsent⟩, .inl ⟨rfl, rfl⟩⟩
      | cons packet rest =>
          rw [hqueue] at hact hqueued
          cases hact
          obtain ⟨cells, others, ⟨bytes, hbytes, hstands⟩, hrest, rfl⟩ :=
            List.forall₂_cons_left_iff.1 hqueued
          refine ⟨cells, ⟨⟨others, hrest, ?_⟩, hsent⟩, .inr ⟨packet, bytes, rfl, hbytes, hstands⟩⟩
          have hsum : cells + r + others.sum = 0 + r + (cells :: others).sum := by
            rw [List.sum_cons]
            abel
          rwa [hsum]
  | _ => cases hact

theorem does_strings (cause : Cause) :
    Does act (Good D) (Reify D) (.strings cause) p
      fun l q => (∀ s ∈ l, D.send s.2) ∧ q = p := by
  intro r w c x w' hw hgood hact
  cases c <;> cases hact
  exact ⟨p, hw, hgood, rfl⟩

/-! ### The functions -/

/-- Going on after a question. -/
theorem ok_ask {o : MemOp} {f : o.Answer → Program α} {Q : α → Cells → Prop}
    (ho : o.asks = true) (hf : ∀ x, Ok D Q (f x) p) :
    Ok D Q (perform o >>= f) p :=
  Safe.bind (Views.safe_perform (does_ask ho)) fun x _ hq => hq ▸ hf x

theorem ok_allocate (size : UInt64) :
    Ok D (fun buff q => ∃ bytes : List UInt8, bytes.length = size.toNat ∧ Stands buff bytes q)
      (allocate .init size) 0 := by
  rw [allocate]
  refine Safe.bind (Views.safe_perform (does_delete .null)) fun _ q hq => ?_
  subst hq
  split
  · next hsize =>
    subst hsize
    exact ⟨[], rfl, .null⟩
  · next hsize =>
    refine Safe.bind (Views.safe_perform (does_new size.toNat)) fun a q hq => ?_
    obtain ⟨bytes, hlen, rfl⟩ := hq
    exact ⟨bytes, hlen, .block a size bytes hsize hlen⟩

theorem ok_release (h : Stands buff bytes p) : Ok D (fun _ q => q = 0) (release buff) p :=
  Safe.bind (Views.safe_perform (does_delete h)) fun _ _ hq => hq

theorem ok_zero (h : Stands buff bytes p) :
    Ok D (fun _ q => Stands buff (List.replicate bytes.length 0) q) (zero buff) p := by
  rw [zero]
  cases h with
  | null => exact .null
  | block a size bytes hsize hlen =>
      have hdoes := does_memset (D := D) (.block a size bytes hsize hlen) 0
      rw [hlen] at hdoes ⊢
      exact Views.safe_perform hdoes

/-- A copy owns an allocation of its own. -/
theorem ok_copy {size : UInt64} (h : Stands buff bytes p) (hsize : size.toNat ≤ bytes.length) :
    Ok D (fun new q => ∃ cells, Stands new (bytes.take size.toNat) cells ∧ q = cells + p)
      (copy buff.data size) p := by
  have hframe := (ok_allocate (D := D) size).frame p
  rw [zero_add] at hframe
  refine Safe.bind hframe fun new q hq => ?_
  obtain ⟨cells, ⟨old, hlen, hnew⟩, rfl⟩ := hq
  have hdoes := does_memcpy (D := D) hnew h (hlen.trans_le hsize)
  rw [hlen] at hdoes
  exact Safe.bind (Views.safe_perform hdoes) fun _ q hq => hq

theorem ok_copyData (bytes : ByteString) :
    Ok D (fun buff q => Stands buff bytes.1 q) (copyData bytes) 0 := by
  refine Safe.bind (ok_allocate _) fun buff q hq => ?_
  obtain ⟨old, hlen, hstands⟩ := hq
  rw [UInt64.toNat_ofNat_of_lt' bytes.2] at hlen
  exact Safe.bind (Views.safe_perform (does_write hstands hlen.symm)) fun _ q hq => hq

/-- A loop whose body keeps the view keeps it. -/
theorem ok_forM {β : Type} {f : β → Program Unit} {l : List β}
    (hf : ∀ b ∈ l, Ok D (fun _ q => q = p) (f b) p) : Ok D (fun _ q => q = p) (l.forM f) p := by
  induction l with
  | nil => exact rfl
  | cons b l ih =>
      show Ok D _ (f b >>= fun _ => l.forM f) p
      refine Safe.bind (hf b List.mem_cons_self) fun _ q hq => ?_
      subst hq
      exact ih fun c hc => hf c (List.mem_cons_of_mem _ hc)

theorem ok_sendBufferToAll (h : Stands buff bytes p) (hbytes : D.send bytes) :
    Ok D (fun _ q => q = 0) (sendBufferToAll buff) p := by
  rw [sendBufferToAll, ← h.length]
  refine ok_ask rfl fun ids => ?_
  refine Safe.bind (Q := fun _ q => q = p) (ok_forM fun id _ => ?_) fun _ q hq => ?_
  · exact Views.safe_perform (does_send h hbytes id)
  · subst hq
    exact Safe.bind (ok_release h) fun _ _ hq => hq

theorem ok_sendBuffer (h : Stands buff bytes p) (hbytes : D.send bytes) (id : ℕ) :
    Ok D (fun _ q => q = 0) (sendBuffer id buff) p := by
  rw [sendBuffer]
  split
  · exact ok_sendBufferToAll h hbytes
  · refine ok_ask rfl fun found => ?_
    split
    · refine ok_ask rfl fun socket => ?_
      rw [← h.length]
      refine Safe.bind (Views.safe_perform (does_send h hbytes socket)) fun _ q hq => ?_
      subst hq
      exact Safe.bind (ok_release h) fun _ _ hq => hq
    · exact Safe.bind (ok_release h) fun _ _ hq => hq

theorem ok_sendString (id : ℕ) (str : ByteString) (hstr : D.send str) :
    Ok D (fun _ q => q = 0) (sendString id str) 0 :=
  Safe.bind (ok_copyData str) fun _ _ hq => ok_sendBuffer hq hstr id

theorem ok_sendStringToAll (str : ByteString) (hstr : D.send str) :
    Ok D (fun _ q => q = 0) (sendStringToAll str) 0 :=
  Safe.bind (ok_copyData str) fun _ _ hq => ok_sendBufferToAll hq hstr

/-- What a packet is made of is the queue's, and what it was copied from is given back. -/
theorem ok_streamTo (h : Stands buff bytes p) (hbytes : D.stream bytes) (ip : Bytes) (port : ℕ) :
    Ok D (fun _ q => q = 0) (streamTo ip port buff) p := by
  rw [streamTo]
  refine Safe.bind (ok_copy h h.length.ge) fun data q hq => ?_
  obtain ⟨cells, hdata, rfl⟩ := hq
  rw [← h.length, List.take_length] at hdata
  have hpush : Does act (Good D) (Reify D) (.push { ip := ip, port := port, data := data })
      (cells + p) fun _ q => ∃ r, r = 0 ∧ q = r + p := (does_push hdata hbytes).frame p
  refine Safe.bind (Views.safe_perform hpush) fun _ q hq => ?_
  obtain ⟨_, rfl, rfl⟩ := hq
  rw [zero_add]
  exact Safe.bind (ok_release h) fun _ _ hq => hq

theorem ok_streamData (h : Stands buff bytes p) (hbytes : D.stream bytes) (id port : ℕ) :
    Ok D (fun _ q => q = 0) (streamData id port buff) p := by
  rw [streamData]
  refine ok_ask rfl fun ip => ?_
  cases ip with
  | none => exact Safe.bind (ok_release h) fun _ _ hq => hq
  | some ip => exact ok_streamTo h hbytes ip port

theorem ok_sendStrings (cause : Cause) : Ok D (fun _ q => q = p) (sendStrings cause) p := by
  refine Safe.bind (Views.safe_perform (does_strings cause)) fun l q hq => ?_
  obtain ⟨hl, rfl⟩ := hq
  refine ok_forM fun s hs => ?_
  have hframe := (ok_sendString s.1 s.2 (hl s hs)).frame q
  rw [zero_add] at hframe
  refine hframe.mono fun _ r hr => ?_
  obtain ⟨_, rfl, rfl⟩ := hr
  exact zero_add q

/-- A copy is made, something is done with it, and the buffer is as before. -/
theorem ok_withCopy (h : Stands buff bytes p) {f : Buffer → Program Unit}
    (hf : ∀ data q, Stands data bytes q → Ok D (fun _ q' => q' = 0) (f data) q) :
    Ok D (fun _ q => q = p) (copy buff.data buff.size >>= f) p := by
  refine Safe.bind (ok_copy h h.length.ge) fun data q hq => ?_
  obtain ⟨cells, hdata, rfl⟩ := hq
  rw [← h.length, List.take_length] at hdata
  refine ((hf data cells hdata).frame p).mono fun _ r hr => ?_
  obtain ⟨_, rfl, rfl⟩ := hr
  exact zero_add p

theorem ok_sendFrame (h : Stands buff bytes p) (hsend : D.send bytes) (client : Option ℕ) :
    Ok D (fun _ q => q = p) (sendFrame buff client) p := by
  cases client with
  | none => exact rfl
  | some id => exact ok_withCopy h fun _ _ hdata => ok_sendBuffer hdata hsend id

theorem ok_onScanFrame (h : Stands buff bytes p) (hstream : D.stream bytes)
    (hsend : D.send bytes) : Ok D (fun _ q => q = 0) (onScanFrame buff) p := by
  rw [onScanFrame]
  refine ok_ask rfl fun target => ?_
  have htarget : Ok D (fun _ q => q = p) (streamFrame buff target) p := by
    cases target with
    | none => exact rfl
    | some target => exact ok_withCopy h fun _ _ hdata => ok_streamTo hdata hstream _ _
  refine Safe.bind htarget fun _ q hq => ?_
  subst hq
  refine ok_ask rfl fun client => ?_
  refine Safe.bind (ok_sendFrame h hsend client) fun _ q hq => ?_
  subst hq
  exact Safe.bind (ok_release h) fun _ _ hq => hq

theorem ok_swapToNetworkOrderInPlace (h : Stands buff bytes p) :
    Ok D (fun _ q => Stands buff (inNetworkOrder bytes) q) (swapToNetworkOrderInPlace buff) p := by
  rw [swapToNetworkOrderInPlace, ← h.length]
  refine Safe.bind (Views.safe_perform (does_read h le_rfl)) fun x q hq => ?_
  obtain ⟨rfl, rfl⟩ := hq
  rw [List.take_length]
  exact Views.safe_perform (does_write h (length_inNetworkOrder bytes))

theorem ok_onLabviewFrame (h : Stands buff bytes p) (hsend : D.send (inNetworkOrder bytes)) :
    Ok D (fun _ q => q = 0) (onLabviewFrame buff) p := by
  rw [onLabviewFrame]
  refine ok_ask rfl fun client => ?_
  cases client with
  | none => exact Safe.bind (ok_release h) fun _ _ hq => hq
  | some id =>
      refine Safe.bind (ok_swapToNetworkOrderInPlace h) fun _ q hq => ?_
      refine Safe.bind (ok_sendFrame hq hsend (some id)) fun _ q' hq' => ?_
      subst hq'
      exact Safe.bind (ok_release hq) fun _ _ hq => hq

theorem ok_onDataReceived (h : Stands buff bytes p) (id : ℕ) :
    Ok D (fun _ q => q = 0) (onDataReceived id buff) p := by
  rw [onDataReceived, ← h.length]
  refine Safe.bind (Views.safe_perform (does_read h le_rfl)) fun cmd q hq => ?_
  obtain ⟨-, rfl⟩ := hq
  split
  · refine Safe.bind (ok_sendStrings _) fun _ q' hq' => ?_
    subst hq'
    exact Safe.bind (ok_release h) fun _ _ hq => hq
  · exact Safe.bind (ok_release h) fun _ _ hq => hq

theorem ok_onTCPBinaryDataReceived (h : Stands buff bytes p) :
    Ok D (fun _ q => q = 0) (onTCPBinaryDataReceived buff) p := by
  rw [onTCPBinaryDataReceived]
  refine ok_ask rfl fun device => ?_
  split
  · next hsize =>
    have hone : 1 ≤ bytes.length := by
      rw [h.length]
      exact UInt64.le_iff_toNat_le.1 hsize.2
    refine Safe.bind (Views.safe_perform (does_read h hone)) fun val q hq => ?_
    obtain ⟨-, rfl⟩ := hq
    split
    · refine Safe.bind (ok_sendStrings _) fun _ q' hq' => ?_
      subst hq'
      exact Safe.bind (ok_release h) fun _ _ hq => hq
    · exact Safe.bind (ok_release h) fun _ _ hq => hq
  · exact Safe.bind (ok_release h) fun _ _ hq => hq

/-! ### The threads -/

/-- What a block is entered with. -/
def Entered (D : Supply) : Block → Cells → Prop
  | .receive _ _ buf, p => ∃ bytes, Stands buf bytes p
  | .scanFrame labview packet, p =>
      p = 0 ∧ (∀ b ∈ labview, D.send (inNetworkOrder b)) ∧ ∀ b ∈ packet, D.stream b ∧ D.send b
  | .toAll str, p => p = 0 ∧ D.send str
  | .streamData _ _ bytes, p => p = 0 ∧ D.stream bytes
  | _, p => p = 0

/-- The frames and strings that a block begins with may be sent where they go. -/
def Begins (D : Supply) : Block → Prop
  | .scanFrame labview packet =>
      (∀ b ∈ labview, D.send (inNetworkOrder b)) ∧ ∀ b ∈ packet, D.stream b ∧ D.send b
  | .toAll str => D.send str
  | .streamData _ _ bytes => D.stream bytes
  | _ => True

theorem ok_dataReceivedCallback (h : Stands buff bytes p) (port : Port) (id : ℕ) :
    Ok D (fun _ q => q = 0) (dataReceivedCallback port id buff) p := by
  cases port with
  | control => exact ok_onDataReceived h id
  | binary => exact ok_onTCPBinaryDataReceived h

theorem ok_handOut {callback : Buffer → Program Unit} {frame : Option ByteString}
    (hcallback : ∀ b ∈ frame, ∀ buf q, Stands buf b.1 q →
      Ok D (fun _ q => q = 0) (callback buf) q) :
    Ok D (fun _ q => q = 0) (handOut callback frame) 0 := by
  cases frame with
  | none => exact rfl
  | some b => exact Safe.bind (ok_copyData b) fun buf q hq => hcallback b rfl buf q hq

theorem ok_leave (h : Stands buff bytes p) :
    Ok D (Views.Ends (Entered D)) (leave buff) p :=
  Safe.bind (ok_release h) fun _ _ hq => hq

/-- A turn of the loop of `HandleConnectionThreadFn` keeps the receive buffer or gives it back. -/
theorem ok_receive (port : Port) (id : ℕ) (h : Stands buff bytes p) :
    Ok D (Views.Ends (Entered D)) (code (.receive port id buff)) p := by
  rw [code]
  refine ok_ask rfl fun running => ?_
  cases running with
  | false => exact ok_leave h
  | true =>
      refine Safe.bind (ok_zero h) fun _ q hq => ?_
      refine ok_ask rfl fun found => ?_
      cases found with
      | false => exact ok_leave hq
      | true =>
          have hrecv := does_recv (D := D) hq id
          rw [List.length_replicate, h.length] at hrecv
          refine Safe.bind (Views.safe_perform hrecv) fun read q' hq' => ?_
          obtain ⟨hread, bytes', hlen, hbuff⟩ := hq'
          cases read with
          | none => exact ok_leave hbuff
          | some n =>
              have hn : n ≤ buff.size.toNat := hread n rfl
              have hfits : (UInt64.ofNat n).toNat = n :=
                UInt64.toNat_ofNat_of_lt' (hn.trans_lt buff.size.toNat_lt)
              have hcopy : (UInt64.ofNat n).toNat ≤ bytes'.length := by rw [hfits, hlen]; exact hn
              refine Safe.bind (ok_copy hbuff hcopy) fun data r hr => ?_
              obtain ⟨cells, hdata, rfl⟩ := hr
              refine Safe.bind ((ok_dataReceivedCallback hdata port id).frame q') fun _ r hr => ?_
              obtain ⟨_, rfl, rfl⟩ := hr
              exact ⟨bytes', by rwa [zero_add]⟩

/-- **Every block keeps to what it owns.** -/
theorem verified (D : Supply) :
    Views.Verified act (Good D) (Reify D) code Block.entry (Begins D) (Entered D) where
  entry l hentry hbegins := by
    cases l with
    | receive port id buf => cases hentry
    | scanFrame labview packet => exact ⟨rfl, hbegins⟩
    | toAll str => exact ⟨rfl, hbegins⟩
    | streamData id port bytes => exact ⟨rfl, hbegins⟩
    | _ => rfl
  code l p hp := by
    cases l with
    | handleConnection port id =>
        obtain rfl : p = 0 := hp
        refine Safe.bind (ok_allocate _) fun buf q hq => ?_
        obtain ⟨bytes, -, hstands⟩ := hq
        exact ⟨bytes, hstands⟩
    | receive port id buf =>
        obtain ⟨bytes, hstands⟩ := hp
        exact ok_receive port id hstands
    | dataStream =>
        obtain rfl : p = 0 := hp
        rw [code]
        refine ok_ask rfl fun running => ?_
        cases running with
        | false => exact rfl
        | true =>
            refine Safe.bind (Views.safe_perform does_pop) fun packet q hq => ?_
            rcases hq with ⟨rfl, rfl⟩ | ⟨packet, bytes, rfl, hbytes, hstands⟩
            · exact rfl
            · have hsend := does_sendto hstands hbytes packet.ip packet.port
              rw [hstands.length] at hsend
              refine Safe.bind (Views.safe_perform hsend) fun _ r hr => ?_
              subst hr
              exact Safe.bind (ok_release hstands) fun _ _ hq => hq
    | scanFrame labview packet =>
        obtain ⟨rfl, hlabview, hpacket⟩ := hp
        rw [code]
        refine Safe.bind (ok_handOut fun b hb buf q hq => ok_onLabviewFrame hq (hlabview b hb))
          fun _ q hq => ?_
        subst hq
        exact Safe.bind (ok_handOut fun b hb buf q hq =>
          ok_onScanFrame hq (hpacket b hb).1 (hpacket b hb).2) fun _ _ hq => hq
    | strings cause =>
        obtain rfl : p = 0 := hp
        exact Safe.bind (ok_sendStrings cause) fun _ _ hq => hq
    | toAll str =>
        obtain ⟨rfl, hstr⟩ := hp
        exact Safe.bind (ok_sendStringToAll str hstr) fun _ _ hq => hq
    | streamData id port bytes =>
        obtain ⟨rfl, hbytes⟩ := hp
        refine Safe.bind (ok_copyData bytes) fun buf q hq => ?_
        exact Safe.bind (ok_streamData hq hbytes id port) fun _ _ hq => hq

/-! ### All threads -/

variable {ι : Type*}

/-- The threads and the queue own what is allocated. -/
abbrev Owned [Fintype ι] (D : Supply) (s : Threads ι) : Prop :=
  Views.Owned act (Good D) (Reify D) (Entered D) s

theorem owned_start [Fintype ι] (D : Supply) : Owned D (start ι) := by
  refine Views.owned_idle ⟨⟨[], .nil, ?_⟩, by simp⟩
  rw [List.sum_nil, add_zero]
  exact BlockMemory.owns_zero (fun _ => rfl) rfl

theorem owned_throughout [Fintype ι] [DecidableEq ι] (D : Supply) (as : List (Action ι))
    (has : ∀ a ∈ as, a.Ok (Good D) (Begins D)) : Runs.Throughout step (Owned D) (start ι) as :=
  Views.owned_throughout (verified D) (owned_start D) has

/-- Everything may be sent. -/
def anything : Supply := { stream := fun _ => True, send := fun _ => True }

theorem ok_anything (a : Action ι) : a.Ok (Good anything) (Begins anything) := by
  cases a with
  | start i l => cases l <;> simp [Views.Action.Ok, Begins, anything]
  | turn i c => cases c <;> simp [Views.Action.Ok, Good, anything]

/-- **In no interleaving of the threads is an allocation of a buffer given back twice or used after
that, and no access goes beyond it**, whatever is received, sent and answered. -/
theorem no_memory_fault [Fintype ι] [DecidableEq ι] (as : List (Action ι)) :
    Runs.Throughout step (fun s => s.state.memory.fault = false) (start ι) as := by
  refine (owned_throughout anything as fun a _ => ok_anything a).mono fun s h => ?_
  obtain ⟨_, -, hreify⟩ := h
  obtain ⟨_, -, howns⟩ := hreify.owns
  exact howns.inBounds

/-- Every thread is between two blocks, or idle. -/
def AtRest (s : Threads ι) : Prop := ∀ i, ∀ rest ∈ s.thread i, ∃ next, rest = .done next

/-- The allocation belongs to a packet in the queue, or is the receive buffer of a handler. -/
def Held (s : Threads ι) (a : ℕ) : Prop :=
  (∃ packet ∈ s.state.dataQueue, packet.data.data = some a) ∨
    ∃ i port id buf, s.thread i = some (.done (some (.receive port id buf))) ∧ buf.data = some a

theorem Stands.mem_iff (h : Stands buff bytes p) (a : ℕ) :
    (∃ b, (a, b) ∈ p) ↔ buff.data = some a := by
  cases h with
  | null => simp [Buffer.init]
  | block b size bytes hsize hlen => simp [eq_comm]

/-- The cells of the queue are those of its packets. -/
theorem mem_queued_iff {queue : List DataPacket} {queued : List Cells}
    (h : List.Forall₂ (Queued D) queue queued) (a : ℕ) :
    (∃ b, (a, b) ∈ queued.sum) ↔ ∃ packet ∈ queue, packet.data.data = some a := by
  induction h with
  | nil => simp
  | cons hfirst _ ih =>
      obtain ⟨bytes, -, hstands⟩ := hfirst
      simp only [List.sum_cons, Multiset.mem_add, exists_or, List.mem_cons, exists_eq_or_imp, ih,
        hstands.mem_iff]

/-- The cells of a thread between two blocks are those of its receive buffer. -/
theorem mem_view_iff {rest : Option (Program (Option Block))}
    (h : Views.Holds act (Good D) (Reify D) (Entered D) rest p)
    (hrest : ∀ c ∈ rest, ∃ next, c = .done next) (a : ℕ) :
    (∃ b, (a, b) ∈ p) ↔
      ∃ port id buf, rest = some (.done (some (.receive port id buf))) ∧ buf.data = some a := by
  have hzero : p = 0 → ((∃ b, (a, b) ∈ p) ↔ False) := by
    rintro rfl
    simp
  cases rest with
  | none => simpa using hzero h
  | some c =>
      obtain ⟨next, rfl⟩ := hrest c rfl
      cases next with
      | none => simpa using hzero h
      | some l =>
          cases l with
          | receive port id buf =>
              obtain ⟨bytes, hstands⟩ := h
              rw [hstands.mem_iff]
              simp
          | scanFrame labview packet => simpa using hzero h.1
          | toAll str => simpa using hzero h.1
          | streamData id port bytes => simpa using hzero h.1
          | _ => simpa using hzero h

/-- **Whenever all threads are between blocks, what is allocated is what the packets in the queue
and the receive buffers of the handlers hold**: nothing else has been kept.  The queue goes with the
server, whose destructor gives no packet back. -/
theorem live_iff_held [Fintype ι] [DecidableEq ι] (as : List (Action ι)) :
    Runs.Throughout step
      (fun s => AtRest s → ∀ a, (s.state.memory.block a).isSome = true ↔ Held s a)
      (start ι) as := by
  refine (owned_throughout anything as fun a _ => ok_anything a).mono fun s h hrest a => ?_
  obtain ⟨view, hview, hreify⟩ := h
  obtain ⟨queued, hqueued, howns⟩ := hreify.owns
  rw [howns.isSome_block_iff]
  simp only [Multiset.mem_add, exists_or, Multiset.mem_sum, Finset.mem_univ, true_and]
  rw [mem_queued_iff hqueued, or_comm, Held]
  refine or_congr_right ?_
  rw [exists_comm]
  exact exists_congr fun i => mem_view_iff (hview i) (hrest i) a

/-- What the run was supplied with: the packets of the scan thread and the bytes for `StreamData`
may be streamed; the packets, the LabVIEW frames in network order and the strings may be sent to
clients. -/
def supplied (as : List (Action ι)) : Supply where
  stream bytes := ∃ b : ByteString, b.1 = bytes ∧
    ((∃ i labview, .start i (.scanFrame labview (some b)) ∈ as) ∨
      ∃ i id port, .start i (.streamData id port b) ∈ as)
  send bytes := ∃ b : ByteString,
    (inNetworkOrder b.1 = bytes ∧ ∃ i packet, .start i (.scanFrame (some b) packet) ∈ as) ∨
      (b.1 = bytes ∧ ((∃ i labview, .start i (.scanFrame labview (some b)) ∈ as) ∨
        (∃ i, .start i (.toAll b) ∈ as) ∨
        ∃ i id l, .turn i (.strings l) ∈ as ∧ (id, b) ∈ l))

theorem ok_supplied {as : List (Action ι)} {a : Action ι} (ha : a ∈ as) :
    a.Ok (Good (supplied as)) (Begins (supplied as)) := by
  cases a with
  | start i l =>
      cases l with
      | scanFrame labview packet =>
          refine ⟨fun b hb => ?_, fun b hb => ⟨?_, ?_⟩⟩
          · subst hb
            exact ⟨b, .inl ⟨rfl, i, packet, ha⟩⟩
          · subst hb
            exact ⟨b, rfl, .inl ⟨i, labview, ha⟩⟩
          · subst hb
            exact ⟨b, .inr ⟨rfl, .inl ⟨i, labview, ha⟩⟩⟩
      | toAll str => exact ⟨str, .inr ⟨rfl, .inr (.inl ⟨i, ha⟩)⟩⟩
      | streamData id port bytes => exact ⟨bytes, rfl, .inr ⟨i, id, port, ha⟩⟩
      | _ => trivial
  | turn i c =>
      cases c with
      | strings l => exact fun s hs => ⟨s.2, .inr ⟨rfl, .inr (.inr ⟨i, s.1, l, ha, hs⟩)⟩⟩
      | _ => trivial

/-- **What is sent is what the run was supplied with, byte for byte**: no buffer is changed between
the thread that fills it and the one that sends it. -/
theorem sent_is_supplied [Fintype ι] [DecidableEq ι] (as : List (Action ι)) :
    Runs.Throughout step (fun s => ∀ msg ∈ s.state.sent, (supplied as).allows msg)
      (start ι) as := by
  refine (owned_throughout (supplied as) as fun a ha => ok_supplied ha).mono fun s h => ?_
  obtain ⟨_, -, hreify⟩ := h
  exact hreify.sent

end HeapServer
