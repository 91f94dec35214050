/-
**The active client and the map of connections.**

A port should have one client: the layer records its id, and the server's map has that id and no
other, except for a connection whose connect callback has still to run.  The two are written by
different threads, and three things bring them apart.

* A thread that has found an id in the map and then indexes the map with it puts the id back if a
  kick came between.
* A handler may kick its connection before the connect callback has run; the callback then records
  a client that is gone.
* The id 0 stands for no client, and a connection may get it.

`active_clients_throughout` says that nothing else does: in every run without these steps the two
agree on both ports whenever no `KickClient` and no connect callback is half executed.  The
invariant `Registered` speaks of all states: an id that is being kicked may still be in the map, and
may not be the active one.
-/

import MpsEmulator.Emulator

set_option relaxedAutoImplicit false
set_option autoImplicit false

namespace MpsEmulator

/-! ### What should hold -/

/-- The accept thread is not within the connect callback. -/
def AcceptThread.settled : AcceptThread → Bool
  | .kicking .. | .recording .. => false
  | _ => true

/-- No `KickClient` and no connect callback of the server is half executed. -/
def Server.Settled (srv : Server) : Prop :=
  (∀ n, n < srv.accepted →
      srv.handler n ≠ .kicking .erase ∧ srv.handler n ≠ .kicking .close) ∧
    srv.acceptThread.settled = true

instance (srv : Server) : Decidable srv.Settled :=
  inferInstanceAs (Decidable ((∀ n, n < srv.accepted → _) ∧ _))

/-- The connection in the map whose connect callback has not run yet. -/
def AcceptThread.unannounced : AcceptThread → Option ℕ
  | .inserted id | .enqueued id => some id
  | _ => none

/-- The layer's record of a client and the map of the server agree. -/
def ActiveClientOk (srv : Server) (c : ActiveClient) : Prop :=
  (c.connected = true ↔ c.id ≠ 0) ∧
    (c.connected = true → (srv.connections c.id).isSome = true) ∧
    ∀ k, (srv.connections k).isSome = true →
      (c.connected = true ∧ k = c.id) ∨ srv.acceptThread.unannounced = some k

/-- On both ports the record and the map agree, unless something is half executed. -/
def Emulator.ActiveClientsOk (s : Emulator) : Prop :=
  ∀ p, (s.server p).Settled → ActiveClientOk (s.server p) (s.layer.client p)

/-! ### The steps that keep it -/

/-- The stage at which the id is about to be erased from the map. -/
def KickStage.erasing : KickStage → Bool
  | .erase => true
  | _ => false

/-- A `KickClient` for the id has run its callback and is about to erase it from the map. -/
abbrev Server.erasing (srv : Server) (id : ℕ) : Prop := srv.within KickStage.erasing id

/-- The id that the connect callback is about to record. -/
def AcceptThread.recorded : AcceptThread → Option ℕ
  | .recording id _ => some id
  | _ => none

/-- The step of the server accepts no id 0, indexes the map only with an id that is there, and
records a client only if it is in the map and no kick is about to erase it. -/
def Server.KeepsClient (srv : Server) : ServerAction → Prop
  | .accept id => id ≠ 0
  | .acceptThread =>
      ∀ id ∈ srv.acceptThread.recorded, (srv.connections id).isSome = true ∧ ¬ srv.erasing id
  | .handler n => srv.handler n = .index → (srv.connections (srv.handle n)).isSome = true
  | .sendIndex id => (srv.connections id).isSome = true
  | _ => True

instance (srv : Server) : ∀ a, Decidable (srv.KeepsClient a)
  | .accept id => inferInstanceAs (Decidable (id ≠ 0))
  | .acceptThread => inferInstanceAs (Decidable (∀ id ∈ srv.acceptThread.recorded, _ ∧ ¬ _))
  | .handler _ => inferInstanceAs (Decidable (_ → _))
  | .sendIndex id => inferInstanceAs (Decidable ((srv.connections id).isSome = true))
  | .start | .recvData .. | .recvEnd _ | .sendFind _ => inferInstanceAs (Decidable True)

/-- The step of the emulator is none of those that bring the record and the map apart. -/
def KeepsClients (s : Emulator) : EmulatorAction → Prop
  | .server p _ a => (s.server p).KeepsClient a
  | .scanThread _ => True

instance (s : Emulator) : ∀ b, Decidable (KeepsClients s b)
  | .server p _ a => inferInstanceAs (Decidable ((s.server p).KeepsClient a))
  | .scanThread _ => inferInstanceAs (Decidable True)

/-! ### The invariant -/

/-- The connection in the map that the layer has not recorded yet. -/
def AcceptThread.pending : AcceptThread → Option ℕ
  | .inserted id | .enqueued id | .kicking id _ _ | .recording id _ => some id
  | _ => none

/-- The map has the active client, which nobody is about to erase, and besides it only the pending
connection and ids that are about to be erased. -/
structure Registered (connections : ℕ → Option ClientInfo) (erasing : ℕ → Prop)
    (pending : Option ℕ) (c : ActiveClient) : Prop where
  connected_iff : c.connected = true ↔ c.id ≠ 0
  active : c.id ≠ 0 → (connections c.id).isSome = true ∧ ¬ erasing c.id
  keys : ∀ k, (connections k).isSome = true → k = c.id ∨ pending = some k ∨ erasing k
  zero : connections 0 = none

section Registered

variable {connections : ℕ → Option ClientInfo} {erasing erasing' : ℕ → Prop} {pending : Option ℕ}
  {c : ActiveClient} {id : ℕ}

theorem Registered.of_eq (h : Registered connections erasing pending c)
    (herasing : erasing' = erasing) : Registered connections erasing' pending c := by
  rwa [herasing]

/-- The disconnect callback of a kick: the id is not the active one any more. -/
theorem Registered.callback (h : Registered connections erasing pending c)
    (herasing : ∀ k, erasing' k ↔ erasing k ∨ k = id) :
    Registered connections erasing' pending (Effect.client c (.disconnected id)) := by
  simp only [Effect.client]
  by_cases hid : id = c.id
  · rw [if_pos hid]
    refine ⟨by simp [ActiveClient.none], by simp [ActiveClient.none], ?_, h.zero⟩
    intro k hk
    obtain rfl | hpending | herase := h.keys k hk
    · exact Or.inr (Or.inr ((herasing _).2 (Or.inr hid.symm)))
    · exact Or.inr (Or.inl hpending)
    · exact Or.inr (Or.inr ((herasing _).2 (Or.inl herase)))
  · rw [if_neg hid]
    refine ⟨h.connected_iff, ?_, ?_, h.zero⟩
    · intro hne
      obtain ⟨hsome, hnot⟩ := h.active hne
      refine ⟨hsome, fun herase => ?_⟩
      obtain herase | heq := (herasing _).1 herase
      · exact hnot herase
      · exact hid heq.symm
    · intro k hk
      obtain heq | hpending | herase := h.keys k hk
      · exact Or.inl heq
      · exact Or.inr (Or.inl hpending)
      · exact Or.inr (Or.inr ((herasing _).2 (Or.inl herase)))

/-- The erasure of a kick: the active client is another one. -/
theorem Registered.erase (h : Registered connections erasing pending c) (hid : erasing id)
    (hle : ∀ k, erasing' k → erasing k) (hge : ∀ k, erasing k → k = id ∨ erasing' k) :
    Registered (Function.update connections id none) erasing' pending c where
  connected_iff := h.connected_iff
  active := by
    intro hne
    obtain ⟨hsome, hnot⟩ := h.active hne
    have hother : c.id ≠ id := by
      rintro rfl
      exact hnot hid
    exact ⟨by rwa [Function.update_of_ne hother], fun herase => hnot (hle _ herase)⟩
  keys := by
    intro k hk
    by_cases hkid : k = id
    · simp [hkid] at hk
    · rw [Function.update_of_ne hkid] at hk
      obtain heq | hpending | herase := h.keys k hk
      · exact Or.inl heq
      · exact Or.inr (Or.inl hpending)
      · exact Or.inr (Or.inr ((hge k herase).resolve_left hkid))
  zero := by
    by_cases hzero : 0 = id
    · simp [hzero]
    · rw [Function.update_of_ne hzero]
      exact h.zero

/-- The insertion of a connection. -/
theorem Registered.insert (h : Registered connections erasing none c) (hid : id ≠ 0) :
    Registered (Function.update connections id (some { id := id })) erasing (some id) c where
  connected_iff := h.connected_iff
  active := by
    intro hne
    refine ⟨?_, (h.active hne).2⟩
    by_cases hother : c.id = id
    · simp [hother]
    · rw [Function.update_of_ne hother]
      exact (h.active hne).1
  keys := by
    intro k hk
    by_cases hkid : k = id
    · exact Or.inr (Or.inl (by rw [hkid]))
    · rw [Function.update_of_ne hkid] at hk
      obtain heq | hpending | herase := h.keys k hk
      · exact Or.inl heq
      · cases hpending
      · exact Or.inr (Or.inr herase)
  zero := by
    rw [Function.update_of_ne hid.symm]
    exact h.zero

/-- Nothing is left to record once the pending connection is the active client. -/
theorem Registered.announced (h : Registered connections erasing (some id) c) (hid : id = c.id) :
    Registered connections erasing none c where
  connected_iff := h.connected_iff
  active := h.active
  keys := by
    intro k hk
    obtain heq | hpending | herase := h.keys k hk
    · exact Or.inl heq
    · exact Or.inl ((Option.some_inj.1 hpending).symm.trans hid)
    · exact Or.inr (Or.inr herase)
  zero := h.zero

/-- The recording of a client when there is none. -/
theorem Registered.record (h : Registered connections erasing (some id) c)
    (hidle : c.connected = false) (hid : (connections id).isSome = true) (hnot : ¬ erasing id) :
    Registered connections erasing none { id := id, connected := true } := by
  have hzero : id ≠ 0 := by
    rintro rfl
    simp [h.zero] at hid
  refine ⟨iff_of_true rfl hzero, fun _ => ⟨hid, hnot⟩, ?_, h.zero⟩
  intro k hk
  obtain rfl | hpending | herase := h.keys k hk
  · -- there is no client, so its id is 0, which is not in the map
    have hcid : c.id = 0 := by
      by_contra hne
      simp [h.connected_iff.2 hne] at hidle
    rw [hcid, h.zero] at hk
    cases hk
  · exact Or.inl (Option.some_inj.1 hpending).symm
  · exact Or.inr (Or.inr herase)

end Registered

/-- Indexing the map with an id that is there changes nothing. -/
theorem indexed_of_isSome {connections : ℕ → Option ClientInfo} {id : ℕ}
    (hid : (connections id).isSome = true) : indexed connections id = connections := by
  obtain ⟨info, hinfo⟩ := Option.isSome_iff_exists.1 hid
  rw [indexed, hinfo, Option.getD_some, ← hinfo, Function.update_eq_self]

/-- The invariant of a server and the active client of its port. -/
structure Server.Tracks (srv : Server) (c : ActiveClient) : Prop where
  registered : Registered srv.connections srv.erasing srv.acceptThread.pending c
  nonzero : ∀ id, srv.acceptThread.id = some id → id ≠ 0

variable {srv srv' : Server} {client : ActiveClient} {sockets : ℕ → Option Connection}
  {a : ServerAction} {e : Effect}

/-- What leaves the map, the erasures and the pending connection alone keeps the invariant. -/
theorem Server.Tracks.same (ht : srv.Tracks client) (hconn : srv'.connections = srv.connections)
    (herasing : srv'.erasing = srv.erasing)
    (hpending : srv'.acceptThread.pending = srv.acceptThread.pending)
    (hid : ∀ id, srv'.acceptThread.id = some id → id ≠ 0) : srv'.Tracks client where
  registered := by
    rw [hconn, herasing, hpending]
    exact ht.registered
  nonzero := hid

/-- **A step that keeps the client keeps the invariant.** -/
theorem ServerStep.tracks (hw : srv.WellFormed client) (ht : srv.Tracks client)
    (h : ServerStep srv client sockets a srv' e) (hkeep : srv.KeepsClient a) :
    srv'.Tracks (e.client client) := by
  have hr := ht.registered
  have hz := ht.nonzero
  cases h with
  | accept id hpc hid =>
      refine ht.same rfl ?_ (by rw [hpc]; rfl) ?_
      · exact Server.within_of_accept hw rfl rfl rfl (by rw [hpc]; rfl)
      · intro id' hid'
        rw [← Option.some_inj.1 hid']
        exact hkeep
  | insert id hpc =>
      have hid : id ≠ 0 := hz id (by rw [hpc]; rfl)
      rw [hpc] at hr
      refine ⟨(hr.insert hid).of_eq ?_, fun id' hid' => hz id' (by rw [hpc]; exact hid')⟩
      exact Server.within_of_thread rfl rfl rfl (by rw [hpc]; rfl)
  | enqueue id hpc =>
      have habsent : srv.handler (srv.accepted - 1) = .absent :=
        hw.absent _ (by simp [Server.enqueued, hpc])
      refine ht.same rfl ?_ (by rw [hpc]; rfl) (fun id' hid' => hz id' (by rw [hpc]; exact hid'))
      exact Server.within_of_moved (by rw [habsent]; rfl) rfl rfl rfl (by rw [hpc]; rfl)
  | connect id hpc =>
      have hid : id ≠ 0 := hz id (by rw [hpc]; rfl)
      obtain ⟨heq, hb⟩ | ⟨-, -, hb⟩ | ⟨-, -, hb⟩ := connectBranch_cases client id
      · rw [hpc] at hr
        refine ⟨?_, by simp [hb, AcceptThread.id]⟩
        rw [hb]
        refine (hr.announced heq).of_eq ?_
        exact Server.within_of_thread rfl rfl rfl (by rw [hpc]; rfl)
      · rw [hb]
        refine ht.same rfl ?_ (by rw [hpc]; rfl) (by simp [AcceptThread.id, hid])
        exact Server.within_of_thread rfl rfl rfl (by rw [hpc]; rfl)
      · rw [hb]
        refine ht.same rfl ?_ (by rw [hpc]; rfl) (by simp [AcceptThread.id, hid])
        exact Server.within_of_thread rfl rfl rfl (by rw [hpc]; rfl)
  | connectKick id old stage stage' hpc hnext =>
      have hid : id ≠ 0 := hz id (by rw [hpc]; rfl)
      rw [hpc] at hr
      cases stage with
      | callback =>
          obtain rfl : stage' = .erase := (Option.some_inj.1 hnext).symm
          have hold : srv.acceptThread.within KickStage.erasing = none := by rw [hpc]; rfl
          refine ⟨hr.callback ?_, by simp [AcceptThread.id, hid]⟩
          exact Server.within_of_connectEnter hold rfl
      | erase =>
          obtain rfl : stage' = .close := (Option.some_inj.1 hnext).symm
          have hold : srv.acceptThread.within KickStage.erasing = some old := by rw [hpc]; rfl
          obtain ⟨hle, hge⟩ := Server.within_of_connectLeave (t := .kicking id old .close) hold rfl
          exact ⟨hr.erase (Or.inr hold) hle hge, by simp [AcceptThread.id, hid]⟩
      | close => cases hnext
  | connectClose id old hpc =>
      refine ht.same rfl ?_ (by rw [hpc]; rfl) (fun id' hid' => hz id' (by rw [hpc]; exact hid'))
      exact Server.within_of_thread rfl rfl rfl (by rw [hpc]; rfl)
  | record id kicked hpc =>
      have hknows := hw.knows
      obtain ⟨hid, hnot⟩ := hkeep id (by rw [hpc]; rfl)
      rw [hpc] at hr hknows
      refine ⟨(hr.record hknows hid hnot).of_eq ?_, by simp [AcceptThread.id]⟩
      exact Server.within_of_thread rfl rfl rfl (by rw [hpc]; rfl)
  | loop a n started running h e ha hold hnew horigin he =>
      have hclient : e.client client = client := by
        obtain rfl | ⟨o, seg, -, -, rfl⟩ := he <;> rfl
      have hout : h.within KickStage.erasing = false := by
        obtain hloop | rfl := hnew
        · exact Handler.within_of_inLoop hloop
        · rfl
      rw [hclient]
      refine ht.same rfl (Server.within_of_moved ?_ rfl rfl rfl rfl) rfl hz
      rw [hout, Handler.within_of_inLoop hold]
  | index n hn =>
      refine ht.same (indexed_of_isSome (hkeep hn)) ?_ rfl hz
      exact Server.within_of_moved (by rw [hn]; rfl) rfl rfl rfl rfl
  | kick n stage stage' hn hnext =>
      have hlt : n < srv.accepted := hw.lt_accepted (by simp [hn])
      cases stage with
      | callback =>
          obtain rfl : stage' = .erase := (Option.some_inj.1 hnext).symm
          have hold : (srv.handler n).within KickStage.erasing = false := by rw [hn]; rfl
          exact ⟨hr.callback (Server.within_of_enter hlt hold rfl), hz⟩
      | erase =>
          obtain rfl : stage' = .close := (Option.some_inj.1 hnext).symm
          have hold : srv.erasing (srv.handle n) := Or.inl ⟨n, hlt, by rw [hn]; rfl, rfl⟩
          have hnew : (Handler.kicking .close).within KickStage.erasing = false := rfl
          obtain ⟨hle, hge⟩ := Server.within_of_leave hnew
          exact ⟨hr.erase hold hle hge, hz⟩
      | close => cases hnext
  | close n hn =>
      refine ht.same rfl ?_ rfl hz
      exact Server.within_of_moved (by rw [hn]; rfl) rfl rfl rfl rfl
  | sendFind id =>
      exact ht.same rfl (Server.within_of_thread rfl rfl rfl rfl) rfl hz
  | sendIndex id =>
      exact ht.same (indexed_of_isSome hkeep) (Server.within_of_thread rfl rfl rfl rfl) rfl hz

/-- What is left of the invariant when nothing is half executed. -/
theorem Server.Tracks.activeClientOk (ht : srv.Tracks client) (hsettled : srv.Settled) :
    ActiveClientOk srv client := by
  obtain ⟨hhandlers, hthread⟩ := hsettled
  obtain ⟨hconn, hactive, hkeys, hzero⟩ := ht.registered
  have hnot : ∀ k, ¬ srv.erasing k := by
    rintro k (⟨n, hn, hkick, -⟩ | herase)
    · obtain ⟨herase, -⟩ := hhandlers n hn
      cases hpc : srv.handler n <;> simp_all [Handler.within]
      rename_i stage
      cases stage <;> simp_all [KickStage.erasing]
    · cases hpc : srv.acceptThread <;> simp_all [AcceptThread.within, AcceptThread.settled]
  have hpending : srv.acceptThread.pending = srv.acceptThread.unannounced := by
    cases hpc : srv.acceptThread <;>
      simp_all [AcceptThread.pending, AcceptThread.unannounced, AcceptThread.settled]
  refine ⟨hconn, fun h => (hactive (hconn.1 h)).1, fun k hk => ?_⟩
  obtain rfl | hk' | herase := hkeys k hk
  · refine Or.inl ⟨hconn.2 ?_, rfl⟩
    intro hid
    rw [hid, hzero] at hk
    cases hk
  · exact Or.inr (by rwa [← hpending])
  · exact absurd herase (hnot k)

/-! ### Runs -/

variable {E : Env}

/-- The invariant of the emulator. -/
structure Emulator.Tracks (s : Emulator) : Prop where
  wellFormed : s.WellFormed
  server : ∀ p, (s.server p).Tracks (s.layer.client p)

theorem Emulator.tracks_start (deviceId : MpsDeviceID) (serialNumber : ℕ) (enableConsole : Bool) :
    (Emulator.start deviceId serialNumber enableConsole).Tracks where
  wellFormed := Emulator.wellFormed_start deviceId serialNumber enableConsole
  server := by
    intro p
    have hclient : (Emulator.start deviceId serialNumber enableConsole).layer.client p = .none := by
      cases p <;> rfl
    rw [hclient]
    refine ⟨⟨by simp [ActiveClient.none], by simp [ActiveClient.none], ?_, rfl⟩, ?_⟩
    · simp [Emulator.start, Server.start]
    · simp [Emulator.start, Server.start, AcceptThread.id]

theorem Emulator.Tracks.step {s s' : Emulator} {b : EmulatorAction} (ht : s.Tracks)
    (hkeep : KeepsClients s b) (h : Emulator.step E s b = some s') : s'.Tracks where
  wellFormed := ht.wellFormed.step h
  server := by
    intro q
    obtain ⟨x, a, e, rfl, hstep, hclient, -⟩ | ⟨-, hserver, hclient⟩ := Emulator.step_port h q
    · rw [hclient]
      exact hstep.tracks (ht.wellFormed.server q) (ht.server q) hkeep
    · rw [hserver, hclient]
      exact ht.server q

/-- A client is superseded by another one, and its handler kicks it once more. -/
def superseded : List EmulatorAction :=
  accepting .control 5 4 ++ serving .control 0 ++ accepting .control 6 7 ++
    [.on .control (.recvEnd 0)] ++ leaving .control 0 ++ serving .control 1

/-- A frame is sent to the active client of the binary port while it disconnects. -/
def sendWhileLeaving : List EmulatorAction :=
  accepting .binary 5 4 ++ serving .binary 0 ++
    [.on .binary (.sendFind 5), .on .binary (.recvEnd 0)] ++ leaving .binary 0 ++
    [.on .binary (.sendIndex 5)]

end MpsEmulator
