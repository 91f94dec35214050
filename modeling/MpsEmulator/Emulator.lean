/-
**The emulator: two servers, the layer between them, and the sockets of the process.**

The callbacks of both servers run on the threads of the servers and meet in one `ServerLayer`; the
handles of both come from one operating system.  A state holds all of it, and an action is one step
of one server, or a step of the scan thread, which replaces the device.

* `ServerLayer.client`, `disconnectCallback`, `recordClient`, `dataCallback` — the callbacks by
  port;
* `connectCallback_eq` — the parts of a connect callback make up the callback;
* `Emulator`, `Emulator.effect`, `Emulator.step` — the system;
* `Emulator.step_port` — what a step does to one port;
* `Emulator.WellFormed` — what holds of the numbers, handles and sockets in every reachable state.

A callback that sends a string does so by a later step of a sender.
-/

import MpsEmulator.Runs
import MpsEmulator.Server

set_option relaxedAutoImplicit false
set_option autoImplicit false

namespace MpsEmulator

/-! ### The callbacks by port -/

/-- The members of the layer for a port. -/
def ServerLayer.client (l : ServerLayer) : Port → ActiveClient
  | .control => l.commandClient
  | .binary => l.binaryClient

/-- The disconnect callback of a port. -/
def disconnectCallback : Port → ServerLayer → ℕ → ServerLayer
  | .control => onClientDisconnected
  | .binary => onTCPBinaryClientDisconnected

/-- The connect callback of a port. -/
def connectCallback : Port → ServerLayer → ℕ → ConnectOutcome
  | .control => onClientConnected
  | .binary => onTCPBinaryClientConnected

/-- The data callback of a port. -/
def dataCallback (E : Env) (x : Session) (l : ServerLayer) (p : Port) (id : ℕ) (seg : Bytes) :
    LayerOutcome :=
  match p with
  | .control => onDataReceived E x l id seg
  | .binary => onTCPBinaryDataReceived E x l seg

/-- The end of the connect callback of a port: the new client is recorded, on the control port after
the buffer of the active client has been erased if there was a kick. -/
def recordClient (l : ServerLayer) (id : ℕ) (kicked : Bool) : Port → ServerLayer
  | .control =>
      { (if kicked then l.eraseCmd l.commandClient.id else l) with
        commandClient := { id := id, connected := true } }
  | .binary => { l with binaryClient := { id := id, connected := true } }

/-- The layer's part of a connect callback, from the point where it begins or goes on. -/
def connectLayer (p : Port) (l : ServerLayer) : AcceptThread → ServerLayer
  | .kicking id old _ => recordClient (disconnectCallback p l old) id true p
  | .recording id kicked => recordClient l id kicked p
  | _ => l

/-- **The parts make up the callback**: from the branch it takes, the steps of the connect callback
do to the layer what the callback does when nothing comes between them. -/
theorem connectCallback_eq (p : Port) (l : ServerLayer) (id : ℕ) :
    (connectCallback p l id).layer = connectLayer p l (connectBranch (l.client p) id) := by
  obtain ⟨hid, hb⟩ | ⟨hid, hcon, hb⟩ | ⟨hid, hcon, hb⟩ := connectBranch_cases (l.client p) id
  · rw [hb]
    cases p with
    | control => exact congrArg ConnectOutcome.layer (if_pos hid)
    | binary => exact congrArg ConnectOutcome.layer (if_pos hid)
  · rw [hb]
    cases p with
    | control => exact congrArg ConnectOutcome.layer ((if_neg hid).trans (if_pos hcon))
    | binary => exact congrArg ConnectOutcome.layer ((if_neg hid).trans (if_pos hcon))
  · have hcon : ¬ (l.client p).connected = true := by simp [hcon]
    rw [hb]
    cases p with
    | control => exact congrArg ConnectOutcome.layer ((if_neg hid).trans (if_neg hcon))
    | binary => exact congrArg ConnectOutcome.layer ((if_neg hid).trans (if_neg hcon))

/-! ### The system -/

/-- The layer, the servers, the open sockets with their connections, and what the application has
been asked to do. -/
structure Emulator where
  layer : ServerLayer
  server : Port → Server
  sockets : ℕ → Option Connection
  requests : List AppRequest

/-- The emulator after `OnAttach`. -/
def Emulator.start (deviceId : MpsDeviceID) (serialNumber : ℕ) (enableConsole : Bool) :
    Emulator where
  layer := attachedLayer deviceId serialNumber enableConsole
  server := fun p => .start (serverInfo p)
  sockets := fun _ => none
  requests := []

/-- The socket table after a step of the server of a port. -/
def Effect.sockets (p : Port) (sockets : ℕ → Option Connection) : Effect → ℕ → Option Connection
  | .opened id n => Function.update sockets id (some (p, n))
  | .closed id => Function.update sockets id Option.none
  | _ => sockets

/-- The layer after a step of the server of a port. -/
def Effect.layer (E : Env) (x : Session) (p : Port) (l : ServerLayer) : Effect → ServerLayer
  | .disconnected id => disconnectCallback p l id
  | .recorded id kicked => recordClient l id kicked p
  | .received id seg => (dataCallback E x l p id seg).layer
  | _ => l

/-- What a step of the server of a port asks of the application. -/
def Effect.requests (E : Env) (x : Session) (p : Port) (l : ServerLayer) :
    Effect → List AppRequest
  | .received id seg => (dataCallback E x l p id seg).requests
  | _ => []

/-- A step of the emulator.  `x` is what a data callback reads from outside. -/
inductive EmulatorAction
  | server (p : Port) (x : Session) (a : ServerAction)
  /-- The scan thread leaves the device as `d`. -/
  | scanThread (d : Mps)

/-- A step of the emulator. -/
def Emulator.step (E : Env) (s : Emulator) : EmulatorAction → Option Emulator
  | .server p x a =>
      ((s.server p).step (s.layer.client p) s.sockets a).map fun (srv, e) =>
        { layer := e.layer E x p s.layer
          server := Function.update s.server p srv
          sockets := e.sockets p s.sockets
          requests := s.requests ++ e.requests E x p s.layer }
  | .scanThread d =>
      if s.layer.device.isSome then some { s with layer := { s.layer with device := some d } }
      else none

/-- A step of a server that no data callback depends on. -/
abbrev EmulatorAction.on (p : Port) (a : ServerAction) : EmulatorAction := .server p .quiet a

/-- A handle is accepted, and the accept thread makes `k` steps. -/
def accepting (p : Port) (id k : ℕ) : List EmulatorAction :=
  .on p (.accept id) :: List.replicate k (.on p .acceptThread)

/-- The next handler is started and waits for data. -/
def serving (p : Port) (n : ℕ) : List EmulatorAction :=
  [.on p .start, .on p (.handler n), .on p (.handler n)]

/-- A handler that has left its loop kicks its client. -/
def leaving (p : Port) (n : ℕ) : List EmulatorAction := List.replicate 3 (.on p (.handler n))

/-! ### What a step does -/

variable {E : Env} {s s' : Emulator} {p q : Port} {x : Session} {a : ServerAction}

/-- A step of a server is a step of that server and what it asks for. -/
theorem Emulator.step_server (h : Emulator.step E s (.server p x a) = some s') :
    ∃ srv e, ServerStep (s.server p) (s.layer.client p) s.sockets a srv e ∧
      s' = { layer := e.layer E x p s.layer
             server := Function.update s.server p srv
             sockets := e.sockets p s.sockets
             requests := s.requests ++ e.requests E x p s.layer } := by
  obtain ⟨⟨srv, e⟩, hstep, rfl⟩ := Option.map_eq_some_iff.1 h
  exact ⟨srv, e, Server.step_eq_some hstep, rfl⟩

/-- Data leaves the active clients alone. -/
theorem dataCallback_client (E : Env) (x : Session) (l : ServerLayer) (p : Port) (id : ℕ)
    (seg : Bytes) (q : Port) : (dataCallback E x l p id seg).layer.client q = l.client q := by
  cases p with
  | control =>
      rw [dataCallback, onDataReceived, onCommand_layer]
      cases q <;> rfl
  | binary =>
      simp only [dataCallback, onTCPBinaryDataReceived]
      split <;> cases q <;> rfl

/-- The disconnect callback clears the active client if it has the id. -/
theorem disconnectCallback_client (p : Port) (l : ServerLayer) (id : ℕ) :
    (disconnectCallback p l id).client p =
      if id = (l.client p).id then .none else l.client p := by
  cases p with
  | control => exact apply_ite ServerLayer.commandClient _ _ _
  | binary => exact apply_ite ServerLayer.binaryClient _ _ _

theorem disconnectCallback_client_of_ne (l : ServerLayer) (id : ℕ) (hqp : q ≠ p) :
    (disconnectCallback p l id).client q = l.client q := by
  cases p with
  | control =>
      cases q with
      | control => exact absurd rfl hqp
      | binary => exact (apply_ite ServerLayer.binaryClient _ _ _).trans (ite_self _)
  | binary =>
      cases q with
      | control => exact (apply_ite ServerLayer.commandClient _ _ _).trans (ite_self _)
      | binary => exact absurd rfl hqp

/-- A step of a server does to the active client of its port what it asks for. -/
theorem Effect.layer_client (E : Env) (x : Session) (p : Port) (l : ServerLayer) (e : Effect) :
    (e.layer E x p l).client p = e.client (l.client p) := by
  cases e with
  | disconnected id => exact disconnectCallback_client p l id
  | recorded id kicked => cases p <;> rfl
  | received id seg => exact dataCallback_client E x l p id seg p
  | _ => rfl

/-- The other port keeps its active client. -/
theorem Effect.layer_client_of_ne (E : Env) (x : Session) (l : ServerLayer) (e : Effect)
    (hqp : q ≠ p) : (e.layer E x p l).client q = l.client q := by
  cases e with
  | disconnected id => exact disconnectCallback_client_of_ne l id hqp
  | recorded id kicked =>
      cases p with
      | control =>
          cases q with
          | control => exact absurd rfl hqp
          | binary => cases kicked <;> rfl
      | binary =>
          cases q with
          | control => rfl
          | binary => exact absurd rfl hqp
  | received id seg => exact dataCallback_client E x l p id seg q
  | _ => rfl

/-- **What a step does to one port**: a step of its server, or, if the step is none of its server,
nothing to its server and its active client. -/
theorem Emulator.step_port {b : EmulatorAction} (h : Emulator.step E s b = some s') (q : Port) :
    (∃ x a e, b = .server q x a ∧
        ServerStep (s.server q) (s.layer.client q) s.sockets a (s'.server q) e ∧
        s'.layer.client q = e.client (s.layer.client q) ∧
        s'.sockets = e.sockets q s.sockets) ∨
      ((∀ x a, b ≠ .server q x a) ∧ s'.server q = s.server q ∧
        s'.layer.client q = s.layer.client q) := by
  cases b with
  | server p x a =>
      obtain ⟨srv, e, hstep, rfl⟩ := Emulator.step_server h
      by_cases hqp : q = p
      · subst hqp
        refine Or.inl ⟨x, a, e, rfl, ?_, Effect.layer_client E x q s.layer e, rfl⟩
        simpa using hstep
      · have hother : p ≠ q := fun h => hqp h.symm
        refine Or.inr ⟨by simp [hother], by simp [hqp], ?_⟩
        exact Effect.layer_client_of_ne E x s.layer e hqp
  | scanThread d =>
      obtain ⟨-, h⟩ := Option.ite_none_right_eq_some.1 h
      rw [← Option.some_inj.1 h]
      refine Or.inr ⟨by simp, rfl, ?_⟩
      cases q <;> rfl

/-! ### Handles and sockets -/

section Handles

variable {srv srv' : Server} {client : ActiveClient} {sockets : ℕ → Option Connection} {e : Effect}

/-- A connection keeps its handle. -/
theorem ServerStep.handle (h : ServerStep srv client sockets a srv' e) {n : ℕ}
    (hn : n < srv.accepted) : n < srv'.accepted ∧ srv'.handle n = srv.handle n := by
  cases h with
  | accept id hpc hid => exact ⟨hn.trans (Nat.lt_succ_self _), Function.update_of_ne hn.ne _ _⟩
  | connectKick id old stage stage' hpc hnext => cases stage <;> exact ⟨hn, rfl⟩
  | kick m stage stage' hm hnext => cases stage <;> exact ⟨hn, rfl⟩
  | _ => exact ⟨hn, rfl⟩

/-- A socket that is open after a step was open before it, or was opened for the connection that is
accepted. -/
theorem ServerStep.sockets_eq_some (h : ServerStep srv client sockets a srv' e) {id m : ℕ}
    (hopen : e.sockets p sockets id = some (q, m)) :
    sockets id = some (q, m) ∨ (q = p ∧ m < srv'.accepted ∧ srv'.handle m = id) := by
  have hclosed : ∀ id', Effect.sockets p sockets (.closed id') id = some (q, m) →
      sockets id = some (q, m) := by
    intro id' hopen
    simp only [Effect.sockets, Function.update_apply] at hopen
    split at hopen
    · cases hopen
    · exact hopen
  cases h with
  | accept id' hpc hid =>
      simp only [Effect.sockets, Function.update_apply] at hopen
      split at hopen
      · obtain ⟨rfl, rfl⟩ := Prod.mk.inj (Option.some_inj.1 hopen)
        rename_i hid'
        exact Or.inr ⟨rfl, Nat.lt_succ_self _, by simp [hid']⟩
      · exact Or.inl hopen
  | connectKick id' old stage stage' hpc hnext =>
      cases stage with
      | close => cases hnext
      | _ => exact Or.inl hopen
  | kick n stage stage' hn hnext =>
      cases stage with
      | close => cases hnext
      | _ => exact Or.inl hopen
  | connectClose id' old hpc => exact Or.inl (hclosed old hopen)
  | close n hn => exact Or.inl (hclosed _ hopen)
  | loop a n started running h e ha hold hnew horigin he =>
      obtain rfl | ⟨o, seg, -, -, rfl⟩ := he <;> exact Or.inl hopen
  | _ => exact Or.inl hopen

/-- Data waiting for its callback was waiting before the step, or comes from the connection whose
socket the handler reads. -/
theorem ServerStep.deliver (h : ServerStep srv client sockets a srv' e) {n : ℕ} {o : Connection}
    {seg : Bytes} (hn : srv'.handler n = .deliver o seg) :
    srv.handler n ≠ .absent ∧
      (srv.handler n = .deliver o seg ∨ sockets (srv.handle n) = some o) := by
  have hsame : srv.handler n = .deliver o seg →
      srv.handler n ≠ .absent ∧
        (srv.handler n = .deliver o seg ∨ sockets (srv.handle n) = some o) :=
    fun hn => ⟨by simp [hn], Or.inl hn⟩
  have hmoved : ∀ m h', Function.update srv.handler m h' n = .deliver o seg →
      (n = m ∧ h' = .deliver o seg) ∨ srv.handler n = .deliver o seg := by
    intro m h' hn
    by_cases hnm : n = m
    · subst hnm
      exact Or.inl ⟨rfl, by simpa using hn⟩
    · exact Or.inr (by rwa [Function.update_of_ne hnm] at hn)
  cases h with
  | enqueue id hpc =>
      obtain ⟨-, hq⟩ | hn := hmoved _ _ hn
      · cases hq
      · exact hsame hn
  | connectKick id old stage stage' hpc hnext => cases stage <;> exact hsame hn
  | loop a m started running h e ha hold hnew horigin he =>
      obtain ⟨rfl, rfl⟩ | hn := hmoved _ _ hn
      · exact ⟨(Handler.inLoop_facts hold).1, Or.inr (horigin o seg rfl)⟩
      · exact hsame hn
  | index m hm =>
      obtain ⟨-, hq⟩ | hn := hmoved _ _ hn
      · cases hq
      · exact hsame hn
  | kick m stage stage' hm hnext =>
      have hn : Function.update srv.handler m (.kicking stage') n = .deliver o seg := by
        cases stage <;> exact hn
      obtain ⟨-, hq⟩ | hn := hmoved _ _ hn
      · cases hq
      · exact hsame hn
  | close m hm =>
      obtain ⟨-, hq⟩ | hn := hmoved _ _ hn
      · cases hq
      · exact hsame hn
  | _ => exact hsame hn

end Handles

/-- What holds in every reachable state: of each server and its active client; an open socket has
the handle of its connection; and data was received on a connection with the handler's handle. -/
structure Emulator.WellFormed (s : Emulator) : Prop where
  server : ∀ p, (s.server p).WellFormed (s.layer.client p)
  owner : ∀ id p n, s.sockets id = some (p, n) →
    n < (s.server p).accepted ∧ (s.server p).handle n = id
  origin : ∀ p n q m seg, (s.server p).handler n = .deliver (q, m) seg →
    m < (s.server q).accepted ∧ (s.server q).handle m = (s.server p).handle n

theorem Emulator.wellFormed_start (deviceId : MpsDeviceID) (serialNumber : ℕ)
    (enableConsole : Bool) : (Emulator.start deviceId serialNumber enableConsole).WellFormed where
  server := by
    intro p
    have hclient : (Emulator.start deviceId serialNumber enableConsole).layer.client p = .none := by
      cases p <;> rfl
    rw [hclient]
    exact Server.wellFormed_start _
  owner := by simp [Emulator.start]
  origin := by simp [Emulator.start, Server.start]

/-- Every connection keeps its handle in every step of the emulator. -/
theorem Emulator.step_handle {b : EmulatorAction} (h : Emulator.step E s b = some s') {n : ℕ}
    (hn : n < (s.server q).accepted) :
    n < (s'.server q).accepted ∧ (s'.server q).handle n = (s.server q).handle n := by
  obtain ⟨x, a, e, -, hstep, -, -⟩ | ⟨-, hserver, -⟩ := Emulator.step_port h q
  · exact hstep.handle hn
  · rw [hserver]
    exact ⟨hn, rfl⟩

/-- An open socket belongs to an accepted connection with its handle. -/
theorem Emulator.WellFormed.step_owner {b : EmulatorAction} (hw : s.WellFormed)
    (h : Emulator.step E s b = some s') (id : ℕ) (q : Port) (m : ℕ)
    (hopen : s'.sockets id = some (q, m)) :
    m < (s'.server q).accepted ∧ (s'.server q).handle m = id := by
  have hold : s.sockets id = some (q, m) →
      m < (s'.server q).accepted ∧ (s'.server q).handle m = id := by
    intro hopen
    obtain ⟨hm, hid⟩ := hw.owner id q m hopen
    rw [← hid]
    exact Emulator.step_handle h hm
  cases b with
  | server p x a =>
      obtain ⟨srv, e, hstep, rfl⟩ := Emulator.step_server h
      obtain hopen | ⟨rfl, hm⟩ := hstep.sockets_eq_some hopen
      · exact hold hopen
      · simpa using hm
  | scanThread d =>
      obtain ⟨-, h⟩ := Option.ite_none_right_eq_some.1 h
      obtain rfl := Option.some_inj.1 h
      exact hold hopen

/-- **Every step of the emulator keeps it well formed.** -/
theorem Emulator.WellFormed.step {b : EmulatorAction} (hw : s.WellFormed)
    (h : Emulator.step E s b = some s') : s'.WellFormed where
  server := by
    intro q
    obtain ⟨x, a, e, -, hstep, hclient, -⟩ | ⟨-, hserver, hclient⟩ := Emulator.step_port h q
    · rw [hclient]
      exact hstep.wellFormed (hw.server q)
    · rw [hserver, hclient]
      exact hw.server q
  owner := hw.step_owner h
  origin := by
    intro r n q m seg hn
    have hold : (s.server r).handler n ≠ .absent ∧
        ((s.server r).handler n = .deliver (q, m) seg ∨
          s.sockets ((s.server r).handle n) = some (q, m)) := by
      obtain ⟨x, a, e, -, hstep, -, -⟩ | ⟨-, hserver, -⟩ := Emulator.step_port h r
      · exact hstep.deliver hn
      · rw [hserver] at hn
        exact ⟨by simp [hn], Or.inl hn⟩
    obtain ⟨hexists, hold⟩ := hold
    rw [(Emulator.step_handle h ((hw.server r).lt_accepted hexists)).2]
    obtain hdeliver | hopen := hold
    · obtain ⟨hm, hid⟩ := hw.origin r n q m seg hdeliver
      rw [← hid]
      exact Emulator.step_handle h hm
    · obtain ⟨hm, hid⟩ := hw.owner _ q m hopen
      rw [← hid]
      exact Emulator.step_handle h hm

end MpsEmulator
