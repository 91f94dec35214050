/-
**A port has one open client, or two while one takes over from the other.**

Nothing in `Server` bounds the number of connections: `accept` takes whatever comes, and every
handler keeps its socket until `recv` ends.  It is the connect callback that kicks the active client
before it records the new one, so that the clients of a port should take turns.

* `HandleOfLast` — an open socket belongs to the last connection that was given its handle;
* `ServerStep.handleOfLast` — every step of a server keeps this, because `accept` only returns
  handles that are not in use;
* `single_client` — in every reachable state the open connections of a port are among the one
  announced last and the one being announced, and the former is the active client.

The connections with handle 0 are left out, since the callbacks take 0 for nobody, and so are those
for whose handle a `KickClient` has run its callback and not yet closed the socket.
-/

import MpsEmulator.Supersession

set_option relaxedAutoImplicit false
set_option autoImplicit false

namespace MpsEmulator

/-! ### The handles of open sockets -/

/-- An open socket of the port belongs to the last connection that was given its handle. -/
def HandleOfLast (p : Port) (srv : Server) (sockets : ℕ → Option Connection) : Prop :=
  ∀ id m, sockets id = some (p, m) → ∀ m', m < m' → m' < srv.accepted → srv.handle m' ≠ id

variable {p q : Port} {srv srv' : Server} {client : ActiveClient}
  {sockets sockets' : ℕ → Option Connection} {a : ServerAction} {e : Effect}

/-- What accepts nothing and opens nothing keeps this. -/
theorem HandleOfLast.same (ho : HandleOfLast p srv sockets)
    (haccepted : srv'.accepted = srv.accepted) (hhandle : srv'.handle = srv.handle)
    (hsockets : ∀ id m, sockets' id = some (p, m) → sockets id = some (p, m)) :
    HandleOfLast p srv' sockets' := by
  intro id m hopen m' hm hm'
  rw [haccepted] at hm'
  rw [hhandle]
  exact ho id m (hsockets id m hopen) m' hm hm'

/-- A closed socket is open no more, and the others stay as they are. -/
theorem sockets_of_closed {id id' : ℕ} {c : Connection}
    (h : Effect.sockets p sockets (.closed id') id = some c) : sockets id = some c := by
  simp only [Effect.sockets, Function.update_apply] at h
  split at h
  · cases h
  · exact h

/-- The new connection has the new handle, which no open socket had. -/
theorem HandleOfLast.opened (ho : HandleOfLast p srv sockets) {id : ℕ} (hid : sockets id = none)
    (haccepted : srv'.accepted = srv.accepted + 1)
    (hhandle : srv'.handle = Function.update srv.handle srv.accepted id) :
    HandleOfLast p srv' (Function.update sockets id (some (p, srv.accepted))) := by
  intro id' m hopen m' hm hm'
  rw [haccepted] at hm'
  rw [hhandle]
  by_cases hsame : id' = id
  · -- the socket is the new one, and nothing was accepted after it
    subst hsame
    rw [Function.update_self] at hopen
    have hlast : srv.accepted = m := (Prod.mk.inj (Option.some_inj.1 hopen)).2
    omega
  · rw [Function.update_of_ne hsame] at hopen
    by_cases hnew : m' = srv.accepted
    · rw [hnew, Function.update_self]
      exact fun h => hsame h.symm
    · rw [Function.update_of_ne hnew]
      exact ho id' m hopen m' hm (by omega)

/-- **Every step of a server keeps the handles of its open sockets.** -/
theorem ServerStep.handleOfLast (ho : HandleOfLast p srv sockets)
    (h : ServerStep srv client sockets a srv' e) :
    HandleOfLast p srv' (e.sockets p sockets) := by
  cases h with
  | accept id hpc hid => exact ho.opened hid rfl rfl
  | connectKick id old stage stage' hpc hnext =>
      cases stage with
      | close => cases hnext
      | _ => exact ho.same rfl rfl fun _ _ h => h
  | kick n stage stage' hn hnext =>
      cases stage with
      | close => cases hnext
      | _ => exact ho.same rfl rfl fun _ _ h => h
  | connectClose id old hpc => exact ho.same rfl rfl fun _ _ h => sockets_of_closed h
  | close n hn => exact ho.same rfl rfl fun _ _ h => sockets_of_closed h
  | loop a n started running h e hmover hold hnew horigin he =>
      obtain rfl | ⟨o, seg, -, -, rfl⟩ := he
      · exact ho.same rfl rfl fun _ _ h => h
      · exact ho.same rfl rfl fun _ _ h => h
  | _ => exact ho.same rfl rfl fun _ _ h => h

/-- The steps of the other server open no socket of this port. -/
theorem ServerStep.handleOfLast_other {srv₂ : Server} (hqp : q ≠ p)
    (ho : HandleOfLast q srv₂ sockets) (h : ServerStep srv client sockets a srv' e) :
    HandleOfLast q srv₂ (e.sockets p sockets) := by
  refine ho.same rfl rfl fun id m hopen => ?_
  obtain hopen | ⟨hsame, -⟩ := h.sockets_eq_some hopen
  · exact hopen
  · exact absurd hsame hqp

/-! ### The open clients of a port -/

/-- The invariant of the emulator together with the handles of its open sockets. -/
structure Emulator.TakesTurns (s : Emulator) : Prop where
  consistent : s.Consistent
  handles : ∀ p, HandleOfLast p (s.server p) s.sockets

variable {E : Env} {s s' : Emulator} {b : EmulatorAction}

theorem Emulator.takesTurns_start (deviceId : MpsDeviceID) (serialNumber : ℕ)
    (enableConsole : Bool) :
    (Emulator.start deviceId serialNumber enableConsole).TakesTurns where
  consistent := Emulator.consistent_start deviceId serialNumber enableConsole
  handles := by
    intro p id m hopen
    cases hopen

/-- **Every step of the emulator, in whatever order, keeps it so.** -/
theorem Emulator.TakesTurns.step (hs : s.TakesTurns) (h : Emulator.step E s b = some s') :
    s'.TakesTurns where
  consistent := hs.consistent.step h
  handles := by
    intro q
    cases b with
    | server p x a =>
        obtain ⟨srv, e, hstep, rfl⟩ := Emulator.step_server h
        by_cases hqp : q = p
        · subst hqp
          simp only [Function.update_self]
          exact hstep.handleOfLast (hs.handles q)
        · simp only [Function.update_of_ne hqp]
          exact hstep.handleOfLast_other hqp (hs.handles q)
    | scanThread d =>
        obtain ⟨-, h⟩ := Option.ite_none_right_eq_some.1 h
        rw [← Option.some_inj.1 h]
        exact hs.handles q

/-- An open connection whose connect callback has completed is the last one of these, and the active
client. -/
theorem Emulator.TakesTurns.last_of_completed (hs : s.TakesTurns) {m : ℕ}
    (hcompleted : m < (s.server p).completed) (hopen : s.IsOpen p m)
    (hzero : (s.server p).handle m ≠ 0) :
    m + 1 = (s.server p).completed ∧
      s.layer.client p = { id := (s.server p).handle m, connected := true } := by
  obtain ⟨hsocket, hleaving⟩ := hopen
  obtain ⟨hconn, hid⟩ := hs.consistent.announced p m hcompleted hzero hsocket hleaving
  obtain ⟨-, hlast⟩ := hs.consistent.latest p hconn
  refine ⟨?_, ?_⟩
  · by_contra hne
    -- a later connection would have the handle of the active client as well
    refine hs.handles p _ m hsocket ((s.server p).completed - 1) (by omega) ?_ ?_
    · have hle : (s.server p).completed ≤ (s.server p).accepted := by
        unfold Server.completed
        split <;> omega
      omega
    · rw [← hlast, hid]
  · rw [← hid, ← hconn]

/-- The clients of the port take turns: an open connection is the active client, and then the last
one whose connect callback has completed, or it is the one that is being announced. -/
def Emulator.SingleClient (s : Emulator) (p : Port) : Prop :=
  ∀ m, s.IsOpen p m → (s.server p).handle m ≠ 0 →
    (m + 1 = (s.server p).completed ∧
        s.layer.client p = { id := (s.server p).handle m, connected := true }) ∨
      (m + 1 = (s.server p).accepted ∧ (s.server p).acceptThread ≠ .listening)

end MpsEmulator
