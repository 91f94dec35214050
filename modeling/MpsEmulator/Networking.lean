/-
**The networking reference count on Windows.**

`InitializeNetworking` and `CleanupNetworking` share a counter, and `WSACleanup` is called when the
counter is used up.  `Server::Start` and `Server::Stop` pair the two calls by hand.  Two of the
pairings are wrong: `Stop` gives back what it may never have taken, and it is called once more by
the destructor; and when `Start` fails at the stream socket it gives back although the server stays
marked as running.  And `Stop` comes to its `CleanupNetworking` only if its loop over the clients
has a meaning, so only without a client.

* `StartInfo`, `StartCalls` — what `Start` reads of the server, and what the calls of the operating
  system answer;
* `Winsock` — the two static variables and the servers;
* `Winsock.start`, `Winsock.stop`, `Winsock.step` — the code;
* `Counted` — the counter is the number of running servers, `WSACleanup` never hit one of them, and
  every call had a meaning;
* `counted_iff_paired` — **over any run the counter is right exactly if every call is paired**;
* `restart_not_counted` — attaching and detaching the server layer once.

The counter is static in a header, so every source file has its own; the one that counts is that of
`server.cpp`, where all the calls are.
-/

import MpsEmulator.Runs
import MpsEmulator.StopLoop

set_option relaxedAutoImplicit false
set_option autoImplicit false

namespace MpsEmulator

/-! ### Starting a server -/

/-- What `Start` reads of the server. -/
structure StartInfo where
  /-- The address to bind to is empty, `0.0.0.0`, or one that can be parsed. -/
  bindIpValid : Bool
  enableUdp : Bool
  deriving DecidableEq

/-- Whether the calls of the operating system that `Start` makes are successful. -/
structure StartCalls where
  wsaStartup : Bool
  tcpSocket : Bool
  bind : Bool
  udpSocket : Bool
  deriving DecidableEq

/-- A start without a failure. -/
def StartCalls.ok : StartCalls :=
  { wsaStartup := true, tcpSocket := true, bind := true, udpSocket := true }

/-- `CreateSocket`: there is a socket, and the address can be parsed. -/
def createSocket (info : StartInfo) (socket : Bool) : Bool := socket && info.bindIpValid

/-! ### The counter -/

/-- The networking state of the process.  The last two fields only record. -/
structure Winsock where
  /-- `s_WSAInstances`. -/
  instances : ℤ
  /-- `s_WSAInitialized`. -/
  initialized : Bool
  /-- The servers that were constructed and not destroyed. -/
  servers : Finset ℕ
  /-- The servers with `m_ServerIsRunning`. -/
  running : Finset ℕ
  /-- `m_Connections` of each server. -/
  connections : ℕ → OrderedMap ℕ ClientInfo
  /-- `WSACleanup` was called for one server while another one was running. -/
  cutOff : Bool
  /-- A call of `Stop` had no meaning. -/
  undefined : Bool

def Winsock.init : Winsock where
  instances := 0
  initialized := false
  servers := ∅
  running := ∅
  connections := fun _ => .empty
  cutOff := false
  undefined := false

/-- `InitializeNetworking`. -/
def Winsock.initializeNetworking (w : Winsock) (wsaStartup : Bool) : Winsock × Bool :=
  let w' := { w with instances := w.instances + 1 }
  if w'.initialized then (w', true)
  else if wsaStartup then ({ w' with initialized := true }, true)
  else ({ w' with instances := w'.instances - 1 }, false)

/-- `CleanupNetworking`, called for the server `id`. -/
def Winsock.cleanupNetworking (w : Winsock) (id : ℕ) : Winsock :=
  let w' := { w with instances := w.instances - 1 }
  if 0 < w'.instances then w'
  else { w' with initialized := false, cutOff := w'.cutOff || (w'.running.erase id).Nonempty }

/-- `Server::Start`. -/
def Winsock.start (info : StartInfo) (id : ℕ) (calls : StartCalls) (w : Winsock) : Winsock :=
  match w.initializeNetworking calls.wsaStartup with
  | (w', false) => w'
  | (w', true) =>
      if !createSocket info calls.tcpSocket then w'.cleanupNetworking id
      else if !calls.bind then w'.cleanupNetworking id
      else
        let started := { w' with running := insert id w'.running }
        if info.enableUdp && !createSocket info calls.udpSocket then started.cleanupNetworking id
        else started

/-- `Server::Stop`.  Where the loop over the clients breaks, nothing is known of what follows. -/
def Winsock.stop (id : ℕ) (w : Winsock) : Winsock :=
  match kickAll (w.connections id) with
  | .finished _ =>
      Winsock.cleanupNetworking
        { w with
          running := w.running.erase id
          connections := Function.update w.connections id .empty } id
  | _ => { w with undefined := true }

/-- The calls on servers, and what the threads of a server do to its `m_Connections` at any time. -/
inductive ServerCall
  | construct (id : ℕ)
  | start (id : ℕ) (calls : StartCalls)
  | stop (id : ℕ)
  | destroy (id : ℕ)
  | clients (id : ℕ) (change : MapChange ℕ ClientInfo)

/-- One call.  The server `id` is constructed with `info id`; its destructor calls `Stop`. -/
def Winsock.step (info : ℕ → StartInfo) (w : Winsock) (call : ServerCall) : Option Winsock :=
  if w.undefined then none
  else
    match call with
    | .construct id =>
        if id ∈ w.servers then none
        else some { w with
          servers := insert id w.servers, connections := Function.update w.connections id .empty }
    | .start id calls => if id ∈ w.servers then some (w.start (info id) id calls) else none
    | .stop id => if id ∈ w.servers then some (w.stop id) else none
    | .destroy id =>
        if id ∈ w.servers then some { w.stop id with servers := w.servers.erase id } else none
    | .clients id change =>
        if id ∈ w.servers then
          some { w with
            connections := Function.update w.connections id ((w.connections id).change change) }
        else none

/-! ### Exactly when it counts -/

/-- The counter is the number of running servers, it is not negative, `WSACleanup` was never called
while another server was running, and all calls had a meaning. -/
structure Counted (w : Winsock) : Prop where
  count : w.instances = w.running.card
  nonneg : 0 ≤ w.instances
  notCutOff : w.cutOff = false
  defined : w.undefined = false

/-- `Start` gets as far as setting `m_ServerIsRunning`. -/
def Winsock.setsRunning (w : Winsock) (info : StartInfo) (calls : StartCalls) : Bool :=
  (w.initialized || calls.wsaStartup) && createSocket info calls.tcpSocket && calls.bind

/-- `Start` fails at its stream socket, if it gets there. -/
def failsAtStream (info : StartInfo) (calls : StartCalls) : Bool :=
  info.enableUdp && !createSocket info calls.udpSocket

/-- The call takes and gives back in pairs: a server that is stopped is running and has no client, a
server that is started from rest does not fail at its stream socket, and one that is started while
it is running does not succeed. -/
def Paired (info : ℕ → StartInfo) (w : Winsock) : ServerCall → Prop
  | .construct _ => True
  | .start id calls =>
      w.setsRunning (info id) calls = true → (id ∈ w.running ↔ failsAtStream (info id) calls = true)
  | .stop id | .destroy id => w.connections id = .empty ∧ id ∈ w.running
  | .clients _ _ => True

variable {info : ℕ → StartInfo} {w w' : Winsock}

theorem counted_iff_count (hcut : w.cutOff = false) (hdef : w.undefined = false) :
    Counted w ↔ w.instances = w.running.card :=
  ⟨Counted.count, fun h => ⟨h, by omega, hcut, hdef⟩⟩

/-- Giving back is right exactly if one was taken for a server that is not running.  No other server
is cut off then: the counter is used up only when none is running. -/
theorem counted_cleanup_iff (id : ℕ) (hcut : w.cutOff = false) (hdef : w.undefined = false) :
    Counted (w.cleanupNetworking id) ↔ w.instances = w.running.card + 1 := by
  rw [Winsock.cleanupNetworking]
  dsimp only
  split
  · refine (counted_iff_count (by exact hcut) (by exact hdef)).trans ?_
    dsimp only
    omega
  · next hused =>
      constructor
      · intro h
        have hcount := h.count
        dsimp only at hcount
        omega
      · intro h
        have hnone : w.running = ∅ := by
          rw [← Finset.card_eq_zero]
          omega
        refine ⟨?_, ?_, ?_, hdef⟩
        · dsimp only
          omega
        · dsimp only
          omega
        · simp [hnone, hcut]

/-- `InitializeNetworking` takes one if it is successful, and changes nothing otherwise. -/
theorem initializeNetworking_eq (w : Winsock) (wsaStartup : Bool) :
    w.initializeNetworking wsaStartup =
      if w.initialized || wsaStartup then
        ({ w with instances := w.instances + 1, initialized := true }, true)
      else (w, false) := by
  obtain ⟨instances, initialized, servers, running, connections, cutOff, undefined⟩ := w
  cases initialized <;> cases wsaStartup <;> simp [Winsock.initializeNetworking]

/-- A server is started: one is taken, and it is right to keep it exactly if the server was not
running, and to give it back exactly if it was. -/
theorem counted_insert_iff (hw : Counted w) (id : ℕ) :
    (Counted { w with
        instances := w.instances + 1, initialized := true, running := insert id w.running } ↔
      id ∉ w.running) ∧
    (Counted (Winsock.cleanupNetworking { w with
        instances := w.instances + 1, initialized := true, running := insert id w.running } id) ↔
      id ∈ w.running) := by
  have hcount := hw.count
  have hcard : (insert id w.running).card = w.running.card + if id ∈ w.running then 0 else 1 := by
    split
    · next hid => rw [Finset.insert_eq_of_mem hid, Nat.add_zero]
    · next hid => rw [Finset.card_insert_of_notMem hid]
  constructor
  · refine (counted_iff_count (by exact hw.notCutOff) (by exact hw.defined)).trans ?_
    dsimp only
    split at hcard
    · next hid => exact iff_of_false (by omega) (by simp [hid])
    · next hid => exact iff_of_true (by omega) hid
  · refine (counted_cleanup_iff id (by exact hw.notCutOff) (by exact hw.defined)).trans ?_
    dsimp only
    split at hcard
    · next hid => exact iff_of_true (by omega) hid
    · next hid => exact iff_of_false (by omega) hid

theorem counted_start_iff (hw : Counted w) (id : ℕ) (calls : StartCalls) :
    Counted (w.start (info id) id calls) ↔ Paired info w (.start id calls) := by
  have hcount := hw.count
  have hgiven : Counted (Winsock.cleanupNetworking
      { w with instances := w.instances + 1, initialized := true } id) := by
    refine (counted_cleanup_iff id (by exact hw.notCutOff) (by exact hw.defined)).2 ?_
    dsimp only
    omega
  obtain ⟨hkept, hback⟩ := counted_insert_iff hw id
  rw [Winsock.start, initializeNetworking_eq, Paired, Winsock.setsRunning, failsAtStream]
  cases htaken : w.initialized || calls.wsaStartup with
  | false => exact iff_of_true hw (by simp)
  | true =>
      cases htcp : createSocket (info id) calls.tcpSocket with
      | false => exact iff_of_true hgiven (by simp)
      | true =>
          cases hbind : calls.bind with
          | false => exact iff_of_true hgiven (by simp)
          | true =>
              cases hudp : (info id).enableUdp && !createSocket (info id) calls.udpSocket with
              | true => exact hback.trans (by simp)
              | false => exact hkept.trans (by simp)

/-- A stop without a client is what gives the reference back. -/
theorem stop_of_empty {id : ℕ} (hempty : w.connections id = .empty) :
    w.stop id = Winsock.cleanupNetworking
      { w with
        running := w.running.erase id
        connections := Function.update w.connections id .empty } id := by
  rw [Winsock.stop, kickAll_eq_finished_iff.2 ⟨hempty, rfl⟩]

/-- A stop with a client has no meaning. -/
theorem stop_of_nonempty {id : ℕ} (hclient : w.connections id ≠ .empty) :
    w.stop id = { w with undefined := true } := by
  rw [Winsock.stop]
  split
  · next hfinished => exact absurd (kickAll_eq_finished_iff.1 hfinished).1 hclient
  · rfl

/-- **Stopping is right exactly if the server is running and has no client.** -/
theorem counted_stop_iff (hw : Counted w) (id : ℕ) :
    Counted (w.stop id) ↔ w.connections id = .empty ∧ id ∈ w.running := by
  by_cases hempty : w.connections id = .empty
  · have hcount := hw.count
    rw [stop_of_empty hempty]
    refine (counted_cleanup_iff id (by exact hw.notCutOff) (by exact hw.defined)).trans ?_
    dsimp only
    by_cases hid : id ∈ w.running
    · have hcard := Finset.card_erase_add_one hid
      exact iff_of_true (by omega) ⟨hempty, hid⟩
    · rw [Finset.erase_eq_of_notMem hid]
      exact iff_of_false (by omega) fun h => hid h.2
  · rw [stop_of_nonempty hempty]
    refine iff_of_false (fun h => ?_) fun h => hempty h.1
    exact absurd h.defined (by simp)

theorem counted_step_iff {a : ServerCall} (hw : Counted w) (hstep : w.step info a = some w') :
    Counted w' ↔ Paired info w a := by
  obtain ⟨-, hstep⟩ := Option.ite_none_left_eq_some.1 hstep
  cases a with
  | construct id =>
      obtain ⟨-, hstep⟩ := Option.ite_none_left_eq_some.1 hstep
      rw [← Option.some_inj.1 hstep]
      exact iff_of_true ⟨hw.count, hw.nonneg, hw.notCutOff, hw.defined⟩ trivial
  | start id calls =>
      obtain ⟨-, hstep⟩ := Option.ite_none_right_eq_some.1 hstep
      rw [← Option.some_inj.1 hstep]
      exact counted_start_iff hw id calls
  | stop id =>
      obtain ⟨-, hstep⟩ := Option.ite_none_right_eq_some.1 hstep
      rw [← Option.some_inj.1 hstep]
      exact counted_stop_iff hw id
  | destroy id =>
      obtain ⟨-, hstep⟩ := Option.ite_none_right_eq_some.1 hstep
      rw [← Option.some_inj.1 hstep, Paired, ← counted_stop_iff hw id]
      exact ⟨fun h => ⟨h.count, h.nonneg, h.notCutOff, h.defined⟩,
        fun h => ⟨h.count, h.nonneg, h.notCutOff, h.defined⟩⟩
  | clients id change =>
      obtain ⟨-, hstep⟩ := Option.ite_none_right_eq_some.1 hstep
      rw [← Option.some_inj.1 hstep]
      exact iff_of_true ⟨hw.count, hw.nonneg, hw.notCutOff, hw.defined⟩ trivial

/-- Over **any run** the counter is right after every call exactly if every call is paired, whatever
clients come and go in between. -/
theorem counted_iff_paired (info : ℕ → StartInfo) (calls : List ServerCall) :
    Runs.Throughout (Winsock.step info) Counted Winsock.init calls ↔
      Runs.Along (Winsock.step info) (Paired info) Winsock.init calls := by
  have hinit : Counted Winsock.init := ⟨rfl, le_rfl, rfl, rfl⟩
  exact Runs.throughout_iff_along (J := fun _ => True) (fun _ _ _ _ _ => trivial)
    (fun w a w' _ hw hstep => counted_step_iff hw hstep) trivial hinit

/-! ### Attaching and detaching once -/

/-- The servers of the emulator: the control server streams, the binary server does not. -/
def emulatorInfo (id : ℕ) : StartInfo := { bindIpValid := true, enableUdp := id = 0 }

/-- The calls of `OnAttach` and then those of `OnDetach`. -/
def attachDetach : List ServerCall :=
  [.construct 0, .start 0 .ok, .construct 1, .start 1 .ok, .stop 0, .destroy 0, .stop 1, .destroy 1]

/-- Each server gives back twice: the counter ends below zero, and `WSACleanup` is called for the
control server while the binary server is still running. -/
theorem restart_not_counted :
    (Runs.exec (Winsock.step emulatorInfo) Winsock.init attachDetach).map
        (fun w => (w.instances, w.running.card, w.cutOff)) = some (-2, 0, true) ∧
      ¬ Runs.Throughout (Winsock.step emulatorInfo) Counted Winsock.init attachDetach := by
  have hend : (Runs.exec (Winsock.step emulatorInfo) Winsock.init attachDetach).map
      (fun w => (w.instances, w.running.card, w.cutOff)) = some (-2, 0, true) := by decide
  refine ⟨hend, fun hthrough => ?_⟩
  obtain ⟨t, ht, hvalues⟩ := Option.map_eq_some_iff.1 hend
  have hcounted := hthrough.final ht
  rw [hcounted.notCutOff] at hvalues
  exact absurd (congrArg (fun v => v.2.2) hvalues) (by simp)

end MpsEmulator
