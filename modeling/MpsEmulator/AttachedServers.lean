/-
**The servers of the process, from `OnAttach` on.**

What `Start` and `Stop` do has been told three times: as far as the networking counter goes, as far
as the sockets and the pool of one server go, and, with all its threads, for the emulator between
the two calls.  Here the three are put side by side.  A call on a server is one for the counter and
one for the server itself; and what the threads of the emulator do to `m_Connections` are changes of
the map that both of them know.

* `Process`, `Process.step` — the networking state and every server, call by call;
* `Process.Agrees`, `agrees_of_run` — **the two accounts of a call agree in every run**: on which
  servers are running, on their clients, and on whether all calls had a meaning;
* `ServerStep.connections_eq` — what a step of the emulator does to a map;
* `onAttach`, `process_of_emulator` — **every run of the emulator is, for the process, `OnAttach`
  and then clients that come and go**;
* `stop_defined_iff` — a `Stop` in the state a run ends in has a meaning exactly if nobody is
  registered there.
-/

import MpsEmulator.Emulator
import MpsEmulator.ServerRestart

set_option relaxedAutoImplicit false
set_option autoImplicit false

namespace MpsEmulator

/-! ### The process -/

/-- The networking state of the process, and its servers, each with the workers of its own pool. -/
structure Process (workers : ℕ → ℕ) where
  winsock : Winsock
  life : ∀ id, ServerLife (workers id)

/-- No server has been constructed. -/
def Process.init (workers : ℕ → ℕ) : Process workers where
  winsock := .init
  life id := .init (workers id)

/-- The calls on servers, the steps of their pools, and the clients that come and go.  A stop comes
with the steps of the pool until it returns. -/
inductive ProcessAction (workers : ℕ → ℕ)
  | construct (id : ℕ)
  | start (id : ℕ) (calls : StartCalls)
  | stop (id : ℕ) (schedule : List (PoolAction (workers id)))
  | destroy (id : ℕ) (schedule : List (PoolAction (workers id)))
  | pool (id : ℕ) (a : PoolAction (workers id))
  | clients (id : ℕ) (change : MapChange ℕ ClientInfo)

variable {workers : ℕ → ℕ}

/-- The process with another networking state and another state of one server. -/
def Process.set (p : Process workers) (id : ℕ) (w : Winsock) (s : ServerLife (workers id)) :
    Process workers :=
  { winsock := w, life := Function.update p.life id s }

/-- A call is one for the networking state and one for the server. -/
def Process.both (info : ℕ → StartInfo) (p : Process workers) (id : ℕ) (call : ServerCall)
    (a : LifeAction (workers id)) : Option (Process workers) :=
  (p.winsock.step info call).bind fun w => ((p.life id).step (info id) a).map (p.set id w)

/-- One step.  For a server on its own, `InitializeNetworking` is a call that succeeds or fails. -/
def Process.step (info : ℕ → StartInfo) (p : Process workers) :
    ProcessAction workers → Option (Process workers)
  | .construct id => (p.winsock.step info (.construct id)).map fun w => p.set id w (.init _)
  | .start id calls =>
      p.both info id (.start id calls)
        (.start { calls with wsaStartup := p.winsock.initialized || calls.wsaStartup })
  | .stop id schedule => p.both info id (.stop id) (.stop schedule)
  | .destroy id schedule => p.both info id (.destroy id) (.stop schedule)
  | .pool id a =>
      if p.winsock.undefined = false ∧ id ∈ p.winsock.servers then
        ((p.life id).step (info id) (.pool a)).map (p.set id p.winsock)
      else none
  | .clients id change => p.both info id (.clients id change) (.clients change)

/-- The two accounts agree on a server: whether it is running, and which clients it has. -/
structure ServerLife.AgreesWith {n : ℕ} (s : ServerLife n) (w : Winsock) (id : ℕ) : Prop where
  running : s.running = true ↔ id ∈ w.running
  connections : s.connections = w.connections id

/-- The two accounts agree on every server, and on whether all calls had a meaning. -/
structure Process.Agrees (p : Process workers) : Prop where
  server : ∀ id ∈ p.winsock.servers, (p.life id).AgreesWith p.winsock id
  known : p.winsock.undefined = false → p.winsock.running ⊆ p.winsock.servers
  undefined : p.winsock.undefined = true ↔ ∃ id, (p.life id).undefined = true

/-! ### They agree on every call -/

variable {info : ℕ → StartInfo} {p p' : Process workers} {id : ℕ} {w w' : Winsock} {n : ℕ}
  {s s' : ServerLife n}

/-- `CleanupNetworking` leaves the servers alone. -/
theorem cleanupNetworking_servers (w : Winsock) (id : ℕ) :
    (w.cleanupNetworking id).servers = w.servers ∧ (w.cleanupNetworking id).running = w.running ∧
      (w.cleanupNetworking id).connections = w.connections ∧
      (w.cleanupNetworking id).undefined = w.undefined := by
  rw [Winsock.cleanupNetworking]
  dsimp only
  split <;> exact ⟨rfl, rfl, rfl, rfl⟩

/-- What `Start` does to the servers: it marks one as running, if it gets so far. -/
theorem start_servers (w : Winsock) (info : StartInfo) (id : ℕ) (calls : StartCalls) :
    (w.start info id calls).servers = w.servers ∧
      (w.start info id calls).connections = w.connections ∧
      (w.start info id calls).undefined = w.undefined ∧
      (w.start info id calls).running =
        if w.setsRunning info calls = true then insert id w.running else w.running := by
  rw [Winsock.start, initializeNetworking_eq, Winsock.setsRunning]
  cases w.initialized || calls.wsaStartup with
  | false => exact ⟨rfl, rfl, rfl, rfl⟩
  | true =>
      cases createSocket info calls.tcpSocket with
      | false =>
          obtain ⟨hservers, hrunning, hconnections, hundefined⟩ := cleanupNetworking_servers
            { w with instances := w.instances + 1, initialized := true } id
          exact ⟨hservers, hconnections, hundefined, hrunning⟩
      | true =>
          cases calls.bind with
          | false =>
              obtain ⟨hservers, hrunning, hconnections, hundefined⟩ := cleanupNetworking_servers
                { w with instances := w.instances + 1, initialized := true } id
              exact ⟨hservers, hconnections, hundefined, hrunning⟩
          | true =>
              cases info.enableUdp && !createSocket info calls.udpSocket with
              | false => exact ⟨rfl, rfl, rfl, rfl⟩
              | true =>
                  obtain ⟨hservers, hrunning, hconnections, hundefined⟩ :=
                    cleanupNetworking_servers { w with
                      instances := w.instances + 1, initialized := true
                      running := insert id w.running } id
                  exact ⟨hservers, hconnections, hundefined, hrunning⟩

/-- A start of a server that is not running marks it as running where the networking state does. -/
theorem ServerLife.start_running {info : StartInfo} {calls : StartCalls}
    (hoff : s.running = false)
    (h : s.start info { calls with wsaStartup := w.initialized || calls.wsaStartup } = some s') :
    s'.running = w.setsRunning info calls ∧ s'.connections = s.connections ∧
      s'.undefined = s.undefined := by
  rw [Winsock.setsRunning, createSocket]
  rw [ServerLife.start] at h
  dsimp only at h
  cases hwsa : w.initialized || calls.wsaStartup with
  | false =>
      rw [hwsa, Bool.not_false, if_pos rfl] at h
      rw [← Option.some_inj.1 h]
      exact ⟨hoff, rfl, rfl⟩
  | true =>
  rw [hwsa, Bool.not_true, if_neg (by simp)] at h
  cases htcp : calls.tcpSocket with
  | false =>
      rw [htcp, Bool.not_false, if_pos rfl] at h
      rw [← Option.some_inj.1 h]
      exact ⟨hoff, rfl, rfl⟩
  | true =>
  rw [htcp, Bool.not_true, if_neg (by simp)] at h
  cases hbindIp : info.bindIpValid with
  | false =>
      rw [hbindIp, Bool.not_false, if_pos rfl] at h
      rw [← Option.some_inj.1 h]
      exact ⟨hoff, rfl, rfl⟩
  | true =>
  rw [hbindIp, Bool.not_true, if_neg (by simp)] at h
  cases hbind : calls.bind with
  | false =>
      rw [hbind, Bool.not_false, if_pos rfl] at h
      rw [← Option.some_inj.1 h]
      exact ⟨hoff, rfl, rfl⟩
  | true =>
  rw [hbind, Bool.not_true, if_neg (by simp)] at h
  obtain ⟨pool, -, h⟩ := Option.bind_eq_some_iff.1 h
  split at h
  · rw [← Option.some_inj.1 h]
    exact ⟨rfl, rfl, rfl⟩
  · split at h
    · rw [← Option.some_inj.1 h]
      exact ⟨rfl, rfl, rfl⟩
    · obtain ⟨pool', -, rfl⟩ := Option.map_eq_some_iff.1 h
      exact ⟨rfl, rfl, rfl⟩

/-- A stop leaves the other servers alone, and starts none. -/
theorem stop_servers (w : Winsock) (id : ℕ) :
    (w.stop id).servers = w.servers ∧ (w.stop id).running ⊆ w.running ∧
      ((w.stop id).undefined = false → id ∉ (w.stop id).running) ∧
      ∀ id' ≠ id, (id' ∈ (w.stop id).running ↔ id' ∈ w.running) ∧
        (w.stop id).connections id' = w.connections id' := by
  by_cases hempty : w.connections id = .empty
  · rw [stop_of_empty hempty]
    obtain ⟨hservers, hrunning, hconnections, -⟩ := cleanupNetworking_servers
      { w with
        running := w.running.erase id
        connections := Function.update w.connections id .empty } id
    rw [hservers, hrunning, hconnections]
    refine ⟨rfl, Finset.erase_subset _ _, fun _ => Finset.notMem_erase _ _,
      fun id' hid => ⟨?_, Function.update_of_ne hid _ _⟩⟩
    exact ⟨Finset.mem_of_mem_erase, fun hmem => Finset.mem_erase.2 ⟨hid, hmem⟩⟩
  · rw [stop_of_nonempty hempty]
    exact ⟨rfl, Finset.Subset.refl _, fun hdefined => absurd hdefined (by simp),
      fun id' _ => ⟨Iff.rfl, rfl⟩⟩

/-- A stop does the same in both accounts. -/
theorem ServerLife.AgreesWith.stop {schedule : List (PoolAction n)} (h : s.AgreesWith w id)
    (hw : w.undefined = false) (hs : s.undefined = false) (hstop : s.stop schedule = some s') :
    s'.AgreesWith (w.stop id) id ∧ ((w.stop id).undefined = true ↔ s'.undefined = true) := by
  by_cases hempty : w.connections id = .empty
  · obtain ⟨-, hrunning, hconnections, hundefined⟩ := cleanupNetworking_servers
      { w with
        running := w.running.erase id
        connections := Function.update w.connections id .empty } id
    rw [ServerLife.stop, kickAll_eq_finished_iff.2 ⟨h.connections.trans hempty, rfl⟩] at hstop
    obtain ⟨pool, -, hstop⟩ := Option.bind_eq_some_iff.1 hstop
    obtain ⟨-, hstop⟩ := Option.ite_none_right_eq_some.1 hstop
    rw [← Option.some_inj.1 hstop, stop_of_empty hempty, hundefined]
    refine ⟨⟨?_, ?_⟩, by rw [hw, hs]⟩
    · rw [hrunning]
      simp
    · rw [hconnections]
      exact (Function.update_self id OrderedMap.empty w.connections).symm
  · rw [ServerLife.stop_of_nonempty (by rwa [h.connections])] at hstop
    rw [← Option.some_inj.1 hstop, MpsEmulator.stop_of_nonempty hempty]
    exact ⟨⟨h.running, h.connections⟩, by simp⟩

/-- What a call does to one server in both accounts, and to no other one. -/
theorem Process.Agrees.set (h : p.Agrees) {s : ServerLife (workers id)}
    (hserver : s.AgreesWith w id) (hdefined : p.winsock.undefined = false)
    (hknown : w.undefined = false → w.running ⊆ w.servers)
    (hundefined : w.undefined = true ↔ s.undefined = true)
    (hother : ∀ id' ≠ id, (id' ∈ w.servers → id' ∈ p.winsock.servers) ∧
      (id' ∈ w.running ↔ id' ∈ p.winsock.running) ∧
        w.connections id' = p.winsock.connections id') : (p.set id w s).Agrees where
  server := by
    intro id' hid'
    by_cases hid : id' = id
    · subst hid
      simpa [Process.set] using hserver
    · obtain ⟨hservers, hrunning, hconnections⟩ := hother id' hid
      obtain ⟨hrunning', hconnections'⟩ := h.server id' (hservers hid')
      simp only [Process.set, Function.update_of_ne hid]
      exact ⟨hrunning'.trans hrunning.symm, hconnections'.trans hconnections.symm⟩
  known := hknown
  undefined := by
    refine hundefined.trans ⟨fun hs => ⟨id, by simpa [Process.set] using hs⟩, ?_⟩
    rintro ⟨id', hid'⟩
    by_cases hid : id' = id
    · subst hid
      simpa [Process.set] using hid'
    · -- all calls before had a meaning
      simp only [Process.set, Function.update_of_ne hid] at hid'
      have hbefore := h.undefined.2 ⟨id', hid'⟩
      rw [hdefined] at hbefore
      cases hbefore

/-- All calls before one that is made had a meaning. -/
theorem Winsock.step_defined {call : ServerCall} (h : w.step info call = some w') :
    w.undefined = false := by
  obtain ⟨hdefined, -⟩ := Option.ite_none_left_eq_some.1 h
  exact Bool.eq_false_iff.2 hdefined

theorem Process.Agrees.defined (h : p.Agrees) (hdefined : p.winsock.undefined = false) (id : ℕ) :
    (p.life id).undefined = false := by
  rw [Bool.eq_false_iff]
  intro hundefined
  have hbefore := h.undefined.2 ⟨id, hundefined⟩
  rw [hdefined] at hbefore
  cases hbefore

/-- A call of both accounts is a call of either. -/
theorem Process.both_eq_some {call : ServerCall} {a : LifeAction (workers id)} :
    p.both info id call a = some p' ↔ ∃ w s, p.winsock.step info call = some w ∧
      (p.life id).step (info id) a = some s ∧ p' = p.set id w s := by
  rw [Process.both, Option.bind_eq_some_iff]
  refine exists_congr fun w => ?_
  rw [Option.map_eq_some_iff]
  constructor
  · rintro ⟨hw, s, hs, rfl⟩
    exact ⟨s, hw, hs, rfl⟩
  · rintro ⟨s, hw, hs, rfl⟩
    exact ⟨hw, s, hs, rfl⟩

/-- A start does the same to the server in both accounts. -/
theorem Process.Agrees.start {calls : StartCalls} (h : p.Agrees) {s : ServerLife (workers id)}
    (hw : p.winsock.step info (.start id calls) = some w)
    (hs : (p.life id).step (info id)
      (.start { calls with wsaStartup := p.winsock.initialized || calls.wsaStartup }) = some s) :
    (p.set id w s).Agrees := by
  have hdefined := Winsock.step_defined hw
  obtain ⟨-, hw⟩ := Option.ite_none_left_eq_some.1 hw
  obtain ⟨hid, hw⟩ := Option.ite_none_right_eq_some.1 hw
  obtain ⟨-, hs⟩ := Option.ite_none_left_eq_some.1 hs
  obtain ⟨hoff, hs⟩ := Option.ite_none_left_eq_some.1 hs
  obtain ⟨hservers, hconnections, hundefined, hrunning⟩ :=
    start_servers p.winsock (info id) id calls
  obtain ⟨hon, hclients, hmeaning⟩ := ServerLife.start_running (Bool.eq_false_iff.2 hoff) hs
  have hnot : id ∉ p.winsock.running := fun hmem => hoff ((h.server id hid).running.2 hmem)
  rw [← Option.some_inj.1 hw]
  refine h.set ⟨?_, ?_⟩ hdefined (fun _ => ?_) ?_ fun id' hne => ⟨?_, ?_, ?_⟩
  · rw [hon, hrunning]
    split
    · next hsets => exact iff_of_true hsets (Finset.mem_insert_self _ _)
    · next hsets => exact iff_of_false hsets hnot
  · rw [hclients, hconnections]
    exact (h.server id hid).connections
  · rw [hrunning, hservers]
    split
    · exact Finset.insert_subset hid (h.known hdefined)
    · exact h.known hdefined
  · rw [hundefined, hmeaning, hdefined, h.defined hdefined]
  · rw [hservers]
    exact fun hmem => hmem
  · rw [hrunning]
    split
    · simp [hne]
    · rfl
  · rw [hconnections]

/-- **Every call does the same in both accounts.** -/
theorem Process.Agrees.step {a : ProcessAction workers} (h : p.Agrees)
    (hstep : p.step info a = some p') : p'.Agrees := by
  cases a with
  | construct id =>
      obtain ⟨w, hw, rfl⟩ := Option.map_eq_some_iff.1 hstep
      have hdefined := Winsock.step_defined hw
      obtain ⟨-, hw⟩ := Option.ite_none_left_eq_some.1 hw
      obtain ⟨hnew, hw⟩ := Option.ite_none_left_eq_some.1 hw
      rw [← Option.some_inj.1 hw]
      refine h.set ⟨?_, ?_⟩ hdefined ?_ ?_ fun id' hid => ⟨?_, Iff.rfl, ?_⟩
      · exact iff_of_false (by simp [ServerLife.init]) fun hid => hnew (h.known hdefined hid)
      · exact (Function.update_self id OrderedMap.empty p.winsock.connections).symm
      · exact fun _ => (h.known hdefined).trans (Finset.subset_insert _ _)
      · simp [ServerLife.init, hdefined]
      · exact fun hmem => (Finset.mem_insert.1 hmem).resolve_left hid
      · exact Function.update_of_ne hid _ _
  | start id calls =>
      obtain ⟨w, s, hw, hs, rfl⟩ := Process.both_eq_some.1 hstep
      exact h.start hw hs
  | stop id schedule =>
      obtain ⟨w, s, hw, hs, rfl⟩ := Process.both_eq_some.1 hstep
      have hdefined := Winsock.step_defined hw
      obtain ⟨-, hw⟩ := Option.ite_none_left_eq_some.1 hw
      obtain ⟨hid, hw⟩ := Option.ite_none_right_eq_some.1 hw
      obtain ⟨-, hs⟩ := Option.ite_none_left_eq_some.1 hs
      obtain ⟨hservers, hrunning, hgone, hother⟩ := stop_servers p.winsock id
      obtain ⟨hserver, hmeaning⟩ := (h.server id hid).stop hdefined (h.defined hdefined id) hs
      rw [← Option.some_inj.1 hw]
      refine h.set hserver hdefined (fun _ => ?_) hmeaning fun id' hne => ⟨?_, hother id' hne⟩
      · rw [hservers]
        exact hrunning.trans (h.known hdefined)
      · rw [hservers]
        exact fun hmem => hmem
  | destroy id schedule =>
      obtain ⟨w, s, hw, hs, rfl⟩ := Process.both_eq_some.1 hstep
      have hdefined := Winsock.step_defined hw
      obtain ⟨-, hw⟩ := Option.ite_none_left_eq_some.1 hw
      obtain ⟨hid, hw⟩ := Option.ite_none_right_eq_some.1 hw
      obtain ⟨-, hs⟩ := Option.ite_none_left_eq_some.1 hs
      obtain ⟨hservers, hrunning, hgone, hother⟩ := stop_servers p.winsock id
      obtain ⟨hserver, hmeaning⟩ := (h.server id hid).stop hdefined (h.defined hdefined id) hs
      rw [← Option.some_inj.1 hw]
      refine h.set ⟨hserver.running, hserver.connections⟩ hdefined ?_ hmeaning
        fun id' hne => ⟨Finset.mem_of_mem_erase, hother id' hne⟩
      intro hmeant id' hid'
      have hne : id' ≠ id := fun heq => hgone hmeant (heq ▸ hid')
      exact Finset.mem_erase.2 ⟨hne, h.known hdefined (hrunning hid')⟩
  | pool id a =>
      obtain ⟨⟨hdefined, hid⟩, hstep⟩ := Option.ite_none_right_eq_some.1 hstep
      obtain ⟨s, hs, rfl⟩ := Option.map_eq_some_iff.1 hstep
      obtain ⟨-, hs⟩ := Option.ite_none_left_eq_some.1 hs
      obtain ⟨-, hs⟩ := Option.ite_none_right_eq_some.1 hs
      obtain ⟨pool, -, rfl⟩ := Option.map_eq_some_iff.1 hs
      obtain ⟨hrunning, hconnections⟩ := h.server id hid
      refine h.set ⟨hrunning, hconnections⟩ hdefined h.known ?_
        fun id' _ => ⟨fun hmem => hmem, Iff.rfl, rfl⟩
      rw [hdefined, h.defined hdefined]
  | clients id change =>
      obtain ⟨w, s, hw, hs, rfl⟩ := Process.both_eq_some.1 hstep
      have hdefined := Winsock.step_defined hw
      obtain ⟨-, hw⟩ := Option.ite_none_left_eq_some.1 hw
      obtain ⟨hid, hw⟩ := Option.ite_none_right_eq_some.1 hw
      obtain ⟨-, hs⟩ := Option.ite_none_left_eq_some.1 hs
      obtain ⟨hrunning, hconnections⟩ := h.server id hid
      rw [← Option.some_inj.1 hw, ← Option.some_inj.1 hs]
      refine h.set ⟨hrunning, ?_⟩ hdefined h.known ?_
        fun id' hne => ⟨fun hmem => hmem, Iff.rfl, Function.update_of_ne hne _ _⟩
      · rw [hconnections]
        exact (Function.update_self id _ p.winsock.connections).symm
      · rw [hdefined, h.defined hdefined]

theorem Process.agrees_init (workers : ℕ → ℕ) : (Process.init workers).Agrees where
  server id hid := absurd hid (by simp [Process.init, Winsock.init])
  known _ := Finset.Subset.refl _
  undefined := by simp [Process.init, Winsock.init, ServerLife.init]

/-- **In every run**, whatever calls are made and whatever clients come and go, the two accounts
agree. -/
theorem agrees_of_run {as : List (ProcessAction workers)}
    (hrun : Runs.exec (Process.step info) (.init workers) as = some p) : p.Agrees :=
  Runs.invariant (fun _ _ _ h hstep => h.step hstep) (Process.agrees_init workers) hrun

/-! ### The maps of the emulator -/

section Maps

variable {srv srv' : Server} {client : ActiveClient} {sockets : ℕ → Option Connection}
  {a : ServerAction} {e : Effect}

/-- A step of a server sets at most one entry of its map. -/
theorem ServerStep.connections_eq (h : ServerStep srv client sockets a srv' e) :
    srv'.connections = srv.connections ∨
      ∃ id entry, srv'.connections = Function.update srv.connections id entry := by
  cases h with
  | insert id hpc => exact Or.inr ⟨id, _, rfl⟩
  | connectKick id old stage stage' hpc hnext =>
      cases stage with
      | erase => exact Or.inr ⟨old, _, rfl⟩
      | _ => exact Or.inl rfl
  | index n hn => exact Or.inr ⟨srv.handle n, _, rfl⟩
  | kick n stage stage' hn hnext =>
      cases stage with
      | erase => exact Or.inr ⟨srv.handle n, _, rfl⟩
      | _ => exact Or.inl rfl
  | sendIndex id => exact Or.inr ⟨id, _, rfl⟩
  | _ => exact Or.inl rfl

/-- Setting an entry is inserting or erasing it. -/
theorem exists_change (id : ℕ) (entry : Option ClientInfo) :
    ∃ change : MapChange ℕ ClientInfo, ∀ m : OrderedMap ℕ ClientInfo,
      (m.change change).find? = Function.update m.find? id entry := by
  cases entry with
  | none => exact ⟨.erase id, fun m => m.find?_erase id⟩
  | some info => exact ⟨.insert id info, fun m => m.find?_insert id info⟩

/-- A map has no entry exactly if every lookup fails. -/
theorem OrderedMap.eq_empty_iff (m : OrderedMap ℕ ClientInfo) :
    m = .empty ↔ ∀ id, m.find? id = none := by
  constructor
  · rintro rfl id
    rfl
  · intro hnone
    by_contra hempty
    obtain ⟨e, he, -⟩ := OrderedMap.exists_first hempty
    have hfound := OrderedMap.find?_of_mem he
    rw [hnone] at hfound
    cases hfound

end Maps

/-! ### The emulator -/

/-- The number of the server of a port, in the order in which `OnAttach` constructs them. -/
def Port.index : Port → ℕ
  | .control => 0
  | .binary => 1

/-- The workers of the servers. -/
def serverWorkers (id : ℕ) : ℕ := (serverInfo (if id = 0 then .control else .binary)).workers

/-- The settings of `OnAttach`, as `Start` reads them. -/
theorem emulatorInfo_index (q : Port) :
    (emulatorInfo q.index).enableUdp = (serverInfo q).enableUdp ∧
      serverWorkers q.index = (serverInfo q).workers := by
  cases q <;> exact ⟨rfl, rfl⟩

/-- `OnAttach`, where no call fails. -/
def onAttach : List (ProcessAction serverWorkers) :=
  [.construct 0, .start 0 .ok, .construct 1, .start 1 .ok]

/-- A client of a port that comes or goes. -/
def clientsOf (c : Port × MapChange ℕ ClientInfo) : ProcessAction serverWorkers :=
  .clients c.1.index c.2

/-- The process has the servers of the emulator, running, with these maps. -/
structure Process.Holds (p : Process serverWorkers) (s : Emulator) : Prop where
  defined : p.winsock.undefined = false
  servers : ∀ q : Port, q.index ∈ p.winsock.servers
  running : ∀ q : Port, (p.life q.index).running = true
  life : ∀ q : Port, (p.life q.index).undefined = false
  connections : ∀ q : Port, (p.life q.index).connections.find? = (s.server q).connections

/-- `OnAttach` constructs and starts the servers of the emulator. -/
theorem holds_onAttach (deviceId : MpsDeviceID) (serialNumber : ℕ) (enableConsole : Bool) :
    ∃ p, Runs.exec (Process.step emulatorInfo) (.init serverWorkers) onAttach = some p ∧
      p.Holds (.start deviceId serialNumber enableConsole) := by
  have hrun : (Runs.exec (Process.step emulatorInfo) (.init serverWorkers) onAttach).map (fun p =>
      (p.winsock.undefined, decide (0 ∈ p.winsock.servers), decide (1 ∈ p.winsock.servers),
        ((p.life 0).running, (p.life 0).undefined, (p.life 0).connections.entries),
        ((p.life 1).running, (p.life 1).undefined, (p.life 1).connections.entries))) =
      some (false, true, true, (true, false, []), (true, false, [])) := rfl
  obtain ⟨p, hp, hvalues⟩ := Option.map_eq_some_iff.1 hrun
  simp only [Prod.mk.injEq, decide_eq_true_eq] at hvalues
  obtain ⟨hdefined, hcontrol, hbinary, ⟨hrunning₀, hlife₀, hempty₀⟩, hrunning₁, hlife₁, hempty₁⟩ :=
    hvalues
  refine ⟨p, hp, hdefined, ?_, ?_, ?_, ?_⟩
  · rintro (_ | _)
    · exact hcontrol
    · exact hbinary
  · rintro (_ | _)
    · exact hrunning₀
    · exact hrunning₁
  · rintro (_ | _)
    · exact hlife₀
    · exact hlife₁
  · rintro (_ | _)
    · exact congrArg OrderedMap.find? (OrderedMap.entries_eq_nil.1 hempty₀)
    · exact congrArg OrderedMap.find? (OrderedMap.entries_eq_nil.1 hempty₁)

variable {E : Env} {t t' : Emulator} {q : Port}

/-- A client of a port comes or goes. -/
theorem Process.Holds.clients {p : Process serverWorkers} (h : p.Holds t)
    (change : MapChange ℕ ClientInfo)
    (hmap : (t'.server q).connections = ((p.life q.index).connections.change change).find?)
    (hother : ∀ q' ≠ q, (t'.server q').connections = (t.server q').connections) :
    ∃ p', p.step emulatorInfo (clientsOf (q, change)) = some p' ∧ p'.Holds t' := by
  have hindex : ∀ {q' : Port}, q' ≠ q → q'.index ≠ q.index := by
    intro q' hq
    cases q' <;> cases q <;> first | exact absurd rfl hq | simp [Port.index]
  have hw : p.winsock.step emulatorInfo (.clients q.index change) = some { p.winsock with
      connections := Function.update p.winsock.connections q.index
        ((p.winsock.connections q.index).change change) } := by
    rw [Winsock.step, if_neg (by simp [h.defined])]
    exact if_pos (h.servers q)
  have hs : (p.life q.index).step (emulatorInfo q.index) (.clients change) =
      some { p.life q.index with
        connections := (p.life q.index).connections.change change } := by
    rw [ServerLife.step, if_neg (by simp [h.life])]
  refine ⟨_, Process.both_eq_some.2 ⟨_, _, hw, hs, rfl⟩, ?_⟩
  refine ⟨h.defined, h.servers, fun q' => ?_, fun q' => ?_, fun q' => ?_⟩
  · by_cases hq : q' = q
    · subst hq
      simpa [Process.set] using h.running q'
    · simpa [Process.set, hindex hq] using h.running q'
  · by_cases hq : q' = q
    · subst hq
      simpa [Process.set] using h.life q'
    · simpa [Process.set, hindex hq] using h.life q'
  · by_cases hq : q' = q
    · subst hq
      simp [Process.set, hmap]
    · simp [Process.set, hindex hq, hother q' hq, h.connections q']

/-- **Every step of the emulator** changes the map of a server at most once. -/
theorem Process.Holds.step {p : Process serverWorkers} {b : EmulatorAction} (h : p.Holds t)
    (hstep : Emulator.step E t b = some t') :
    ∃ (changes : List (Port × MapChange ℕ ClientInfo)) (p' : Process serverWorkers),
      Runs.exec (Process.step emulatorInfo) p (changes.map clientsOf) = some p' ∧ p'.Holds t' := by
  have hsame : ∀ q', (t'.server q').connections = (t.server q').connections ∨
      ∃ id entry, (∃ x a, b = .server q' x a) ∧
        (t'.server q').connections = Function.update (t.server q').connections id entry := by
    intro q'
    obtain ⟨x, a, e, hb, hserver, -, -⟩ | ⟨-, hserver, -⟩ := Emulator.step_port hstep q'
    · obtain hconnections | ⟨id, entry, hconnections⟩ := hserver.connections_eq
      · exact Or.inl hconnections
      · exact Or.inr ⟨id, entry, ⟨x, a, hb⟩, hconnections⟩
    · exact Or.inl (congrArg Server.connections hserver)
  by_cases hnone : ∀ q', (t'.server q').connections = (t.server q').connections
  · refine ⟨[], p, rfl, h.defined, h.servers, h.running, h.life, fun q' => ?_⟩
    rw [hnone q']
    exact h.connections q'
  · obtain ⟨q, hq⟩ := not_forall.1 hnone
    obtain ⟨id, entry, ⟨x, a, rfl⟩, hconnections⟩ := (hsame q).resolve_left hq
    obtain ⟨change, hchange⟩ := exists_change id entry
    have hmap : (t'.server q).connections =
        ((p.life q.index).connections.change change).find? := by
      rw [hchange, h.connections, hconnections]
    have hother : ∀ q', q' ≠ q → (t'.server q').connections = (t.server q').connections := by
      intro q' hne
      refine (hsame q').resolve_right ?_
      rintro ⟨id', entry', ⟨x', a', hb⟩, -⟩
      exact hne (EmulatorAction.server.inj hb).1.symm
    obtain ⟨p', hp', hholds⟩ := h.clients change hmap hother
    exact ⟨[(q, change)], p', Runs.exec_cons_eq_some.2 ⟨p', hp', rfl⟩, hholds⟩

/-- **The emulator lives between `OnAttach` and the first stop**: a run of it is, for the process,
`OnAttach` and then clients that come and go, after which the maps of the servers are those of the
emulator. -/
theorem process_of_emulator {deviceId : MpsDeviceID} {serialNumber : ℕ} {enableConsole : Bool}
    {bs : List EmulatorAction}
    (hrun : Runs.exec (Emulator.step E) (.start deviceId serialNumber enableConsole) bs =
      some t) :
    ∃ (changes : List (Port × MapChange ℕ ClientInfo)) (p : Process serverWorkers),
      Runs.exec (Process.step emulatorInfo) (.init serverWorkers)
        (onAttach ++ changes.map clientsOf) = some p ∧ p.Holds t := by
  obtain ⟨p₀, hp₀, hholds₀⟩ := holds_onAttach deviceId serialNumber enableConsole
  have hrest : ∀ (bs : List EmulatorAction) {s : Emulator} {p : Process serverWorkers}, p.Holds s →
      Runs.exec (Emulator.step E) s bs = some t →
      ∃ (changes : List (Port × MapChange ℕ ClientInfo)) (p' : Process serverWorkers),
        Runs.exec (Process.step emulatorInfo) p (changes.map clientsOf) = some p' ∧
          p'.Holds t := by
    intro bs
    induction bs with
    | nil =>
        intro s p hholds hrun
        obtain rfl := Option.some_inj.1 hrun
        exact ⟨[], p, rfl, hholds⟩
    | cons b bs ih =>
        intro s p hholds hrun
        obtain ⟨s₁, hs₁, hrun⟩ := Runs.exec_cons_eq_some.1 hrun
        obtain ⟨changes₁, p₁, hp₁, hholds₁⟩ := hholds.step hs₁
        obtain ⟨changes, p', hp', hholds'⟩ := ih hholds₁ hrun
        refine ⟨changes₁ ++ changes, p', ?_, hholds'⟩
        rw [List.map_append]
        exact Runs.exec_append_eq_some.2 ⟨p₁, hp₁, hp'⟩
  obtain ⟨changes, p, hp, hholds⟩ := hrest bs hholds₀ hrun
  exact ⟨changes, p, Runs.exec_append_eq_some.2 ⟨p₀, hp₀, hp⟩, hholds⟩

/-- A stop has a meaning exactly if the server has no client. -/
theorem stop_undefined_iff (hw : w.undefined = false) :
    (w.stop id).undefined = false ↔ w.connections id = .empty := by
  by_cases hempty : w.connections id = .empty
  · obtain ⟨-, -, -, hundefined⟩ := cleanupNetworking_servers
      { w with
        running := w.running.erase id
        connections := Function.update w.connections id .empty } id
    rw [stop_of_empty hempty, hundefined]
    exact iff_of_true hw hempty
  · rw [stop_of_nonempty hempty]
    exact iff_of_false (by simp) hempty

/-- **Whether the emulator can be stopped**: a `Stop` of one of its servers, in the state that any
run ends in, has a meaning exactly if the map of that server has no entry; for the counter and for
the server itself. -/
theorem stop_defined_iff {deviceId : MpsDeviceID} {serialNumber : ℕ} {enableConsole : Bool}
    {bs : List EmulatorAction}
    (hrun : Runs.exec (Emulator.step E) (.start deviceId serialNumber enableConsole) bs = some t)
    (q : Port) :
    ∃ p : Process serverWorkers, p.Agrees ∧ p.Holds t ∧
      ∀ schedule p', p.step emulatorInfo (.stop q.index schedule) = some p' →
        (p'.winsock.undefined = false ↔ ∀ id, (t.server q).connections id = none) ∧
          ((p'.life q.index).undefined = false ↔ ∀ id, (t.server q).connections id = none) := by
  obtain ⟨changes, p, hp, hholds⟩ := process_of_emulator hrun
  have hagrees := agrees_of_run hp
  refine ⟨p, hagrees, hholds, fun schedule p' hstop => ?_⟩
  have hempty : p.winsock.connections q.index = .empty ↔
      ∀ id, (t.server q).connections id = none := by
    rw [← (hagrees.server _ (hholds.servers q)).connections, OrderedMap.eq_empty_iff,
      hholds.connections]
  obtain ⟨w, s, hw, hs, rfl⟩ := Process.both_eq_some.1 hstop
  obtain ⟨-, hw⟩ := Option.ite_none_left_eq_some.1 hw
  obtain ⟨hid, hw⟩ := Option.ite_none_right_eq_some.1 hw
  obtain ⟨-, hs⟩ := Option.ite_none_left_eq_some.1 hs
  obtain ⟨-, hmeaning⟩ := (hagrees.server _ hid).stop hholds.defined (hholds.life q) hs
  have hwinsock : (p.winsock.stop q.index).undefined = false ↔
      ∀ id, (t.server q).connections id = none :=
    (stop_undefined_iff hholds.defined).trans hempty
  rw [← Option.some_inj.1 hw]
  refine ⟨hwinsock, ?_⟩
  rw [← hwinsock, ← not_iff_not, Bool.not_eq_false, Bool.not_eq_false]
  simpa [Process.set] using hmeaning.symm

end MpsEmulator
