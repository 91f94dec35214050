/-
**The clients of the binary port, as the frames see them.**

Where the frames go is settled over a short account of the binary port: which clients are
registered, and which one is active.  Here this account is read off the whole emulator.  A client
that connects is registered, and its connect callback kicks the one before it; a handler that leaves
its loop kicks its own client.  When nothing comes between the instructions of either, they do to
the port what the account says, and everything else leaves it alone.

* `BinaryClients.Shows` — the account is right for a state of the emulator;
* `BinaryClients.connect`, `BinaryClients.kickFrom`, `BinaryClients.afterAccept` — what is still to
  come of a connect callback and of a kick; `shows_acceptThread`, `shows_kick` are one step of them;
* `Undisturbed` — the runs of the emulator in which no connect callback and no kick of the binary
  port is interrupted, with what they are for the frames;
* `sinks_of_undisturbed` — **such a run of the emulator is a run of the device with its sinks**;
* `active_is_registered` — in such a run `SendBuffer` finds the active client.
-/

import MpsEmulator.FrameSinks
import MpsEmulator.WholeEmulator

set_option relaxedAutoImplicit false
set_option autoImplicit false

namespace MpsEmulator

/-! ### The account -/

/-- The clients are those of a server: the active client of its port, and the ids in its map. -/
structure BinaryClients.Shows (b : BinaryClients) (client : ActiveClient)
    (connections : ℕ → Option ClientInfo) : Prop where
  active : client = { id := b.activeId, connected := b.connected }
  registered : ∀ id, id ∈ b.connections ↔ (connections id).isSome = true

/-- The end of the connect callback. -/
def BinaryClients.record (b : BinaryClients) (id : ℕ) : BinaryClients :=
  { b with connected := true, activeId := id }

/-- The connect callback. -/
def BinaryClients.connect (b : BinaryClients) (id : ℕ) : BinaryClients :=
  if id = b.activeId then b
  else (if b.connected then b.kick b.activeId else b).record id

/-- The disconnect callback. -/
def BinaryClients.disconnect (b : BinaryClients) (id : ℕ) : BinaryClients :=
  { b with
    connected := if id = b.activeId then false else b.connected
    activeId := if id = b.activeId then 0 else b.activeId }

/-- `KickClient` from one of its instructions on. -/
def BinaryClients.kickFrom (b : BinaryClients) (id : ℕ) : KickStage → BinaryClients
  | .callback => b.kick id
  | .erase => { b with connections := b.connections.filter (· ≠ id) }
  | .close => b

/-- The clients when the accept thread comes back to `accept`. -/
def BinaryClients.afterAccept (b : BinaryClients) : AcceptThread → BinaryClients
  | .listening => b
  | .accepted id => { b with connections := b.connections.insert id }.connect id
  | .inserted id | .enqueued id => b.connect id
  | .kicking id old stage => (b.kickFrom old stage).record id
  | .recording id _ => b.record id

/-- A client that is accepted is registered, and then its connect callback runs. -/
theorem BinaryClients.accept_eq (b : BinaryClients) (id : ℕ) :
    b.accept id = b.afterAccept (.accepted id) := rfl

/-- A kick is the disconnect callback, and then the entry is erased. -/
theorem BinaryClients.kick_eq (b : BinaryClients) (id : ℕ) :
    b.kick id = (b.disconnect id).kickFrom id .erase := rfl

variable {b : BinaryClients} {client : ActiveClient} {connections : ℕ → Option ClientInfo}

/-! ### What the instructions do to it -/

/-- A client is recorded. -/
theorem BinaryClients.Shows.record (hb : b.Shows client connections) (id : ℕ) :
    (b.record id).Shows { id := id, connected := true } connections :=
  ⟨rfl, hb.registered⟩

/-- An entry is inserted. -/
theorem BinaryClients.Shows.insert (hb : b.Shows client connections) (id : ℕ) (info : ClientInfo) :
    { b with connections := b.connections.insert id }.Shows client
      (Function.update connections id (some info)) := by
  refine ⟨hb.active, fun id' => ?_⟩
  rw [List.mem_insert_iff, hb.registered]
  by_cases hid : id' = id
  · simp [hid]
  · simp [hid]

/-- An entry is erased. -/
theorem BinaryClients.Shows.erase (hb : b.Shows client connections) (id : ℕ) :
    (b.kickFrom id .erase).Shows client (Function.update connections id none) := by
  refine ⟨hb.active, fun id' => ?_⟩
  change id' ∈ b.connections.filter _ ↔ _
  rw [List.mem_filter, hb.registered]
  by_cases hid : id' = id
  · simp [hid]
  · simp [hid]

/-- The disconnect callback runs. -/
theorem BinaryClients.Shows.disconnect (hb : b.Shows client connections) (id : ℕ) :
    (b.disconnect id).Shows (Effect.client client (.disconnected id)) connections := by
  refine ⟨?_, hb.registered⟩
  rw [hb.active]
  by_cases hid : id = b.activeId
  · simp [Effect.client, BinaryClients.disconnect, hid, ActiveClient.none]
  · simp [Effect.client, BinaryClients.disconnect, hid]

variable {srv srv' : Server} {sockets : ℕ → Option Connection} {e : Effect}

/-- An instruction of `KickClient` does what a kick has still to do up to the next one. -/
theorem BinaryClients.Shows.kickClient (hb : b.Shows client srv.connections) (id : ℕ)
    (stage : KickStage) :
    ∃ b' : BinaryClients, b'.Shows ((srv.kickClient id stage).2.client client)
        (srv.kickClient id stage).1.connections ∧
      (stage.next.elim b' (b'.kickFrom id)) = b.kickFrom id stage := by
  cases stage with
  | callback => exact ⟨_, hb.disconnect id, rfl⟩
  | erase => exact ⟨_, hb.erase id, rfl⟩
  | close => exact ⟨b, hb, rfl⟩

/-- **A step of the accept thread** does what it has still to do up to its next point. -/
theorem shows_acceptThread (hb : b.Shows client srv.connections)
    (h : ServerStep srv client sockets .acceptThread srv' e) :
    ∃ b' : BinaryClients, b'.Shows (e.client client) srv'.connections ∧
      b'.afterAccept srv'.acceptThread = b.afterAccept srv.acceptThread := by
  cases h with
  | insert id hpc =>
      rw [hpc]
      exact ⟨_, hb.insert id _, rfl⟩
  | enqueue id hpc =>
      rw [hpc]
      exact ⟨b, hb, rfl⟩
  | connect id hpc =>
      refine ⟨b, hb, ?_⟩
      simp only [hpc, BinaryClients.afterAccept, BinaryClients.connect, hb.active, connectBranch]
      split_ifs <;> rfl
  | connectKick id old stage stage' hpc hnext =>
      obtain ⟨b', hb', hrest⟩ := hb.kickClient old stage
      rw [hnext] at hrest
      refine ⟨b', hb', ?_⟩
      rw [hpc]
      exact congrArg (BinaryClients.record · id) hrest
  | connectClose id old hpc =>
      rw [hpc]
      exact ⟨b, hb, rfl⟩
  | record id kicked hpc =>
      rw [hpc]
      exact ⟨_, hb.record id, rfl⟩
  | loop a n started running h e ha hold hnew horigin he => cases ha

/-- **A step of a handler that kicks its client** does what the kick has still to do up to its next
instruction, and comes to that. -/
theorem shows_kick {n : ℕ} {stage : KickStage} (hb : b.Shows client srv.connections)
    (hn : srv.handler n = .kicking stage)
    (h : ServerStep srv client sockets (.handler n) srv' e) :
    ∃ b' : BinaryClients, b'.Shows (e.client client) srv'.connections ∧
      srv'.handle = srv.handle ∧
      srv'.handler n = stage.next.elim .done .kicking ∧
      stage.next.elim b' (b'.kickFrom (srv.handle n)) = b.kickFrom (srv.handle n) stage := by
  obtain ⟨b', hb', hrest⟩ := hb.kickClient (srv.handle n) stage
  cases h with
  | loop a m started running h e ha hold hnew horigin he =>
      obtain rfl : n = m := Option.some_inj.1 ha
      simp [hn, Handler.inLoop] at hold
  | index m hn' => simp [hn] at hn'
  | kick m stage' stage'' hn' hnext =>
      obtain rfl : stage = stage' := Handler.kicking.inj (hn.symm.trans hn')
      refine ⟨b', ?_, ?_, ?_, hrest⟩
      · cases stage <;> exact hb'
      · cases stage <;> rfl
      · rw [hnext]
        cases stage <;> simp [Server.setHandler]
  | close m hn' =>
      obtain rfl : stage = .close := Handler.kicking.inj (hn.symm.trans hn')
      exact ⟨b', hb', rfl, by simp [Server.setHandler, KickStage.next], hrest⟩

/-! ### Connect callbacks and kicks that nothing interrupts -/

/-- The account is that of the binary port. -/
abbrev BinaryClients.ShowsIn (b : BinaryClients) (s : Emulator) : Prop :=
  b.Shows (s.layer.client .binary) (s.server .binary).connections

variable {E : Env} {s s' t : Emulator} {x : Session} {a : ServerAction}

/-- A step of the binary server is one of its steps, and does to the active client what it asks
for. -/
theorem Emulator.step_binary (h : Emulator.step E s (.server .binary x a) = some s') :
    ∃ e, ServerStep (s.server .binary) (s.layer.client .binary) s.sockets a (s'.server .binary) e ∧
      s'.layer.client .binary = e.client (s.layer.client .binary) := by
  obtain ⟨x', a', e, hb, hstep, hclient, -⟩ | ⟨hne, -⟩ := Emulator.step_port h .binary
  · obtain ⟨-, -, rfl⟩ := EmulatorAction.server.inj hb
    exact ⟨e, hstep, hclient⟩
  · exact absurd rfl (hne x a)

/-- Any number of steps of the accept thread. -/
theorem shows_acceptThreads {k : ℕ} (hb : b.ShowsIn s)
    (hrun : Runs.exec (Emulator.step E) s (List.replicate k (.on .binary .acceptThread)) =
      some t) :
    t.layer.device = s.layer.device ∧ ∃ b' : BinaryClients, b'.ShowsIn t ∧
      b'.afterAccept (t.server .binary).acceptThread =
        b.afterAccept (s.server .binary).acceptThread := by
  induction k generalizing s b with
  | zero =>
      obtain rfl := Option.some_inj.1 hrun
      exact ⟨rfl, b, hb, rfl⟩
  | succ k ih =>
      obtain ⟨s₁, hs₁, hrun⟩ := Runs.exec_cons_eq_some.1 hrun
      obtain ⟨e, hstep, hclient⟩ := Emulator.step_binary hs₁
      obtain ⟨b₁, hb₁, hrest₁⟩ := shows_acceptThread hb hstep
      rw [← hclient] at hb₁
      obtain ⟨hdevice, b', hb', hrest⟩ := ih hb₁ hrun
      exact ⟨hdevice.trans (Emulator.step_device_of_delivery hs₁ rfl), b', hb',
        hrest.trans hrest₁⟩

/-- **A client that is accepted**, with the steps of the accept thread until it listens again. -/
theorem shows_accept {id k : ℕ} (hb : b.ShowsIn s)
    (hrun : Runs.exec (Emulator.step E) s (accepting .binary id k) = some t)
    (hend : (t.server .binary).acceptThread = .listening) :
    t.layer.device = s.layer.device ∧ (b.accept id).ShowsIn t := by
  obtain ⟨s₁, hs₁, hrun⟩ := Runs.exec_cons_eq_some.1 hrun
  obtain ⟨e, hstep, hclient⟩ := Emulator.step_binary hs₁
  -- the connection has its number, and the map and the active client are as before
  have haccepted : (s₁.server .binary).acceptThread = .accepted id ∧ b.ShowsIn s₁ := by
    rw [BinaryClients.ShowsIn, hclient]
    generalize s₁.server .binary = srv at hstep
    cases hstep with
    | accept id hpc hid => exact ⟨rfl, hb⟩
    | loop a n started running h e ha hold hnew horigin he => cases ha
  obtain ⟨hdevice, b', hb', hrest⟩ := shows_acceptThreads haccepted.2 hrun
  rw [hend, haccepted.1, ← BinaryClients.accept_eq] at hrest
  refine ⟨hdevice.trans (Emulator.step_device_of_delivery hs₁ rfl), ?_⟩
  rw [← hrest]
  exact hb'

/-- One instruction of a handler that kicks its client. -/
theorem shows_kick_step {n : ℕ} {stage : KickStage} (hb : b.ShowsIn s)
    (hn : (s.server .binary).handler n = .kicking stage)
    (h : Emulator.step E s (.on .binary (.handler n)) = some s') :
    s'.layer.device = s.layer.device ∧ (s'.server .binary).handle = (s.server .binary).handle ∧
      (s'.server .binary).handler n = stage.next.elim .done .kicking ∧
      ∃ b' : BinaryClients, b'.ShowsIn s' ∧
        stage.next.elim b' (b'.kickFrom ((s.server .binary).handle n)) =
          b.kickFrom ((s.server .binary).handle n) stage := by
  obtain ⟨e, hstep, hclient⟩ := Emulator.step_binary h
  obtain ⟨b', hb', hhandle, hhandler, hrest⟩ := shows_kick hb hn hstep
  rw [← hclient] at hb'
  refine ⟨Emulator.step_device_of_delivery h ?_, hhandle, hhandler, b', hb', hrest⟩
  simp [Emulator.delivery, hn]

/-- **A handler that has left its loop**, with its three instructions. -/
theorem shows_leave {n : ℕ} (hb : b.ShowsIn s)
    (hn : (s.server .binary).handler n = .kicking .callback)
    (hrun : Runs.exec (Emulator.step E) s (leaving .binary n) = some t) :
    t.layer.device = s.layer.device ∧ (b.kick ((s.server .binary).handle n)).ShowsIn t := by
  obtain ⟨s₁, hs₁, hrun⟩ := Runs.exec_cons_eq_some.1 hrun
  obtain ⟨s₂, hs₂, hrun⟩ := Runs.exec_cons_eq_some.1 hrun
  obtain ⟨s₃, hs₃, hrun⟩ := Runs.exec_cons_eq_some.1 hrun
  obtain rfl := Option.some_inj.1 hrun
  obtain ⟨hdevice₁, hhandle₁, hn₁, b₁, hb₁, hrest₁⟩ := shows_kick_step hb hn hs₁
  obtain ⟨hdevice₂, hhandle₂, hn₂, b₂, hb₂, hrest₂⟩ := shows_kick_step hb₁ hn₁ hs₂
  obtain ⟨hdevice₃, -, -, b₃, hb₃, hrest₃⟩ := shows_kick_step hb₂ hn₂ hs₃
  refine ⟨hdevice₃.trans (hdevice₂.trans hdevice₁), ?_⟩
  have hkick : b₃ = b.kick ((s.server .binary).handle n) := by
    rw [hhandle₁] at hrest₂
    rw [hhandle₂, hhandle₁] at hrest₃
    calc b₃ = b₂.kickFrom ((s.server .binary).handle n) .close := hrest₃
      _ = b₁.kickFrom ((s.server .binary).handle n) .erase := hrest₂
      _ = b.kickFrom ((s.server .binary).handle n) .callback := hrest₁
  rw [← hkick]
  exact hb₃

/-! ### Runs -/

/-- A run of the emulator from `m₀` in which no connect callback and no kick of the binary port is
interrupted, with what it is for the frames.  What else may come leaves the map and the active
client of the binary port as they are. -/
inductive Undisturbed (E : Env) (m₀ : Machine) : List SinkAction → Machine → Prop
  | start : Undisturbed E m₀ [] m₀
  | accept {as : List SinkAction} {m : Machine} {t : Emulator} (h : Undisturbed E m₀ as m)
      (id k : ℕ) (hid : id ≠ 0)
      (hrun : Runs.exec (Emulator.step E) m.emulator (accepting .binary id k) = some t)
      (hend : (t.server .binary).acceptThread = .listening) :
      Undisturbed E m₀ (as ++ [.accept id]) { m with emulator := t }
  | leave {as : List SinkAction} {m : Machine} {t : Emulator} (h : Undisturbed E m₀ as m) (n : ℕ)
      (hn : (m.emulator.server .binary).handler n = .kicking .callback)
      (hrun : Runs.exec (Emulator.step E) m.emulator (leaving .binary n) = some t) :
      Undisturbed E m₀ (as ++ [.kick ((m.emulator.server .binary).handle n)])
        { m with emulator := t }
  | other {as : List SinkAction} {m m' : Machine} (h : Undisturbed E m₀ as m) (b : MachineAction)
      (hstep : Machine.step E m b = some m')
      (hclient : m'.emulator.layer.client .binary = m.emulator.layer.client .binary)
      (hmap : (m'.emulator.server .binary).connections =
        (m.emulator.server .binary).connections) :
      Undisturbed E m₀ (as ++ (m.calls E b).map .device) m'

/-- The device with its sinks makes the calls that the device makes alone. -/
theorem Sinks.exec_device {u : Sinks} {sc : Scanner} {as : List ScanAction}
    (h : Runs.exec (MpsEmulator.step E) u.scanner as = some sc) :
    ∃ u', Runs.exec (Sinks.step E) u (as.map .device) = some u' ∧ u'.scanner = sc ∧
      u'.clients = u.clients := by
  induction as generalizing u with
  | nil =>
      obtain rfl := Option.some_inj.1 h
      exact ⟨u, rfl, rfl, rfl⟩
  | cons a as ih =>
      obtain ⟨sc₁, hsc₁, h⟩ := Runs.exec_cons_eq_some.1 h
      have hstep : Sinks.step E u (.device a) = some { u with
          scanner := sc₁
          queue := u.queue ++ u.newDatagrams E (.device a)
          streamed := u.streamed ++ u.newDatagrams E (.device a)
          scanCfg := if u.scanner.begins sc₁ then u.scanner.device.cfg else u.scanCfg } := by
        rw [Sinks.step, hsc₁]
        rfl
      obtain ⟨u', hu', hscanner, hclients⟩ := ih (u := { u with
          scanner := sc₁
          queue := u.queue ++ u.newDatagrams E (.device a)
          streamed := u.streamed ++ u.newDatagrams E (.device a)
          scanCfg := if u.scanner.begins sc₁ then u.scanner.device.cfg else u.scanCfg }) h
      exact ⟨u', Runs.exec_cons_eq_some.2 ⟨_, hstep, hu'⟩, hscanner, hclients⟩

/-- **The emulator is the device with its sinks**: a run in which no connect callback and no kick of
the binary port is interrupted is a run of the device, the clients of the binary port and the
queue, with the same device and scan thread and the same clients. -/
theorem sinks_of_undisturbed {deviceId : MpsDeviceID} {serialNumber : ℕ} {enableConsole : Bool}
    {as : List SinkAction} {m : Machine}
    (h : Undisturbed E (.start deviceId serialNumber enableConsole) as m) :
    ∃ u, Runs.exec (Sinks.step E) (.start (attachConfig deviceId serialNumber)) as = some u ∧
      m.scanner = some u.scanner ∧ u.clients.ShowsIn m.emulator := by
  induction h with
  | start =>
      refine ⟨_, rfl, rfl, rfl, fun id => ?_⟩
      simp [Sinks.start, Machine.start, Emulator.start, Server.start]
  | accept h id k hid hrun hend ih =>
      obtain ⟨u, hu, hscanner, hshows⟩ := ih
      obtain ⟨hdevice, hshows'⟩ := shows_accept hshows hrun hend
      refine ⟨{ u with clients := u.clients.accept id }, ?_, ?_, hshows'⟩
      · exact Runs.exec_append_eq_some.2 ⟨u, hu, Runs.exec_cons_eq_some.2 ⟨_, if_neg hid, rfl⟩⟩
      · rwa [Machine.scanner, hdevice]
  | leave h n hn hrun ih =>
      obtain ⟨u, hu, hscanner, hshows⟩ := ih
      obtain ⟨hdevice, hshows'⟩ := shows_leave hshows hn hrun
      refine ⟨{ u with clients := u.clients.kick _ }, ?_, ?_, hshows'⟩
      · exact Runs.exec_append_eq_some.2 ⟨u, hu, Runs.exec_cons_eq_some.2 ⟨_, rfl, rfl⟩⟩
      · rwa [Machine.scanner, hdevice]
  | other h b hstep hclient hmap ih =>
      obtain ⟨u, hu, hscanner, hshows⟩ := ih
      obtain ⟨sc, hexec, hscanner'⟩ := Machine.step_calls hscanner hstep
      obtain ⟨u', hu', rfl, hclients⟩ := Sinks.exec_device hexec
      refine ⟨u', Runs.exec_append_eq_some.2 ⟨u, hu, hu'⟩, hscanner', ?_⟩
      rw [BinaryClients.ShowsIn, hclients, hclient, hmap]
      exact hshows

/-- Every step leaves the active client registered. -/
theorem registered_step {u u' : Sinks} {c : SinkAction} (hu : u.clients.Registered)
    (h : Sinks.step E u c = some u') : u'.clients.Registered := by
  cases c with
  | device a =>
      obtain ⟨sc, -, rfl⟩ := Option.map_eq_some_iff.1 h
      exact hu
  | accept id =>
      obtain ⟨hid, h⟩ := Option.ite_none_left_eq_some.1 h
      rw [← Option.some_inj.1 h]
      exact hu.accept hid
  | kick id =>
      rw [← Option.some_inj.1 h]
      exact hu.kick id
  | take =>
      simp only [Sinks.step] at h
      split at h
      · rw [← Option.some_inj.1 h]
        exact hu
      · cases h
  | send =>
      obtain ⟨d, -, rfl⟩ := Option.map_eq_some_iff.1 h
      exact hu

/-- **The active client of the binary port is registered** in such a run, so `SendBuffer` finds it,
and a frame for it is sent to it alone. -/
theorem active_is_registered {deviceId : MpsDeviceID} {serialNumber : ℕ} {enableConsole : Bool}
    {as : List SinkAction} {m : Machine}
    (h : Undisturbed E (.start deviceId serialNumber enableConsole) as m)
    (hconnected : m.emulator.layer.binaryClient.connected = true) :
    ∃ s, Emulator.step E m.emulator
      (.on .binary (.sendFind m.emulator.layer.binaryClient.id)) = some s := by
  obtain ⟨u, hu, -, hshows⟩ := sinks_of_undisturbed h
  have hregistered : u.clients.Registered :=
    Runs.invariant (fun _ _ _ hu h => registered_step hu h)
      (fun hnone => absurd hnone (by simp [Sinks.start])) hu
  have hactive : m.emulator.layer.binaryClient = _ := hshows.active
  rw [hactive] at hconnected ⊢
  obtain ⟨hzero, hmem⟩ := hregistered hconnected
  have hfound := (hshows.registered _).1 hmem
  refine ⟨_, Option.map_eq_some_iff.2 ⟨_, if_pos ⟨hzero, hfound⟩, rfl⟩⟩

end MpsEmulator
