/-
**`Server`: the threads of a port and the map of its connections.**

Each of the two servers has a thread that accepts connections, one handler task for every connection
it has accepted, and a map from socket handles to clients that all of them, and everybody who sends,
read and write without a lock.  The model is a program counter for each thread, and one step for
each access to the map, each callback and each call of the operating system.

* `Server` — the map, the threads, and the task queue;
* `Effect` — what a step asks of the layer or of the operating system;
* `Server.kickClient` — the three instructions of `KickClient`, whoever executes it;
* `Server.acceptConnectionThreadFn`, `Server.handleConnectionThreadFn` — the next instruction of a
  thread;
* `ServerAction`, `Server.step` — the server;
* `ServerStep` — what a step does, said once; `Server.step_eq_some` derives it;
* `Server.WellFormed` — what always holds of a server and the active client of its port;
* `Server.within` — the ids for which a `KickClient` is under way.

The connections of a server are numbered in the order in which they are accepted.  A number is not
something the code knows: it only has the socket handle, which the operating system gives out again
once it has been closed.
-/

import MpsEmulator.ServerLayer

set_option relaxedAutoImplicit false
set_option autoImplicit false

namespace MpsEmulator

/-! ### The state -/

/-- The two ports, 23 and 503. -/
inductive Port
  | control
  | binary
  deriving DecidableEq

/-- A connection: its port, and its number among the connections accepted there. -/
abbrev Connection := Port × ℕ

/-- `ClientInfo`; the address is left out. -/
structure ClientInfo where
  id : ℕ
  deriving DecidableEq

/-- The value-initialised `ClientInfo` that `operator[]` inserts. -/
instance : Inhabited ClientInfo := ⟨{ id := 0 }⟩

/-- The members of `ServerInfo` that decide how many threads there are and how much is read. -/
structure ServerInfo where
  workers : ℕ
  bufferSize : ℕ
  enableUdp : Bool

/-- The settings of `OnAttach` for the servers. -/
def serverInfo : Port → ServerInfo
  | .control => { workers := 5, bufferSize := 1024, enableUdp := true }
  | .binary => { workers := 2, bufferSize := 1024, enableUdp := false }

/-- The workers that are left for handlers: one accepts, and one streams if there is UDP. -/
def ServerInfo.handlers (info : ServerInfo) : ℕ := info.workers - 1 - info.enableUdp.toNat

/-- The instructions of `KickClient`. -/
inductive KickStage
  /-- `m_ClientDisconnectCallback(id)` -/
  | callback
  /-- `m_Connections.erase(id)` -/
  | erase
  /-- `CloseSocket(id)` -/
  | close
  deriving DecidableEq

/-- The instruction behind this one. -/
def KickStage.next : KickStage → Option KickStage
  | .callback => some .erase
  | .erase => some .close
  | .close => none

/-- The points of `AcceptConnectionThreadFn`, those of the connect callback included. -/
inductive AcceptThread
  /-- in `accept` -/
  | listening
  /-- before the insertion into `m_Connections` -/
  | accepted (id : ℕ)
  /-- before the handler is enqueued -/
  | inserted (id : ℕ)
  /-- before the connect callback -/
  | enqueued (id : ℕ)
  /-- in the connect callback: kicking the client that was active when it began -/
  | kicking (id old : ℕ) (stage : KickStage)
  /-- in the connect callback: about to record the new client -/
  | recording (id : ℕ) (kicked : Bool)
  deriving DecidableEq

/-- The points of `HandleConnectionThreadFn`. -/
inductive Handler
  /-- not enqueued yet -/
  | absent
  /-- in the task queue -/
  | queued
  /-- `m_Connections.find(id)` -/
  | find
  /-- `m_Connections[id]` -/
  | index
  /-- in `recv` -/
  | recv
  /-- before the data callback for what was received, and whose socket it was received on -/
  | deliver (origin : Connection) (seg : Bytes)
  /-- behind the loop, in `KickClient` -/
  | kicking (stage : KickStage)
  /-- returned -/
  | done
  deriving DecidableEq

/-- The members of `Server` and its threads.  `handle` and `handler` go by the number of the
connection; `started` counts the handlers that a worker has taken from the queue, `running` those
that have not returned, and `found` holds the ids of the sends that are past their `find`. -/
structure Server where
  info : ServerInfo
  connections : ℕ → Option ClientInfo
  acceptThread : AcceptThread
  accepted : ℕ
  handle : ℕ → ℕ
  handler : ℕ → Handler
  started : ℕ
  running : ℕ
  found : List ℕ

/-- A server after `Start`. -/
def Server.start (info : ServerInfo) : Server where
  info := info
  connections := fun _ => none
  acceptThread := .listening
  accepted := 0
  handle := fun _ => 0
  handler := fun _ => .absent
  started := 0
  running := 0
  found := []

/-! ### The steps -/

/-- What a step asks of the operating system or of the layer. -/
inductive Effect
  | none
  /-- `accept` has returned the handle for the connection with this number. -/
  | opened (id n : ℕ)
  /-- `CloseSocket(id)` -/
  | closed (id : ℕ)
  /-- the disconnect callback -/
  | disconnected (id : ℕ)
  /-- the end of the connect callback, which records the client -/
  | recorded (id : ℕ) (kicked : Bool)
  /-- the data callback -/
  | received (id : ℕ) (seg : Bytes)

/-- The active client of the port after a step. -/
def Effect.client (c : ActiveClient) : Effect → ActiveClient
  | .disconnected id => if id = c.id then .none else c
  | .recorded id _ => { id := id, connected := true }
  | _ => c

/-- `(SOCKET)(~0)`, which `accept` returns when it fails. -/
def invalidSocket : ℕ := 2 ^ 64 - 1

/-- `m_Connections[id]`: an entry that is not there is inserted. -/
def indexed (connections : ℕ → Option ClientInfo) (id : ℕ) : ℕ → Option ClientInfo :=
  Function.update connections id (some ((connections id).getD default))

/-- Moving a handler to another point. -/
def Server.setHandler (srv : Server) (n : ℕ) (h : Handler) : Server :=
  { srv with handler := Function.update srv.handler n h }

/-- One instruction of `Server::KickClient`. -/
def Server.kickClient (srv : Server) (id : ℕ) : KickStage → Server × Effect
  | .callback => (srv, .disconnected id)
  | .erase => ({ srv with connections := Function.update srv.connections id none }, .none)
  | .close => (srv, .closed id)

/-- Where the connect callback goes when it begins. -/
def connectBranch (client : ActiveClient) (id : ℕ) : AcceptThread :=
  if id = client.id then .listening
  else if client.connected then .kicking id client.id .callback
  else .recording id false

/-- The next instruction of `Server::AcceptConnectionThreadFn` and of the connect callback it
runs. -/
def Server.acceptConnectionThreadFn (srv : Server) (client : ActiveClient) :
    Option (Server × Effect) :=
  match srv.acceptThread with
  | .listening => none
  | .accepted id =>
      some ({ srv with
        connections := Function.update srv.connections id (some { id := id })
        acceptThread := .inserted id }, .none)
  | .inserted id =>
      some ({ srv.setHandler (srv.accepted - 1) .queued with acceptThread := .enqueued id }, .none)
  | .enqueued id => some ({ srv with acceptThread := connectBranch client id }, .none)
  | .kicking id old stage =>
      let (srv', e) := srv.kickClient old stage
      some ({ srv' with
        acceptThread :=
          match stage.next with
          | some stage' => .kicking id old stage'
          | none => .recording id true }, e)
  | .recording id kicked => some ({ srv with acceptThread := .listening }, .recorded id kicked)

/-- The next instruction of `Server::HandleConnectionThreadFn` for a connection, unless it waits for
a worker or for data. -/
def Server.handleConnectionThreadFn (srv : Server) (n : ℕ) : Option (Server × Effect) :=
  let id := srv.handle n
  match srv.handler n with
  | .absent | .queued | .recv | .done => none
  | .find =>
      some (srv.setHandler n (if (srv.connections id).isSome then .index else .kicking .callback),
        .none)
  | .index =>
      some ({ srv with connections := indexed srv.connections id }.setHandler n .recv, .none)
  | .deliver _ seg => some (srv.setHandler n .find, .received id seg)
  | .kicking stage =>
      let (srv', e) := srv.kickClient id stage
      some (match stage.next with
        | some stage' => srv'.setHandler n (.kicking stage')
        | none => { srv'.setHandler n .done with running := srv'.running - 1 }, e)

/-- The moves of a server. -/
inductive ServerAction
  /-- `accept` returns a handle. -/
  | accept (id : ℕ)
  /-- The accept thread goes on. -/
  | acceptThread
  /-- A worker takes the next handler from the queue. -/
  | start
  /-- `recv` returns data. -/
  | recvData (n : ℕ) (seg : Bytes)
  /-- `recv` returns 0 or an error. -/
  | recvEnd (n : ℕ)
  /-- A handler goes on. -/
  | handler (n : ℕ)
  /-- `SendBuffer`, in any thread: `m_Connections.find(id)` finds the id. -/
  | sendFind (id : ℕ)
  /-- `SendBuffer`, in any thread: `m_Connections[id]`. -/
  | sendIndex (id : ℕ)
  deriving DecidableEq

/-- A step of the server.  It reads the active client of its port and the open sockets.  Data comes
from whatever connection has the handle, and `recv` may end at any time. -/
def Server.step (srv : Server) (client : ActiveClient) (sockets : ℕ → Option Connection) :
    ServerAction → Option (Server × Effect)
  | .accept id =>
      if srv.acceptThread = .listening ∧ sockets id = none ∧ id < invalidSocket then
        some ({ srv with
          acceptThread := .accepted id
          accepted := srv.accepted + 1
          handle := Function.update srv.handle srv.accepted id }, .opened id srv.accepted)
      else none
  | .acceptThread => srv.acceptConnectionThreadFn client
  | .start =>
      if srv.handler srv.started = .queued ∧ srv.running < srv.info.handlers then
        some ({ srv.setHandler srv.started .find with
          started := srv.started + 1
          running := srv.running + 1 }, .none)
      else none
  | .recvData n seg =>
      match sockets (srv.handle n) with
      | some origin =>
          if srv.handler n = .recv ∧ seg ≠ [] ∧ seg.length ≤ srv.info.bufferSize then
            some (srv.setHandler n (.deliver origin seg), .none)
          else none
      | none => none
  | .recvEnd n =>
      if srv.handler n = .recv then some (srv.setHandler n (.kicking .callback), .none) else none
  | .handler n => srv.handleConnectionThreadFn n
  | .sendFind id =>
      -- id 0 is for everybody and does not index the map
      if id ≠ 0 ∧ (srv.connections id).isSome then
        some ({ srv with found := id :: srv.found }, .none)
      else none
  | .sendIndex id =>
      if id ∈ srv.found then
        some ({ srv with connections := indexed srv.connections id, found := srv.found.erase id },
          .none)
      else none

/-! ### What a step does -/

/-- The three ways through the connect callback. -/
theorem connectBranch_cases (client : ActiveClient) (id : ℕ) :
    (id = client.id ∧ connectBranch client id = .listening) ∨
      (id ≠ client.id ∧ client.connected = true ∧
        connectBranch client id = .kicking id client.id .callback) ∨
      (id ≠ client.id ∧ client.connected = false ∧
        connectBranch client id = .recording id false) := by
  unfold connectBranch
  by_cases hid : id = client.id
  · exact Or.inl ⟨hid, if_pos hid⟩
  · rw [if_neg hid]
    cases client.connected with
    | true => exact Or.inr (Or.inl ⟨hid, rfl, rfl⟩)
    | false => exact Or.inr (Or.inr ⟨hid, rfl, rfl⟩)

/-- The handler has run the disconnect callback. -/
def Handler.reported : Handler → Bool
  | .kicking .erase | .kicking .close | .done => true
  | _ => false

/-- The handler is at a point before the end of its loop. -/
def Handler.inLoop : Handler → Bool
  | .queued | .find | .index | .recv | .deliver .. => true
  | _ => false

theorem Handler.inLoop_facts {h : Handler} (hloop : h.inLoop = true) :
    h ≠ .absent ∧ h.reported = false ∧ ∀ stage, h ≠ .kicking stage := by
  cases h <;> simp_all [Handler.inLoop, Handler.reported]

/-- The handler that a step moves. -/
def ServerAction.mover (srv : Server) : ServerAction → Option ℕ
  | .start => some srv.started
  | .recvData n _ | .recvEnd n | .handler n => some n
  | _ => none

/-- What a step of a server does: the cases that differ in the map, the accept thread, the socket
table or the layer.  A handler that has not come to its disconnect callback moves as in `loop`. -/
inductive ServerStep (srv : Server) (client : ActiveClient) (sockets : ℕ → Option Connection) :
    ServerAction → Server → Effect → Prop
  | accept (id : ℕ) (hpc : srv.acceptThread = .listening) (hid : sockets id = none) :
      ServerStep srv client sockets (.accept id)
        { srv with
          acceptThread := .accepted id
          accepted := srv.accepted + 1
          handle := Function.update srv.handle srv.accepted id }
        (.opened id srv.accepted)
  | insert (id : ℕ) (hpc : srv.acceptThread = .accepted id) :
      ServerStep srv client sockets .acceptThread
        { srv with
          connections := Function.update srv.connections id (some { id := id })
          acceptThread := .inserted id }
        .none
  | enqueue (id : ℕ) (hpc : srv.acceptThread = .inserted id) :
      ServerStep srv client sockets .acceptThread
        { srv.setHandler (srv.accepted - 1) .queued with acceptThread := .enqueued id } .none
  | connect (id : ℕ) (hpc : srv.acceptThread = .enqueued id) :
      ServerStep srv client sockets .acceptThread
        { srv with acceptThread := connectBranch client id } .none
  | connectKick (id old : ℕ) (stage stage' : KickStage)
      (hpc : srv.acceptThread = .kicking id old stage) (hnext : stage.next = some stage') :
      ServerStep srv client sockets .acceptThread
        { (srv.kickClient old stage).1 with acceptThread := .kicking id old stage' }
        (srv.kickClient old stage).2
  | connectClose (id old : ℕ) (hpc : srv.acceptThread = .kicking id old .close) :
      ServerStep srv client sockets .acceptThread
        { srv with acceptThread := .recording id true } (.closed old)
  | record (id : ℕ) (kicked : Bool) (hpc : srv.acceptThread = .recording id kicked) :
      ServerStep srv client sockets .acceptThread
        { srv with acceptThread := .listening } (.recorded id kicked)
  | loop (a : ServerAction) (n started running : ℕ) (h : Handler) (e : Effect)
      (ha : a.mover srv = some n) (hold : (srv.handler n).inLoop = true)
      (hnew : h.inLoop = true ∨ h = .kicking .callback)
      (horigin : ∀ o seg, h = .deliver o seg → sockets (srv.handle n) = some o)
      (he : e = .none ∨ ∃ o seg, a = .handler n ∧ srv.handler n = .deliver o seg ∧
        e = .received (srv.handle n) seg) :
      ServerStep srv client sockets a
        { srv.setHandler n h with started := started, running := running } e
  | index (n : ℕ) (hn : srv.handler n = .index) :
      ServerStep srv client sockets (.handler n)
        ({ srv with connections := indexed srv.connections (srv.handle n) }.setHandler n .recv)
        .none
  | kick (n : ℕ) (stage stage' : KickStage) (hn : srv.handler n = .kicking stage)
      (hnext : stage.next = some stage') :
      ServerStep srv client sockets (.handler n)
        ((srv.kickClient (srv.handle n) stage).1.setHandler n (.kicking stage'))
        (srv.kickClient (srv.handle n) stage).2
  | close (n : ℕ) (hn : srv.handler n = .kicking .close) :
      ServerStep srv client sockets (.handler n)
        { srv.setHandler n .done with running := srv.running - 1 } (.closed (srv.handle n))
  | sendFind (id : ℕ) :
      ServerStep srv client sockets (.sendFind id) { srv with found := id :: srv.found } .none
  | sendIndex (id : ℕ) :
      ServerStep srv client sockets (.sendIndex id)
        { srv with connections := indexed srv.connections id, found := srv.found.erase id } .none

variable {srv srv' : Server} {client : ActiveClient} {sockets : ℕ → Option Connection}
  {a : ServerAction} {e : Effect}

/-- An instruction of the accept thread is one of the cases. -/
theorem Server.acceptConnectionThreadFn_eq_some
    (h : srv.acceptConnectionThreadFn client = some (srv', e)) :
    ServerStep srv client sockets .acceptThread srv' e := by
  unfold Server.acceptConnectionThreadFn at h
  cases hpc : srv.acceptThread with
  | listening => simp [hpc] at h
  | accepted id =>
      obtain ⟨rfl, rfl⟩ : _ = srv' ∧ _ = e := by simpa [hpc] using h
      exact .insert id hpc
  | inserted id =>
      obtain ⟨rfl, rfl⟩ : _ = srv' ∧ _ = e := by simpa [hpc] using h
      exact .enqueue id hpc
  | enqueued id =>
      obtain ⟨rfl, rfl⟩ : _ = srv' ∧ _ = e := by simpa [hpc] using h
      exact .connect id hpc
  | kicking id old stage =>
      obtain ⟨rfl, rfl⟩ : _ = srv' ∧ _ = e := by simpa [hpc] using h
      cases stage with
      | callback => exact .connectKick id old .callback .erase hpc rfl
      | erase => exact .connectKick id old .erase .close hpc rfl
      | close => exact .connectClose id old hpc
  | recording id kicked =>
      obtain ⟨rfl, rfl⟩ : _ = srv' ∧ _ = e := by simpa [hpc] using h
      exact .record id kicked hpc

/-- An instruction of a handler is one of the cases. -/
theorem Server.handleConnectionThreadFn_eq_some {n : ℕ}
    (h : srv.handleConnectionThreadFn n = some (srv', e)) :
    ServerStep srv client sockets (.handler n) srv' e := by
  unfold Server.handleConnectionThreadFn at h
  cases hn : srv.handler n with
  | absent => simp [hn] at h
  | queued => simp [hn] at h
  | recv => simp [hn] at h
  | done => simp [hn] at h
  | find =>
      obtain ⟨rfl, rfl⟩ : _ = srv' ∧ _ = e := by simpa [hn] using h
      refine .loop _ n srv.started srv.running _ .none rfl ?_ ?_ ?_ (Or.inl rfl)
      · rw [hn]
        rfl
      · split
        · exact Or.inl rfl
        · exact Or.inr rfl
      · intro o seg hdeliver
        split at hdeliver <;> simp at hdeliver
  | index =>
      obtain ⟨rfl, rfl⟩ : _ = srv' ∧ _ = e := by simpa [hn] using h
      exact .index n hn
  | deliver o seg =>
      obtain ⟨rfl, rfl⟩ : _ = srv' ∧ _ = e := by simpa [hn] using h
      exact .loop _ n srv.started srv.running .find _ rfl (by rw [hn]; rfl) (Or.inl rfl) (by simp)
        (Or.inr ⟨o, seg, rfl, hn, rfl⟩)
  | kicking stage =>
      obtain ⟨rfl, rfl⟩ : _ = srv' ∧ _ = e := by simpa [hn] using h
      cases stage with
      | callback => exact .kick n .callback .erase hn rfl
      | erase => exact .kick n .erase .close hn rfl
      | close => exact .close n hn

/-- **Every step of a server is one of the cases.** -/
theorem Server.step_eq_some (h : srv.step client sockets a = some (srv', e)) :
    ServerStep srv client sockets a srv' e := by
  cases a with
  | accept id =>
      obtain ⟨⟨hpc, hid, -⟩, h⟩ := Option.ite_none_right_eq_some.1 h
      obtain ⟨rfl, rfl⟩ : _ = srv' ∧ _ = e := by simpa using h
      exact .accept id hpc hid
  | acceptThread => exact Server.acceptConnectionThreadFn_eq_some h
  | start =>
      obtain ⟨⟨hqueued, -⟩, h⟩ := Option.ite_none_right_eq_some.1 h
      obtain ⟨rfl, rfl⟩ : _ = srv' ∧ _ = e := by simpa using h
      exact .loop _ srv.started (srv.started + 1) (srv.running + 1) .find .none rfl
        (by rw [hqueued]; rfl) (Or.inl rfl) (by simp) (Or.inl rfl)
  | recvData n seg =>
      cases horigin : sockets (srv.handle n) with
      | none => simp [Server.step, horigin] at h
      | some origin =>
          simp only [Server.step, horigin] at h
          obtain ⟨⟨hrecv, -⟩, h⟩ := Option.ite_none_right_eq_some.1 h
          obtain ⟨rfl, rfl⟩ : _ = srv' ∧ _ = e := by simpa using h
          refine .loop _ n srv.started srv.running (.deliver origin seg) .none rfl
            (by rw [hrecv]; rfl) (Or.inl rfl) ?_ (Or.inl rfl)
          intro o seg' hdeliver
          rw [horigin, (Handler.deliver.inj hdeliver).1]
  | recvEnd n =>
      obtain ⟨hrecv, h⟩ := Option.ite_none_right_eq_some.1 h
      obtain ⟨rfl, rfl⟩ : _ = srv' ∧ _ = e := by simpa using h
      exact .loop _ n srv.started srv.running (.kicking .callback) .none rfl (by rw [hrecv]; rfl)
        (Or.inr rfl) (by simp) (Or.inl rfl)
  | handler n => exact Server.handleConnectionThreadFn_eq_some h
  | sendFind id =>
      obtain ⟨-, h⟩ := Option.ite_none_right_eq_some.1 h
      obtain ⟨rfl, rfl⟩ : _ = srv' ∧ _ = e := by simpa using h
      exact .sendFind id
  | sendIndex id =>
      obtain ⟨-, h⟩ := Option.ite_none_right_eq_some.1 h
      obtain ⟨rfl, rfl⟩ : _ = srv' ∧ _ = e := by simpa using h
      exact .sendIndex id

/-! ### What always holds -/

/-- The id that the accept thread is busy with. -/
def AcceptThread.id : AcceptThread → Option ℕ
  | .listening => none
  | .accepted id | .inserted id | .enqueued id | .kicking id _ _ | .recording id _ => some id

/-- The connections whose handlers have been enqueued. -/
def Server.enqueued (srv : Server) : ℕ :=
  match srv.acceptThread with
  | .accepted _ | .inserted _ => srv.accepted - 1
  | _ => srv.accepted

/-- What the accept thread knows of the active client within the connect callback: nobody else
records a client. -/
def AcceptThread.Knows (c : ActiveClient) : AcceptThread → Prop
  | .kicking _ old .callback => c.connected = true → c.id = old
  | .kicking _ _ .erase | .kicking _ _ .close | .recording _ _ => c.connected = false
  | _ => True

/-- What holds of a server and the active client of its port in every reachable state. -/
structure Server.WellFormed (srv : Server) (c : ActiveClient) : Prop where
  absent : ∀ n, srv.enqueued ≤ n → srv.handler n = .absent
  current : ∀ id, srv.acceptThread.id = some id →
    0 < srv.accepted ∧ srv.handle (srv.accepted - 1) = id
  knows : srv.acceptThread.Knows c
  idle : c.connected = false → c.id = 0

theorem Server.wellFormed_start (info : ServerInfo) : (Server.start info).WellFormed .none where
  absent := fun _ _ => rfl
  current := by simp [Server.start, AcceptThread.id]
  knows := trivial
  idle := fun _ => rfl

theorem Server.enqueued_le (srv : Server) : srv.enqueued ≤ srv.accepted := by
  unfold Server.enqueued
  split <;> omega

/-- A handler that exists belongs to a connection that was accepted. -/
theorem Server.WellFormed.lt_accepted (hw : srv.WellFormed client) {n : ℕ}
    (hn : srv.handler n ≠ .absent) : n < srv.accepted := by
  by_contra hle
  exact hn (hw.absent n (srv.enqueued_le.trans (by omega)))

/-- Moving a handler that exists changes nothing of this. -/
theorem Server.WellFormed.moved (hw : srv.WellFormed client) {n : ℕ} {h : Handler}
    (hn : srv.handler n ≠ .absent) (hthread : srv'.acceptThread = srv.acceptThread)
    (haccepted : srv'.accepted = srv.accepted) (hhandle : srv'.handle = srv.handle)
    (hhandler : srv'.handler = Function.update srv.handler n h) : srv'.WellFormed client where
  absent := by
    intro m hm
    simp only [Server.enqueued, hthread, haccepted] at hm
    have hmn : m ≠ n := by
      rintro rfl
      exact hn (hw.absent m hm)
    rw [hhandler, Function.update_of_ne hmn]
    exact hw.absent m hm
  current := by
    rw [hthread, haccepted, hhandle]
    exact hw.current
  knows := by
    rw [hthread]
    exact hw.knows
  idle := hw.idle

/-- A disconnect callback changes nothing of this. -/
theorem Server.WellFormed.disconnected (hw : srv.WellFormed client) (id : ℕ) :
    srv.WellFormed (Effect.client client (.disconnected id)) := by
  simp only [Effect.client]
  split
  · refine ⟨hw.absent, hw.current, ?_, fun _ => rfl⟩
    unfold AcceptThread.Knows
    split <;> simp [ActiveClient.none]
  · exact hw

/-- **Every step of a server keeps it well formed.** -/
theorem ServerStep.wellFormed (hw : srv.WellFormed client)
    (h : ServerStep srv client sockets a srv' e) : srv'.WellFormed (e.client client) := by
  cases h with
  | accept id hpc hid =>
      refine ⟨?_, ?_, trivial, hw.idle⟩
      · intro n hn
        refine hw.absent n ?_
        simp only [Server.enqueued, hpc] at hn ⊢
        omega
      · intro id' hid'
        obtain rfl : id = id' := Option.some_inj.1 hid'
        exact ⟨Nat.succ_pos _, by simp⟩
  | insert id hpc =>
      refine ⟨?_, ?_, trivial, hw.idle⟩
      · have habsent := hw.absent
        simpa only [Server.enqueued, hpc] using habsent
      · have hcurrent := hw.current
        simpa only [AcceptThread.id, hpc] using hcurrent
  | enqueue id hpc =>
      obtain ⟨hpos, hid⟩ := hw.current id (by rw [hpc]; rfl)
      refine ⟨?_, ?_, trivial, hw.idle⟩
      · intro n hn
        have hle : srv.accepted ≤ n := hn
        have hne : n ≠ srv.accepted - 1 := by omega
        refine (Function.update_of_ne hne _ _).trans (hw.absent n ?_)
        exact srv.enqueued_le.trans hle
      · intro id' hid'
        obtain rfl : id = id' := Option.some_inj.1 hid'
        exact ⟨hpos, hid⟩
  | connect id hpc =>
      have hcurrent := hw.current id (by rw [hpc]; rfl)
      have habsent : ∀ n, srv.accepted ≤ n → srv.handler n = .absent := by
        have habsent := hw.absent
        simpa only [Server.enqueued, hpc] using habsent
      obtain ⟨-, hb⟩ | ⟨-, -, hb⟩ | ⟨-, hcon, hb⟩ := connectBranch_cases client id
      · rw [hb]
        exact ⟨habsent, by simp [AcceptThread.id], trivial, hw.idle⟩
      · rw [hb]
        refine ⟨habsent, ?_, fun _ => rfl, hw.idle⟩
        intro id' hid'
        rwa [← Option.some_inj.1 hid']
      · rw [hb]
        refine ⟨habsent, ?_, hcon, hw.idle⟩
        intro id' hid'
        rwa [← Option.some_inj.1 hid']
  | connectKick id old stage stage' hpc hnext =>
      have hcurrent := hw.current id (by rw [hpc]; rfl)
      have habsent : ∀ n, srv.accepted ≤ n → srv.handler n = .absent := by
        have habsent := hw.absent
        simpa only [Server.enqueued, hpc] using habsent
      have hknows := hw.knows
      rw [hpc] at hknows
      cases stage with
      | callback =>
          obtain rfl : stage' = .erase := (Option.some_inj.1 hnext).symm
          refine ⟨habsent, ?_, ?_, (hw.disconnected old).idle⟩
          · intro id' hid'
            rwa [← Option.some_inj.1 hid']
          · -- the callback clears the client, unless a handler has done so already
            show (Effect.client client (.disconnected old)).connected = false
            simp only [Effect.client]
            split
            · rfl
            · rename_i hne
              by_contra hcon
              exact hne (hknows (by simpa using hcon)).symm
      | erase =>
          obtain rfl : stage' = .close := (Option.some_inj.1 hnext).symm
          refine ⟨habsent, ?_, hknows, hw.idle⟩
          intro id' hid'
          rwa [← Option.some_inj.1 hid']
      | close => cases hnext
  | connectClose id old hpc =>
      have hcurrent := hw.current id (by rw [hpc]; rfl)
      have habsent := hw.absent
      have hknows := hw.knows
      simp only [Server.enqueued, hpc] at habsent
      rw [hpc] at hknows
      refine ⟨habsent, ?_, hknows, hw.idle⟩
      intro id' hid'
      rwa [← Option.some_inj.1 hid']
  | record id kicked hpc =>
      have habsent := hw.absent
      simp only [Server.enqueued, hpc] at habsent
      exact ⟨habsent, by simp [AcceptThread.id], trivial, by simp [Effect.client]⟩
  | loop a n started running h e ha hold hnew horigin he =>
      have hclient : e.client client = client := by
        obtain rfl | ⟨o, seg, -, -, rfl⟩ := he <;> rfl
      rw [hclient]
      exact hw.moved (Handler.inLoop_facts hold).1 rfl rfl rfl rfl
  | index n hn => exact hw.moved (by simp [hn]) rfl rfl rfl rfl
  | kick n stage stage' hn hnext =>
      cases stage with
      | callback => exact (hw.disconnected _).moved (by simp [hn]) rfl rfl rfl rfl
      | erase => exact hw.moved (by simp [hn]) rfl rfl rfl rfl
      | close => cases hnext
  | close n hn => exact hw.moved (by simp [hn]) rfl rfl rfl rfl
  | sendFind id => exact ⟨hw.absent, hw.current, hw.knows, hw.idle⟩
  | sendIndex id => exact ⟨hw.absent, hw.current, hw.knows, hw.idle⟩

/-! ### Kicks under way -/

/-- The stage of a handler in `KickClient` is one of these. -/
def Handler.within (stages : KickStage → Bool) : Handler → Bool
  | .kicking stage => stages stage
  | _ => false

/-- The id that the connect callback is kicking, if it is at one of these stages. -/
def AcceptThread.within (stages : KickStage → Bool) : AcceptThread → Option ℕ
  | .kicking _ old stage => if stages stage then some old else none
  | _ => none

/-- A `KickClient` of the id is at one of these stages. -/
def Server.within (srv : Server) (stages : KickStage → Bool) (id : ℕ) : Prop :=
  (∃ n, n < srv.accepted ∧ (srv.handler n).within stages = true ∧ srv.handle n = id) ∨
    srv.acceptThread.within stages = some id

instance (srv : Server) (stages : KickStage → Bool) (id : ℕ) : Decidable (srv.within stages id) :=
  inferInstanceAs (Decidable ((∃ n, n < srv.accepted ∧ _) ∨ _))

section Within

variable {stages : KickStage → Bool}

/-- A handler in the loop is not in `KickClient`. -/
theorem Handler.within_of_inLoop {h : Handler} (hloop : h.inLoop = true) :
    h.within stages = false := by
  cases h <;> simp_all [Handler.inLoop, Handler.within]

/-- The kicks under way are those of the handlers and of the accept thread. -/
theorem Server.within_congr
    (hhandler : ∀ n, n < srv'.accepted ∧ (srv'.handler n).within stages = true ↔
      n < srv.accepted ∧ (srv.handler n).within stages = true)
    (hhandle : ∀ n, n < srv.accepted → srv'.handle n = srv.handle n)
    (hthread : srv'.acceptThread.within stages = srv.acceptThread.within stages) :
    srv'.within stages = srv.within stages := by
  funext k
  refine propext (or_congr (exists_congr fun n => ?_) (by rw [hthread]))
  rw [← and_assoc, ← and_assoc, hhandler]
  refine and_congr_right fun hn => ?_
  rw [hhandle n hn.1]

/-- The accept thread moves on without coming to these stages or leaving them. -/
theorem Server.within_of_thread (haccepted : srv'.accepted = srv.accepted)
    (hhandle : srv'.handle = srv.handle) (hhandler : srv'.handler = srv.handler)
    (hthread : srv'.acceptThread.within stages = srv.acceptThread.within stages) :
    srv'.within stages = srv.within stages := by
  refine Server.within_congr ?_ (fun n _ => by rw [hhandle]) hthread
  intro n
  rw [haccepted, hhandler]

/-- Accepting a connection begins no kick. -/
theorem Server.within_of_accept (hw : srv.WellFormed client) {id : ℕ}
    (haccepted : srv'.accepted = srv.accepted + 1)
    (hhandle : srv'.handle = Function.update srv.handle srv.accepted id)
    (hhandler : srv'.handler = srv.handler)
    (hthread : srv'.acceptThread.within stages = srv.acceptThread.within stages) :
    srv'.within stages = srv.within stages := by
  refine Server.within_congr ?_ ?_ hthread
  · intro n
    rw [haccepted, hhandler]
    constructor
    · rintro ⟨-, hkick⟩
      refine ⟨hw.lt_accepted ?_, hkick⟩
      intro habsent
      rw [habsent] at hkick
      cases hkick
    · rintro ⟨hlt, hkick⟩
      exact ⟨hlt.trans (Nat.lt_succ_self _), hkick⟩
  · intro n hn
    rw [hhandle, Function.update_of_ne hn.ne]

/-- A handler moves on without coming to these stages or leaving them. -/
theorem Server.within_of_moved {n : ℕ} {h : Handler}
    (hsame : h.within stages = (srv.handler n).within stages)
    (haccepted : srv'.accepted = srv.accepted) (hhandle : srv'.handle = srv.handle)
    (hhandler : srv'.handler = Function.update srv.handler n h)
    (hthread : srv'.acceptThread.within stages = srv.acceptThread.within stages) :
    srv'.within stages = srv.within stages := by
  refine Server.within_congr ?_ (fun m _ => by rw [hhandle]) hthread
  intro m
  rw [haccepted, hhandler]
  by_cases hmn : m = n
  · subst hmn
    rw [Function.update_self, hsame]
  · rw [Function.update_of_ne hmn]

/-- A handler comes to these stages. -/
theorem Server.within_of_enter {n : ℕ} {h : Handler} (hlt : n < srv.accepted)
    (hold : (srv.handler n).within stages = false) (hnew : h.within stages = true) (k : ℕ) :
    (srv.setHandler n h).within stages k ↔ srv.within stages k ∨ k = srv.handle n := by
  constructor
  · rintro (⟨m, hm, hkick, hid⟩ | hthread)
    · by_cases hmn : m = n
      · exact Or.inr (by rw [← hid, hmn]; rfl)
      · have hkick : (Function.update srv.handler n h m).within stages = true := hkick
        rw [Function.update_of_ne hmn] at hkick
        exact Or.inl (Or.inl ⟨m, hm, hkick, hid⟩)
    · exact Or.inl (Or.inr hthread)
  · rintro ((⟨m, hm, hkick, hid⟩ | hthread) | rfl)
    · have hmn : m ≠ n := by
        rintro rfl
        rw [hold] at hkick
        cases hkick
      exact Or.inl ⟨m, hm, by simpa [Server.setHandler, hmn] using hkick, hid⟩
    · exact Or.inr hthread
    · exact Or.inl ⟨n, hlt, by simpa [Server.setHandler] using hnew, rfl⟩

/-- A handler leaves these stages. -/
theorem Server.within_of_leave {n : ℕ} {h : Handler} (hnew : h.within stages = false) :
    (∀ k, (srv.setHandler n h).within stages k → srv.within stages k) ∧
      ∀ k, srv.within stages k → k = srv.handle n ∨ (srv.setHandler n h).within stages k := by
  constructor
  · rintro k (⟨m, hm, hkick, hid⟩ | hthread)
    · have hmn : m ≠ n := by
        rintro rfl
        simp [Server.setHandler, hnew] at hkick
      exact Or.inl ⟨m, hm, by simpa [Server.setHandler, hmn] using hkick, hid⟩
    · exact Or.inr hthread
  · rintro k (⟨m, hm, hkick, hid⟩ | hthread)
    · by_cases hmn : m = n
      · exact Or.inl (by rw [← hid, hmn])
      · exact Or.inr (Or.inl ⟨m, hm, by simpa [Server.setHandler, hmn] using hkick, hid⟩)
    · exact Or.inr (Or.inr hthread)

/-- The connect callback comes to these stages. -/
theorem Server.within_of_connectEnter {t : AcceptThread} {old : ℕ}
    (hold : srv.acceptThread.within stages = none) (hnew : t.within stages = some old) (k : ℕ) :
    ({ srv with acceptThread := t } : Server).within stages k ↔
      srv.within stages k ∨ k = old := by
  simp only [Server.within, hold, hnew, Option.some_inj, reduceCtorEq, or_false, eq_comm]

/-- The connect callback leaves these stages. -/
theorem Server.within_of_connectLeave {t : AcceptThread} {old : ℕ}
    (hold : srv.acceptThread.within stages = some old) (hnew : t.within stages = none) :
    (∀ k, ({ srv with acceptThread := t } : Server).within stages k → srv.within stages k) ∧
      ∀ k, srv.within stages k →
        k = old ∨ ({ srv with acceptThread := t } : Server).within stages k := by
  constructor
  · rintro k (hhandler | hthread)
    · exact Or.inl hhandler
    · rw [show ({ srv with acceptThread := t } : Server).acceptThread = t from rfl, hnew] at hthread
      cases hthread
  · rintro k (hhandler | hthread)
    · exact Or.inr (Or.inl hhandler)
    · rw [hold] at hthread
      exact Or.inl (Option.some_inj.1 hthread).symm

end Within

end MpsEmulator
