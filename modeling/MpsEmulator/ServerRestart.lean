/-
**Starting and stopping a server, over and over.**

`ServerLayer::OnUpdate` starts a server again whenever it is not running.  That works if a start
either succeeds as a whole or leaves nothing behind, and if a stop can be undone.  Neither is so: a
start that fails at its address keeps the socket, one that fails at its stream socket leaves the
server marked as running, and a stop ends the thread pool for good.  A stop with a client does not
even get there: its loop over the clients breaks.

* `ServerLife` — the members of a server that `Start` and `Stop` use, with its thread pool;
* `ServerLife.start`, `ServerLife.stop`, `ServerLife.step` — the code, the steps of the workers
  between the calls, and the clients that come and go;
* `AllOrNothing` — the server is marked as running exactly if the last start did all it should and
  its tasks are alive, and otherwise nothing of it is left; and every call had a meaning;
* `CleanCall` — the condition on a call;
* `allOrNothing_iff_clean` — **this holds over a run exactly if every call is clean**;
* `stream_socket_fails` — one call that is not.

`InitializeNetworking` is taken as one call that succeeds or fails.  A socket is open from the call
that creates it until `CloseSocket`, and every new one has a new number.
-/

import MpsEmulator.Networking
import MpsEmulator.ThreadPool

set_option relaxedAutoImplicit false
set_option autoImplicit false

namespace MpsEmulator

variable {n : ℕ}

/-! ### The server -/

/-- What the last call of `Start` did: whether it opened and bound the TCP socket, whether it opened
the stream socket, and the numbers of the tasks it queued. -/
structure LastStart where
  bound : Bool
  streamOpened : Bool
  accept : Option ℕ
  stream : Option ℕ

/-- A start that failed before it queued a task. -/
def LastStart.failed : LastStart :=
  { bound := false, streamOpened := false, accept := none, stream := none }

/-- A server with `n` workers.  `sockets`, `nextSocket`, `last`, `ownTasks` and `undefined` record
what the operating system holds and what the calls did. -/
structure ServerLife (n : ℕ) where
  /-- `m_ServerIsRunning`. -/
  running : Bool
  /-- `m_ServerSocket`, `none` for `INVALID_SOCKET`. -/
  serverSocket : Option ℕ
  /-- `m_StreamSocket`. -/
  streamSocket : Option ℕ
  /-- `m_Threads`. -/
  pool : Pool n
  /-- `m_Connections`. -/
  connections : OrderedMap ℕ ClientInfo
  /-- The sockets opened by `Start` that are open. -/
  sockets : Finset ℕ
  nextSocket : ℕ
  last : LastStart
  /-- The accept and stream tasks queued so far. -/
  ownTasks : Finset ℕ
  /-- A call of `Stop` had no meaning. -/
  undefined : Bool

/-- The server as it is constructed. -/
def ServerLife.init (n : ℕ) : ServerLife n where
  running := false
  serverSocket := none
  streamSocket := none
  pool := Pool.init n
  connections := .empty
  sockets := ∅
  nextSocket := 0
  last := .failed
  ownTasks := ∅
  undefined := false

/-- The socket call for `m_ServerSocket`, successful. -/
def ServerLife.openServer (s : ServerLife n) : ServerLife n :=
  { s with
    serverSocket := some s.nextSocket
    sockets := insert s.nextSocket s.sockets
    nextSocket := s.nextSocket + 1 }

/-- The socket call for `m_StreamSocket`, successful. -/
def ServerLife.openStream (s : ServerLife n) : ServerLife n :=
  { s with
    streamSocket := some s.nextSocket
    sockets := insert s.nextSocket s.sockets
    nextSocket := s.nextSocket + 1 }

/-- `CloseSocket`; the member keeps the number of the closed socket. -/
def closeSocket (sockets : Finset ℕ) : Option ℕ → Finset ℕ
  | some socket => sockets.erase socket
  | none => sockets

/-- The server once it is marked as running and the accept task is queued. -/
def ServerLife.accepting (s : ServerLife n) (pool : Pool n) : ServerLife n :=
  { s.openServer with
    running := true
    pool := pool
    last := { LastStart.failed with bound := true, accept := some s.pool.enqueued }
    ownTasks := insert s.pool.enqueued s.ownTasks }

/-- The server once the stream socket is open and the stream task is queued, too. -/
def ServerLife.streaming (s : ServerLife n) (pool pool' : Pool n) : ServerLife n :=
  { (s.accepting pool).openStream with
    pool := pool'
    last := { (s.accepting pool).last with streamOpened := true, stream := some pool.enqueued }
    ownTasks := insert pool.enqueued (s.accepting pool).ownTasks }

/-- `Server::Start`; `none` while it waits for the lock of the queue.  `CreateSocket` parses the
address after it has made the socket, and returns without closing it.  The address of the stream
socket is the same one. -/
def ServerLife.start (info : StartInfo) (calls : StartCalls) (s : ServerLife n) :
    Option (ServerLife n) :=
  if !calls.wsaStartup then some { s with last := .failed }
  else if !calls.tcpSocket then some { s with serverSocket := none, last := .failed }
  else if !info.bindIpValid then some { s.openServer with last := .failed }
  else if !calls.bind then
    some { s.openServer with
      sockets := closeSocket s.openServer.sockets s.openServer.serverSocket
      last := .failed }
  else
    (s.pool.step .enqueue).bind fun pool =>
      if !info.enableUdp then some (s.accepting pool)
      else if !calls.udpSocket then some { s.accepting pool with streamSocket := none }
      else (pool.step .enqueue).map (s.streaming pool)

/-- `Server::Stop`, with the steps of `StopAll` and of the workers until it returns.  Where the loop
over the clients breaks, nothing is known of what follows. -/
def ServerLife.stop (schedule : List (PoolAction n)) (s : ServerLife n) : Option (ServerLife n) :=
  match kickAll s.connections with
  | .finished _ =>
      (Runs.exec Pool.step s.pool schedule).bind fun pool =>
        if pool.stopAll = .returned then
          some { s with
            running := false
            sockets := closeSocket (closeSocket s.sockets s.serverSocket) s.streamSocket
            pool := pool
            connections := .empty }
        else none
  | _ => some { s with undefined := true }

/-- The calls, and between them the steps of the pool and the clients that come and go. -/
inductive LifeAction (n : ℕ)
  | start (calls : StartCalls)
  | stop (schedule : List (PoolAction n))
  | pool (a : PoolAction n)
  | clients (change : MapChange ℕ ClientInfo)

/-- What the pool does between the calls: the accept task queues a task for every client, and the
accept and stream tasks do not end while the server is running. -/
def ServerLife.canMove (s : ServerLife n) : PoolAction n → Bool
  | .enqueue =>
      match s.last.accept with
      | some task => decide (∃ i, (s.pool.workers i).pc = .running task)
      | none => false
  | .worker i =>
      match (s.pool.workers i).pc with
      | .running task => !(s.running && decide (task ∈ s.ownTasks))
      | _ => true
  | .stopAll => false

/-- One call, one step of the pool, or one change of the clients.  `Start` is called only while the
server is not running. -/
def ServerLife.step (info : StartInfo) (s : ServerLife n) (a : LifeAction n) :
    Option (ServerLife n) :=
  if s.undefined then none
  else
    match a with
    | .start calls => if s.running then none else s.start info calls
    | .stop schedule => s.stop schedule
    | .pool a =>
        if s.canMove a then (s.pool.step a).map fun pool => { s with pool := pool } else none
    | .clients change => some { s with connections := s.connections.change change }

/-! ### All or nothing -/

/-- The last start opened and bound the TCP socket, opened the stream socket if there should be one,
and its tasks are running or queued on a pool that has workers. -/
structure ServerLife.Up (info : StartInfo) (s : ServerLife n) : Prop where
  bound : s.last.bound = true
  accept : ∃ task ∈ s.last.accept, s.pool.Alive task
  stream : info.enableUdp = true →
    s.last.streamOpened = true ∧ ∃ task ∈ s.last.stream, s.pool.Alive task

/-- The server is marked as running exactly if it is up; if it is not, no socket is open and no task
of its starts is queued; and every call had a meaning. -/
structure AllOrNothing (info : StartInfo) (s : ServerLife n) : Prop where
  up : s.running = true ↔ s.Up info
  down : s.running = false → s.sockets = ∅ ∧ ∀ task ∈ s.ownTasks, task ∉ s.pool.tasks
  defined : s.undefined = false

/-- The call is clean.  A start that gets a TCP socket has an address that can be parsed, and if it
binds the socket, the pool has workers and the stream socket can be opened.  No client is connected
at a stop, and while it waits for the workers, the last one does not leave by its stop token with an
accept or stream task queued. -/
def CleanCall (info : StartInfo) (s : ServerLife n) : LifeAction n → Prop
  | .start calls =>
      calls.wsaStartup = true → calls.tcpSocket = true →
        info.bindIpValid = true ∧
          (calls.bind = true → (∃ i, (s.pool.workers i).pc ≠ .left) ∧
            (info.enableUdp = true → calls.udpSocket = true))
  | .stop schedule =>
      s.connections = .empty ∧
        Runs.Along Pool.step (KeepsToTasks (· ∈ s.ownTasks)) s.pool schedule
  | .pool _ | .clients _ => True

/-- The state between clean calls. -/
structure ServerLife.Sound (info : StartInfo) (s : ServerLife n) : Prop where
  allOrNothing : AllOrNothing info s
  accounted : Accounted s.pool
  between : s.pool.stopAll = .idle ∨ s.pool.stopAll = .returned
  own : ∀ task ∈ s.ownTasks, task < s.pool.enqueued
  acceptOwn : ∀ task ∈ s.last.accept, task ∈ s.ownTasks
  streamOwn : ∀ task ∈ s.last.stream, task ∈ s.ownTasks
  held : s.running = true →
    ∀ socket ∈ s.sockets, s.serverSocket = some socket ∨ s.streamSocket = some socket

variable {info : StartInfo} {s s' : ServerLife n}

theorem sound_init (info : StartInfo) (n : ℕ) : (ServerLife.init n).Sound info where
  allOrNothing :=
    { up := iff_of_false (by simp [ServerLife.init]) fun h =>
        absurd h.bound (by simp [ServerLife.init, LastStart.failed])
      down := fun _ => ⟨rfl, by simp [ServerLife.init]⟩
      defined := rfl }
  accounted := accounted_init n
  between := Or.inl rfl
  own := by simp [ServerLife.init]
  acceptOwn := by simp [ServerLife.init, LastStart.failed]
  streamOwn := by simp [ServerLife.init, LastStart.failed]
  held h := absurd h (by simp [ServerLife.init])

/-! ### Starting -/

/-- A start that fails early and leaves no socket open is clean. -/
theorem ServerLife.Sound.failed (h : s.Sound info) (hrunning : s.running = false)
    {serverSocket : Option ℕ} {sockets : Finset ℕ} {nextSocket : ℕ} (hsockets : sockets = ∅) :
    ServerLife.Sound info { s with
      serverSocket := serverSocket, sockets := sockets, nextSocket := nextSocket,
      last := .failed } where
  allOrNothing :=
    { up := iff_of_false (by simp [hrunning]) fun h => absurd h.bound (by simp [LastStart.failed])
      down := fun _ => ⟨hsockets, (h.allOrNothing.down hrunning).2⟩
      defined := h.allOrNothing.defined }
  accounted := h.accounted
  between := h.between
  own := h.own
  acceptOwn := by simp [LastStart.failed]
  streamOwn := by simp [LastStart.failed]
  held hrunning' := absurd hrunning' (by simp [hrunning])

/-- A start without a stream does all or nothing exactly if the pool has workers. -/
theorem sound_accepting {pool : Pool n} (h : s.Sound info) (hempty : s.sockets = ∅)
    (hpool : s.pool.step .enqueue = some pool) (hudp : info.enableUdp = false) :
    (AllOrNothing info (s.accepting pool) → ∃ i, (s.pool.workers i).pc ≠ .left) ∧
      ((∃ i, (s.pool.workers i).pc ≠ .left) → (s.accepting pool).Sound info) := by
  have halive := alive_enqueued_iff h.accounted hpool
  constructor
  · intro hall
    obtain ⟨task, htask, hup⟩ := (hall.up.1 rfl).accept
    rw [← Option.some_inj.1 htask] at hup
    exact halive.1 hup
  · intro hworkers
    exact {
      allOrNothing :=
        { up := iff_of_true rfl
            { bound := rfl
              accept := ⟨_, rfl, halive.2 hworkers⟩
              stream := fun hudp' => absurd hudp' (by simp [hudp]) }
          down := fun hdown => absurd hdown (by simp [ServerLife.accepting])
          defined := h.allOrNothing.defined }
      accounted := accounted_step h.accounted hpool
      between := by
        rw [ServerLife.accepting, stopAll_of_step (by simp) hpool]
        exact h.between
      own := by
        intro task htask
        rw [ServerLife.accepting, enqueue_eq hpool]
        rcases Finset.mem_insert.1 htask with rfl | htask
        · exact Nat.lt_succ_self _
        · exact (h.own task htask).trans (Nat.lt_succ_self _)
      acceptOwn := by
        intro task htask
        rw [← Option.some_inj.1 htask]
        exact Finset.mem_insert_self _ _
      streamOwn := by simp [ServerLife.accepting, LastStart.failed]
      held := by
        intro _ socket hsocket
        rw [ServerLife.accepting, ServerLife.openServer, hempty] at hsocket
        rw [Finset.mem_insert.1 hsocket |>.resolve_right (by simp)]
        exact Or.inl rfl }

/-- A start with a stream does all or nothing exactly if the pool has workers. -/
theorem sound_streaming {pool pool' : Pool n} (h : s.Sound info) (hempty : s.sockets = ∅)
    (hpool : s.pool.step .enqueue = some pool) (hpool' : pool.step .enqueue = some pool') :
    (AllOrNothing info (s.streaming pool pool') → ∃ i, (s.pool.workers i).pc ≠ .left) ∧
      ((∃ i, (s.pool.workers i).pc ≠ .left) → (s.streaming pool pool').Sound info) := by
  have haccounted := accounted_step h.accounted hpool
  have hnext : pool.enqueued = s.pool.enqueued + 1 := by rw [enqueue_eq hpool]
  have hworkers : (∃ i, (pool.workers i).pc ≠ .left) ↔ ∃ i, (s.pool.workers i).pc ≠ .left := by
    rw [enqueue_eq hpool]
  have haccept : pool'.Alive s.pool.enqueued ↔ ∃ i, (s.pool.workers i).pc ≠ .left :=
    (alive_enqueue_iff (by omega) hpool').trans (alive_enqueued_iff h.accounted hpool)
  have hstream := (alive_enqueued_iff haccounted hpool').trans hworkers
  constructor
  · intro hall
    obtain ⟨task, htask, hup⟩ := (hall.up.1 rfl).accept
    rw [← Option.some_inj.1 htask] at hup
    exact haccept.1 hup
  · intro hwork
    exact {
      allOrNothing :=
        { up := iff_of_true rfl
            { bound := rfl
              accept := ⟨_, rfl, haccept.2 hwork⟩
              stream := fun _ => ⟨rfl, _, rfl, hstream.2 hwork⟩ }
          down := fun hdown =>
            absurd hdown
              (by simp [ServerLife.streaming, ServerLife.openStream, ServerLife.accepting])
          defined := h.allOrNothing.defined }
      accounted := accounted_step haccounted hpool'
      between := by
        rw [ServerLife.streaming, stopAll_of_step (by simp) hpool', stopAll_of_step (by simp) hpool]
        exact h.between
      own := by
        intro task htask
        have hlast : pool'.enqueued = pool.enqueued + 1 := by rw [enqueue_eq hpool']
        rw [ServerLife.streaming]
        dsimp only
        rcases Finset.mem_insert.1 htask with rfl | htask
        · omega
        · rcases Finset.mem_insert.1 htask with rfl | htask
          · omega
          · have hlt := h.own task htask
            omega
      acceptOwn := by
        intro task htask
        rw [← Option.some_inj.1 htask]
        exact Finset.mem_insert_of_mem (Finset.mem_insert_self _ _)
      streamOwn := by
        intro task htask
        rw [← Option.some_inj.1 htask]
        exact Finset.mem_insert_self _ _
      held := by
        intro _ socket hsocket
        rcases Finset.mem_insert.1 hsocket with rfl | hsocket
        · exact Or.inr rfl
        · change socket ∈ insert s.nextSocket s.sockets at hsocket
          rw [hempty] at hsocket
          rw [Finset.mem_insert.1 hsocket |>.resolve_right (by simp)]
          exact Or.inl rfl }

/-- A start does all or nothing exactly if it is clean. -/
theorem sound_start {calls : StartCalls} (h : s.Sound info) (hrunning : s.running = false)
    (hstart : s.start info calls = some s') :
    (AllOrNothing info s' → CleanCall info s (.start calls)) ∧
      (CleanCall info s (.start calls) → s'.Sound info) := by
  obtain ⟨hempty, hqueue⟩ := h.allOrNothing.down hrunning
  rw [ServerLife.start] at hstart
  rw [CleanCall]
  cases hwsa : calls.wsaStartup with
  | false =>
      rw [hwsa, Bool.not_false, if_pos rfl] at hstart
      rw [← Option.some_inj.1 hstart]
      exact ⟨fun _ hfalse => absurd hfalse (by simp), fun _ => h.failed hrunning hempty⟩
  | true =>
  rw [hwsa, Bool.not_true, if_neg (by simp)] at hstart
  cases htcp : calls.tcpSocket with
  | false =>
      rw [htcp, Bool.not_false, if_pos rfl] at hstart
      rw [← Option.some_inj.1 hstart]
      exact ⟨fun _ _ hfalse => absurd hfalse (by simp), fun _ => h.failed hrunning hempty⟩
  | true =>
  rw [htcp, Bool.not_true, if_neg (by simp)] at hstart
  cases hvalid : info.bindIpValid with
  | false =>
      -- The socket stays open.
      rw [hvalid, Bool.not_false, if_pos rfl] at hstart
      rw [← Option.some_inj.1 hstart]
      refine ⟨fun hall => ?_, fun hclean => absurd (hclean rfl rfl).1 (by simp)⟩
      have hopen := (hall.down hrunning).1
      exact absurd hopen (Finset.insert_ne_empty _ _)
  | true =>
  rw [hvalid, Bool.not_true, if_neg (by simp)] at hstart
  cases hbind : calls.bind with
  | false =>
      rw [hbind, Bool.not_false, if_pos rfl] at hstart
      rw [← Option.some_inj.1 hstart]
      refine ⟨fun _ _ _ => ⟨rfl, fun hfalse => absurd hfalse (by simp)⟩, fun _ => ?_⟩
      refine h.failed hrunning ?_
      simp [ServerLife.openServer, closeSocket, hempty]
  | true =>
  rw [hbind, Bool.not_true, if_neg (by simp)] at hstart
  obtain ⟨pool, hpool, hstart⟩ := Option.bind_eq_some_iff.1 hstart
  cases hudp : info.enableUdp with
  | false =>
      rw [hudp, Bool.not_false, if_pos rfl] at hstart
      rw [← Option.some_inj.1 hstart]
      obtain ⟨hnecessary, hsufficient⟩ := sound_accepting h hempty hpool hudp
      exact ⟨fun hall _ _ =>
          ⟨rfl, fun _ => ⟨hnecessary hall, fun hfalse => absurd hfalse (by simp)⟩⟩,
        fun hclean => hsufficient ((hclean rfl rfl).2 rfl).1⟩
  | true =>
  rw [hudp, Bool.not_true, if_neg (by simp)] at hstart
  cases hstream : calls.udpSocket with
  | false =>
      -- The server is marked as running without its stream socket.
      rw [hstream, Bool.not_false, if_pos rfl] at hstart
      rw [← Option.some_inj.1 hstart]
      refine ⟨fun hall => ?_, fun hclean => absurd (((hclean rfl rfl).2 rfl).2 rfl) (by simp)⟩
      exact absurd ((hall.up.1 rfl).stream hudp).1
        (by simp [ServerLife.accepting, LastStart.failed])
  | true =>
      rw [hstream, Bool.not_true, if_neg (by simp)] at hstart
      obtain ⟨pool', hpool', rfl⟩ := Option.map_eq_some_iff.1 hstart
      obtain ⟨hnecessary, hsufficient⟩ := sound_streaming h hempty hpool hpool'
      exact ⟨fun hall _ _ => ⟨rfl, fun _ => ⟨hnecessary hall, fun _ => rfl⟩⟩,
        fun hclean => hsufficient ((hclean rfl rfl).2 rfl).1⟩

/-! ### Stopping -/

theorem mem_closeSocket {sockets : Finset ℕ} {socket : ℕ} {closed : Option ℕ} :
    socket ∈ closeSocket sockets closed ↔ socket ∈ sockets ∧ closed ≠ some socket := by
  cases closed with
  | none => simp [closeSocket]
  | some k => simp [closeSocket, and_comm, eq_comm]

/-- A stop with a client has no meaning. -/
theorem ServerLife.stop_of_nonempty {schedule : List (PoolAction n)}
    (hclient : s.connections ≠ .empty) : s.stop schedule = some { s with undefined := true } := by
  rw [ServerLife.stop]
  split
  · next hfinished => exact absurd (kickAll_eq_finished_iff.1 hfinished).1 hclient
  · rfl

/-- A stop without a client does all or nothing exactly if it is clean. -/
theorem sound_stop_of_empty {schedule : List (PoolAction n)} (h : s.Sound info)
    (hempty : s.connections = .empty) (hstop : s.stop schedule = some s') :
    (AllOrNothing info s' → CleanCall info s (.stop schedule)) ∧
      (CleanCall info s (.stop schedule) → s'.Sound info) := by
  rw [ServerLife.stop, kickAll_eq_finished_iff.2 ⟨hempty, rfl⟩] at hstop
  obtain ⟨pool, hrun, hstop⟩ := Option.bind_eq_some_iff.1 hstop
  obtain ⟨hreturned, hstop⟩ := Option.ite_none_right_eq_some.1 hstop
  rw [← Option.some_inj.1 hstop]
  have haccounted : Accounted pool :=
    Runs.invariant (fun p a p' => accounted_step) h.accounted hrun
  have hleft := haccounted.returned hreturned
  have hclosed : closeSocket (closeSocket s.sockets s.serverSocket) s.streamSocket = ∅ := by
    rw [Finset.eq_empty_iff_forall_notMem]
    intro socket hsocket
    obtain ⟨hsocket, hstream⟩ := mem_closeSocket.1 hsocket
    obtain ⟨hsocket, hserver⟩ := mem_closeSocket.1 hsocket
    cases hrunning : s.running with
    | true => exact (h.held hrunning socket hsocket).elim hserver hstream
    | false =>
        rw [(h.allOrNothing.down hrunning).1] at hsocket
        exact absurd hsocket (by simp)
  have hnot : ¬ Abandoned (· ∈ s.ownTasks) s.pool := by
    rintro ⟨hleft, task, hmem, hown⟩
    cases hrunning : s.running with
    | true =>
        obtain ⟨task, -, halive⟩ := (h.allOrNothing.up.1 hrunning).accept
        exact not_alive_of_left hleft task halive
    | false => exact (h.allOrNothing.down hrunning).2 task hown hmem
  have hexact := not_abandoned_iff_along h.own hnot hrun
  constructor
  · intro hall
    refine ⟨hempty, hexact.1 ?_⟩
    rintro ⟨-, task, hmem, hown⟩
    exact (hall.down rfl).2 task hown hmem
  · intro hclean
    have hkept := hexact.2 hclean.2
    exact {
      allOrNothing :=
        { up := by
            refine iff_of_false (by simp) fun hup => ?_
            obtain ⟨task, -, halive⟩ := hup.accept
            exact not_alive_of_left hleft task halive
          down := fun _ => ⟨hclosed, fun task hown hmem => hkept ⟨hleft, task, hmem, hown⟩⟩
          defined := h.allOrNothing.defined }
      accounted := haccounted
      between := Or.inr hreturned
      own := fun task hown => (h.own task hown).trans_le (enqueued_le_run hrun)
      acceptOwn := h.acceptOwn
      streamOwn := h.streamOwn
      held := fun hrunning => absurd hrunning (by simp) }

/-- A stop does all or nothing exactly if it is clean. -/
theorem sound_stop {schedule : List (PoolAction n)} (h : s.Sound info)
    (hstop : s.stop schedule = some s') :
    (AllOrNothing info s' → CleanCall info s (.stop schedule)) ∧
      (CleanCall info s (.stop schedule) → s'.Sound info) := by
  by_cases hempty : s.connections = .empty
  · exact sound_stop_of_empty h hempty hstop
  · rw [ServerLife.stop_of_nonempty hempty] at hstop
    rw [← Option.some_inj.1 hstop]
    exact ⟨fun hall => absurd hall.defined (by simp), fun hclean => absurd hclean.1 hempty⟩

/-! ### Between the calls -/

/-- Clients come and go without any harm to what the calls have made. -/
theorem ServerLife.Sound.clients (h : s.Sound info) (connections : OrderedMap ℕ ClientInfo) :
    ServerLife.Sound info { s with connections := connections } where
  allOrNothing :=
    { up := h.allOrNothing.up.trans
        ⟨fun hup => ⟨hup.bound, hup.accept, hup.stream⟩,
          fun hup => ⟨hup.bound, hup.accept, hup.stream⟩⟩
      down := h.allOrNothing.down
      defined := h.allOrNothing.defined }
  accounted := h.accounted
  between := h.between
  own := h.own
  acceptOwn := h.acceptOwn
  streamOwn := h.streamOwn
  held := h.held

theorem sound_pool {a : PoolAction n} (h : s.Sound info)
    (hstep : s.step info (.pool a) = some s') : s'.Sound info := by
  obtain ⟨-, hstep⟩ := Option.ite_none_left_eq_some.1 hstep
  obtain ⟨hmove, hstep⟩ := Option.ite_none_right_eq_some.1 hstep
  obtain ⟨pool, hpool, rfl⟩ := Option.map_eq_some_iff.1 hstep
  have ha : a ≠ .stopAll := by
    rintro rfl
    exact absurd hmove (by simp [ServerLife.canMove])
  exact {
    allOrNothing :=
      { up := by
          cases hrunning : s.running with
          | true =>
              -- The pool works, and the loops of the server go on.
              have hup := h.allOrNothing.up.1 hrunning
              have hstop : s.pool.stop = false := by
                refine h.accounted.idle (h.between.resolve_right fun hreturned => ?_)
                obtain ⟨task, -, halive⟩ := hup.accept
                exact not_alive_of_left (h.accounted.returned hreturned) task halive
              have hends : ∀ task ∈ s.ownTasks, ∀ i, a = .worker i →
                  (s.pool.workers i).pc ≠ .running task := by
                rintro task hown i rfl hpc
                simp [ServerLife.canMove, hpc, hrunning, hown] at hmove
              have halive : ∀ task ∈ s.ownTasks, s.pool.Alive task → pool.Alive task :=
                fun task hown hbefore =>
                  alive_step h.accounted hstop hbefore (hends task hown) hpool
              refine iff_of_true rfl ⟨hup.bound, ?_, fun hudp => ⟨(hup.stream hudp).1, ?_⟩⟩
              · obtain ⟨task, htask, hbefore⟩ := hup.accept
                exact ⟨task, htask, halive task (h.acceptOwn task htask) hbefore⟩
              · obtain ⟨task, htask, hbefore⟩ := (hup.stream hudp).2
                exact ⟨task, htask, halive task (h.streamOwn task htask) hbefore⟩
          | false =>
              refine iff_of_false (by simp) fun hup' => ?_
              have hbefore : ∀ task ∈ s.ownTasks, pool.Alive task → s.pool.Alive task :=
                fun task hown => alive_of_step (h.own task hown) hpool
              have hup : s.Up info := by
                refine ⟨hup'.bound, ?_, fun hudp => ⟨(hup'.stream hudp).1, ?_⟩⟩
                · obtain ⟨task, htask, halive⟩ := hup'.accept
                  exact ⟨task, htask, hbefore task (h.acceptOwn task htask) halive⟩
                · obtain ⟨task, htask, halive⟩ := (hup'.stream hudp).2
                  exact ⟨task, htask, hbefore task (h.streamOwn task htask) halive⟩
              rw [h.allOrNothing.up.2 hup] at hrunning
              exact absurd hrunning (by simp)
        down := fun hrunning => by
          obtain ⟨hempty, hqueue⟩ := h.allOrNothing.down hrunning
          exact ⟨hempty, fun task hown hmem =>
            hqueue task hown (mem_tasks_of_step (h.own task hown) hpool hmem)⟩
        defined := h.allOrNothing.defined }
    accounted := accounted_step h.accounted hpool
    between := by
      dsimp only
      rw [stopAll_of_step ha hpool]
      exact h.between
    own := fun task hown => (h.own task hown).trans_le (enqueued_le_step hpool)
    acceptOwn := h.acceptOwn
    streamOwn := h.streamOwn
    held := h.held }

/-! ### Over a run -/

/-- Over **any run**, the server is all or nothing after every call exactly if every call is
clean. -/
theorem allOrNothing_iff_clean (info : StartInfo) (n : ℕ) (as : List (LifeAction n)) :
    Runs.Throughout (ServerLife.step info) (AllOrNothing info) (ServerLife.init n) as ↔
      Runs.Along (ServerLife.step info) (CleanCall info) (ServerLife.init n) as := by
  have hstart : ∀ (s : ServerLife n) calls s', s.step info (.start calls) = some s' →
      s.running = false ∧ s.start info calls = some s' := by
    intro s calls s' hstep
    obtain ⟨-, hstep⟩ := Option.ite_none_left_eq_some.1 hstep
    obtain ⟨hrunning, hstep⟩ := Option.ite_none_left_eq_some.1 hstep
    exact ⟨Bool.eq_false_iff.2 hrunning, hstep⟩
  refine Runs.throughout_iff_along_of_inv (fun s h => ServerLife.Sound.allOrNothing h)
    (fun s a s' h hstep hall => ?_) (fun s a s' h hstep hclean => ?_) (sound_init info n)
  · cases a with
    | start calls =>
        obtain ⟨hrunning, hstep⟩ := hstart s calls s' hstep
        exact (sound_start h hrunning hstep).1 hall
    | stop schedule =>
        obtain ⟨-, hstep⟩ := Option.ite_none_left_eq_some.1 hstep
        exact (sound_stop h hstep).1 hall
    | pool a => trivial
    | clients change => trivial
  · cases a with
    | start calls =>
        obtain ⟨hrunning, hstep⟩ := hstart s calls s' hstep
        exact (sound_start h hrunning hstep).2 hclean
    | stop schedule =>
        obtain ⟨-, hstep⟩ := Option.ite_none_left_eq_some.1 hstep
        exact (sound_stop h hstep).2 hclean
    | pool a => exact sound_pool h hstep
    | clients change =>
        obtain ⟨-, hstep⟩ := Option.ite_none_left_eq_some.1 hstep
        rw [← Option.some_inj.1 hstep]
        exact h.clients _

/-- The control server, when its stream socket cannot be opened: it is marked as running, its accept
task is queued, and it has no stream. -/
theorem stream_socket_fails :
    ((ServerLife.init 5).step { bindIpValid := true, enableUdp := true }
        (.start { StartCalls.ok with udpSocket := false })).map
      (fun s => (s.running, s.last.streamOpened, s.pool.tasks)) = some (true, false, [0]) ∧
      ¬ Runs.Throughout (ServerLife.step { bindIpValid := true, enableUdp := true })
        (AllOrNothing { bindIpValid := true, enableUdp := true }) (ServerLife.init 5)
        [.start { StartCalls.ok with udpSocket := false }] := by
  refine ⟨by decide, fun hthrough => ?_⟩
  have hall := (hthrough.2 _ rfl).start
  exact absurd ((hall.up.1 rfl).stream rfl).1 (by decide)

end MpsEmulator
