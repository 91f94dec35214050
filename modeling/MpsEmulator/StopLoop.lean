/-
**`Server::Stop`: the loop that kicks the clients erases what it walks over.**

`Stop` walks over `m_Connections` and kicks the client of every element.  `KickClient` erases that
very element, so behind the body of the loop the iterator is one to an element that is gone, and
advancing it has no meaning.  With an empty map there is nothing to kick and the loop is right; with
any client it breaks in its first turn.

* `Stopping` — the map of a server, the layer behind its disconnect callback, and what has been
  called;
* `Stopping.kickClient`, `stopLoop` — the body and the loop; `kickClient_server` relates the body to
  the instructions of `Server.kickClient`;
* `ClosesEachOnce` — the loop ends, with one callback and one `CloseSocket` for each client;
* `stopLoop_of_nonempty` — what the loop does with a client;
* `stop_closes_iff` — **every client is closed exactly once if and only if there is none**;
* `kickAll` — the same loop, as far as the map is concerned;
* `sendBufferToAll_once` — the other loop over the map, which erases nothing and is right.
-/

import MpsEmulator.OrderedMap
import MpsEmulator.Server

set_option relaxedAutoImplicit false
set_option autoImplicit false

namespace MpsEmulator

/-! ### Kicking a client -/

/-- What `Stop` works on.  The last two fields record the disconnect callbacks and the calls of
`CloseSocket`, oldest first. -/
structure Stopping where
  connections : OrderedMap ℕ ClientInfo
  layer : ServerLayer
  disconnected : List ℕ
  closed : List ℕ

/-- The entry of `Stop`. -/
def Stopping.enter (connections : OrderedMap ℕ ClientInfo) (layer : ServerLayer) : Stopping :=
  { connections := connections, layer := layer, disconnected := [], closed := [] }

section

-- `m_ClientDisconnectCallback`, which the layer has set on both of its servers
variable (callback : ServerLayer → ℕ → ServerLayer)

/-- One instruction of `Server::KickClient`. -/
def Stopping.stage (s : Stopping) (id : ℕ) : KickStage → Stopping
  | .callback =>
      { s with layer := callback s.layer id, disconnected := s.disconnected ++ [id] }
  | .erase => { s with connections := s.connections.erase id }
  | .close => { s with closed := s.closed ++ [id] }

/-- `Server::KickClient`.  Its argument is a copy, so the callback may not lose it. -/
def Stopping.kickClient (s : Stopping) (id : ℕ) : Stopping :=
  ((s.stage callback id .callback).stage callback id .erase).stage callback id .close

/-- The first turns of the loop of `Server::Stop`. -/
def stopLoop (turns : ℕ) (s : Stopping) : Walk Stopping ℕ :=
  rangeFor Stopping.connections (fun s id _ => s.kickClient callback id) turns s

/-- The map of the walk and the map of the threads change alike. -/
theorem kickClient_server {srv : Server} {s : Stopping} (id : ℕ) (stage : KickStage)
    (h : srv.connections = s.connections.find?) :
    (srv.kickClient id stage).1.connections = (s.stage callback id stage).connections.find? := by
  cases stage with
  | callback => exact h
  | erase =>
      change Function.update srv.connections id none = (s.connections.erase id).find?
      rw [h, OrderedMap.find?_erase]
  | close => exact h

/-- Kicking a client takes its element out of the map. -/
theorem kickClient_connections (s : Stopping) (id : ℕ) :
    (s.kickClient callback id).connections = s.connections.erase id := rfl

/-! ### The loop -/

/-- The loop reads and advances from elements of the map only and comes to its end; the disconnect
callback and `CloseSocket` have run once for every client and for nobody else; the map is empty. -/
def ClosesEachOnce (connections : OrderedMap ℕ ClientInfo) (layer : ServerLayer) : Prop :=
  ∃ turns s', stopLoop callback turns (.enter connections layer) = .finished s' ∧
    s'.connections = .empty ∧
    (∀ id, s'.disconnected.count id = if id ∈ connections.keys then 1 else 0) ∧
    ∀ id, s'.closed.count id = if id ∈ connections.keys then 1 else 0

/-- Without a client the loop has nothing to do. -/
theorem stopLoop_of_empty (layer : ServerLayer) (turns : ℕ) :
    stopLoop callback turns (.enter .empty layer) = .finished (.enter .empty layer) :=
  rangeFor_of_empty rfl turns

/-- With a client the loop kicks the first one, and then advances from an element that is gone. -/
theorem stopLoop_of_nonempty {connections : OrderedMap ℕ ClientInfo} (h : connections ≠ .empty)
    (layer : ServerLayer) : ∃ id ∈ connections.keys, ∀ turns,
      stopLoop callback (turns + 1) (.enter connections layer) =
        .undefined ((Stopping.enter connections layer).kickClient callback id) := by
  obtain ⟨e, hmem, hfirst⟩ := OrderedMap.exists_first h
  refine ⟨e.1, List.mem_map_of_mem hmem, ?_⟩
  intro turns
  have hfind : (Stopping.enter connections layer).connections.find? e.1 = some e.2 :=
    OrderedMap.find?_of_mem hmem
  have herased : (((Stopping.enter connections layer).kickClient callback e.1).connections.find?
      e.1) = none := by
    rw [kickClient_connections, OrderedMap.find?_erase, Function.update_self]
  have hstart : (Stopping.enter connections layer).connections.first = some e.1 := hfirst
  rw [stopLoop, rangeFor, hstart]
  exact walkFrom_of_erased hfind herased turns

/-- With a client the loop does not come to an end that has a meaning. -/
theorem not_closesEachOnce {connections : OrderedMap ℕ ClientInfo} (h : connections ≠ .empty)
    (layer : ServerLayer) : ¬ ClosesEachOnce callback connections layer := by
  rintro ⟨turns, s', hfinished, -⟩
  obtain ⟨e, -, hfirst⟩ := OrderedMap.exists_first h
  obtain ⟨id, -, hundefined⟩ := stopLoop_of_nonempty callback h layer
  cases turns with
  | zero =>
      -- no turn yet: the walk stands at the first element
      have hstart : (Stopping.enter connections layer).connections.first = some e.1 := hfirst
      rw [stopLoop, rangeFor, hstart] at hfinished
      cases hfinished
  | succ turns =>
      rw [hundefined turns] at hfinished
      cases hfinished

/-- **`Stop` closes every client exactly once if and only if it has none.** -/
theorem stop_closes_iff (connections : OrderedMap ℕ ClientInfo) (layer : ServerLayer) :
    ClosesEachOnce callback connections layer ↔ connections = .empty := by
  constructor
  · intro hcloses
    by_contra hne
    exact not_closesEachOnce callback hne layer hcloses
  · rintro rfl
    refine ⟨0, _, stopLoop_of_empty callback layer 0, rfl, ?_, ?_⟩
    · intro id
      simp [Stopping.enter]
    · intro id
      simp [Stopping.enter]

end

/-- One client that is connected when the control server is stopped. -/
theorem stop_with_a_client :
    ¬ ClosesEachOnce onClientDisconnected (.single 7 { id := 7 })
      (attachedLayer mps4264 1 false) :=
  not_closesEachOnce _ (fun h => by cases congrArg OrderedMap.keys h) _

/-! ### The map alone -/

/-- The loop of `Server::Stop`, of which only the map is kept. -/
def kickAll (connections : OrderedMap ℕ ClientInfo) : Walk (OrderedMap ℕ ClientInfo) ℕ :=
  rangeFor (fun m => m) (fun m id _ => m.erase id) connections.entries.length connections

/-- **The loop has a meaning exactly if there is no client.** -/
theorem kickAll_eq_finished_iff {connections rest : OrderedMap ℕ ClientInfo} :
    kickAll connections = .finished rest ↔ connections = .empty ∧ rest = .empty := by
  constructor
  · intro hfinished
    by_cases hempty : connections = .empty
    · rw [kickAll, rangeFor_of_empty hempty] at hfinished
      cases hfinished
      exact ⟨hempty, hempty⟩
    · obtain ⟨e, hmem, hfirst⟩ := OrderedMap.exists_first hempty
      have herased : (connections.erase e.1).find? e.1 = none := by
        rw [OrderedMap.find?_erase, Function.update_self]
      cases hlength : connections.entries.length with
      | zero =>
          have hnil := List.length_eq_zero_iff.1 hlength
          exact absurd (OrderedMap.entries_eq_nil.1 hnil) hempty
      | succ turns =>
          rw [kickAll, hlength, rangeFor, hfirst, Walk.atIterator,
            walkFrom_of_erased (OrderedMap.find?_of_mem hmem) herased] at hfinished
          cases hfinished
  · rintro ⟨rfl, rfl⟩
    exact rangeFor_of_empty rfl _

/-- It comes to its end exactly where the loop with the callbacks does. -/
theorem kickAll_finished_iff_closes (callback : ServerLayer → ℕ → ServerLayer)
    (connections : OrderedMap ℕ ClientInfo) (layer : ServerLayer) :
    (∃ rest, kickAll connections = .finished rest) ↔
      ClosesEachOnce callback connections layer := by
  constructor
  · rintro ⟨rest, hfinished⟩
    obtain ⟨rfl, -⟩ := kickAll_eq_finished_iff.1 hfinished
    refine ⟨0, _, stopLoop_of_empty callback layer 0, rfl, ?_, ?_⟩ <;> simp [Stopping.enter]
  · intro hcloses
    by_cases hempty : connections = .empty
    · exact ⟨.empty, kickAll_eq_finished_iff.2 ⟨hempty, rfl⟩⟩
    · exact absurd hcloses (not_closesEachOnce callback hempty layer)

/-! ### Sending to everybody -/

/-- `Server::SendBufferToAll`, as the handles that have been sent to. -/
def sendBufferToAll (connections : OrderedMap ℕ ClientInfo) (turns : ℕ) :
    Walk (OrderedMap ℕ ClientInfo × List ℕ) ℕ :=
  rangeFor Prod.fst (fun s _ client => (s.1, s.2 ++ [client.id])) turns (connections, [])

theorem foldl_sent (entries : List (ℕ × ClientInfo)) :
    ∀ s : OrderedMap ℕ ClientInfo × List ℕ,
      entries.foldl (fun s e => (s.1, s.2 ++ [e.2.id])) s =
        (s.1, s.2 ++ entries.map fun e => e.2.id) := by
  induction entries with
  | nil => intro s; simp
  | cons e entries ih => intro s; simp [ih]

/-- **A buffer for everybody is sent to every client once**, in the order of the ids. -/
theorem sendBufferToAll_once (connections : OrderedMap ℕ ClientInfo) :
    sendBufferToAll connections connections.entries.length =
      .finished (connections, connections.entries.map fun e => e.2.id) := by
  rw [sendBufferToAll]
  refine (rangeFor_of_unchanged ?_ (connections, [])).trans ?_
  · intro s k client
    rfl
  · rw [foldl_sent, List.nil_append]

end MpsEmulator
