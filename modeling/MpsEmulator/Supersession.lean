/-
**The newest client has control, and the clients before it have none.**

The last client to connect should be the one in control.  On the control port `OnCommand` compares
the id of a segment with the id of the active client, which the connect callback records some time
after the connection has been accepted and its handler enqueued.  The binary port compares nothing.

* `Announced` — the invariant: a connection whose connect callback has completed, whose socket is
  open and which nobody is kicking is the active client of its port;
* `newest_handled_iff` — a segment of the newest open control connection is handled and not refused
  exactly if its connect callback has completed, or it has the handle 0 or that of the active client
  announced before it;
* `superseded_no_authority` — data of a superseded connection changes nothing, unless the control
  port finds its handle active again or the binary port finds the byte 0 or 1.

Both hold in every interleaving: no step needs to be excluded for the invariants.
-/

import MpsEmulator.Emulator

set_option relaxedAutoImplicit false
set_option autoImplicit false

namespace MpsEmulator

/-! ### Connections that are announced, open or superseded -/

/-- The connections whose connect callback has completed. -/
def Server.completed (srv : Server) : ℕ :=
  match srv.acceptThread with
  | .listening => srv.accepted
  | _ => srv.accepted - 1

/-- The stages behind the disconnect callback. -/
def KickStage.reported : KickStage → Bool
  | .callback => false
  | _ => true

/-- A `KickClient` for the id has run its callback and not yet closed the socket. -/
abbrev Server.leaving (srv : Server) (id : ℕ) : Prop := srv.within KickStage.reported id

/-- The socket of the connection is open, and no `KickClient` of its id has run its callback. -/
def Emulator.IsOpen (s : Emulator) (p : Port) (m : ℕ) : Prop :=
  s.sockets ((s.server p).handle m) = some (p, m) ∧
    ¬ (s.server p).leaving ((s.server p).handle m)

instance (s : Emulator) (p : Port) (m : ℕ) : Decidable (s.IsOpen p m) :=
  inferInstanceAs (Decidable (_ ∧ ¬ _))

/-- The connection is the most recently accepted one of its port that is still open. -/
def Emulator.NewestOpen (s : Emulator) (p : Port) (m : ℕ) : Prop :=
  s.IsOpen p m ∧ ∀ m', m' < (s.server p).accepted → m < m' → ¬ s.IsOpen p m'

instance (s : Emulator) (p : Port) (m : ℕ) : Decidable (s.NewestOpen p m) :=
  inferInstanceAs (Decidable (_ ∧ ∀ m', m' < (s.server p).accepted → _))

/-- A newer connection of the port has completed its connect callback. -/
def Emulator.Superseded (s : Emulator) (p : Port) (m : ℕ) : Prop :=
  ∃ m', m' < (s.server p).completed ∧ m < m'

instance (s : Emulator) (p : Port) (m : ℕ) : Decidable (s.Superseded p m) :=
  inferInstanceAs (Decidable (∃ m', m' < (s.server p).completed ∧ _))

/-! ### The invariants -/

/-- A connection whose connect callback has completed, whose socket is open and which nobody is
kicking is the active client, unless its handle is 0. -/
def Announced (p : Port) (srv : Server) (c : ActiveClient) (sockets : ℕ → Option Connection) :
    Prop :=
  ∀ m, m < srv.completed → srv.handle m ≠ 0 → sockets (srv.handle m) = some (p, m) →
    ¬ srv.leaving (srv.handle m) → c.connected = true ∧ c.id = srv.handle m

/-- The active client has the handle of the last connection whose connect callback has
completed. -/
def Latest (srv : Server) (c : ActiveClient) : Prop :=
  c.connected = true → 0 < srv.completed ∧ c.id = srv.handle (srv.completed - 1)

variable {p q : Port} {srv srv' : Server} {client : ActiveClient}
  {sockets : ℕ → Option Connection} {a : ServerAction} {e : Effect}

/-- Every other point of the accept thread comes before the end of the connect callback. -/
theorem Server.completed_of_id {id : ℕ} (hid : srv.acceptThread.id = some id) :
    srv.completed = srv.accepted - 1 := by
  unfold Server.completed
  split
  · rename_i hpc
    rw [hpc] at hid
    cases hid
  · rfl

theorem Effect.client_disconnected_of_ne {id : ℕ} (hid : id ≠ client.id) :
    Effect.client client (.disconnected id) = client := if_neg hid

/-- A disconnect callback leaves the announced clients that nobody is kicking. -/
theorem Announced.disconnected {srv' : Server} {id : ℕ} (ha : Announced p srv client sockets)
    (hcompleted : srv'.completed = srv.completed) (hhandle : srv'.handle = srv.handle)
    (hleaving : ∀ k, srv'.leaving k ↔ srv.leaving k ∨ k = id) :
    Announced p srv' (Effect.client client (.disconnected id)) sockets := by
  intro m hm hzero hopen hnot
  rw [hcompleted] at hm
  rw [hhandle] at hzero hopen hnot ⊢
  obtain ⟨hconn, hid⟩ := ha m hm hzero hopen fun h => hnot ((hleaving _).2 (Or.inl h))
  have hne : id ≠ client.id := by
    rintro rfl
    exact hnot ((hleaving _).2 (Or.inr hid.symm))
  rw [Effect.client_disconnected_of_ne hne]
  exact ⟨hconn, hid⟩

/-- Closing a socket leaves the other announced clients. -/
theorem Announced.closed {srv' : Server} {id : ℕ} (ha : Announced p srv client sockets)
    (hcompleted : srv'.completed = srv.completed) (hhandle : srv'.handle = srv.handle)
    (hleaving : ∀ k, srv.leaving k → k = id ∨ srv'.leaving k) :
    Announced p srv' client (Function.update sockets id none) := by
  intro m hm hzero hopen hnot
  rw [hcompleted] at hm
  rw [hhandle] at hzero hopen hnot ⊢
  have hne : srv.handle m ≠ id := by
    rintro rfl
    simp at hopen
  rw [Function.update_of_ne hne] at hopen
  refine ha m hm hzero hopen fun h => ?_
  exact (hleaving _ h).elim hne hnot

/-- What leaves the handles, the kicks under way and the completed callbacks alone. -/
theorem Announced.same {srv' : Server} (ha : Announced p srv client sockets)
    (hcompleted : srv'.completed = srv.completed) (hhandle : srv'.handle = srv.handle)
    (hleaving : srv'.leaving = srv.leaving) : Announced p srv' client sockets := by
  intro m hm hzero hopen hnot
  rw [hcompleted] at hm
  rw [hhandle] at hzero hopen hnot ⊢
  rw [hleaving] at hnot
  exact ha m hm hzero hopen hnot

/-- Accepting a connection announces none and takes no socket away. -/
theorem Announced.opened {srv' : Server} {id : ℕ} (ha : Announced p srv client sockets)
    (hold : srv.completed = srv.accepted) (hcompleted : srv'.completed = srv.accepted)
    (hhandle : srv'.handle = Function.update srv.handle srv.accepted id)
    (hleaving : srv'.leaving = srv.leaving) :
    Announced p srv' client (Function.update sockets id (some (p, srv.accepted))) := by
  intro m hm hzero hopen hnot
  rw [hcompleted] at hm
  rw [hhandle, Function.update_of_ne hm.ne] at hzero hopen hnot ⊢
  rw [hleaving] at hnot
  have hne : srv.handle m ≠ id := by
    rintro rfl
    simp [hm.ne'] at hopen
  rw [Function.update_of_ne hne] at hopen
  exact ha m (by rwa [hold]) hzero hopen hnot

/-- The end of a connect callback announces the connection, when nobody else is connected or it has
the id of the active client. -/
theorem Announced.completes {srv' : Server} {c : ActiveClient} {id : ℕ}
    (hid : srv.acceptThread.id = some id) (hw : srv.WellFormed client)
    (hcompleted : srv'.completed = srv.accepted) (hhandle : srv'.handle = srv.handle)
    (hleaving : srv'.leaving = srv.leaving)
    (hnew : id ≠ 0 → c.connected = true ∧ c.id = id)
    (hold : Announced p srv c sockets) : Announced p srv' c sockets := by
  intro m hm hzero hopen hnot
  rw [hcompleted] at hm
  rw [hhandle] at hzero hopen hnot ⊢
  rw [hleaving] at hnot
  obtain ⟨hpos, hlast⟩ := hw.current id hid
  by_cases hmlast : m = srv.accepted - 1
  · rw [hmlast, hlast] at hzero ⊢
    exact hnew hzero
  · refine hold m ?_ hzero hopen hnot
    rw [Server.completed_of_id hid]
    omega

/-- **Every step of a server keeps its clients announced.** -/
theorem ServerStep.announced (hw : srv.WellFormed client) (ha : Announced p srv client sockets)
    (h : ServerStep srv client sockets a srv' e) :
    Announced p srv' (e.client client) (e.sockets p sockets) := by
  cases h with
  | accept id hpc hid =>
      have hcompleted : srv.completed = srv.accepted := by rw [Server.completed, hpc]
      refine ha.opened hcompleted rfl rfl ?_
      exact Server.within_of_accept hw rfl rfl rfl (by rw [hpc]; rfl)
  | insert id hpc =>
      have hcompleted : srv.completed = srv.accepted - 1 :=
        Server.completed_of_id (by rw [hpc]; rfl)
      exact ha.same hcompleted.symm rfl (Server.within_of_thread rfl rfl rfl (by rw [hpc]; rfl))
  | enqueue id hpc =>
      have hcompleted : srv.completed = srv.accepted - 1 :=
        Server.completed_of_id (by rw [hpc]; rfl)
      have habsent : srv.handler (srv.accepted - 1) = .absent :=
        hw.absent _ (by simp [Server.enqueued, hpc])
      refine ha.same hcompleted.symm rfl ?_
      exact Server.within_of_moved (by rw [habsent]; rfl) rfl rfl rfl (by rw [hpc]; rfl)
  | connect id hpc =>
      have hid : srv.acceptThread.id = some id := by rw [hpc]; rfl
      have hcompleted := Server.completed_of_id hid
      obtain ⟨heq, hb⟩ | ⟨-, -, hb⟩ | ⟨-, -, hb⟩ := connectBranch_cases client id
      · rw [hb]
        refine Announced.completes hid hw rfl rfl ?_ ?_ ha
        · exact Server.within_of_thread rfl rfl rfl (by rw [hpc]; rfl)
        · intro hzero
          refine ⟨?_, heq.symm⟩
          cases hconn : client.connected with
          | true => exact hconn
          | false => exact absurd (heq.trans (hw.idle hconn)) hzero
      · rw [hb]
        exact ha.same hcompleted.symm rfl (Server.within_of_thread rfl rfl rfl (by rw [hpc]; rfl))
      · rw [hb]
        exact ha.same hcompleted.symm rfl (Server.within_of_thread rfl rfl rfl (by rw [hpc]; rfl))
  | connectKick id old stage stage' hpc hnext =>
      have hcompleted : srv.completed = srv.accepted - 1 :=
        Server.completed_of_id (by rw [hpc]; rfl)
      cases stage with
      | callback =>
          obtain rfl : stage' = .erase := (Option.some_inj.1 hnext).symm
          have hold : srv.acceptThread.within KickStage.reported = none := by rw [hpc]; rfl
          exact ha.disconnected hcompleted.symm rfl (Server.within_of_connectEnter hold rfl)
      | erase =>
          obtain rfl : stage' = .close := (Option.some_inj.1 hnext).symm
          exact ha.same hcompleted.symm rfl
            (Server.within_of_thread rfl rfl rfl (by rw [hpc]; rfl))
      | close => cases hnext
  | connectClose id old hpc =>
      have hcompleted : srv.completed = srv.accepted - 1 :=
        Server.completed_of_id (by rw [hpc]; rfl)
      have hold : srv.acceptThread.within KickStage.reported = some old := by rw [hpc]; rfl
      obtain ⟨-, hge⟩ := Server.within_of_connectLeave (t := .recording id true) hold rfl
      exact ha.closed hcompleted.symm rfl hge
  | record id kicked hpc =>
      have hid : srv.acceptThread.id = some id := by rw [hpc]; rfl
      have hknows := hw.knows
      rw [hpc] at hknows
      refine Announced.completes hid hw rfl rfl ?_ (fun _ => ⟨rfl, rfl⟩) ?_
      · exact Server.within_of_thread rfl rfl rfl (by rw [hpc]; rfl)
      · intro m hm hzero hopen hnot
        -- while the callback is about to record a client, none is connected
        obtain ⟨hconn, -⟩ := ha m hm hzero hopen hnot
        have hidle : client.connected = false := hknows
        rw [hidle] at hconn
        cases hconn
  | loop a n started running h e hmover hold hnew horigin he =>
      have heffect : e.client client = client ∧ e.sockets p sockets = sockets := by
        obtain rfl | ⟨o, seg, -, -, rfl⟩ := he <;> exact ⟨rfl, rfl⟩
      have hout : h.within KickStage.reported = false := by
        obtain hloop | rfl := hnew
        · exact Handler.within_of_inLoop hloop
        · rfl
      rw [heffect.1, heffect.2]
      refine ha.same rfl rfl (Server.within_of_moved ?_ rfl rfl rfl rfl)
      rw [hout, Handler.within_of_inLoop hold]
  | index n hn =>
      exact ha.same rfl rfl (Server.within_of_moved (by rw [hn]; rfl) rfl rfl rfl rfl)
  | kick n stage stage' hn hnext =>
      have hlt : n < srv.accepted := hw.lt_accepted (by simp [hn])
      cases stage with
      | callback =>
          obtain rfl : stage' = .erase := (Option.some_inj.1 hnext).symm
          have hold : (srv.handler n).within KickStage.reported = false := by rw [hn]; rfl
          exact ha.disconnected rfl rfl (Server.within_of_enter hlt hold rfl)
      | erase =>
          obtain rfl : stage' = .close := (Option.some_inj.1 hnext).symm
          exact ha.same rfl rfl (Server.within_of_moved (by rw [hn]; rfl) rfl rfl rfl rfl)
      | close => cases hnext
  | close n hn =>
      have hnew : Handler.done.within KickStage.reported = false := rfl
      obtain ⟨-, hge⟩ := Server.within_of_leave hnew
      exact ha.closed rfl rfl hge
  | sendFind id => exact ha.same rfl rfl (Server.within_of_thread rfl rfl rfl rfl)
  | sendIndex id => exact ha.same rfl rfl (Server.within_of_thread rfl rfl rfl rfl)

/-- A step of the other server opens no socket of this port. -/
theorem ServerStep.announced_other {srv₂ : Server} {c : ActiveClient} (hqp : q ≠ p)
    (ha : Announced q srv₂ c sockets) (h : ServerStep srv client sockets a srv' e) :
    Announced q srv₂ c (e.sockets p sockets) := by
  intro m hm hzero hopen hnot
  obtain hopen | ⟨heq, -⟩ := h.sockets_eq_some hopen
  · exact ha m hm hzero hopen hnot
  · exact absurd heq hqp

/-- What leaves the handles and the completed callbacks alone. -/
theorem Latest.same (hl : Latest srv client) (hcompleted : srv'.completed = srv.completed)
    (hhandle : srv'.handle = srv.handle) : Latest srv' client := by
  rw [Latest, hcompleted, hhandle]
  exact hl

theorem Latest.disconnected {id : ℕ} (hl : Latest srv client)
    (hcompleted : srv'.completed = srv.completed) (hhandle : srv'.handle = srv.handle) :
    Latest srv' (Effect.client client (.disconnected id)) := by
  by_cases hid : id = client.id
  · simp [Latest, Effect.client, hid, ActiveClient.none]
  · rw [Effect.client_disconnected_of_ne hid]
    exact hl.same hcompleted hhandle

/-- **The active client is always the last one whose callback has completed.** -/
theorem ServerStep.latest (hw : srv.WellFormed client) (hl : Latest srv client)
    (h : ServerStep srv client sockets a srv' e) : Latest srv' (e.client client) := by
  have hbusy : ∀ id, srv.acceptThread.id = some id → srv.accepted - 1 = srv.completed :=
    fun id hid => (Server.completed_of_id hid).symm
  cases h with
  | accept id hpc hid =>
      have hcompleted : srv.completed = srv.accepted := by rw [Server.completed, hpc]
      intro hconn
      obtain ⟨hpos, heq⟩ := hl hconn
      rw [hcompleted] at hpos heq
      refine ⟨hpos, heq.trans ?_⟩
      have hne : srv.accepted - 1 ≠ srv.accepted := by omega
      exact (Function.update_of_ne hne _ _).symm
  | insert id hpc => exact hl.same (hbusy id (by rw [hpc]; rfl)) rfl
  | enqueue id hpc => exact hl.same (hbusy id (by rw [hpc]; rfl)) rfl
  | connect id hpc =>
      have hid : srv.acceptThread.id = some id := by rw [hpc]; rfl
      obtain ⟨heq, hb⟩ | ⟨-, -, hb⟩ | ⟨-, -, hb⟩ := connectBranch_cases client id
      · rw [hb]
        obtain ⟨hpos, hlast⟩ := hw.current id hid
        exact fun _ => ⟨hpos, heq.symm.trans hlast.symm⟩
      · rw [hb]
        exact hl.same (hbusy id hid) rfl
      · rw [hb]
        exact hl.same (hbusy id hid) rfl
  | connectKick id old stage stage' hpc hnext =>
      have hcompleted := hbusy id (by rw [hpc]; rfl)
      cases stage with
      | callback => exact hl.disconnected hcompleted rfl
      | erase => exact hl.same hcompleted rfl
      | close => cases hnext
  | connectClose id old hpc => exact hl.same (hbusy id (by rw [hpc]; rfl)) rfl
  | record id kicked hpc =>
      obtain ⟨hpos, hlast⟩ := hw.current id (by rw [hpc]; rfl)
      exact fun _ => ⟨hpos, hlast.symm⟩
  | loop a n started running h e hmover hold hnew horigin he =>
      have hclient : e.client client = client := by
        obtain rfl | ⟨o, seg, -, -, rfl⟩ := he <;> rfl
      rw [hclient]
      exact hl.same rfl rfl
  | kick n stage stage' hn hnext =>
      cases stage with
      | callback => exact hl.disconnected rfl rfl
      | erase => exact hl.same rfl rfl
      | close => cases hnext
  | index n hn => exact hl.same rfl rfl
  | close n hn => exact hl.same rfl rfl
  | sendFind id => exact hl.same rfl rfl
  | sendIndex id => exact hl.same rfl rfl

/-- The invariant of the emulator. -/
structure Emulator.Consistent (s : Emulator) : Prop where
  wellFormed : s.WellFormed
  announced : ∀ p, Announced p (s.server p) (s.layer.client p) s.sockets
  latest : ∀ p, Latest (s.server p) (s.layer.client p)

variable {E : Env} {x : Session} {s s' : Emulator} {b : EmulatorAction}

theorem Emulator.consistent_start (deviceId : MpsDeviceID) (serialNumber : ℕ)
    (enableConsole : Bool) :
    (Emulator.start deviceId serialNumber enableConsole).Consistent where
  wellFormed := Emulator.wellFormed_start deviceId serialNumber enableConsole
  announced := fun _ _ hm => absurd hm (Nat.not_lt_zero _)
  latest := by
    intro p hconn
    cases p <;> cases hconn

/-- **Every step of the emulator, in whatever order, keeps the invariant.** -/
theorem Emulator.Consistent.step (hs : s.Consistent) (h : Emulator.step E s b = some s') :
    s'.Consistent where
  wellFormed := hs.wellFormed.step h
  announced := by
    intro q
    cases b with
    | server p x a =>
        obtain ⟨srv, e, hstep, rfl⟩ := Emulator.step_server h
        by_cases hqp : q = p
        · subst hqp
          simp only [Function.update_self, Effect.layer_client]
          exact hstep.announced (hs.wellFormed.server q) (hs.announced q)
        · simp only [Function.update_of_ne hqp, Effect.layer_client_of_ne E x s.layer e hqp]
          exact hstep.announced_other hqp (hs.announced q)
    | scanThread d =>
        obtain ⟨-, h⟩ := Option.ite_none_right_eq_some.1 h
        obtain rfl := Option.some_inj.1 h
        have ha := hs.announced q
        cases q <;> exact ha
  latest := by
    intro q
    obtain ⟨x, a, e, -, hstep, hclient, -⟩ | ⟨-, hserver, hclient⟩ := Emulator.step_port h q
    · rw [hclient]
      exact hstep.latest (hs.wellFormed.server q) (hs.latest q)
    · rw [hserver, hclient]
      exact hs.latest q

/-! ### The newest client -/

/-- The answer of `OnCommand` to a client that is not the active one. -/
def refusal : Bytes := "[Error] you do not have permission to control this device\r\n".toList

/-- `OnCommand` behind its permission check. -/
def permittedCommand (E : Env) (x : Session) (l : ServerLayer) (id : ℕ) (cmd : Bytes) :
    LayerOutcome :=
  match editCommand ((l.cmds id).getD []) cmd with
  | (clientCmd, false) => x.reply (l.setCmd id clientCmd) []
  | (clientCmd, true) =>
      dispatchLine E x (l.setCmd id []) id (tok (splitString clientCmd lineEnds) 0)

/-- The segment is handled as the active client's, and not refused. -/
def Handled (E : Env) (x : Session) (l : ServerLayer) (id : ℕ) (seg : Bytes) : Prop :=
  onCommand E x l id seg = permittedCommand E x l id seg ∧
    (id, refusal) ∉ (onCommand E x l id seg).sent

theorem refusal_not_reply : ¬ IsReply refusal := by
  rintro (h | h | h)
  · cases h
  · exact absurd (congrArg List.head? h) (by decide)
  · exact absurd h (by decide)

/-- A text that begins otherwise is not the refusal. -/
theorem refusal_not_mem {id : ℕ} {s : Bytes} (hs : s.head? ≠ some '[') :
    (id, refusal) ∉ [(id, s)] := by
  intro hmem
  rw [← (Prod.mk.inj (List.mem_singleton.1 hmem)).2] at hs
  exact hs rfl

/-- A dispatched line is never answered with the refusal. -/
theorem refusal_not_mem_dispatchLine (E : Env) (x : Session) (l : ServerLayer) (id : ℕ)
    (line : Bytes) : (id, refusal) ∉ (dispatchLine E x l id line).sent := by
  rcases dispatchLine_cases E x l id line with
    ⟨-, h⟩ | ⟨-, text, request, htext, h⟩ | ⟨-, -, h⟩ | ⟨-, d, -, h⟩
  · rw [h]
    exact refusal_not_mem (by decide)
  · rw [h]
    dsimp only
    cases l.enableConsole with
    | true =>
        refine refusal_not_mem ?_
        rcases htext with htext | htext
        · rw [htext]
          decide
        · rw [htext]
          decide
    | false => exact List.not_mem_nil
  · rw [h]
    exact List.not_mem_nil
  · rw [h]
    intro hmem
    obtain hnotice | hreply := List.mem_append.1 hmem
    · obtain ⟨status, -, hstatus⟩ := List.mem_flatMap.1 hnotice
      unfold onStatusChanged at hstatus
      split at hstatus
      · have htext := (Prod.mk.inj (List.mem_singleton.1 hstatus)).2
        exact absurd (congrArg List.head? htext) (by decide)
      · cases hstatus
    · refine refusal_not_reply ?_
      rw [(Prod.mk.inj (List.mem_singleton.1 hreply)).2]
      exact parseCommands_isReply E x d line

/-- `OnCommand` handles a segment exactly if the id is the active one or 0. -/
theorem handled_iff (E : Env) (x : Session) (l : ServerLayer) (id : ℕ) (seg : Bytes) :
    Handled E x l id seg ↔ id = l.commandClient.id ∨ id = 0 := by
  constructor
  · rintro ⟨-, hnot⟩
    by_contra hid
    refine hnot ?_
    rw [onCommand, if_pos (not_or.1 hid)]
    exact List.mem_singleton.2 rfl
  · intro hid
    have hperm : onCommand E x l id seg = permittedCommand E x l id seg := by
      refine if_neg ?_
      rintro ⟨hne, hzero⟩
      exact hid.elim hne hzero
    refine ⟨hperm, ?_⟩
    rw [hperm, permittedCommand]
    split
    · simp [Session.reply]
    · exact refusal_not_mem_dispatchLine E x _ id _

/-- A call of a data callback: on which port and with which id, and on which connection the segment
was received. -/
structure Delivery where
  port : Port
  session : Session
  id : ℕ
  origin : Connection
  seg : Bytes

/-- The data callback that a step runs. -/
def Emulator.delivery (s : Emulator) : EmulatorAction → Option Delivery
  | .server p x (.handler n) =>
      match (s.server p).handler n with
      | .deliver origin seg =>
          some {
            port := p, session := x, id := (s.server p).handle n, origin := origin, seg := seg }
      | _ => none
  | _ => none

/-- A delivery comes from a handler that holds the data. -/
theorem Emulator.delivery_eq_some {v : Delivery} (hv : s.delivery b = some v) :
    ∃ n, b = .server v.port v.session (.handler n) ∧
      (s.server v.port).handler n = .deliver v.origin v.seg ∧
        (s.server v.port).handle n = v.id := by
  unfold Emulator.delivery at hv
  split at hv
  · rename_i p x n
    cases hn : (s.server p).handler n with
    | deliver origin seg =>
        simp only [hn, Option.some_inj] at hv
        rw [← hv]
        exact ⟨n, rfl, hn, rfl⟩
    | _ => simp [hn] at hv
  · cases hv

/-- What the data callback of a step does to the layer and asks of the application. -/
theorem Emulator.step_delivery {v : Delivery} (hv : s.delivery b = some v)
    (h : Emulator.step E s b = some s') :
    s'.layer = (dataCallback E v.session s.layer v.port v.id v.seg).layer ∧
      s'.requests =
        s.requests ++ (dataCallback E v.session s.layer v.port v.id v.seg).requests := by
  obtain ⟨n, rfl, hn, hid⟩ := Emulator.delivery_eq_some hv
  simp only [Emulator.step, Server.step, Server.handleConnectionThreadFn, hn, hid,
    Option.map_some, Option.some_inj] at h
  rw [← h]
  exact ⟨rfl, rfl⟩

/-- The segment has the handle of the connection it was received on. -/
theorem Emulator.Consistent.handle_origin (hs : s.Consistent) {v : Delivery}
    (hv : s.delivery b = some v) : (s.server v.origin.1).handle v.origin.2 = v.id := by
  obtain ⟨n, -, hn, hid⟩ := Emulator.delivery_eq_some hv
  rw [← hid]
  exact (hs.wellFormed.origin v.port n v.origin.1 v.origin.2 v.seg hn).2

/-- What the control port is given of the newest open control connection is handled. -/
def NewestHandled (E : Env) (s : Emulator) (b : EmulatorAction) : Prop :=
  ∀ v ∈ s.delivery b, v.port = .control → v.origin.1 = .control →
    s.NewestOpen .control v.origin.2 → Handled E v.session s.layer v.id v.seg

/-- What the control port is given of the newest open control connection comes after its connect
callback, or its handle is 0, or that of the connection whose connect callback was the last one to
complete, and whose client nobody has reported as disconnected. -/
def NewestAnnounced (s : Emulator) (b : EmulatorAction) : Prop :=
  ∀ v ∈ s.delivery b, v.port = .control → v.origin.1 = .control →
    s.NewestOpen .control v.origin.2 →
      v.origin.2 < (s.server .control).completed ∨ v.id = 0 ∨
        (v.id = (s.server .control).handle ((s.server .control).completed - 1) ∧
          s.layer.commandClient.connected = true)

/-- The control port takes an id for the active client's or for the console's exactly if it is 0 or,
with an active client, the handle of the last announced connection. -/
theorem Emulator.Consistent.permitted_iff (hs : s.Consistent) {id : ℕ} :
    (id = s.layer.commandClient.id ∨ id = 0) ↔
      id = 0 ∨ (id = (s.server .control).handle ((s.server .control).completed - 1) ∧
        s.layer.commandClient.connected = true) := by
  have hlatest := hs.latest .control
  have hidle := (hs.wellFormed.server .control).idle
  change s.layer.commandClient.connected = true → _ at hlatest
  change s.layer.commandClient.connected = false → s.layer.commandClient.id = 0 at hidle
  cases hconn : s.layer.commandClient.connected with
  | true =>
      have hid : s.layer.commandClient.id =
          (s.server .control).handle ((s.server .control).completed - 1) := (hlatest hconn).2
      rw [hid]
      exact ⟨fun h => h.elim (fun h => .inr ⟨h, rfl⟩) .inl,
        fun h => h.elim .inr fun h => .inl h.1⟩
  | false =>
      rw [hidle hconn]
      exact ⟨fun h => .inl (or_self_iff.1 h), fun h => h.elim .inr fun h => absurd h.2 (by simp)⟩

theorem newestHandled_iff (hs : s.Consistent) : NewestHandled E s b ↔ NewestAnnounced s b := by
  constructor
  · intro h v hv hport horigin hopen
    exact Or.inr (hs.permitted_iff.1
      ((handled_iff E v.session s.layer v.id v.seg).1 (h v hv hport horigin hopen)))
  · intro h v hv hport horigin hopen
    rw [handled_iff]
    obtain hcompleted | hid := h v hv hport horigin hopen
    · -- the callback has run, so the layer has the id unless it is 0
      have hhandle := hs.handle_origin hv
      rw [horigin] at hhandle
      obtain ⟨hsocket, hleaving⟩ := hopen.1
      by_cases hzero : v.id = 0
      · exact Or.inr hzero
      · obtain ⟨-, hid⟩ := hs.announced .control v.origin.2 hcompleted (by rwa [hhandle]) hsocket
          hleaving
        exact Or.inl (hhandle.symm.trans hid.symm)
    · exact hs.permitted_iff.2 hid

/-- A client sends its first command before its connect callback has run. -/
def fastClient : List EmulatorAction :=
  accepting .control 5 2 ++ serving .control 0 ++
    [.on .control (.recvData 0 "SCAN\r\n".toList), .on .control (.handler 0)]

/-- Data of a superseded connection does nothing to the device and asks for nothing. -/
def NoAuthority (E : Env) (s : Emulator) (b : EmulatorAction) : Prop :=
  ∀ v ∈ s.delivery b, s.Superseded v.origin.1 v.origin.2 → ∀ s' ∈ Emulator.step E s b,
    s'.layer.device = s.layer.device ∧ s'.requests = s.requests

/-- The segment is neither the console's nor from the handle of the active client, when it comes to
the control port, and begins with neither of the bytes 0 and 1, when it comes to the binary port. -/
def Delivery.Powerless (s : Emulator) (v : Delivery) : Prop :=
  match v.port with
  | .control => v.id ≠ 0 ∧
      (v.id = (s.server .control).handle ((s.server .control).completed - 1) →
        s.layer.commandClient.connected = false)
  | .binary => ∀ c ∈ v.seg.head?, c ≠ '\x00' ∧ c ≠ '\x01'

instance (s : Emulator) (v : Delivery) : Decidable (v.Powerless s) := by
  unfold Delivery.Powerless
  split <;> infer_instance

/-- Data of a superseded connection comes without power. -/
def SupersededPowerless (s : Emulator) (b : EmulatorAction) : Prop :=
  ∀ v ∈ s.delivery b, s.Superseded v.origin.1 v.origin.2 → v.Powerless s

instance (s : Emulator) (b : EmulatorAction) : Decidable (SupersededPowerless s b) :=
  inferInstanceAs (Decidable (∀ v ∈ s.delivery b, _ → _))

/-- A segment that begins with neither 0 nor 1 does nothing on the binary port. -/
theorem onTCPBinaryDataReceived_of_head (l : ServerLayer) {cmd : Bytes}
    (h : ∀ c ∈ cmd.head?, c ≠ '\x00' ∧ c ≠ '\x01') :
    onTCPBinaryDataReceived E x l cmd = x.reply l [] := by
  unfold onTCPBinaryDataReceived
  split
  · exact absurd rfl (h '\x01' rfl).2
  · exact absurd rfl (h '\x00' rfl).1
  · rfl

/-- The handle of the last announced connection is the only one that has control. -/
theorem Emulator.Consistent.not_permitted (hs : s.Consistent) {id : ℕ} (hzero : id ≠ 0)
    (hlast : id = (s.server .control).handle ((s.server .control).completed - 1) →
      s.layer.commandClient.connected = false) : id ≠ s.layer.commandClient.id := by
  intro hid
  obtain hid | ⟨hid, hconn⟩ := hs.permitted_iff.1 (.inl hid)
  · exact hzero hid
  · rw [hlast hid] at hconn
    cases hconn

/-- What comes without power changes nothing. -/
theorem Emulator.Consistent.dataCallback_powerless (hs : s.Consistent) {v : Delivery}
    (hv : v.Powerless s) :
    (dataCallback E v.session s.layer v.port v.id v.seg).layer = s.layer ∧
      (dataCallback E v.session s.layer v.port v.id v.seg).requests = [] := by
  unfold Delivery.Powerless at hv
  cases hport : v.port with
  | control =>
      rw [hport] at hv
      obtain ⟨hzero, hlast⟩ := hv
      have hrefused : v.id ≠ s.layer.commandClient.id ∧ v.id ≠ 0 :=
        ⟨hs.not_permitted hzero hlast, hzero⟩
      rw [dataCallback, onDataReceived, onCommand, if_pos hrefused]
      exact ⟨rfl, rfl⟩
  | binary =>
      rw [hport] at hv
      rw [dataCallback, onTCPBinaryDataReceived_of_head s.layer hv]
      exact ⟨rfl, rfl⟩

/-- In every run in which what is received on superseded connections comes without power, none of it
does anything to the device or asks for a shutdown or restart. -/
theorem superseded_no_authority (E : Env) (deviceId : MpsDeviceID) (serialNumber : ℕ)
    (enableConsole : Bool) (bs : List EmulatorAction)
    (h : Runs.Along (Emulator.step E) SupersededPowerless
      (.start deviceId serialNumber enableConsole) bs) :
    Runs.Along (Emulator.step E) (NoAuthority E) (.start deviceId serialNumber enableConsole)
      bs := by
  have hJ : ∀ s b s', Emulator.Consistent s → Emulator.step E s b = some s' → s'.Consistent :=
    fun s b s' hs h => hs.step h
  refine Runs.along_of_along hJ ?_ (Emulator.consistent_start _ _ _) h
  intro s b s' hs hstep hpower v hv hsuperseded s'' hs''
  obtain ⟨hlayer, hrequests⟩ := Emulator.step_delivery hv hs''
  obtain ⟨hsame, hnone⟩ := hs.dataCallback_powerless (hpower v hv hsuperseded)
  rw [hlayer, hrequests, hsame, hnone]
  exact ⟨rfl, List.append_nil _⟩

/-- A client of the control port asks for a scan and is superseded before its command is looked
at. -/
def lateScan : List EmulatorAction :=
  accepting .control 5 4 ++ serving .control 0 ++ [.on .control (.recvData 0 "SCAN\r\n".toList)] ++
    accepting .control 6 7 ++ [.on .control (.handler 0)]

theorem superseded_no_authority_late :
    (Runs.exec (Emulator.step referenceEnv) (.start mps4264 1 true) lateScan).isSome = true ∧
      Runs.Along (Emulator.step referenceEnv) SupersededPowerless (.start mps4264 1 true)
        lateScan ∧
      Runs.Along (Emulator.step referenceEnv) (NoAuthority referenceEnv) (.start mps4264 1 true)
        lateScan := by
  have hpower : Runs.Along (Emulator.step referenceEnv) SupersededPowerless
      (.start mps4264 1 true) lateScan := by
    decide +kernel
  exact ⟨by decide +kernel, hpower, superseded_no_authority referenceEnv _ _ _ _ hpower⟩

/-- A client of the binary port asks for a scan and is superseded before its byte is looked at. -/
def lateStart : List EmulatorAction :=
  accepting .binary 5 4 ++ serving .binary 0 ++ [.on .binary (.recvData 0 ['\x01'])] ++
    accepting .binary 6 7 ++ [.on .binary (.handler 0)]

/-- The superseded client starts the scan. -/
theorem superseded_client_starts_scan :
    (Runs.exec (Emulator.step referenceEnv) (.start mps4264 1 true) lateStart).map
        (fun s => s.layer.device.map fun d => d.scanning) = some (some true) ∧
      ¬ Runs.Along (Emulator.step referenceEnv) (NoAuthority referenceEnv)
        (.start mps4264 1 true) lateStart := by
  refine ⟨by decide +kernel, fun h => ?_⟩
  have hscanning := h.mono fun s b hh v hv hsup s' hs' =>
    congrArg (Option.map fun d => d.scanning) (hh v hv hsup s' hs').1
  revert hscanning
  decide +kernel

end MpsEmulator
