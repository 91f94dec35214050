/-
**What is received is handled, once and in order.**

A handler reads a segment into its buffer, copies it, and calls the data callback; between the two
it may be kicked, its handle may be given to another connection, and the other threads change the
layer.  Nothing of this takes a segment away from the handler, or hands it on twice.

* `Handler.pending` — the segment that a handler holds;
* `Server.step_pending` — what a step of a server does to it;
* `SegmentLog` — what each handler has received, and what it has called the data callback with;
* `segments_handled_in_order` — **in every run, what a handler has received is what the data
  callback was called with, with the handler's id and in the same order, and then what the handler
  still holds**.
-/

import MpsEmulator.Supersession

set_option relaxedAutoImplicit false
set_option autoImplicit false

namespace MpsEmulator

/-! ### A step of a server -/

/-- The segment that has been received and not handled. -/
def Handler.pending : Handler → List Bytes
  | .deliver _ seg => [seg]
  | _ => []

/-- The segment that a step receives for a handler. -/
def ServerAction.received (n : ℕ) : ServerAction → List Bytes
  | .recvData m seg => if m = n then [seg] else []
  | _ => []

/-- The segment that a step of a handler hands on. -/
def Server.handled (srv : Server) (n : ℕ) : ServerAction → List Bytes
  | .handler m => if m = n then (srv.handler n).pending else []
  | _ => []

variable {srv srv' : Server} {client : ActiveClient} {sockets : ℕ → Option Connection}
  {a : ServerAction} {e : Effect}

/-- The other handlers keep what they hold. -/
theorem Server.pending_setHandler_of_ne {n m : ℕ} (h : Handler) (hne : n ≠ m) :
    ((srv.setHandler m h).handler n).pending = (srv.handler n).pending :=
  congrArg Handler.pending (Function.update_of_ne hne _ _)

theorem Server.pending_setHandler (srv : Server) (n : ℕ) (h : Handler) :
    ((srv.setHandler n h).handler n).pending = h.pending :=
  congrArg Handler.pending (Function.update_self _ _ _)

/-- A handler that holds nothing may move to where it holds nothing. -/
theorem Server.pending_moved {n m : ℕ} {h : Handler} (hold : (srv.handler m).pending = [])
    (hnew : h.pending = []) :
    ((srv.setHandler m h).handler n).pending = (srv.handler n).pending := by
  by_cases hnm : n = m
  · rw [hnm, Server.pending_setHandler, hold, hnew]
  · exact Server.pending_setHandler_of_ne h hnm

/-- The accept thread touches no segment. -/
theorem Server.acceptConnectionThreadFn_pending (hw : srv.WellFormed client)
    (h : srv.acceptConnectionThreadFn client = some (srv', e)) (n : ℕ) :
    (srv'.handler n).pending = (srv.handler n).pending := by
  have hstep : ServerStep srv client (fun _ => none) .acceptThread srv' e :=
    Server.acceptConnectionThreadFn_eq_some h
  cases hstep with
  | enqueue id hpc =>
      have habsent : srv.handler (srv.accepted - 1) = .absent :=
        hw.absent _ (by simp [Server.enqueued, hpc])
      exact Server.pending_moved (by rw [habsent]; rfl) rfl
  | connectKick id old stage stage' hpc hnext => cases stage <;> rfl
  | loop _ m started running h e hmover => cases hmover
  | _ => rfl

/-- An instruction of a handler hands on what it holds. -/
theorem Server.handleConnectionThreadFn_pending {m : ℕ}
    (h : srv.handleConnectionThreadFn m = some (srv', e)) (n : ℕ) :
    (srv.handler n).pending = srv.handled n (.handler m) ++ (srv'.handler n).pending := by
  have hmoved : ∀ {srv₁ : Server} {h' : Handler}, srv₁.handler = srv.handler → h'.pending = [] →
      (srv.handler n).pending =
        srv.handled n (.handler m) ++ ((srv₁.setHandler m h').handler n).pending := by
    intro srv₁ h' hsame hnew
    by_cases hmn : m = n
    · rw [Server.handled, if_pos hmn, hmn, Server.pending_setHandler, hnew, List.append_nil]
    · have hnm : n ≠ m := fun h => hmn h.symm
      rw [Server.handled, if_neg hmn, Server.pending_setHandler_of_ne h' hnm, hsame,
        List.nil_append]
  unfold Server.handleConnectionThreadFn at h
  cases hm : srv.handler m with
  | absent => simp [hm] at h
  | queued => simp [hm] at h
  | recv => simp [hm] at h
  | done => simp [hm] at h
  | find =>
      obtain ⟨rfl, rfl⟩ : _ = srv' ∧ _ = e := by simpa [hm] using h
      refine hmoved rfl ?_
      split <;> rfl
  | index =>
      obtain ⟨rfl, rfl⟩ : _ = srv' ∧ _ = e := by simpa [hm] using h
      exact hmoved rfl rfl
  | deliver o seg =>
      obtain ⟨rfl, rfl⟩ : _ = srv' ∧ _ = e := by simpa [hm] using h
      exact hmoved rfl rfl
  | kicking stage =>
      obtain ⟨rfl, rfl⟩ : _ = srv' ∧ _ = e := by simpa [hm] using h
      cases stage with
      | close => exact hmoved rfl rfl
      | _ => exact hmoved rfl rfl

/-- **A step of a server loses no segment and hands on none twice.** -/
theorem Server.step_pending (hw : srv.WellFormed client)
    (h : srv.step client sockets a = some (srv', e)) (n : ℕ) :
    (srv.handler n).pending ++ a.received n = srv.handled n a ++ (srv'.handler n).pending := by
  cases a with
  | accept id =>
      obtain ⟨-, h⟩ := Option.ite_none_right_eq_some.1 h
      obtain ⟨rfl, rfl⟩ : _ = srv' ∧ _ = e := by simpa using h
      exact List.append_nil _
  | acceptThread =>
      rw [Server.acceptConnectionThreadFn_pending hw h n]
      exact List.append_nil _
  | start =>
      obtain ⟨⟨hqueued, -⟩, h⟩ := Option.ite_none_right_eq_some.1 h
      obtain ⟨rfl, rfl⟩ : _ = srv' ∧ _ = e := by simpa using h
      have hmoved : ((srv.setHandler srv.started .find).handler n).pending =
          (srv.handler n).pending := Server.pending_moved (by rw [hqueued]; rfl) rfl
      exact (List.append_nil _).trans hmoved.symm
  | recvData m seg =>
      cases horigin : sockets (srv.handle m) with
      | none => simp [Server.step, horigin] at h
      | some origin =>
          simp only [Server.step, horigin] at h
          obtain ⟨⟨hrecv, -⟩, h⟩ := Option.ite_none_right_eq_some.1 h
          obtain ⟨rfl, rfl⟩ : _ = srv' ∧ _ = e := by simpa using h
          by_cases hmn : m = n
          · subst hmn
            rw [Server.pending_setHandler, hrecv]
            simp [ServerAction.received, Server.handled, Handler.pending]
          · have hnm : n ≠ m := fun h => hmn h.symm
            rw [Server.pending_setHandler_of_ne _ hnm]
            simp [ServerAction.received, Server.handled, hmn]
  | recvEnd m =>
      obtain ⟨hrecv, h⟩ := Option.ite_none_right_eq_some.1 h
      obtain ⟨rfl, rfl⟩ : _ = srv' ∧ _ = e := by simpa using h
      rw [Server.pending_moved (by rw [hrecv]; rfl) rfl]
      exact List.append_nil _
  | handler m => exact (List.append_nil _).trans (Server.handleConnectionThreadFn_pending h n)
  | sendFind id =>
      obtain ⟨-, h⟩ := Option.ite_none_right_eq_some.1 h
      obtain ⟨rfl, rfl⟩ : _ = srv' ∧ _ = e := by simpa using h
      exact List.append_nil _
  | sendIndex id =>
      obtain ⟨-, h⟩ := Option.ite_none_right_eq_some.1 h
      obtain ⟨rfl, rfl⟩ : _ = srv' ∧ _ = e := by simpa using h
      exact List.append_nil _

/-! ### Runs of the emulator -/

/-- What each handler has received, and the ids and segments it has called the data callback
with. -/
structure SegmentLog where
  received : Connection → List Bytes
  handled : Connection → List (ℕ × Bytes)

/-- The segment that a step receives for a handler. -/
def EmulatorAction.received (c : Connection) : EmulatorAction → List Bytes
  | .server p _ a => if p = c.1 then a.received c.2 else []
  | .scanThread _ => []

/-- The data callback that a step of a handler runs. -/
def Emulator.handled (s : Emulator) (c : Connection) : EmulatorAction → List (ℕ × Bytes)
  | .server p x (.handler n) =>
      if p = c.1 ∧ n = c.2 then
        (s.delivery (.server p x (.handler n))).toList.map fun v => (v.id, v.seg)
      else []
  | _ => []

/-- What a step adds. -/
def SegmentLog.next (log : SegmentLog) (s : Emulator) (b : EmulatorAction) (_ : Emulator) :
    SegmentLog where
  received := fun c => log.received c ++ b.received c
  handled := fun c => log.handled c ++ s.handled c b

/-- The emulator together with what its handlers have done. -/
def handlingNoted (E : Env) :
    Emulator × SegmentLog → EmulatorAction → Option (Emulator × SegmentLog) :=
  Runs.annotate (Emulator.step E) SegmentLog.next

/-- What a handler holds of what it has received. -/
def Emulator.pending (s : Emulator) (c : Connection) : List Bytes :=
  ((s.server c.1).handler c.2).pending

/-- What a handler has received, it has called the data callback with, or it still holds it. -/
def HandledInOrder (σ : Emulator × SegmentLog) : Prop :=
  ∀ c, (σ.2.received c).map (fun seg => ((σ.1.server c.1).handle c.2, seg)) =
    σ.2.handled c ++ (σ.1.pending c).map fun seg => ((σ.1.server c.1).handle c.2, seg)

variable {E : Env} {s s' : Emulator} {b : EmulatorAction} {p : Port} {x : Session}

/-- The data callback is called with the handler's id and what it holds. -/
theorem Emulator.handled_eq (s : Emulator) (p : Port) (x : Session) (a : ServerAction)
    (c : Connection) :
    s.handled c (.server p x a) =
      (if p = c.1 then (s.server c.1).handled c.2 a else []).map fun seg =>
        ((s.server c.1).handle c.2, seg) := by
  obtain ⟨q, n⟩ := c
  cases a with
  | handler m =>
      by_cases hp : p = q
      · subst hp
        by_cases hm : m = n
        · subst hm
          simp only [Emulator.handled, Server.handled, Emulator.delivery, and_self, if_true]
          cases (s.server p).handler m <;> rfl
        · simp [Emulator.handled, Server.handled, hm]
      · simp [Emulator.handled, hp]
  | _ => simp [Emulator.handled, Server.handled]

/-- A step of the emulator loses no segment and hands on none twice. -/
theorem Emulator.step_pending (hw : s.WellFormed) (h : Emulator.step E s b = some s')
    (c : Connection) :
    (s.pending c ++ b.received c).map (fun seg => ((s.server c.1).handle c.2, seg)) =
      s.handled c b ++ (s'.pending c).map fun seg => ((s.server c.1).handle c.2, seg) := by
  cases b with
  | server p x a =>
      obtain ⟨⟨srv, e⟩, hstep, rfl⟩ := Option.map_eq_some_iff.1 h
      rw [Emulator.handled_eq, EmulatorAction.received, Emulator.pending, Emulator.pending]
      by_cases hp : p = c.1
      · subst hp
        have hpending := Server.step_pending (hw.server c.1) hstep c.2
        simp only [if_true, Function.update_self]
        rw [hpending, List.map_append]
      · have hother : c.1 ≠ p := fun h => hp h.symm
        simp [hp, hother]
  | scanThread d =>
      obtain ⟨-, h⟩ := Option.ite_none_right_eq_some.1 h
      rw [← Option.some_inj.1 h]
      simp [EmulatorAction.received, Emulator.handled, Emulator.pending]

/-- Only a handler that exists receives. -/
theorem Emulator.received_eq_nil (hw : s.WellFormed) (h : Emulator.step E s b = some s')
    {c : Connection} (hc : (s.server c.1).accepted ≤ c.2) : b.received c = [] := by
  have habsent : (s.server c.1).handler c.2 = .absent :=
    (hw.server c.1).absent _ ((Server.enqueued_le _).trans hc)
  cases b with
  | server p x a =>
      obtain ⟨⟨srv, e⟩, hstep, -⟩ := Option.map_eq_some_iff.1 h
      cases a with
      | recvData m seg =>
          simp only [EmulatorAction.received, ServerAction.received]
          split
          · next hp =>
            subst hp
            refine if_neg ?_
            rintro rfl
            cases horigin : s.sockets ((s.server c.1).handle c.2) <;>
              simp [Server.step, horigin, habsent] at hstep
          · rfl
      | _ => exact ite_self _
  | scanThread d => rfl

/-- What holds in every reachable state. -/
structure Delivering (σ : Emulator × SegmentLog) : Prop where
  wellFormed : σ.1.WellFormed
  inOrder : HandledInOrder σ
  fresh : ∀ c, (σ.1.server c.1).accepted ≤ c.2 → σ.2.received c = []

theorem delivering_start (deviceId : MpsDeviceID) (serialNumber : ℕ) (enableConsole : Bool) :
    Delivering (.start deviceId serialNumber enableConsole,
      { received := fun _ => [], handled := fun _ => [] }) where
  wellFormed := Emulator.wellFormed_start deviceId serialNumber enableConsole
  inOrder := fun _ => rfl
  fresh := fun _ _ => rfl

/-- **Every step keeps it so.** -/
theorem Delivering.step {σ σ' : Emulator × SegmentLog} (hσ : Delivering σ)
    (h : handlingNoted E σ b = some σ') : Delivering σ' := by
  obtain ⟨s', log'⟩ := σ'
  obtain ⟨hstep, hlog⟩ := Runs.annotate_eq_some.1 h
  dsimp only at hstep hlog
  subst hlog
  have hw := hσ.wellFormed
  refine ⟨hw.step hstep, fun c => ?_, fun c hc => ?_⟩
  · have hmoved := Emulator.step_pending hw hstep c
    have hold := hσ.inOrder c
    dsimp only [SegmentLog.next]
    by_cases hc : c.2 < (σ.1.server c.1).accepted
    · rw [(Emulator.step_handle hstep hc).2, List.map_append, hold, List.append_assoc,
        ← List.map_append, hmoved, List.append_assoc]
    · -- the connection may be given its handle now, and has received nothing
      have hnone := hσ.fresh c (by omega)
      have hnow := Emulator.received_eq_nil hw hstep (c := c) (by omega)
      rw [hnone, List.map_nil, eq_comm, List.append_eq_nil_iff, List.map_eq_nil_iff] at hold
      rw [hnow, hold.2, List.append_nil, List.map_nil, eq_comm, List.append_eq_nil_iff,
        List.map_eq_nil_iff] at hmoved
      rw [hnone, hnow, hold.1, hmoved.1, hmoved.2]
      rfl
  · have hc' : (σ.1.server c.1).accepted ≤ c.2 := by
      by_contra hlt
      exact absurd (Emulator.step_handle hstep (not_le.1 hlt)).1 (not_lt.2 hc)
    dsimp only [SegmentLog.next]
    rw [hσ.fresh c hc', Emulator.received_eq_nil hw hstep hc']
    rfl

/-- **What is received is handled, once and in order**, in every run, by the handlers of both ports,
whoever connects, leaves or is kicked. -/
theorem segments_handled_in_order (E : Env) (deviceId : MpsDeviceID) (serialNumber : ℕ)
    (enableConsole : Bool) (bs : List EmulatorAction) :
    Runs.Throughout (handlingNoted E) HandledInOrder
      (.start deviceId serialNumber enableConsole,
        { received := fun _ => [], handled := fun _ => [] }) bs :=
  (Runs.throughout_of_step (fun _ _ _ hσ h => hσ.step h)
    (delivering_start deviceId serialNumber enableConsole)).mono fun _ hσ => hσ.inOrder

end MpsEmulator
