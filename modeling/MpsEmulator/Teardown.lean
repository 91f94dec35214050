/-
**How often a connection is torn down, and by whom.**

`KickClient` runs the disconnect callback, erases the map entry and closes the socket of an id.  The
handler of a connection executes it when it leaves its loop; the connect callback of a newer
connection executes it for the active client.  A client that was superseded is therefore torn down
twice, and if its handle has been given to a third connection in the meantime, the second time that
one is torn down.

Every instruction of a `KickClient` is recorded as a `Teardown`: which one it was, for which
connection it was executed, and which connection had the handle.

* `TornDownOnce` — what should hold of the recorded teardowns;
* `NoSupersession` — the step does not begin to supersede a connected client;
* `torn_down_once` — without supersession, every connection is torn down once, by its own handler,
  and a handle is given to another connection only after that;
* `third_connection_closed` — what happens with supersession.
-/

import MpsEmulator.Emulator

set_option relaxedAutoImplicit false
set_option autoImplicit false

namespace MpsEmulator

/-! ### What is recorded -/

/-- An instruction of `KickClient`: the connection it is executed for, and the one that has the
handle at that moment. -/
structure Teardown where
  stage : KickStage
  cause : Option Connection
  holder : Option Connection
  deriving DecidableEq

/-- The last connection before the newest one that was given the id. -/
def Server.lastWith (srv : Server) (id : ℕ) : Option ℕ :=
  ((List.range (srv.accepted - 1)).filter fun n => srv.handle n = id).getLast?

/-- The teardown a step consists of.  A handler acts for its connection; the connect callback acts
for the connection that was given the id of the active client. -/
def teardowns (s : Emulator) : EmulatorAction → List Teardown
  | .server p _ .acceptThread =>
      match (s.server p).acceptThread with
      | .kicking _ old stage =>
          [{ stage := stage, cause := ((s.server p).lastWith old).map fun n => (p, n)
             holder := s.sockets old }]
      | _ => []
  | .server p _ (.handler n) =>
      match (s.server p).handler n with
      | .kicking stage =>
          [{ stage := stage, cause := some (p, n)
             holder := s.sockets ((s.server p).handle n) }]
      | _ => []
  | _ => []

/-- The emulator together with the teardowns so far. -/
def recorded (E : Env) :
    Emulator × List Teardown → EmulatorAction → Option (Emulator × List Teardown) :=
  Runs.record (Emulator.step E) fun s b _ => teardowns s b

/-- How often an instruction was executed for a connection. -/
def timesFor (seen : List Teardown) (stage : KickStage) (c : Connection) : ℕ :=
  seen.countP fun t => t.stage = stage ∧ t.cause = some c

/-- Every connection causes at most one disconnect callback and one `CloseSocket`, and exactly one
of each when its handler has returned; what is executed for a connection hits that connection; and a
later connection has the same id only if the earlier one's handler has returned. -/
structure TornDownOnce (s : Emulator) (seen : List Teardown) : Prop where
  atMost : ∀ c, timesFor seen .callback c ≤ 1 ∧ timesFor seen .close c ≤ 1
  exact : ∀ p n, (s.server p).handler n = .done →
    timesFor seen .callback (p, n) = 1 ∧ timesFor seen .close (p, n) = 1
  own : ∀ t ∈ seen, t.holder = t.cause
  later : ∀ p n m, n < m → m < (s.server p).accepted →
    (s.server p).handle m = (s.server p).handle n → (s.server p).handler n = .done

/-- The id whose connect callback is about to begin. -/
def AcceptThread.connecting : AcceptThread → Option ℕ
  | .enqueued id => some id
  | _ => none

/-- The connect callback does not begin to kick another client. -/
def NoSupersession (s : Emulator) : EmulatorAction → Prop
  | .server p _ .acceptThread =>
      ∀ id ∈ (s.server p).acceptThread.connecting,
        id = (s.layer.client p).id ∨ (s.layer.client p).connected = false
  | _ => True

instance (s : Emulator) : ∀ b, Decidable (NoSupersession s b)
  | .server p _ .acceptThread =>
      inferInstanceAs (Decidable (∀ id ∈ (s.server p).acceptThread.connecting, _ ∨ _))
  | .server _ _ (.accept _) | .server _ _ .start | .server _ _ (.recvData ..)
  | .server _ _ (.recvEnd _) | .server _ _ (.handler _) | .server _ _ (.sendFind _)
  | .server _ _ (.sendIndex _) | .scanThread _ => inferInstanceAs (Decidable True)

/-! ### Who holds a handle -/

/-- Every connection of the port has its socket until its handler has returned. -/
def Owned (p : Port) (srv : Server) (sockets : ℕ → Option Connection) : Prop :=
  ∀ n, n < srv.accepted → srv.handler n ≠ .done → sockets (srv.handle n) = some (p, n)

/-- The accept thread is not kicking anybody. -/
def AcceptThread.Harmless (t : AcceptThread) : Prop := ∀ id old stage, t ≠ .kicking id old stage

variable {p q : Port} {srv srv' : Server} {client : ActiveClient}
  {sockets : ℕ → Option Connection} {a : ServerAction} {e : Effect}

/-- A step moves a handler in `KickClient` one instruction on, or executes no instruction of
`KickClient` and leaves alone which handlers have run their callback and which have returned. -/
theorem ServerStep.kick_or (hw : srv.WellFormed client)
    (h : ServerStep srv client sockets a srv' e) :
    (∃ n stage, a = .handler n ∧ srv.handler n = .kicking stage ∧
        srv'.handler = Function.update srv.handler n
          (match stage.next with | some stage' => .kicking stage' | none => .done)) ∨
      ((∀ n stage, a = .handler n → srv.handler n ≠ .kicking stage) ∧
        ∀ n, (srv'.handler n).reported = (srv.handler n).reported ∧
          (srv'.handler n = .done ↔ srv.handler n = .done)) := by
  have hmoved : ∀ m h', (srv.handler m).reported = false → h'.reported = false →
      ∀ n, (Function.update srv.handler m h' n).reported = (srv.handler n).reported ∧
        (Function.update srv.handler m h' n = .done ↔ srv.handler n = .done) := by
    intro m h' hold hnew n
    by_cases hnm : n = m
    · subst hnm
      rw [Function.update_self, hold, hnew]
      refine ⟨rfl, iff_of_false ?_ ?_⟩
      · rintro rfl
        cases hnew
      · intro hdone
        rw [hdone] at hold
        cases hold
    · rw [Function.update_of_ne hnm]
      exact ⟨rfl, Iff.rfl⟩
  cases h with
  | enqueue id hpc =>
      have habsent : srv.handler (srv.accepted - 1) = .absent :=
        hw.absent _ (by simp [Server.enqueued, hpc])
      exact Or.inr ⟨by simp, hmoved _ _ (by rw [habsent]; rfl) rfl⟩
  | connectKick id old stage stage' hpc hnext =>
      refine Or.inr ⟨by simp, fun n => ?_⟩
      cases stage <;> exact ⟨rfl, Iff.rfl⟩
  | loop a n started running h e ha hold hnew horigin he =>
      obtain ⟨-, hreported, hkicking⟩ := Handler.inLoop_facts hold
      refine Or.inr ⟨?_, hmoved _ _ hreported ?_⟩
      · rintro m stage rfl
        obtain rfl : m = n := Option.some_inj.1 ha
        exact hkicking stage
      · obtain hloop | rfl := hnew
        · exact (Handler.inLoop_facts hloop).2.1
        · rfl
  | index n hn =>
      refine Or.inr ⟨?_, hmoved _ _ (by rw [hn]; rfl) rfl⟩
      intro m stage hm
      rw [← ServerAction.handler.inj hm, hn]
      simp
  | kick n stage stage' hn hnext =>
      refine Or.inl ⟨n, stage, rfl, hn, ?_⟩
      rw [hnext]
      cases stage <;> rfl
  | close n hn => exact Or.inl ⟨n, .close, rfl, hn, rfl⟩
  | _ => exact Or.inr ⟨by simp, fun _ => ⟨rfl, Iff.rfl⟩⟩

/-- A kick is executed by a handler that has its socket, so nobody else loses one. -/
theorem Owned.of_closed {sockets : ℕ → Option Connection} (ho : Owned q srv sockets) {id : ℕ}
    (hid : ∀ n, n < srv.accepted → srv.handler n ≠ .done → sockets id ≠ some (q, n)) :
    Owned q srv (Function.update sockets id none) := by
  intro n hn hdone
  have hopen := ho n hn hdone
  have hne : srv.handle n ≠ id := by
    rintro rfl
    exact hid n hn hdone hopen
  rwa [Function.update_of_ne hne]

/-- An accepted handle is nobody's. -/
theorem Owned.of_opened {sockets : ℕ → Option Connection} (ho : Owned q srv sockets) {id : ℕ}
    (hid : sockets id = none) (c : Connection) :
    Owned q srv (Function.update sockets id (some c)) := by
  intro n hn hdone
  have hopen := ho n hn hdone
  have hne : srv.handle n ≠ id := by
    rintro rfl
    rw [hid] at hopen
    cases hopen
  rwa [Function.update_of_ne hne]

/-- A step of a server whose accept thread kicks nobody: the sockets of its own connections. -/
theorem ServerStep.owned (hw : srv.WellFormed client) (hharmless : srv.acceptThread.Harmless)
    (ho : Owned p srv sockets) (h : ServerStep srv client sockets a srv' e) :
    Owned p srv' (e.sockets p sockets) := by
  have hmoved : ∀ m h', srv.handler m ≠ .done → ∀ n, n < srv.accepted →
      Function.update srv.handler m h' n ≠ .done → sockets (srv.handle n) = some (p, n) := by
    intro m h' hm n hn hdone
    by_cases hnm : n = m
    · subst hnm
      exact ho n hn hm
    · rw [Function.update_of_ne hnm] at hdone
      exact ho n hn hdone
  cases h with
  | accept id hpc hid =>
      intro n hn hdone
      by_cases hnew : n = srv.accepted
      · subst hnew
        simp [Effect.sockets]
      · have hlt : n < srv.accepted := by
          have hn : n < srv.accepted + 1 := hn
          omega
        simp only [Effect.sockets, Function.update_of_ne hnew]
        exact ho.of_opened hid _ n hlt hdone
  | enqueue id hpc =>
      have habsent : srv.handler (srv.accepted - 1) = .absent :=
        hw.absent _ (by simp [Server.enqueued, hpc])
      exact hmoved _ _ (by simp [habsent])
  | connectKick id old stage stage' hpc hnext => exact absurd hpc (hharmless id old stage)
  | connectClose id old hpc => exact absurd hpc (hharmless id old .close)
  | loop a n started running h e ha hold hnew horigin he =>
      have hsockets : e.sockets p sockets = sockets := by
        obtain rfl | ⟨o, seg, -, -, rfl⟩ := he <;> rfl
      have hn : srv.handler n ≠ .done := by
        intro hdone
        simp [hdone, Handler.inLoop] at hold
      rw [hsockets]
      exact hmoved n h hn
  | index n hn => exact hmoved _ _ (by simp [hn])
  | kick n stage stage' hn hnext =>
      cases stage with
      | close => cases hnext
      | _ => exact hmoved _ _ (by simp [hn])
  | close n hn =>
      have hopen := ho n (hw.lt_accepted (by simp [hn])) (by simp [hn])
      have ho' : Owned p (srv.setHandler n .done) sockets := hmoved n .done (by simp [hn])
      refine ho'.of_closed ?_
      intro m hm hdone hsame
      -- the socket is that of the handler which has just returned
      rw [hopen] at hsame
      obtain rfl : n = m := (Prod.mk.inj (Option.some_inj.1 hsame)).2
      exact hdone (Function.update_self _ _ _)
  | _ => exact ho

/-- The same for the sockets of the other port. -/
theorem ServerStep.owned_other {srv₂ : Server} (hqp : q ≠ p) (hw : srv.WellFormed client)
    (hharmless : srv.acceptThread.Harmless) (ho : Owned p srv sockets) (ho₂ : Owned q srv₂ sockets)
    (h : ServerStep srv client sockets a srv' e) : Owned q srv₂ (e.sockets p sockets) := by
  cases h with
  | accept id hpc hid => exact ho₂.of_opened hid _
  | connectKick id old stage stage' hpc hnext => exact absurd hpc (hharmless id old stage)
  | connectClose id old hpc => exact absurd hpc (hharmless id old .close)
  | loop a n started running h e ha hold hnew horigin he =>
      obtain rfl | ⟨o, seg, -, -, rfl⟩ := he <;> exact ho₂
  | kick n stage stage' hn hnext =>
      cases stage with
      | close => cases hnext
      | _ => exact ho₂
  | close n hn =>
      have hopen := ho n (hw.lt_accepted (by simp [hn])) (by simp [hn])
      refine ho₂.of_closed ?_
      intro m hm hdone hsame
      rw [hopen] at hsame
      exact hqp (Prod.mk.inj (Option.some_inj.1 hsame)).1.symm
  | _ => exact ho₂

/-- Without supersession the accept thread never comes to kick anybody. -/
theorem ServerStep.harmless (hharmless : srv.acceptThread.Harmless)
    (hno : ∀ id, a = .acceptThread → srv.acceptThread = .enqueued id →
      id = client.id ∨ client.connected = false)
    (h : ServerStep srv client sockets a srv' e) : srv'.acceptThread.Harmless := by
  cases h with
  | connect id hpc =>
      obtain ⟨-, hb⟩ | ⟨hne, hcon, -⟩ | ⟨-, -, hb⟩ := connectBranch_cases client id
      · rw [hb]
        exact fun _ _ _ h => by cases h
      · obtain heq | hcon' := hno id rfl hpc
        · exact absurd heq hne
        · rw [hcon'] at hcon
          cases hcon
      · rw [hb]
        exact fun _ _ _ h => by cases h
  | connectKick id old stage stage' hpc hnext => exact absurd hpc (hharmless id old stage)
  | kick n stage stage' hn hnext => cases stage <;> exact hharmless
  | accept id hpc hid => exact fun _ _ _ h => by cases h
  | insert id hpc => exact fun _ _ _ h => by cases h
  | enqueue id hpc => exact fun _ _ _ h => by cases h
  | connectClose id old hpc => exact fun _ _ _ h => by cases h
  | record id kicked hpc => exact fun _ _ _ h => by cases h
  | _ => exact hharmless

/-- A handle is given to a later connection only when the earlier one's handler has returned. -/
theorem ServerStep.later (hw : srv.WellFormed client) (ho : Owned p srv sockets)
    (hlater : ∀ n m, n < m → m < srv.accepted → srv.handle m = srv.handle n →
      srv.handler n = .done)
    (h : ServerStep srv client sockets a srv' e) {n m : ℕ} (hnm : n < m) (hm : m < srv'.accepted)
    (hid : srv'.handle m = srv'.handle n) : srv'.handler n = .done := by
  have hkeep : m < srv.accepted → srv'.handler n = .done := by
    intro hlt
    rw [(h.handle hlt).2, (h.handle (hnm.trans hlt)).2] at hid
    have hdone := hlater n m hnm hlt hid
    obtain ⟨k, stage, -, hk, hhandler⟩ | ⟨-, hsame⟩ := h.kick_or hw
    · have hnk : n ≠ k := by
        rintro rfl
        rw [hdone] at hk
        cases hk
      rw [hhandler, Function.update_of_ne hnk]
      exact hdone
    · exact (hsame n).2.2 hdone
  cases h with
  | accept id hpc hfree =>
      obtain hlt | rfl : m < srv.accepted ∨ m = srv.accepted := Nat.lt_succ_iff_lt_or_eq.1 hm
      · exact hkeep hlt
      · -- the handle is free, so whoever had it has returned
        simp only [Function.update_self, Function.update_of_ne hnm.ne] at hid
        by_contra hdone
        have hopen := ho n hnm hdone
        rw [← hid, hfree] at hopen
        cases hopen
  | connectKick id old stage stage' hpc hnext => cases stage <;> exact hkeep hm
  | kick k stage stage' hk hnext => cases stage <;> exact hkeep hm
  | _ => exact hkeep hm

/-! ### The history -/

/-- How often the handler has run its disconnect callback. -/
def Handler.callbacks (h : Handler) : ℕ := if h.reported then 1 else 0

/-- How often the handler has closed its socket. -/
def Handler.closes (h : Handler) : ℕ := if h = .done then 1 else 0

/-- The invariant: nobody is being superseded, every handler has its socket, and the history shows
for every connection exactly what its handler has executed. -/
structure TeardownInv (s : Emulator) (seen : List Teardown) : Prop where
  wellFormed : s.WellFormed
  harmless : ∀ p, (s.server p).acceptThread.Harmless
  owned : ∀ p, Owned p (s.server p) s.sockets
  later : ∀ p n m, n < m → m < (s.server p).accepted →
    (s.server p).handle m = (s.server p).handle n → (s.server p).handler n = .done
  callbacks : ∀ p n, timesFor seen .callback (p, n) = ((s.server p).handler n).callbacks
  closes : ∀ p n, timesFor seen .close (p, n) = ((s.server p).handler n).closes
  own : ∀ t ∈ seen, t.holder = t.cause

theorem timesFor_append (seen new : List Teardown) (stage : KickStage) (c : Connection) :
    timesFor (seen ++ new) stage c = timesFor seen stage c + timesFor new stage c :=
  List.countP_append

variable {E : Env} {s s' : Emulator} {b : EmulatorAction} {seen : List Teardown}

/-- Without a kicking accept thread, what is recorded is one instruction of a handler, or
nothing. -/
theorem teardowns_cases (hharmless : ∀ p, (s.server p).acceptThread.Harmless) (b : EmulatorAction) :
    (∃ p x n stage, b = .server p x (.handler n) ∧ (s.server p).handler n = .kicking stage ∧
        teardowns s b = [{ stage := stage, cause := some (p, n)
                           holder := s.sockets ((s.server p).handle n) }]) ∨
      (teardowns s b = [] ∧ ∀ p x n stage, b = .server p x (.handler n) →
        (s.server p).handler n ≠ .kicking stage) := by
  cases b with
  | scanThread d => exact Or.inr ⟨rfl, by simp⟩
  | server p x a =>
      cases a with
      | acceptThread =>
          refine Or.inr ⟨?_, by simp⟩
          simp only [teardowns]
          split
          · rename_i id old stage hpc
            exact absurd hpc (hharmless p id old stage)
          · rfl
      | handler n =>
          by_cases hkick : ∃ stage, (s.server p).handler n = .kicking stage
          · obtain ⟨stage, hstage⟩ := hkick
            exact Or.inl ⟨p, x, n, stage, rfl, hstage, by simp only [teardowns, hstage]⟩
          · refine Or.inr ⟨?_, ?_⟩
            · simp only [teardowns]
              split
              · rename_i stage hstage
                exact absurd ⟨stage, hstage⟩ hkick
              · rfl
            · rintro q y m stage hb hstage
              obtain ⟨rfl, -, hnm⟩ := EmulatorAction.server.inj hb
              obtain rfl := ServerAction.handler.inj hnm
              exact hkick ⟨stage, hstage⟩
      | _ => exact Or.inr ⟨rfl, by simp⟩

theorem timesFor_singleton (t : Teardown) (stage : KickStage) (c : Connection) :
    timesFor [t] stage c = if t.stage = stage ∧ t.cause = some c then 1 else 0 := by
  simp [timesFor, List.countP_singleton]

/-- What a step adds to the history is what its handler has executed. -/
theorem TeardownInv.counts (hi : TeardownInv s seen) (h : Emulator.step E s b = some s') (q : Port)
    (m : ℕ) :
    timesFor (teardowns s b) .callback (q, m) + ((s.server q).handler m).callbacks =
        ((s'.server q).handler m).callbacks ∧
      timesFor (teardowns s b) .close (q, m) + ((s.server q).handler m).closes =
        ((s'.server q).handler m).closes := by
  obtain ⟨p, x, n, stage, rfl, hn, hrec⟩ | ⟨hrec, hnone⟩ := teardowns_cases hi.harmless b
  · rw [hrec, timesFor_singleton, timesFor_singleton]
    obtain ⟨y, a, e, hb, hstep, -, -⟩ | ⟨hother, hserver, -⟩ := Emulator.step_port h q
    · obtain ⟨rfl, -, rfl⟩ := EmulatorAction.server.inj hb
      obtain ⟨k, stage', hk, hstage, hhandler⟩ | ⟨hnot, -⟩ :=
        hstep.kick_or (hi.wellFormed.server p)
      · obtain rfl := ServerAction.handler.inj hk
        obtain rfl : stage = stage' := Handler.kicking.inj (hn.symm.trans hstage)
        rw [hhandler]
        by_cases hmn : m = n
        · subst hmn
          rw [Function.update_self, hn]
          cases stage <;> simp [KickStage.next, Handler.callbacks, Handler.closes, Handler.reported]
        · have hnm : (p, n) ≠ (p, m) := fun heq => hmn (Prod.mk.inj heq).2.symm
          rw [Function.update_of_ne hmn]
          simp [hnm]
      · exact absurd hn (hnot n stage rfl)
    · have hpq : (p, n) ≠ (q, m) := by
        rintro heq
        obtain ⟨rfl, rfl⟩ := Prod.mk.inj heq
        exact hother x _ rfl
      rw [hserver]
      simp [hpq]
  · rw [hrec]
    obtain ⟨y, a, e, rfl, hstep, -, -⟩ | ⟨-, hserver, -⟩ := Emulator.step_port h q
    · obtain ⟨k, stage, rfl, hk, -⟩ | ⟨-, hsame⟩ := hstep.kick_or (hi.wellFormed.server q)
      · exact absurd hk (hnone q y k stage rfl)
      · obtain ⟨hreported, hdone⟩ := hsame m
        simp [timesFor, Handler.callbacks, Handler.closes, hreported, hdone]
    · rw [hserver]
      simp [timesFor]

/-- **A step without supersession keeps the invariant.** -/
theorem TeardownInv.step (hi : TeardownInv s seen) (hno : NoSupersession s b)
    (h : Emulator.step E s b = some s') : TeardownInv s' (seen ++ teardowns s b) where
  wellFormed := hi.wellFormed.step h
  harmless := by
    intro q
    obtain ⟨x, a, e, rfl, hstep, -, -⟩ | ⟨-, hserver, -⟩ := Emulator.step_port h q
    · refine hstep.harmless (hi.harmless q) ?_
      rintro id rfl hpc
      exact hno id (by rw [hpc]; rfl)
    · rw [hserver]
      exact hi.harmless q
  owned := by
    intro q
    cases b with
    | server p x a =>
        obtain ⟨srv, e, hstep, rfl⟩ := Emulator.step_server h
        by_cases hqp : q = p
        · subst hqp
          simp only [Function.update_self]
          exact hstep.owned (hi.wellFormed.server q) (hi.harmless q) (hi.owned q)
        · simp only [Function.update_of_ne hqp]
          exact hstep.owned_other hqp (hi.wellFormed.server p) (hi.harmless p) (hi.owned p)
            (hi.owned q)
    | scanThread d =>
        obtain ⟨-, h⟩ := Option.ite_none_right_eq_some.1 h
        obtain rfl := Option.some_inj.1 h
        exact hi.owned q
  later := by
    intro q n m hnm hm hid
    obtain ⟨x, a, e, rfl, hstep, -, -⟩ | ⟨-, hserver, -⟩ := Emulator.step_port h q
    · exact hstep.later (hi.wellFormed.server q) (hi.owned q) (hi.later q) hnm hm hid
    · rw [hserver] at hm hid ⊢
      exact hi.later q n m hnm hm hid
  callbacks := by
    intro q m
    rw [timesFor_append, hi.callbacks, ← (hi.counts h q m).1, add_comm]
  closes := by
    intro q m
    rw [timesFor_append, hi.closes, ← (hi.counts h q m).2, add_comm]
  own := by
    intro t ht
    obtain hold | hnew := List.mem_append.1 ht
    · exact hi.own t hold
    · obtain ⟨p, x, n, stage, rfl, hn, hrec⟩ | ⟨hrec, -⟩ := teardowns_cases hi.harmless b
      · rw [hrec] at hnew
        obtain rfl := List.mem_singleton.1 hnew
        exact hi.owned p n ((hi.wellFormed.server p).lt_accepted (by simp [hn])) (by simp [hn])
      · rw [hrec] at hnew
        cases hnew

/-- The invariant says more than what should hold. -/
theorem TeardownInv.tornDownOnce (hi : TeardownInv s seen) : TornDownOnce s seen where
  atMost := by
    rintro ⟨p, n⟩
    rw [hi.callbacks, hi.closes]
    unfold Handler.callbacks Handler.closes
    constructor <;> split <;> omega
  exact := by
    intro p n hdone
    rw [hi.callbacks, hi.closes, hdone]
    exact ⟨rfl, rfl⟩
  own := hi.own
  later := hi.later

theorem teardownInv_start (deviceId : MpsDeviceID) (serialNumber : ℕ) (enableConsole : Bool) :
    TeardownInv (.start deviceId serialNumber enableConsole) [] where
  wellFormed := Emulator.wellFormed_start deviceId serialNumber enableConsole
  harmless := fun _ _ _ _ h => by cases h
  owned := fun _ _ hn _ => absurd hn (Nat.not_lt_zero _)
  later := fun _ _ _ _ hm _ => absurd hm (Nat.not_lt_zero _)
  callbacks := fun _ _ => rfl
  closes := fun _ _ => rfl
  own := by simp

/-- In every run in which no connect callback begins to kick another client, every connection is
torn down once, by its own handler, and no teardown hits another connection. -/
theorem torn_down_once (E : Env) (deviceId : MpsDeviceID) (serialNumber : ℕ)
    (enableConsole : Bool) (bs : List EmulatorAction)
    (h : Runs.Along (recorded E) (fun σ b => NoSupersession σ.1 b)
      (.start deviceId serialNumber enableConsole, []) bs) :
    Runs.Throughout (recorded E) (fun σ => TornDownOnce σ.1 σ.2)
      (.start deviceId serialNumber enableConsole, []) bs := by
  have hstep : ∀ σ b σ', TeardownInv σ.1 σ.2 → NoSupersession σ.1 b → recorded E σ b = some σ' →
      TeardownInv σ'.1 σ'.2 := by
    intro σ b σ' hi hno h
    obtain ⟨hstep, hseen⟩ := Runs.record_eq_some.1 h
    rw [hseen]
    exact hi.step hno hstep
  refine (Runs.throughout_of_along hstep ?_ h).mono fun σ hi => hi.tornDownOnce
  exact teardownInv_start deviceId serialNumber enableConsole

/-- A client of each port comes and goes, and a client of the other port gets its handle. -/
def handleReused : List EmulatorAction :=
  accepting .control 5 4 ++ serving .control 0 ++ [.on .control (.recvEnd 0)] ++
    leaving .control 0 ++ accepting .binary 5 4 ++ serving .binary 0 ++
    [.on .binary (.recvEnd 0)] ++ leaving .binary 0 ++ accepting .control 5 4

theorem torn_down_once_reused :
    (Runs.exec (recorded referenceEnv) (.start mps4264 1 true, []) handleReused).isSome = true ∧
      Runs.Along (recorded referenceEnv) (fun σ b => NoSupersession σ.1 b)
        (.start mps4264 1 true, []) handleReused ∧
      Runs.Throughout (recorded referenceEnv) (fun σ => TornDownOnce σ.1 σ.2)
        (.start mps4264 1 true, []) handleReused := by
  have hno : Runs.Along (recorded referenceEnv) (fun σ b => NoSupersession σ.1 b)
      (.start mps4264 1 true, []) handleReused := by
    decide +kernel
  exact ⟨by decide +kernel, hno, torn_down_once referenceEnv _ _ _ _ hno⟩

/-- Three clients follow each other, the third with the handle of the first, whose handler is
late. -/
def lateHandler : List EmulatorAction :=
  accepting .control 5 4 ++ serving .control 0 ++ accepting .control 6 7 ++
    [.on .control (.recvEnd 0)] ++ serving .control 1 ++ accepting .control 5 7 ++
    leaving .control 0

/-- The late handler reports the third client as disconnected, erases it, and closes its socket. -/
theorem third_connection_closed :
    (Runs.exec (recorded referenceEnv) (.start mps4264 1 true, []) lateHandler).map (fun σ =>
        (σ.1.layer.commandClient, σ.1.sockets 5, (σ.1.server .control).connections 5,
          (σ.1.server .control).handler 2)) = some (.none, none, none, .queued) ∧
      ¬ Runs.Throughout (recorded referenceEnv) (fun σ => TornDownOnce σ.1 σ.2)
        (.start mps4264 1 true, []) lateHandler := by
  have hrun : ∃ σ ∈ Runs.exec (recorded referenceEnv) (.start mps4264 1 true, []) lateHandler,
      { stage := .close, cause := some (.control, 0), holder := some (.control, 2) } ∈ σ.2 := by
    decide +kernel
  refine ⟨by decide +kernel, fun h => ?_⟩
  obtain ⟨σ, hσ, hmem⟩ := hrun
  have hown := (h.final hσ).own _ hmem
  simp at hown

end MpsEmulator
