/-
**Stop requests and the main loop.**

`Application::Restart` and `Application::Shutdown` clear the flag `m_Running` that the main loop
tests, and `Shutdown` also clears `g_ApplicationRunning`, which the loop around it tests.  But
`Run` sets `m_Running` before its first test, and the servers that accept the commands are started
before `Run` is called.  A command that comes in between is lost.

* `Program`, `Program.step` — the main thread, the two flags, and the requests;
* `AppEvent` — what is observed: an application is created, an iteration of its loop begins, a
  request returns;
* `StopKept` — no iteration of an application begins after a request to it has returned, and no
  application is created after a `Shutdown` has returned;
* `stopKept_of_along` — **stop requests are kept if none has come when `Run` sets the flag**;
* `shutdown_is_last` — after a `Shutdown` no application is created, in any run;
* `request_lost` — a request before `Run` sets the flag.

`Shutdown` calls `Restart` first, so it is two steps.  The destructor of an application joins the
threads that may call these functions.
-/

import MpsEmulator.Runs

set_option relaxedAutoImplicit false
set_option autoImplicit false

namespace MpsEmulator

/-! ### The program -/

/-- Where the main thread is. -/
inductive MainPc
  /-- At the test of `g_ApplicationRunning`. -/
  | outer
  | create
  /-- At `PushLayer`, whose `OnAttach` starts the servers. -/
  | attach
  /-- At `m_Running = true`, with the servers started. -/
  | run
  /-- At the test of `m_Running`. -/
  | test
  | body
  /-- At the destruction of the application. -/
  | destroy
  | exited
  deriving DecidableEq

/-- The servers accept commands. -/
def MainPc.listening : MainPc → Bool
  | .run | .test | .body | .destroy => true
  | _ => false

/-- The state of the program.  Applications are numbered; `app` is the current or last one. -/
structure Program where
  pc : MainPc
  app : ℕ
  /-- `m_Running` of the current application. -/
  running : Bool
  /-- `g_ApplicationRunning`. -/
  applicationRunning : Bool
  /-- The calls of `Shutdown` that are past their call of `Restart`. -/
  shuttingDown : ℕ
  deriving DecidableEq

def Program.init : Program where
  pc := .outer
  app := 0
  running := false
  applicationRunning := true
  shuttingDown := 0

/-- One step of the main thread. -/
def Program.mainStep (s : Program) : Option Program :=
  match s.pc with
  | .outer => some { s with pc := if s.applicationRunning then .create else .exited }
  | .create => some { s with pc := .attach, app := s.app + 1, running := false }
  | .attach => some { s with pc := .run }
  | .run => some { s with pc := .test, running := true }
  | .test => some { s with pc := if s.running then .body else .destroy }
  | .body => some { s with pc := .test }
  | .destroy => if s.shuttingDown = 0 then some { s with pc := .outer } else none
  | .exited => none

/-- The main thread moves, a call of `Restart` is made, a call of `Shutdown` makes its call of
`Restart`, or it clears `g_ApplicationRunning`. -/
inductive AppAction
  | main
  | restart
  | shutdown
  | clear
  deriving DecidableEq

/-- One step. -/
def Program.step (s : Program) : AppAction → Option Program
  | .main => s.mainStep
  | .restart => if s.pc.listening then some { s with running := false } else none
  | .shutdown =>
      if s.pc.listening then
        some { s with running := false, shuttingDown := s.shuttingDown + 1 }
      else none
  | .clear =>
      if s.shuttingDown = 0 then none
      else some { s with applicationRunning := false, shuttingDown := s.shuttingDown - 1 }

/-! ### What is observed -/

/-- The events: an application is created, an iteration of its loop begins, a call of `Restart` to
it has returned, a call of `Shutdown` has returned. -/
inductive AppEvent
  | created
  | iteration (app : ℕ)
  | restarted (app : ℕ)
  | shutDown
  deriving DecidableEq

/-- What is observed of a step. -/
def observeApp (s : Program) (a : AppAction) (_ : Program) : List AppEvent :=
  match a with
  | .main =>
      match s.pc with
      | .create => [.created]
      | .test => if s.running then [.iteration s.app] else []
      | _ => []
  | .restart => [.restarted s.app]
  | .shutdown => [.restarted s.app]
  | .clear => [.shutDown]

/-- The second event comes too late after the first one. -/
def TooLate : AppEvent → AppEvent → Prop
  | .restarted app, .iteration app' => app = app'
  | .shutDown, .created => True
  | _, _ => False

instance : DecidableRel TooLate
  | .restarted app, .iteration app' => inferInstanceAs (Decidable (app = app'))
  | .shutDown, .created => inferInstanceAs (Decidable True)
  | .restarted _, .created | .restarted _, .restarted _ | .restarted _, .shutDown
  | .shutDown, .iteration _ | .shutDown, .restarted _ | .shutDown, .shutDown
  | .created, _ | .iteration _, _ => inferInstanceAs (Decidable False)

/-- No event comes too late after another one. -/
def StopKept (seen : List AppEvent) : Prop := seen.Pairwise fun e e' => ¬ TooLate e e'

/-- The program with what was observed so far. -/
abbrev Program.observed : Program × List AppEvent → AppAction → Option (Program × List AppEvent) :=
  Runs.record Program.step observeApp

/-- When `Run` sets `m_Running`, no request to this application has come. -/
def NotAskedYet (s : Program × List AppEvent) (a : AppAction) : Prop :=
  a = .main → s.1.pc = .run → .restarted s.1.app ∉ s.2

instance (s : Program × List AppEvent) (a : AppAction) : Decidable (NotAskedYet s a) :=
  inferInstanceAs (Decidable (a = .main → s.1.pc = .run → .restarted s.1.app ∉ s.2))

/-! ### The two flags -/

variable {s s' : Program × List AppEvent} {a : AppAction}

/-- What holds in every run. -/
structure ProgramInv (s : Program × List AppEvent) : Prop where
  known : ∀ app, .restarted app ∈ s.2 → app ≤ s.1.app
  off : .shutDown ∈ s.2 → s.1.applicationRunning = false
  waited : s.1.pc.listening = false → s.1.shuttingDown = 0
  creating : s.1.pc = .create → s.1.applicationRunning = true

theorem programInv_init : ProgramInv (Program.init, []) where
  known := by simp
  off := by simp
  waited _ := rfl
  creating h := absurd h (by decide)

/-- The main thread creates applications and begins iterations; requests come from others. -/
theorem observeApp_main {s s' : Program} {e : AppEvent} (he : e ∈ observeApp s .main s') :
    (∀ k, e ≠ .restarted k) ∧ e ≠ .shutDown := by
  rw [observeApp] at he
  split at he
  · rw [List.mem_singleton.1 he]
    simp
  · split at he
    · rw [List.mem_singleton.1 he]
      simp
    · simp at he
  · simp at he

/-- A step of the main thread. -/
theorem ProgramInv.move (h : ProgramInv s) {pc : MainPc} {app : ℕ} {running : Bool}
    {events : List AppEvent} (happ : s.1.app ≤ app)
    (hevents : ∀ e ∈ events, (∀ k, e ≠ .restarted k) ∧ e ≠ .shutDown)
    (hwaited : pc.listening = false → s.1.shuttingDown = 0)
    (hcreating : pc = .create → s.1.applicationRunning = true) :
    ProgramInv ({ s.1 with pc := pc, app := app, running := running }, s.2 ++ events) where
  known k hk := by
    rcases List.mem_append.1 hk with hk | hk
    · exact (h.known k hk).trans happ
    · exact absurd rfl ((hevents _ hk).1 k)
  off hoff := by
    rcases List.mem_append.1 hoff with hoff | hoff
    · exact h.off hoff
    · exact absurd rfl (hevents _ hoff).2
  waited := hwaited
  creating := hcreating

/-- A request adds the event that it has returned. -/
theorem ProgramInv.ask (h : ProgramInv s) (hlisten : s.1.pc.listening = true) {shuttingDown : ℕ} :
    ProgramInv ({ s.1 with running := false, shuttingDown := shuttingDown },
      s.2 ++ [.restarted s.1.app]) where
  known k hk := by
    rcases List.mem_append.1 hk with hk | hk
    · exact h.known k hk
    · exact (AppEvent.restarted.inj (List.mem_singleton.1 hk)).le
  off hoff := by
    rcases List.mem_append.1 hoff with hoff | hoff
    · exact h.off hoff
    · exact absurd (List.mem_singleton.1 hoff) (by simp)
  waited hwaited := absurd hlisten (by simp [show s.1.pc.listening = false from hwaited])
  creating hcreating := by
    rw [show s.1.pc = .create from hcreating] at hlisten
    exact absurd hlisten (by decide)

theorem programInv_step (h : ProgramInv s) (hstep : Program.observed s a = some s') :
    ProgramInv s' := by
  obtain ⟨hstep, hseen⟩ := Runs.record_eq_some.1 hstep
  obtain ⟨t, seen⟩ := s'
  dsimp only at hstep hseen
  rw [hseen]
  cases a with
  | main =>
      rw [Program.step, Program.mainStep] at hstep
      have hevents := fun e => @observeApp_main s.1 t e
      have hlisten : ∀ pc : MainPc, pc.listening = true → pc.listening = false →
          s.1.shuttingDown = 0 := fun pc htrue hfalse => absurd htrue (by simp [hfalse])
      cases hpc : s.1.pc <;> rw [hpc] at hstep
      case outer =>
        have hwaited := h.waited (by rw [hpc]; rfl)
        rw [← Option.some_inj.1 hstep] at hevents ⊢
        refine h.move le_rfl hevents (fun _ => hwaited) fun hcreate => ?_
        by_contra hoff
        rw [if_neg hoff] at hcreate
        exact absurd hcreate (by decide)
      case create =>
        rw [← Option.some_inj.1 hstep] at hevents ⊢
        exact h.move (Nat.le_succ _) hevents (fun _ => h.waited (by rw [hpc]; rfl)) (by simp)
      case attach =>
        rw [← Option.some_inj.1 hstep] at hevents ⊢
        exact h.move le_rfl hevents (hlisten _ rfl) (by simp)
      case run =>
        rw [← Option.some_inj.1 hstep] at hevents ⊢
        exact h.move le_rfl hevents (hlisten _ rfl) (by simp)
      case test =>
        rw [← Option.some_inj.1 hstep] at hevents ⊢
        cases hrunning : s.1.running with
        | true => exact h.move le_rfl hevents (hlisten _ rfl) (by simp)
        | false => exact h.move le_rfl hevents (hlisten _ rfl) (by simp)
      case body =>
        rw [← Option.some_inj.1 hstep] at hevents ⊢
        exact h.move le_rfl hevents (hlisten _ rfl) (by simp)
      case destroy =>
        obtain ⟨hwaited, hstep⟩ := Option.ite_none_right_eq_some.1 hstep
        rw [← Option.some_inj.1 hstep] at hevents ⊢
        exact h.move le_rfl hevents (fun _ => hwaited) (by simp)
      case exited => exact absurd hstep (by simp)
  | restart =>
      obtain ⟨hlisten, hstep⟩ := Option.ite_none_right_eq_some.1 hstep
      rw [← Option.some_inj.1 hstep]
      exact h.ask hlisten
  | shutdown =>
      obtain ⟨hlisten, hstep⟩ := Option.ite_none_right_eq_some.1 hstep
      rw [← Option.some_inj.1 hstep]
      exact h.ask hlisten
  | clear =>
      obtain ⟨hpending, hstep⟩ := Option.ite_none_left_eq_some.1 hstep
      rw [← Option.some_inj.1 hstep]
      -- Somebody is in `Shutdown`, so the main thread is where the servers accept commands.
      have hlisten : s.1.pc.listening = true := by
        by_contra hnot
        exact hpending (h.waited (Bool.eq_false_iff.2 hnot))
      refine ⟨fun k hk => ?_, fun _ => rfl, fun hwaited => ?_, fun hcreating => ?_⟩
      · rcases List.mem_append.1 hk with hk | hk
        · exact h.known k hk
        · exact absurd (List.mem_singleton.1 hk) (by simp)
      · exact absurd hlisten (by simp [show s.1.pc.listening = false from hwaited])
      · rw [show s.1.pc = .create from hcreating] at hlisten
        exact absurd hlisten (by decide)

/-! ### Requests that are kept -/

/-- An application is created only while no `Shutdown` has returned. -/
theorem shutDown_not_mem (h : ProgramInv s) (hcreated : .created ∈ observeApp s.1 a s'.1) :
    .shutDown ∉ s.2 := by
  intro hoff
  have hpc : s.1.pc = .create := by
    cases a with
    | main =>
        rw [observeApp] at hcreated
        split at hcreated
        · next hpc => exact hpc
        · split at hcreated <;> simp at hcreated
        · simp at hcreated
    | restart => simp [observeApp] at hcreated
    | shutdown => simp [observeApp] at hcreated
    | clear => simp [observeApp] at hcreated
  have hcreating := h.creating hpc
  rw [h.off hoff] at hcreating
  exact absurd hcreating (by simp)

theorem stopKept_snoc {seen : List AppEvent} {e : AppEvent} (h : StopKept seen)
    (he : ∀ e' ∈ seen, ¬ TooLate e' e) : StopKept (seen ++ [e]) :=
  List.pairwise_append.2 ⟨h, List.pairwise_singleton _ _, fun e' he' e'' he'' => by
    rw [List.mem_singleton.1 he'']
    exact he e' he'⟩

/-- The return of a request is never too late. -/
theorem not_tooLate_restarted (e : AppEvent) (app : ℕ) : ¬ TooLate e (.restarted app) := by
  cases e <;> exact id

theorem not_tooLate_shutDown (e : AppEvent) : ¬ TooLate e .shutDown := by
  cases e <;> exact id

/-- What holds in every run of steps that meet the condition. -/
structure StopInv (s : Program × List AppEvent) : Prop extends ProgramInv s where
  stopped : .restarted s.1.app ∈ s.2 → s.1.running = false
  kept : StopKept s.2

theorem stopInv_init : StopInv (Program.init, []) :=
  { programInv_init with stopped := by simp, kept := List.Pairwise.nil }

theorem stopInv_step (h : StopInv s) (hnot : NotAskedYet s a)
    (hstep : Program.observed s a = some s') : StopInv s' := by
  refine { programInv_step h.toProgramInv hstep with stopped := ?_, kept := ?_ }
  · obtain ⟨hstep, hseen⟩ := Runs.record_eq_some.1 hstep
    rw [hseen]
    cases a with
    | main =>
        intro hasked
        rw [Program.step, Program.mainStep] at hstep
        -- The events of the main thread are not requests.
        have hbefore : .restarted s'.1.app ∈ s.2 := by
          rcases List.mem_append.1 hasked with hasked | hasked
          · exact hasked
          · exact absurd rfl ((observeApp_main hasked).1 _)
        cases hpc : s.1.pc <;> rw [hpc] at hstep
        case create =>
          rw [← Option.some_inj.1 hstep] at hbefore
          have hknown := h.known _ hbefore
          dsimp only at hknown
          omega
        case run =>
          rw [← Option.some_inj.1 hstep] at hbefore
          exact absurd hbefore (hnot rfl hpc)
        case destroy =>
          obtain ⟨-, hstep⟩ := Option.ite_none_right_eq_some.1 hstep
          rw [← Option.some_inj.1 hstep] at hbefore ⊢
          exact h.stopped hbefore
        case exited => exact absurd hstep (by simp)
        all_goals
          rw [← Option.some_inj.1 hstep] at hbefore ⊢
          exact h.stopped hbefore
    | restart =>
        intro _
        obtain ⟨-, hstep⟩ := Option.ite_none_right_eq_some.1 hstep
        rw [← Option.some_inj.1 hstep]
    | shutdown =>
        intro _
        obtain ⟨-, hstep⟩ := Option.ite_none_right_eq_some.1 hstep
        rw [← Option.some_inj.1 hstep]
    | clear =>
        intro hasked
        obtain ⟨-, hstep⟩ := Option.ite_none_left_eq_some.1 hstep
        rw [← Option.some_inj.1 hstep] at hasked ⊢
        rcases List.mem_append.1 hasked with hasked | hasked
        · exact h.stopped hasked
        · exact absurd (List.mem_singleton.1 hasked) (by simp)
  · obtain ⟨-, hseen⟩ := Runs.record_eq_some.1 hstep
    rw [hseen]
    cases a with
    | main =>
        have hlast := @shutDown_not_mem _ s' .main h.toProgramInv
        rw [observeApp] at hlast ⊢
        split
        · next hpc =>
            refine stopKept_snoc h.kept fun e he hlate => ?_
            rw [hpc] at hlast
            cases e with
            | shutDown => exact hlast (List.mem_singleton.2 rfl) he
            | _ => exact hlate
        · split
          · next hpc hrunning =>
              refine stopKept_snoc h.kept fun e he hlate => ?_
              cases e with
              | restarted app =>
                  rw [show app = s.1.app from hlate] at he
                  rw [h.stopped he] at hrunning
                  exact absurd hrunning (by simp)
              | _ => exact hlate
          · rw [List.append_nil]
            exact h.kept
        · rw [List.append_nil]
          exact h.kept
    | restart => exact stopKept_snoc h.kept fun e _ => not_tooLate_restarted e _
    | shutdown => exact stopKept_snoc h.kept fun e _ => not_tooLate_restarted e _
    | clear => exact stopKept_snoc h.kept fun e _ => not_tooLate_shutDown e

/-- In **every run** in which no request has come to an application when its `Run` sets the flag, no
iteration begins after a request has returned, and no application is created after a `Shutdown`. -/
theorem stopKept_of_along (as : List AppAction)
    (h : Runs.Along Program.observed NotAskedYet (Program.init, []) as) :
    Runs.Throughout Program.observed (fun s => StopKept s.2) (Program.init, []) as :=
  (Runs.throughout_of_along (fun _ _ _ hs hnot hstep => stopInv_step hs hnot hstep)
    stopInv_init h).mono fun _ hs => hs.kept

/-- After a `Shutdown` has returned **no application is created**, whatever the condition. -/
theorem shutdown_is_last (as : List AppAction) :
    Runs.Throughout Program.observed
      (fun s => s.2.Pairwise fun e e' => ¬ (e = .shutDown ∧ e' = .created)) (Program.init, [])
      as := by
  have hstep : ∀ (s : Program × List AppEvent) a s',
      ProgramInv s ∧ s.2.Pairwise (fun e e' => ¬ (e = .shutDown ∧ e' = .created)) →
      Program.observed s a = some s' →
      ProgramInv s' ∧ s'.2.Pairwise (fun e e' => ¬ (e = .shutDown ∧ e' = .created)) := by
    rintro s a s' ⟨h, hlast⟩ hstep
    refine ⟨programInv_step h hstep, ?_⟩
    obtain ⟨-, hseen⟩ := Runs.record_eq_some.1 hstep
    rw [hseen]
    refine List.pairwise_append.2 ⟨hlast, ?_, fun e he e' he' hlate => ?_⟩
    · -- A step is observed as one event at most.
      cases a with
      | main =>
          rw [observeApp]
          split
          · exact List.pairwise_singleton _ _
          · split
            · exact List.pairwise_singleton _ _
            · exact List.Pairwise.nil
          · exact List.Pairwise.nil
      | restart => exact List.pairwise_singleton _ _
      | shutdown => exact List.pairwise_singleton _ _
      | clear => exact List.pairwise_singleton _ _
    · rw [hlate.1] at he
      rw [hlate.2] at he'
      exact shutDown_not_mem h he' he
  exact (Runs.throughout_of_step hstep ⟨programInv_init, List.Pairwise.nil⟩).mono fun _ hs => hs.2

/-! ### Two runs -/

/-- A `RESTART` and then a `SHUTDOWN`, each of them while an iteration is under way. -/
def requestsInBody : List AppAction :=
  [.main, .main, .main, .main, .main, .restart, .main, .main, .main, .main, .main, .main, .main,
    .main, .shutdown, .clear, .main, .main, .main, .main]

/-- A `SHUTDOWN` that comes when the servers are started and `Run` is not entered yet. -/
def requestBeforeRun : List AppAction := [.main, .main, .main, .shutdown, .clear, .main, .main]

theorem stopKept_requestsInBody :
    Runs.Throughout Program.observed (fun s => StopKept s.2) (Program.init, []) requestsInBody := by
  exact stopKept_of_along requestsInBody (by decide)

/-- The request has returned, and the loop begins its first iteration. -/
theorem request_lost :
    (Runs.exec Program.observed (Program.init, []) requestBeforeRun).map Prod.snd =
        some [.created, .restarted 1, .shutDown, .iteration 1] ∧
      ¬ Runs.Throughout Program.observed (fun s => StopKept s.2) (Program.init, [])
        requestBeforeRun := by
  have hend : (Runs.exec Program.observed (Program.init, []) requestBeforeRun).map Prod.snd =
      some [.created, .restarted 1, .shutDown, .iteration 1] := by decide
  refine ⟨hend, fun hthrough => ?_⟩
  obtain ⟨t, ht, hseen⟩ := Option.map_eq_some_iff.1 hend
  have hkept : StopKept t.2 := hthrough.final ht
  rw [hseen] at hkept
  exact absurd hkept (by rw [StopKept]; decide)

end MpsEmulator
