/-
**The requests of the clients, and the main loop.**

A client that sends `RESTART` or `SHUTDOWN` makes the layer ask the application to stop, and the
main loop ends because its flag is cleared.  Here the emulator and the program run together:
whatever a data callback asks for is asked of the program, and an application that is attached
begins with an emulator of its own.

* `Application`, `Application.step` — the program and the emulator of its current application;
* `exec_requests` — what requests do to the program, which takes any number of them;
* `application_refines_program` — **with all its clients, the application is the program with the
  requests of the run**;
* `Program.Ending` — an application that begins no further iteration;
* `ends_after_request` — **once `Run` has set the flag, an application that a client asks to stop
  begins no further iteration**, whatever else happens.
-/

import MpsEmulator.Emulator
import MpsEmulator.StopRequests

set_option relaxedAutoImplicit false
set_option autoImplicit false

namespace MpsEmulator

/-! ### The application -/

/-- What a request does at once.  `Shutdown` clears the flag of the outer loop in a later step. -/
def AppRequest.action : AppRequest → AppAction
  | .restart => .restart
  | .shutdown => .shutdown

/-- The requests that a step of the emulator adds. -/
def Emulator.newRequests (s t : Emulator) : List AppRequest := t.requests.drop s.requests.length

/-- The program, and the emulator of its current application. -/
structure Application where
  program : Program
  emulator : Emulator

/-- The main thread moves, a call of `Shutdown` clears the flag of the outer loop, or the emulator
makes a step. -/
inductive ApplicationAction
  | main
  | clear
  | emulator (b : EmulatorAction)

section

-- what `OnAttach` starts the emulator with
variable (E : Env) (deviceId : MpsDeviceID) (serialNumber : ℕ) (enableConsole : Bool)

/-- The program before its first test. -/
def Application.init : Application where
  program := .init
  emulator := .start deviceId serialNumber enableConsole

/-- One step.  The emulator runs while the servers accept commands. -/
def Application.step (s : Application) : ApplicationAction → Option Application
  | .main =>
      (s.program.step .main).map fun program =>
        { program := program
          emulator :=
            if s.program.pc = .attach then .start deviceId serialNumber enableConsole
            else s.emulator }
  | .clear => (s.program.step .clear).map fun program => { s with program := program }
  | .emulator b =>
      if s.program.pc.listening then
        (Emulator.step E s.emulator b).bind fun t =>
          (Runs.exec Program.step s.program
            ((s.emulator.newRequests t).map AppRequest.action)).map fun program =>
              { program := program, emulator := t }
      else none

/-- What a step is for the program. -/
def Application.calls (s : Application) : ApplicationAction → List AppAction
  | .main => [.main]
  | .clear => [.clear]
  | .emulator b =>
      match Emulator.step E s.emulator b with
      | some t => (s.emulator.newRequests t).map AppRequest.action
      | none => []

end

variable {E : Env} {deviceId : MpsDeviceID} {serialNumber : ℕ} {enableConsole : Bool}

/-- **Requests while the servers accept commands** clear the flag of the loop, and count the calls
of `Shutdown` that have still to clear the other one. -/
theorem exec_requests {p : Program} (hlisten : p.pc.listening = true) (requests : List AppRequest) :
    Runs.exec Program.step p (requests.map AppRequest.action) =
      some { p with
        running := p.running && requests.isEmpty
        shuttingDown := p.shuttingDown + requests.count .shutdown } := by
  induction requests generalizing p with
  | nil => simp
  | cons r requests ih =>
      rw [List.map_cons, Runs.exec_cons]
      cases r with
      | restart =>
          rw [AppRequest.action, Program.step, if_pos hlisten, Option.bind_some,
            ih (p := { p with running := false }) hlisten]
          simp
      | shutdown =>
          rw [AppRequest.action, Program.step, if_pos hlisten, Option.bind_some,
            ih (p := { p with running := false, shuttingDown := p.shuttingDown + 1 }) hlisten]
          simp only [List.count_cons_self, List.isEmpty_cons, Bool.false_and, Bool.and_false]
          congr 2
          omega

/-- The program refuses no step of the emulator while its servers accept commands. -/
theorem Application.step_emulator {s : Application} (hlisten : s.program.pc.listening = true)
    {b : EmulatorAction} {t : Emulator} (ht : Emulator.step E s.emulator b = some t) :
    Application.step E deviceId serialNumber enableConsole s (.emulator b) =
      some {
        program := { s.program with
          running := s.program.running && (s.emulator.newRequests t).isEmpty
          shuttingDown := s.program.shuttingDown + (s.emulator.newRequests t).count .shutdown }
        emulator := t } := by
  rw [Application.step, if_pos hlisten, ht, Option.bind_some, exec_requests hlisten]
  rfl

/-- Every step is for the program what it asks of it. -/
theorem Application.step_calls {s s' : Application} {a : ApplicationAction}
    (h : Application.step E deviceId serialNumber enableConsole s a = some s') :
    Runs.exec Program.step s.program (s.calls E a) = some s'.program := by
  cases a with
  | main =>
      obtain ⟨program, hprogram, rfl⟩ := Option.map_eq_some_iff.1 h
      exact Runs.exec_cons_eq_some.2 ⟨program, hprogram, rfl⟩
  | clear =>
      obtain ⟨program, hprogram, rfl⟩ := Option.map_eq_some_iff.1 h
      exact Runs.exec_cons_eq_some.2 ⟨program, hprogram, rfl⟩
  | emulator b =>
      obtain ⟨-, h⟩ := Option.ite_none_right_eq_some.1 h
      obtain ⟨t, ht, h⟩ := Option.bind_eq_some_iff.1 h
      obtain ⟨program, hprogram, rfl⟩ := Option.map_eq_some_iff.1 h
      simp only [Application.calls, ht]
      exact hprogram

/-- **The application refines the program**: in every run, with any clients, the program comes to
where the steps of the main thread and the requests of the run bring it. -/
theorem application_refines_program {as : List ApplicationAction} {s : Application}
    (hrun : Runs.exec (Application.step E deviceId serialNumber enableConsole)
      (.init deviceId serialNumber enableConsole) as = some s) :
    Runs.exec Program.step .init
      (Runs.trace (Application.step E deviceId serialNumber enableConsole)
        (Application.calls E) (.init deviceId serialNumber enableConsole) as) =
        some s.program := by
  obtain ⟨program, hexec, rfl⟩ := Runs.exec_trace
    (R := fun (s : Application) program => s.program = program)
    (fun s program a s' hs h => ⟨s'.program, hs ▸ Application.step_calls h, rfl⟩) rfl hrun
  exact hexec

/-! ### An application that ends -/

/-- The application begins no further iteration: it is over, or its flag is cleared and `Run` is
past setting it. -/
def Program.Ending (app : ℕ) (p : Program) : Prop :=
  app < p.app ∨ p.app = app ∧ p.running = false ∧ p.pc ≠ .attach ∧ p.pc ≠ .run

/-- A step creates the next application, or keeps this one: then only `Run` sets the flag, and
nobody comes back to it. -/
theorem Program.step_keeps {p p' : Program} {a : AppAction} (h : p.step a = some p') :
    p.app < p'.app ∨
      p'.app = p.app ∧ (p'.running = true → p.running = true ∨ p.pc = .run) ∧
        (p'.pc = .attach → p.pc = .attach) ∧ (p'.pc = .run → p.pc = .attach ∨ p.pc = .run) := by
  cases a with
  | main =>
      rw [Program.step, Program.mainStep] at h
      cases hpc : p.pc <;> rw [hpc] at h
      case create =>
        rw [← Option.some_inj.1 h]
        exact Or.inl (Nat.lt_succ_self _)
      case destroy =>
        obtain ⟨-, h⟩ := Option.ite_none_right_eq_some.1 h
        rw [← Option.some_inj.1 h]
        simp
      case outer =>
        rw [← Option.some_inj.1 h]
        cases hon : p.applicationRunning <;> simp
      case test =>
        rw [← Option.some_inj.1 h]
        cases hon : p.running <;> simp
      case exited => cases h
      all_goals
        rw [← Option.some_inj.1 h]
        simp
  | restart | shutdown =>
      obtain ⟨-, h⟩ := Option.ite_none_right_eq_some.1 h
      rw [← Option.some_inj.1 h]
      refine Or.inr ⟨rfl, fun hon => ?_, id, Or.inr⟩
      cases hon
  | clear =>
      obtain ⟨-, h⟩ := Option.ite_none_left_eq_some.1 h
      rw [← Option.some_inj.1 h]
      exact Or.inr ⟨rfl, Or.inl, id, Or.inr⟩

/-- It stays so. -/
theorem Program.Ending.step {app : ℕ} {p p' : Program} {a : AppAction} (h : p.Ending app)
    (hstep : p.step a = some p') : p'.Ending app := by
  obtain hnext | ⟨hsame, hflag, hattach', hrun'⟩ := Program.step_keeps hstep
  · left
    rcases h with hover | ⟨happ, -⟩
    · exact hover.trans hnext
    · rwa [← happ]
  · rcases h with hover | ⟨happ, hoff, hattach, hrun⟩
    · left
      rwa [hsame]
    · refine Or.inr ⟨hsame.trans happ, ?_, fun h => hattach (hattach' h), fun h => ?_⟩
      · refine Bool.eq_false_iff.2 fun hon => ?_
        rcases hflag hon with hon | hpc
        · rw [hoff] at hon
          cases hon
        · exact hrun hpc
      · exact (hrun' h).elim hattach hrun

/-- No step of the program begins an iteration of it. -/
theorem Program.Ending.not_iteration {app : ℕ} {p p' : Program} {a : AppAction}
    (h : p.Ending app) : .iteration app ∉ observeApp p a p' := by
  intro hiteration
  cases a with
  | main =>
      rw [observeApp] at hiteration
      split at hiteration
      · simp at hiteration
      · split at hiteration
        · next hon =>
          obtain rfl := AppEvent.iteration.inj (List.mem_singleton.1 hiteration)
          rcases h with hover | ⟨-, hoff, -, -⟩
          · exact lt_irrefl _ hover
          · rw [hon] at hoff
            cases hoff
        · cases hiteration
      · cases hiteration
  | restart | shutdown | clear => simp [observeApp] at hiteration

/-- **Once `Run` has set the flag, a request ends the application**: after a step of the emulator
that asks for a restart or a shutdown, and whatever comes then, no iteration of this application
begins. -/
theorem ends_after_request {s s' : Application} {b : EmulatorAction}
    (hset : s.program.pc ≠ .run)
    (hstep : Application.step E deviceId serialNumber enableConsole s (.emulator b) = some s')
    (hasked : s.emulator.newRequests s'.emulator ≠ []) (as : List ApplicationAction) :
    Runs.Throughout (Application.step E deviceId serialNumber enableConsole)
      (fun t => t.program.Ending s.program.app ∧
        ∀ a p', .iteration s.program.app ∉ observeApp t.program a p') s' as := by
  have hstart : s'.program.Ending s.program.app := by
    obtain ⟨hlisten, h⟩ := Option.ite_none_right_eq_some.1 hstep
    obtain ⟨t, ht, -⟩ := Option.bind_eq_some_iff.1 h
    rw [Application.step_emulator hlisten ht] at hstep
    rw [← Option.some_inj.1 hstep] at hasked ⊢
    refine Or.inr ⟨rfl, ?_, ?_, hset⟩
    · simpa using fun _ => hasked
    · intro hattach
      rw [show s.program.pc = .attach from hattach] at hlisten
      cases hlisten
  have hthrough : Runs.Throughout (Application.step E deviceId serialNumber enableConsole)
      (fun t => t.program.Ending s.program.app) s' as :=
    Runs.throughout_of_step (fun t a t' hending h =>
      Runs.invariant (P := Program.Ending s.program.app) (fun _ _ _ hp hp' => hp.step hp') hending
        (Application.step_calls h)) hstart
  exact hthrough.mono fun t hending => ⟨hending, fun _ _ => hending.not_iteration⟩

end MpsEmulator
