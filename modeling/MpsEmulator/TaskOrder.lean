/-
**First come, first served.**

The queue of the thread pool is a relay: `Enqueue` posts a task, a worker that holds the lock takes
the first one, and a worker that has run its task hands it on to those that are done.

* `Pool.relay`, `Pool.moves`, `Pool.relay_of_step` — the steps of the pool as moves of the relay;
* `first_come_first_served` — **the tasks that are running or done are those enqueued first, each of
  them once, and the others are queued in their order**, with any number of workers, whatever
  `StopAll` does.
-/

import MpsEmulator.Relay
import MpsEmulator.ThreadPool

set_option relaxedAutoImplicit false
set_option autoImplicit false

namespace MpsEmulator

variable {n : ℕ} {p p' : Pool n} {a : PoolAction n}

/-! ### The pool as a relay -/

/-- The task that a worker at this point is running. -/
def WorkerPc.task : WorkerPc → Option ℕ
  | .running task => some task
  | .test | .waiting | .locked | .left => none

/-- The tasks that are queued, running and done. -/
def Pool.relay (p : Pool n) : Relay (Fin n) ℕ where
  queue := p.tasks
  hand := fun i => (p.workers i).pc.task
  delivered := p.ran

/-- What a step of the pool does with a task. -/
def Pool.moves (p : Pool n) : PoolAction n → List (Relay.Move (Fin n) ℕ)
  | .enqueue => [.post p.enqueued]
  | .worker i =>
      match (p.workers i).pc with
      | .locked => if p.tasks = [] then [] else [.take i]
      | .running _ => [.deliver i]
      | _ => []
  | .stopAll => []

theorem Pool.hand_setPc (p : Pool n) (i : Fin n) (pc : WorkerPc) :
    (p.setPc i pc).relay.hand = Function.update p.relay.hand i pc.task := by
  funext j
  show ((p.setPc i pc).workers j).pc.task = _
  rw [setPc_pc, Function.update_apply]
  split <;> rfl

/-- A worker that goes from one point outside a task to another moves no task. -/
theorem Pool.relay_setPc {i : Fin n} {pc : WorkerPc} (hold : (p.workers i).pc.task = none)
    (hnew : pc.task = none) : (p.setPc i pc).relay = p.relay := by
  have hhand : (p.setPc i pc).relay.hand = p.relay.hand := by
    rw [Pool.hand_setPc, hnew, ← hold]
    exact Function.update_eq_self i p.relay.hand
  exact congrArg (fun hand => { p.relay with hand := hand }) hhand

/-- Where it makes no move, the relay and what was posted stay what they are. -/
theorem Pool.relay_idle {i : Fin n} {pc : WorkerPc} (hmoves : p.moves (.worker i) = [])
    (hold : (p.workers i).pc.task = none) (hnew : pc.task = none) :
    Runs.exec Relay.step p.relay (p.moves (.worker i)) = some (p.setPc i pc).relay ∧
      List.range p.enqueued ++ (p.moves (.worker i)).flatMap Relay.Move.posted =
        List.range p.enqueued := by
  rw [hmoves, Pool.relay_setPc hold hnew]
  exact ⟨rfl, List.append_nil _⟩

/-- **Every step of the pool is a move of the relay, or none.** -/
theorem Pool.relay_of_step (h : p.step a = some p') :
    Runs.exec Relay.step p.relay (p.moves a) = some p'.relay ∧
      List.range p.enqueued ++ (p.moves a).flatMap Relay.Move.posted =
        List.range p'.enqueued := by
  cases poolStep_of_step h with
  | enqueue hfree => exact ⟨rfl, List.range_succ.symm⟩
  | goOn i hpc htoken => exact Pool.relay_idle (by rw [Pool.moves, hpc]) (by rw [hpc]; rfl) rfl
  | leaveByToken i hpc htoken =>
      exact Pool.relay_idle (by rw [Pool.moves, hpc]) (by rw [hpc]; rfl) rfl
  | wake i hpc hfree => exact Pool.relay_idle (by rw [Pool.moves, hpc]) (by rw [hpc]; rfl) rfl
  | leaveEmpty i hpc htasks hstop =>
      refine Pool.relay_idle ?_ (by rw [hpc]; rfl) rfl
      simp only [Pool.moves, hpc, if_pos htasks]
  | take i hpc task tasks htasks =>
      have hne : p.tasks ≠ [] := by simp [htasks]
      have hhand : p.relay.hand i = none := by
        show (p.workers i).pc.task = none
        rw [hpc]
        rfl
      simp only [Pool.moves, hpc, if_neg hne]
      refine ⟨?_, List.append_nil _⟩
      rw [Runs.exec_cons, Relay.step_take htasks hhand]
      exact congrArg some
        (congrArg (fun hand => ({ p.relay with queue := tasks, hand := hand } : Relay (Fin n) ℕ))
          (Pool.hand_setPc p i (.running task)).symm)
  | finish i task hpc =>
      have hhand : p.relay.hand i = some task := by
        show (p.workers i).pc.task = some task
        rw [hpc]
        rfl
      simp only [Pool.moves, hpc]
      refine ⟨?_, List.append_nil _⟩
      rw [Runs.exec_cons, Relay.step_deliver hhand]
      exact congrArg some
        (congrArg
          (fun hand => ({ p.relay with hand := hand, delivered := p.ran ++ [task] } :
            Relay (Fin n) ℕ))
          (Pool.hand_setPc p i .test).symm)
  | request i hat =>
      refine ⟨congrArg some ?_, List.append_nil _⟩
      have hhand : (fun j => (Function.update p.workers i
          { p.workers i with stopRequested := true } j).pc.task) = p.relay.hand := by
        funext j
        rw [request_pc]
        rfl
      exact congrArg (fun hand => { p.relay with hand := hand }) hhand.symm
  | _ => exact ⟨rfl, List.append_nil _⟩

/-! ### Runs -/

/-- The tasks enqueued so far are in line. -/
theorem Pool.inLine_step (hline : p.relay.InLine (List.range p.enqueued)) (h : p.step a = some p') :
    p'.relay.InLine (List.range p'.enqueued) := by
  obtain ⟨hexec, hposted⟩ := Pool.relay_of_step h
  rw [← hposted]
  exact hline.exec hexec

/-- **First come, first served**: in every state of every run of a pool with any number of workers,
the tasks that are running or done are those enqueued first, each of them once, and the others are
queued in the order in which they were enqueued. -/
theorem first_come_first_served (n : ℕ) (as : List (PoolAction n)) :
    Runs.Throughout Pool.step
      (fun p => ∃ k, k + p.tasks.length = p.enqueued ∧
        p.tasks = List.range' k p.tasks.length ∧
        (↑p.ran + ∑ i, (↑(p.workers i).pc.task.toList : Multiset ℕ)) = ↑(List.range k))
      (Pool.init n) as := by
  have hline : Runs.Throughout Pool.step (fun p => p.relay.InLine (List.range p.enqueued))
      (Pool.init n) as :=
    Runs.throughout_of_step (fun _ _ _ hline h => Pool.inLine_step hline h) Relay.inLine_empty
  refine hline.mono fun p h => ?_
  obtain ⟨front, hposted, htaken⟩ := h
  rw [List.range_eq_range', List.range'_eq_append_iff] at hposted
  obtain ⟨k, hk, rfl, htasks⟩ := hposted
  have htasks : p.tasks = List.range' k (p.enqueued - k) := by
    simpa [Pool.relay] using htasks
  have hlength : p.tasks.length = p.enqueued - k := by
    rw [htasks, List.length_range']
  refine ⟨k, by omega, ?_, ?_⟩
  · rw [hlength]
    exact htasks
  · rw [List.range_eq_range']
    exact htaken.symm

end MpsEmulator
