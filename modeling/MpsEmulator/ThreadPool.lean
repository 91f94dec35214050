/-
**The thread pool.**

Two signals tell the workers to stop.  `m_Stop` is looked at together with the queue, and a worker
that leaves because of it leaves an empty queue behind.  The stop token of a worker's thread is
looked at alone, at the head of the loop, and a worker that leaves because of it may leave tasks in
the queue.  `StopAll` gives both signals.

* `Pool`, `Pool.step` — any number of workers with their program counters, the queue, and `StopAll`
  step by step; the lock of the queue is held by the worker that is at `locked`;
* `PoolStep` — what a step can do, said once;
* `Accounted`, `accounted_step` — every task is in the queue, with one worker, or done;
* `Abandoned` — all workers have left and one of the given tasks is still queued;
* `not_abandoned_iff_along` — over a run, exactly if the last worker leaves by its stop token while
  one of them is queued;
* `Pool.Alive`, `alive_step`, `alive_of_step` — a task that is running, or queued while there are
  workers.

Tasks are numbered in the order of the calls of `Enqueue`.  A waiting worker may look at its
condition at any time: waking up without a notification is allowed, and a notification only says
when to look.
-/

import MpsEmulator.Runs

set_option relaxedAutoImplicit false
set_option autoImplicit false

namespace MpsEmulator

open Function

/-! ### The pool -/

/-- Where a worker is in its loop. -/
inductive WorkerPc
  /-- At the test of `stop.stop_requested()`. -/
  | test
  /-- At the wait for a task or for `m_Stop`. -/
  | waiting
  /-- The wait has returned, and the worker holds the lock of the queue. -/
  | locked
  | running (task : ℕ)
  | left
  deriving DecidableEq

/-- A worker: its program counter and its stop token. -/
structure Worker where
  pc : WorkerPc
  stopRequested : Bool
  deriving DecidableEq

/-- Where the call of `StopAll` is. -/
inductive StopAllPc
  | idle
  | notify
  | request (i : ℕ)
  | join (i : ℕ)
  | returned
  deriving DecidableEq

/-- A thread pool with `n` workers.  The last three fields only keep count. -/
structure Pool (n : ℕ) where
  workers : Fin n → Worker
  /-- The queue `m_Tasks`. -/
  tasks : List ℕ
  /-- The flag `m_Stop`. -/
  stop : Bool
  stopAll : StopAllPc
  /-- The tasks that were run to their end. -/
  ran : List ℕ
  /-- The number of calls of `Enqueue`. -/
  enqueued : ℕ
  /-- The number of calls of `Enqueue` before `StopAll` set `m_Stop`. -/
  enqueuedBefore : ℕ

variable {n : ℕ}

/-- The pool the constructor makes. -/
def Pool.init (n : ℕ) : Pool n where
  workers _ := { pc := .test, stopRequested := false }
  tasks := []
  stop := false
  stopAll := .idle
  ran := []
  enqueued := 0
  enqueuedBefore := 0

/-- The lock of the queue is free. -/
def Pool.Free (p : Pool n) : Prop := ∀ i, (p.workers i).pc ≠ .locked

instance (p : Pool n) : Decidable p.Free :=
  inferInstanceAs (Decidable (∀ i, (p.workers i).pc ≠ .locked))

/-- The pool with another program counter for one worker. -/
def Pool.setPc (p : Pool n) (i : Fin n) (pc : WorkerPc) : Pool n :=
  { p with workers := update p.workers i { p.workers i with pc := pc } }

/-- One step of a worker. -/
def Pool.workerStep (p : Pool n) (i : Fin n) : Option (Pool n) :=
  match (p.workers i).pc with
  | .test => some (p.setPc i (if (p.workers i).stopRequested then .left else .waiting))
  | .waiting => if p.Free ∧ (p.tasks ≠ [] ∨ p.stop) then some (p.setPc i .locked) else none
  | .locked =>
      match p.tasks with
      | [] => if p.stop then some (p.setPc i .left) else none
      | task :: tasks => some { p.setPc i (.running task) with tasks := tasks }
  | .running task => some { p.setPc i .test with ran := p.ran ++ [task] }
  | .left => none

/-- One step of `StopAll`.  A thread is joined once its worker has left. -/
def Pool.stopAllStep (p : Pool n) : Option (Pool n) :=
  match p.stopAll with
  | .idle =>
      if p.Free then
        some { p with stop := true, stopAll := .notify, enqueuedBefore := p.enqueued }
      else none
  | .notify => some { p with stopAll := .request 0 }
  | .request i =>
      if h : i < n then
        some { p with
          workers := update p.workers ⟨i, h⟩ { p.workers ⟨i, h⟩ with stopRequested := true }
          stopAll := .request (i + 1) }
      else some { p with stopAll := .join 0 }
  | .join i =>
      if h : i < n then
        if (p.workers ⟨i, h⟩).pc = .left then some { p with stopAll := .join (i + 1) } else none
      else some { p with stopAll := .returned }
  | .returned => none

/-- Who moves. -/
inductive PoolAction (n : ℕ)
  | enqueue
  | worker (i : Fin n)
  | stopAll
  deriving DecidableEq

/-- One step of the pool. -/
def Pool.step (p : Pool n) : PoolAction n → Option (Pool n)
  | .enqueue =>
      if p.Free then some { p with tasks := p.tasks ++ [p.enqueued], enqueued := p.enqueued + 1 }
      else none
  | .worker i => p.workerStep i
  | .stopAll => p.stopAllStep

section SetPc

variable {p : Pool n} {i j : Fin n} {pc : WorkerPc}

@[simp] theorem setPc_tasks : (p.setPc i pc).tasks = p.tasks := rfl
@[simp] theorem setPc_stop : (p.setPc i pc).stop = p.stop := rfl
@[simp] theorem setPc_stopAll : (p.setPc i pc).stopAll = p.stopAll := rfl
@[simp] theorem setPc_ran : (p.setPc i pc).ran = p.ran := rfl
@[simp] theorem setPc_enqueued : (p.setPc i pc).enqueued = p.enqueued := rfl
@[simp] theorem setPc_enqueuedBefore : (p.setPc i pc).enqueuedBefore = p.enqueuedBefore := rfl

theorem setPc_pc : ((p.setPc i pc).workers j).pc = if j = i then pc else (p.workers j).pc := by
  dsimp only [Pool.setPc]
  rw [update_apply]
  split <;> rfl

theorem setPc_stopRequested :
    ((p.setPc i pc).workers j).stopRequested = (p.workers j).stopRequested := by
  dsimp only [Pool.setPc]
  rw [update_apply]
  split
  · next hij => rw [hij]
  · rfl

end SetPc

/-- Requesting a stop moves no worker. -/
theorem request_pc (workers : Fin n → Worker) (i j : Fin n) :
    (update workers i { workers i with stopRequested := true } j).pc = (workers j).pc := by
  rw [update_apply]
  split
  · next hij => rw [hij]
  · rfl

/-! ### What a step can do -/

/-- The steps of the pool. -/
inductive PoolStep (p : Pool n) : PoolAction n → Pool n → Prop
  | enqueue (hfree : p.Free) :
      PoolStep p .enqueue { p with tasks := p.tasks ++ [p.enqueued], enqueued := p.enqueued + 1 }
  | goOn (i : Fin n) (hpc : (p.workers i).pc = .test)
      (htoken : (p.workers i).stopRequested = false) :
      PoolStep p (.worker i) (p.setPc i .waiting)
  | leaveByToken (i : Fin n) (hpc : (p.workers i).pc = .test)
      (htoken : (p.workers i).stopRequested = true) : PoolStep p (.worker i) (p.setPc i .left)
  | wake (i : Fin n) (hpc : (p.workers i).pc = .waiting) (hfree : p.Free) :
      PoolStep p (.worker i) (p.setPc i .locked)
  | leaveEmpty (i : Fin n) (hpc : (p.workers i).pc = .locked) (htasks : p.tasks = [])
      (hstop : p.stop = true) : PoolStep p (.worker i) (p.setPc i .left)
  | take (i : Fin n) (hpc : (p.workers i).pc = .locked) (task : ℕ) (tasks : List ℕ)
      (htasks : p.tasks = task :: tasks) :
      PoolStep p (.worker i) { p.setPc i (.running task) with tasks := tasks }
  | finish (i : Fin n) (task : ℕ) (hpc : (p.workers i).pc = .running task) :
      PoolStep p (.worker i) { p.setPc i .test with ran := p.ran ++ [task] }
  | setStop (hidle : p.stopAll = .idle) (hfree : p.Free) :
      PoolStep p .stopAll { p with stop := true, stopAll := .notify, enqueuedBefore := p.enqueued }
  | notify (hat : p.stopAll = .notify) : PoolStep p .stopAll { p with stopAll := .request 0 }
  | request (i : Fin n) (hat : p.stopAll = .request i) :
      PoolStep p .stopAll { p with
        workers := update p.workers i { p.workers i with stopRequested := true }
        stopAll := .request (i + 1) }
  | requested (i : ℕ) (hat : p.stopAll = .request i) :
      PoolStep p .stopAll { p with stopAll := .join 0 }
  | join (i : Fin n) (hat : p.stopAll = .join i) (hleft : (p.workers i).pc = .left) :
      PoolStep p .stopAll { p with stopAll := .join (i + 1) }
  | joined (i : ℕ) (hat : p.stopAll = .join i) (hi : n ≤ i) :
      PoolStep p .stopAll { p with stopAll := .returned }

/-- Every step is one of these. -/
theorem poolStep_of_step {p p' : Pool n} {a : PoolAction n} (h : p.step a = some p') :
    PoolStep p a p' := by
  cases a with
  | enqueue =>
      obtain ⟨hfree, h⟩ := Option.ite_none_right_eq_some.1 h
      rw [← Option.some_inj.1 h]
      exact .enqueue hfree
  | worker i =>
      rw [Pool.step, Pool.workerStep] at h
      split at h
      · next hpc =>
          rw [← Option.some_inj.1 h]
          cases htoken : (p.workers i).stopRequested with
          | false => exact .goOn i hpc htoken
          | true => exact .leaveByToken i hpc htoken
      · next hpc =>
          obtain ⟨⟨hfree, -⟩, h⟩ := Option.ite_none_right_eq_some.1 h
          rw [← Option.some_inj.1 h]
          exact .wake i hpc hfree
      · next hpc =>
          split at h
          · next htasks =>
              obtain ⟨hstop, h⟩ := Option.ite_none_right_eq_some.1 h
              rw [← Option.some_inj.1 h]
              exact .leaveEmpty i hpc htasks hstop
          · next task tasks htasks =>
              rw [← Option.some_inj.1 h]
              exact .take i hpc task tasks htasks
      · next task hpc =>
          rw [← Option.some_inj.1 h]
          exact .finish i task hpc
      · exact absurd h (by simp)
  | stopAll =>
      rw [Pool.step, Pool.stopAllStep] at h
      split at h
      · next hat =>
          obtain ⟨hfree, h⟩ := Option.ite_none_right_eq_some.1 h
          rw [← Option.some_inj.1 h]
          exact .setStop hat hfree
      · next hat =>
          rw [← Option.some_inj.1 h]
          exact .notify hat
      · next i hat =>
          split at h
          · next hi =>
              rw [← Option.some_inj.1 h]
              exact .request ⟨i, hi⟩ hat
          · rw [← Option.some_inj.1 h]
            exact .requested i hat
      · next i hat =>
          split at h
          · next hi =>
              obtain ⟨hleft, h⟩ := Option.ite_none_right_eq_some.1 h
              rw [← Option.some_inj.1 h]
              exact .join ⟨i, hi⟩ hat hleft
          · next hi =>
              rw [← Option.some_inj.1 h]
              exact .joined i hat (Nat.not_lt.1 hi)
      · exact absurd h (by simp)

/-! ### Every task is somewhere -/

/-- The worker is running the task: `1` or `0`. -/
def WorkerPc.holds (pc : WorkerPc) (task : ℕ) : ℕ := if pc = .running task then 1 else 0

theorem WorkerPc.holds_of_ne {pc : WorkerPc} (h : ∀ task, pc ≠ .running task) (task : ℕ) :
    pc.holds task = 0 := if_neg (h task)

/-- How often a task is in the queue, with a worker, or done. -/
def Pool.copies (p : Pool n) (task : ℕ) : ℕ :=
  p.tasks.count task + (∑ i, (p.workers i).pc.holds task) + p.ran.count task

/-- What a change at one worker does to the sum over the workers. -/
theorem sum_holds_setPc (p : Pool n) (i : Fin n) (pc : WorkerPc) (task : ℕ) :
    (∑ j, ((p.setPc i pc).workers j).pc.holds task) + (p.workers i).pc.holds task =
      (∑ j, (p.workers j).pc.holds task) + pc.holds task := by
  have hrest : ∑ j ∈ Finset.univ.erase i, ((p.setPc i pc).workers j).pc.holds task =
      ∑ j ∈ Finset.univ.erase i, (p.workers j).pc.holds task := by
    refine Finset.sum_congr rfl fun j hj => ?_
    rw [setPc_pc, if_neg (Finset.ne_of_mem_erase hj)]
  rw [← Finset.add_sum_erase _ _ (Finset.mem_univ i), hrest, setPc_pc, if_pos rfl,
    ← Finset.add_sum_erase Finset.univ (fun j => (p.workers j).pc.holds task) (Finset.mem_univ i)]
  omega

/-- A worker that goes from one place outside a task to another leaves every task where it is. -/
theorem copies_setPc {p : Pool n} {i : Fin n} {pc : WorkerPc}
    (hold : ∀ task, (p.workers i).pc ≠ .running task) (hnew : ∀ task, pc ≠ .running task)
    (task : ℕ) : (p.setPc i pc).copies task = p.copies task := by
  have hsum := sum_holds_setPc p i pc task
  rw [WorkerPc.holds_of_ne hold, WorkerPc.holds_of_ne hnew] at hsum
  simp only [Pool.copies, setPc_tasks, setPc_ran]
  omega

/-- The bookkeeping of the pool: every task is in one place, and nobody leaves before `m_Stop` is
set. -/
structure Accounted (p : Pool n) : Prop where
  once : ∀ task, p.copies task = if task < p.enqueued then 1 else 0
  before : p.enqueuedBefore ≤ p.enqueued
  idle : p.stopAll = .idle → p.stop = false
  stopped : p.stopAll ≠ .idle → p.stop = true
  quiet : p.stop = false → ∀ i, (p.workers i).pc ≠ .left ∧ (p.workers i).stopRequested = false
  joined : ∀ i, p.stopAll = .join i → ∀ j : Fin n, j < i → (p.workers j).pc = .left
  returned : p.stopAll = .returned → ∀ j, (p.workers j).pc = .left

theorem accounted_init (n : ℕ) : Accounted (Pool.init n) where
  once task := by simp [Pool.copies, Pool.init, WorkerPc.holds]
  before := le_rfl
  idle _ := rfl
  stopped h := absurd rfl h
  quiet _ _ := ⟨by simp [Pool.init], rfl⟩
  joined i h := absurd h (by simp [Pool.init])
  returned h := absurd h (by simp [Pool.init])

/-- A worker that has not left moves, perhaps with a task, and `StopAll` does not move. -/
theorem Accounted.move {p : Pool n} (h : Accounted p) {i : Fin n} {pc : WorkerPc}
    {tasks ran : List ℕ} (hold : (p.workers i).pc ≠ .left) (hpc : pc = .left → p.stop = true)
    (hcopies : ∀ task, Pool.copies { p.setPc i pc with tasks := tasks, ran := ran } task =
      p.copies task) :
    Accounted { p.setPc i pc with tasks := tasks, ran := ran } where
  once task := (hcopies task).trans (h.once task)
  before := h.before
  idle := h.idle
  stopped := h.stopped
  quiet hstop j := by
    rw [setPc_pc, setPc_stopRequested]
    refine ⟨?_, (h.quiet hstop j).2⟩
    split
    · intro hleft
      exact absurd (hpc hleft) (by simp [show p.stop = false from hstop])
    · exact (h.quiet hstop j).1
  joined k hk j hj := by
    have hleft := h.joined k hk j hj
    rw [setPc_pc, if_neg]
    · exact hleft
    · rintro rfl
      exact hold hleft
  returned hk j := absurd (h.returned hk i) hold

/-- `StopAll` moves, and the workers stay where they are. -/
theorem Accounted.stopAll {p : Pool n} (h : Accounted p) {workers : Fin n → Worker}
    {stopAll : StopAllPc} (hat : p.stopAll ≠ .idle)
    (hworkers : ∀ j, (workers j).pc = (p.workers j).pc) (hidle : stopAll ≠ .idle)
    (hjoin : ∀ i, stopAll = .join i → ∀ j : Fin n, j < i → (p.workers j).pc = .left)
    (hreturned : stopAll = .returned → ∀ j, (p.workers j).pc = .left) :
    Accounted { p with workers := workers, stopAll := stopAll } where
  once task := by
    rw [← h.once task, Pool.copies, Pool.copies]
    simp only [hworkers]
  before := h.before
  idle h := absurd h hidle
  stopped _ := h.stopped hat
  quiet hstop := absurd (h.stopped hat) (by simp [show p.stop = false from hstop])
  joined i hi j hj := (hworkers j).trans (hjoin i hi j hj)
  returned hr j := (hworkers j).trans (hreturned hr j)

theorem accounted_step {p p' : Pool n} {a : PoolAction n} (h : Accounted p)
    (hstep : p.step a = some p') : Accounted p' := by
  cases poolStep_of_step hstep with
  | enqueue hfree =>
      refine ⟨fun task => ?_, h.before.trans (Nat.le_succ _), h.idle, h.stopped, h.quiet, h.joined,
        h.returned⟩
      have honce := h.once task
      simp only [Pool.copies, List.count_append, List.count_singleton, beq_iff_eq] at honce ⊢
      by_cases htask : p.enqueued = task
      · rw [if_neg (by omega)] at honce
        rw [if_pos htask, if_pos (by omega)]
        omega
      · rw [if_neg htask]
        split at honce
        · rw [if_pos (by omega)]
          omega
        · rw [if_neg (by omega)]
          omega
  | goOn i hpc htoken =>
      exact h.move (by simp [hpc]) (by simp) (copies_setPc (by simp [hpc]) (by simp))
  | leaveByToken i hpc htoken =>
      have hstop : p.stop = true := by
        by_contra hstop
        have hquiet := (h.quiet (Bool.eq_false_iff.2 hstop) i).2
        rw [htoken] at hquiet
        exact absurd hquiet (by simp)
      exact h.move (by simp [hpc]) (fun _ => hstop) (copies_setPc (by simp [hpc]) (by simp))
  | wake i hpc hfree =>
      exact h.move (by simp [hpc]) (by simp) (copies_setPc (by simp [hpc]) (by simp))
  | leaveEmpty i hpc htasks hstop =>
      exact h.move (by simp [hpc]) (fun _ => hstop) (copies_setPc (by simp [hpc]) (by simp))
  | take i hpc task tasks htasks =>
      refine h.move (by simp [hpc]) (by simp) fun task' => ?_
      have hsum := sum_holds_setPc p i (.running task) task'
      have hold : (p.workers i).pc.holds task' = 0 := WorkerPc.holds_of_ne (by simp [hpc]) task'
      simp only [WorkerPc.holds, WorkerPc.running.injEq] at hsum hold
      simp only [Pool.copies, WorkerPc.holds, htasks, List.count_cons, setPc_ran, beq_iff_eq]
      omega
  | finish i task hpc =>
      refine h.move (by simp [hpc]) (by simp) fun task' => ?_
      have hsum := sum_holds_setPc p i .test task'
      have hold : (p.workers i).pc.holds task' = if task = task' then 1 else 0 := by
        simp [WorkerPc.holds, hpc]
      have hnew : WorkerPc.test.holds task' = 0 := WorkerPc.holds_of_ne (by simp) task'
      simp only [Pool.copies, List.count_append, List.count_singleton, setPc_tasks, beq_iff_eq]
      omega
  | setStop hidle hfree =>
      exact ⟨h.once, le_rfl, fun h => absurd h (by simp), fun _ => rfl, fun h => absurd h (by simp),
        fun i h => absurd h (by simp), fun h => absurd h (by simp)⟩
  | notify hat =>
      exact h.stopAll (by simp [hat]) (fun _ => rfl) (by simp) (by simp) (by simp)
  | request i hat =>
      exact h.stopAll (by simp [hat]) (request_pc p.workers i) (by simp) (by simp) (by simp)
  | requested i hat =>
      refine h.stopAll (by simp [hat]) (fun _ => rfl) (by simp) (fun i hi j hj => ?_) (by simp)
      rw [← StopAllPc.join.inj hi] at hj
      omega
  | join i hat hleft =>
      refine h.stopAll (by simp [hat]) (fun _ => rfl) (by simp) (fun k hk j hj => ?_) (by simp)
      rw [← StopAllPc.join.inj hk] at hj
      rcases Nat.lt_succ_iff_lt_or_eq.1 hj with hlt | heq
      · exact h.joined i hat j hlt
      · rwa [Fin.ext heq]
  | joined i hat hi =>
      exact h.stopAll (by simp [hat]) (fun _ => rfl) (by simp) (by simp)
        (fun _ j => h.joined i hat j (j.isLt.trans_le hi))

/-! ### Tasks that are abandoned -/

/-- All workers have left, and one of the given tasks is still queued. -/
def Abandoned (own : ℕ → Prop) (p : Pool n) : Prop :=
  (∀ i, (p.workers i).pc = .left) ∧ ∃ task ∈ p.tasks, own task

/-- The step is not that of the last worker leaving by its stop token while one of the given tasks
is still queued. -/
def KeepsToTasks (own : ℕ → Prop) (p : Pool n) : PoolAction n → Prop
  | .worker i =>
      ¬ ((p.workers i).pc = .test ∧ (p.workers i).stopRequested = true ∧
        (∀ j ≠ i, (p.workers j).pc = .left) ∧ ∃ task ∈ p.tasks, own task)
  | _ => True

instance (own : ℕ → Prop) [DecidablePred own] (p : Pool n) :
    ∀ a, Decidable (KeepsToTasks own p a)
  | .worker i =>
      inferInstanceAs (Decidable ¬ ((p.workers i).pc = .test ∧
        (p.workers i).stopRequested = true ∧ (∀ j ≠ i, (p.workers j).pc = .left) ∧
          ∃ task ∈ p.tasks, own task))
  | .enqueue | .stopAll => inferInstanceAs (Decidable True)

/-- While somebody has not left, nothing is abandoned. -/
theorem not_abandoned_of_pc {own : ℕ → Prop} {p : Pool n} {i : Fin n}
    (h : (p.workers i).pc ≠ .left) : ¬ Abandoned own p := fun habandoned => h (habandoned.1 i)

/-- A step abandons one of the given tasks exactly if it is the one described. -/
theorem abandoned_step {own : ℕ → Prop} {p p' : Pool n} {a : PoolAction n}
    (hnew : ¬ own p.enqueued) (hp : ¬ Abandoned own p) (hstep : p.step a = some p') :
    ¬ Abandoned own p' ↔ KeepsToTasks own p a := by
  cases poolStep_of_step hstep with
  | enqueue hfree =>
      refine iff_of_true ?_ trivial
      rintro ⟨hleft, task, hmem, hown⟩
      rcases List.mem_append.1 hmem with hmem | hmem
      · exact hp ⟨hleft, task, hmem, hown⟩
      · rw [List.mem_singleton.1 hmem] at hown
        exact hnew hown
  | goOn i hpc htoken =>
      refine iff_of_true (not_abandoned_of_pc (i := i) ?_) fun hlast => ?_
      · rw [setPc_pc, if_pos rfl]
        simp
      · rw [htoken] at hlast
        exact absurd hlast.2.1 (by simp)
  | leaveByToken i hpc htoken =>
      refine not_congr ⟨fun habandoned => ⟨hpc, htoken, fun j hj => ?_, habandoned.2⟩, fun hlast =>
        ⟨fun j => ?_, hlast.2.2.2⟩⟩
      · have hleft := habandoned.1 j
        rwa [setPc_pc, if_neg hj] at hleft
      · rw [setPc_pc]
        split
        · rfl
        · next hj => exact hlast.2.2.1 j hj
  | wake i hpc hfree =>
      refine iff_of_true (not_abandoned_of_pc (i := i) ?_) fun hlast => ?_
      · rw [setPc_pc, if_pos rfl]
        simp
      · exact absurd hlast.1 (by simp [hpc])
  | leaveEmpty i hpc htasks hstop =>
      refine iff_of_true ?_ fun hlast => absurd hlast.1 (by simp [hpc])
      rintro ⟨-, task, hmem, -⟩
      rw [setPc_tasks, htasks] at hmem
      exact absurd hmem (by simp)
  | take i hpc task tasks htasks =>
      refine iff_of_true (not_abandoned_of_pc (i := i) ?_) fun hlast => ?_
      · change ((p.setPc i (.running task)).workers i).pc ≠ .left
        rw [setPc_pc, if_pos rfl]
        simp
      · exact absurd hlast.1 (by simp [hpc])
  | finish i task hpc =>
      refine iff_of_true (not_abandoned_of_pc (i := i) ?_) fun hlast => ?_
      · change ((p.setPc i .test).workers i).pc ≠ .left
        rw [setPc_pc, if_pos rfl]
        simp
      · exact absurd hlast.1 (by simp [hpc])
  | setStop hidle hfree => exact iff_of_true hp trivial
  | notify hat => exact iff_of_true hp trivial
  | request i hat =>
      refine iff_of_true (fun habandoned => hp ⟨fun j => ?_, habandoned.2⟩) trivial
      exact (request_pc p.workers i j).symm.trans (habandoned.1 j)
  | requested i hat => exact iff_of_true hp trivial
  | join i hat hleft => exact iff_of_true hp trivial
  | joined i hat hi => exact iff_of_true hp trivial

/-- What is abandoned stays so. -/
theorem abandoned_stays {own : ℕ → Prop} {p p' : Pool n} {a : PoolAction n}
    (hp : Abandoned own p) (hstep : p.step a = some p') : Abandoned own p' := by
  obtain ⟨hleft, task, hmem, hown⟩ := hp
  cases poolStep_of_step hstep with
  | enqueue hfree => exact ⟨hleft, task, List.mem_append_left _ hmem, hown⟩
  | goOn i hpc htoken => exact absurd (hleft i) (by simp [hpc])
  | leaveByToken i hpc htoken => exact absurd (hleft i) (by simp [hpc])
  | wake i hpc hfree => exact absurd (hleft i) (by simp [hpc])
  | leaveEmpty i hpc htasks hstop => exact absurd (hleft i) (by simp [hpc])
  | take i hpc task tasks htasks => exact absurd (hleft i) (by simp [hpc])
  | finish i task hpc => exact absurd (hleft i) (by simp [hpc])
  | setStop hidle hfree => exact ⟨hleft, task, hmem, hown⟩
  | notify hat => exact ⟨hleft, task, hmem, hown⟩
  | request i hat =>
      exact ⟨fun j => (request_pc p.workers i j).trans (hleft j), task, hmem, hown⟩
  | requested i hat => exact ⟨hleft, task, hmem, hown⟩
  | join i hat hleft' => exact ⟨hleft, task, hmem, hown⟩
  | joined i hat hi => exact ⟨hleft, task, hmem, hown⟩

/-! ### Over part of a run -/

theorem enqueued_le_step {p p' : Pool n} {a : PoolAction n} (hstep : p.step a = some p') :
    p.enqueued ≤ p'.enqueued := by
  cases poolStep_of_step hstep with
  | enqueue hfree => exact Nat.le_succ _
  | _ => exact le_rfl

/-- Over a run, none of the given tasks is abandoned exactly if every step keeps to them. -/
theorem not_abandoned_iff_along {own : ℕ → Prop} {p t : Pool n} {as : List (PoolAction n)}
    (hown : ∀ task, own task → task < p.enqueued) (hp : ¬ Abandoned own p)
    (hrun : Runs.exec Pool.step p as = some t) :
    ¬ Abandoned own t ↔ Runs.Along Pool.step (KeepsToTasks own) p as := by
  have hJ : ∀ (p : Pool n) a p', (∀ task, own task → task < p.enqueued) → p.step a = some p' →
      ∀ task, own task → task < p'.enqueued :=
    fun p a p' h hstep task htask => (h task htask).trans_le (enqueued_le_step hstep)
  have hexact : Runs.Throughout Pool.step (fun p => ¬ Abandoned own p) p as ↔
      Runs.Along Pool.step (KeepsToTasks own) p as :=
    Runs.throughout_iff_along hJ (fun p a p' h hp hstep =>
      abandoned_step (fun hnew => lt_irrefl _ (h _ hnew)) hp hstep) hown hp
  rw [← hexact]
  constructor
  · intro hlast
    exact Runs.throughout_of_final hJ
      (fun p a p' _ hstep hp' hp => hp' (abandoned_stays hp hstep)) hown hrun hlast
  · intro hthrough
    exact hthrough.final hrun

/-- A task is running, or queued while there are workers. -/
def Pool.Alive (p : Pool n) (task : ℕ) : Prop :=
  (∃ i, (p.workers i).pc = .running task) ∨ task ∈ p.tasks ∧ ∃ i, (p.workers i).pc ≠ .left

theorem not_alive_of_left {p : Pool n} (h : ∀ i, (p.workers i).pc = .left) (task : ℕ) :
    ¬ p.Alive task := by
  rintro (⟨i, hi⟩ | ⟨-, i, hi⟩)
  · rw [h i] at hi
    exact absurd hi (by simp)
  · exact hi (h i)

/-- A worker that has left does not move. -/
theorem ne_left_of_step {p p' : Pool n} {i : Fin n} (hstep : p.step (.worker i) = some p') :
    (p.workers i).pc ≠ .left := by
  intro hleft
  rw [Pool.step, Pool.workerStep, hleft] at hstep
  exact absurd hstep (by simp)

/-- One worker moves: what was running elsewhere is still running there. -/
theorem alive_setPc {p : Pool n} {i : Fin n} {pc : WorkerPc} {tasks ran : List ℕ} {task : ℕ}
    (halive : p.Alive task) (hold : (p.workers i).pc ≠ .running task) (hpc : pc ≠ .left)
    (htasks : task ∈ p.tasks → task ∈ tasks ∨ pc = .running task) :
    Pool.Alive { p.setPc i pc with tasks := tasks, ran := ran } task := by
  have hhere : ((p.setPc i pc).workers i).pc = pc := by rw [setPc_pc, if_pos rfl]
  rcases halive with ⟨j, hj⟩ | ⟨hmem, -⟩
  · refine Or.inl ⟨j, ?_⟩
    change ((p.setPc i pc).workers j).pc = _
    rw [setPc_pc, if_neg]
    · exact hj
    · rintro rfl
      exact hold hj
  · rcases htasks hmem with hmem | rfl
    · refine Or.inr ⟨hmem, i, ?_⟩
      exact fun hleft => hpc (hhere.symm.trans hleft)
    · exact Or.inl ⟨i, hhere⟩

/-- Before `m_Stop` is set, a task stays alive until it ends. -/
theorem alive_step {p p' : Pool n} {a : PoolAction n} {task : ℕ} (h : Accounted p)
    (hstop : p.stop = false) (halive : p.Alive task)
    (hends : ∀ i, a = .worker i → (p.workers i).pc ≠ .running task)
    (hstep : p.step a = some p') : p'.Alive task := by
  cases poolStep_of_step hstep with
  | enqueue hfree => exact halive.imp_right fun hmem => ⟨List.mem_append_left _ hmem.1, hmem.2⟩
  | goOn i hpc htoken => exact alive_setPc halive (hends i rfl) (by simp) Or.inl
  | leaveByToken i hpc htoken =>
      rw [(h.quiet hstop i).2] at htoken
      exact absurd htoken (by simp)
  | wake i hpc hfree => exact alive_setPc halive (hends i rfl) (by simp) Or.inl
  | leaveEmpty i hpc htasks hstop' =>
      rw [hstop] at hstop'
      exact absurd hstop' (by simp)
  | take i hpc task' tasks htasks =>
      refine alive_setPc halive (hends i rfl) (by simp) fun hmem => ?_
      rw [htasks] at hmem
      rcases List.mem_cons.1 hmem with rfl | hmem
      · exact Or.inr rfl
      · exact Or.inl hmem
  | finish i task' hpc => exact alive_setPc halive (hends i rfl) (by simp) Or.inl
  | setStop hidle hfree => exact halive
  | notify hat => exact halive
  | request i hat =>
      have hworkers := request_pc p.workers i
      exact halive.imp (fun ⟨j, hj⟩ => ⟨j, (hworkers j).trans hj⟩)
        fun ⟨hmem, j, hj⟩ => ⟨hmem, j, fun hleft => hj ((hworkers j).symm.trans hleft)⟩
  | requested i hat => exact halive
  | join i hat hleft => exact halive
  | joined i hat hi => exact halive

/-- One worker moves: what is alive was so before, if the worker took it from the queue. -/
theorem alive_of_setPc {p : Pool n} {i : Fin n} {pc : WorkerPc} {tasks ran : List ℕ} {task : ℕ}
    (halive : Pool.Alive { p.setPc i pc with tasks := tasks, ran := ran } task)
    (hold : (p.workers i).pc ≠ .left) (hpc : pc = .running task → task ∈ p.tasks)
    (htasks : task ∈ tasks → task ∈ p.tasks) : p.Alive task := by
  rcases halive with ⟨j, hj⟩ | ⟨hmem, -⟩
  · change ((p.setPc i pc).workers j).pc = _ at hj
    rw [setPc_pc] at hj
    split at hj
    · exact Or.inr ⟨hpc hj, i, hold⟩
    · exact Or.inl ⟨j, hj⟩
  · exact Or.inr ⟨htasks hmem, i, hold⟩

/-- A task that was queued before and is alive after a step was alive before it. -/
theorem alive_of_step {p p' : Pool n} {a : PoolAction n} {task : ℕ} (htask : task < p.enqueued)
    (hstep : p.step a = some p') (halive : p'.Alive task) : p.Alive task := by
  cases poolStep_of_step hstep with
  | enqueue hfree =>
      refine halive.imp_right fun ⟨hmem, hleft⟩ => ⟨?_, hleft⟩
      rcases List.mem_append.1 hmem with hmem | hmem
      · exact hmem
      · exact absurd (List.mem_singleton.1 hmem) htask.ne
  | goOn i hpc htoken => exact alive_of_setPc halive (ne_left_of_step hstep) (by simp) id
  | leaveByToken i hpc htoken => exact alive_of_setPc halive (ne_left_of_step hstep) (by simp) id
  | wake i hpc hfree => exact alive_of_setPc halive (ne_left_of_step hstep) (by simp) id
  | leaveEmpty i hpc htasks hstop =>
      exact alive_of_setPc halive (ne_left_of_step hstep) (by simp) id
  | take i hpc task' tasks htasks =>
      refine alive_of_setPc halive (ne_left_of_step hstep) (fun hrunning => ?_) fun hmem => ?_
      · rw [htasks, WorkerPc.running.inj hrunning]
        exact List.mem_cons_self
      · rw [htasks]
        exact List.mem_cons_of_mem _ hmem
  | finish i task' hpc => exact alive_of_setPc halive (ne_left_of_step hstep) (by simp) id
  | setStop hidle hfree => exact halive
  | notify hat => exact halive
  | request i hat =>
      have hworkers := request_pc p.workers i
      exact halive.imp (fun ⟨j, hj⟩ => ⟨j, (hworkers j).symm.trans hj⟩)
        fun ⟨hmem, j, hj⟩ => ⟨hmem, j, fun hleft => hj ((hworkers j).trans hleft)⟩
  | requested i hat => exact halive
  | join i hat hleft => exact halive
  | joined i hat hi => exact halive

/-! ### Queueing -/

theorem enqueue_eq {p p' : Pool n} (h : p.step .enqueue = some p') :
    p' = { p with tasks := p.tasks ++ [p.enqueued], enqueued := p.enqueued + 1 } :=
  (Option.some_inj.1 (Option.ite_none_right_eq_some.1 h).2).symm

/-- Only its own steps move `StopAll`. -/
theorem stopAll_of_step {p p' : Pool n} {a : PoolAction n} (ha : a ≠ .stopAll)
    (hstep : p.step a = some p') : p'.stopAll = p.stopAll := by
  cases poolStep_of_step hstep <;> first | rfl | exact absurd rfl ha

/-- No worker runs a task that was not queued yet. -/
theorem not_running_of_le {p : Pool n} (h : Accounted p) {task : ℕ} (htask : p.enqueued ≤ task)
    (i : Fin n) : (p.workers i).pc ≠ .running task := by
  intro hi
  have honce := h.once task
  have hone : (p.workers i).pc.holds task = 1 := if_pos hi
  have hle : (p.workers i).pc.holds task ≤ ∑ j, (p.workers j).pc.holds task :=
    Finset.single_le_sum (fun j _ => Nat.zero_le ((p.workers j).pc.holds task)) (Finset.mem_univ i)
  rw [Pool.copies, if_neg (by omega)] at honce
  omega

/-- A task that is queued is alive exactly if there are workers. -/
theorem alive_enqueued_iff {p p' : Pool n} (h : Accounted p) (hstep : p.step .enqueue = some p') :
    p'.Alive p.enqueued ↔ ∃ i, (p.workers i).pc ≠ .left := by
  rw [enqueue_eq hstep]
  constructor
  · rintro (⟨i, hi⟩ | ⟨-, hleft⟩)
    · exact absurd hi (not_running_of_le h le_rfl i)
    · exact hleft
  · intro hleft
    exact Or.inr ⟨List.mem_append_right _ (List.mem_singleton.2 rfl), hleft⟩

/-- Queueing a task leaves the others as they are. -/
theorem alive_enqueue_iff {p p' : Pool n} {task : ℕ} (htask : task < p.enqueued)
    (hstep : p.step .enqueue = some p') : p'.Alive task ↔ p.Alive task := by
  refine ⟨alive_of_step htask hstep, fun halive => ?_⟩
  rw [enqueue_eq hstep]
  exact halive.imp_right fun hmem => ⟨List.mem_append_left _ hmem.1, hmem.2⟩

/-- A step queues no task that was there before. -/
theorem mem_tasks_of_step {p p' : Pool n} {a : PoolAction n} {task : ℕ} (htask : task < p.enqueued)
    (hstep : p.step a = some p') (hmem : task ∈ p'.tasks) : task ∈ p.tasks := by
  cases poolStep_of_step hstep with
  | enqueue hfree =>
      rcases List.mem_append.1 hmem with hmem | hmem
      · exact hmem
      · exact absurd (List.mem_singleton.1 hmem) htask.ne
  | take i hpc task' tasks htasks =>
      rw [htasks]
      exact List.mem_cons_of_mem _ hmem
  | _ => exact hmem

theorem enqueued_le_run {p p' : Pool n} {as : List (PoolAction n)}
    (hrun : Runs.exec Pool.step p as = some p') : p.enqueued ≤ p'.enqueued := by
  have hstep : ∀ (q : Pool n) a q', p.enqueued ≤ q.enqueued → q.step a = some q' →
      p.enqueued ≤ q'.enqueued := fun q a q' hle hq => hle.trans (enqueued_le_step hq)
  exact Runs.invariant hstep le_rfl hrun

end MpsEmulator
