/-
**Whether the thread pool drains its queue before it stops.**

`StopAll` says that the workers stop when the queue is drained.  What happens to a queued task
depends on where the workers are when their stop tokens are set: one that waits takes another task,
one that comes back from a task leaves at once.

* `Drained` — every task queued before `StopAll` set `m_Stop` was run exactly once;
* `KeepsToQueue` — the last worker does not leave by its stop token while such a task is queued;
* `drained_iff_along` — **when `StopAll` returns, the queue was drained exactly if all the steps did
  keep to it**;
* `task_lost` — a run in which one does not.
-/

import MpsEmulator.ThreadPool

set_option relaxedAutoImplicit false
set_option autoImplicit false

namespace MpsEmulator

variable {n : ℕ}

/-! ### Exactly when the queue is drained -/

/-- Every task queued before `StopAll` set `m_Stop` was run exactly once. -/
def Drained (p : Pool n) : Prop := ∀ task < p.enqueuedBefore, p.ran.count task = 1

/-- The tasks queued before `StopAll` set `m_Stop`. -/
def Pool.Before (p : Pool n) (task : ℕ) : Prop := task < p.enqueuedBefore

/-- The step is not that of the last worker leaving by its stop token while a task queued before
`m_Stop` was set is still queued. -/
def KeepsToQueue (p : Pool n) (a : PoolAction n) : Prop := KeepsToTasks p.Before p a

instance (p : Pool n) : DecidablePred p.Before :=
  fun task => inferInstanceAs (Decidable (task < p.enqueuedBefore))

instance (p : Pool n) (a : PoolAction n) : Decidable (KeepsToQueue p a) :=
  inferInstanceAs (Decidable (KeepsToTasks p.Before p a))

/-- Setting `m_Stop` decides which tasks were queued before; it does so while nobody has left. -/
theorem before_step [NeZero n] {p p' : Pool n} {a : PoolAction n} (h : Accounted p)
    (hstep : p.step a = some p') :
    p'.Before = p.Before ∨
      ¬ Abandoned p.Before p ∧ ¬ Abandoned p'.Before p' ∧ KeepsToQueue p a := by
  cases poolStep_of_step hstep with
  | setStop hidle hfree =>
      have hfirst := (h.quiet (h.idle hidle) 0).1
      exact Or.inr
        ⟨not_abandoned_of_pc (i := 0) hfirst, not_abandoned_of_pc (i := 0) hfirst, trivial⟩
  | _ => exact Or.inl rfl

/-- When `StopAll` has returned, the queue was drained exactly if nothing was abandoned. -/
theorem drained_iff_not_abandoned {p : Pool n} (h : Accounted p)
    (hreturned : p.stopAll = .returned) : Drained p ↔ ¬ Abandoned p.Before p := by
  have hleft := h.returned hreturned
  -- All workers have left, so a task is queued or done, and in one place only.
  have hplace : ∀ task < p.enqueuedBefore, p.tasks.count task + p.ran.count task = 1 := by
    intro task htask
    have honce := h.once task
    have hbefore := h.before
    have hnobody : ∑ i, (p.workers i).pc.holds task = 0 :=
      Finset.sum_eq_zero fun i _ => WorkerPc.holds_of_ne (by simp [hleft i]) task
    rw [if_pos (by omega), Pool.copies, hnobody] at honce
    omega
  constructor
  · rintro hdrained ⟨-, task, hmem, hlt⟩
    have hcount : 0 < p.tasks.count task := List.count_pos_iff.2 hmem
    have hran := hdrained task hlt
    have honce := hplace task hlt
    omega
  · intro habandoned task htask
    have hqueue : p.tasks.count task = 0 := by
      rw [List.count_eq_zero]
      intro hmem
      exact habandoned ⟨hleft, task, hmem, htask⟩
    have honce := hplace task htask
    omega

/-- When `StopAll` returns, **every task queued before it set `m_Stop` has run exactly once if and
only if** the last worker to leave did not leave by its stop token while such a task was queued. -/
theorem drained_iff_along (n : ℕ) (hn : 0 < n) (as : List (PoolAction n)) {t : Pool n}
    (hrun : Runs.exec Pool.step (Pool.init n) as = some t) (hreturned : t.stopAll = .returned) :
    Drained t ↔ Runs.Along Pool.step KeepsToQueue (Pool.init n) as := by
  have : NeZero n := ⟨by omega⟩
  have hJ : ∀ (p : Pool n) a p', Accounted p → p.step a = some p' → Accounted p' :=
    fun p a p' => accounted_step
  have hfirst : ¬ Abandoned (Pool.init n).Before (Pool.init n) :=
    not_abandoned_of_pc (i := 0) (by simp [Pool.init])
  have haccounted : Accounted t := Runs.invariant hJ (accounted_init n) hrun
  rw [drained_iff_not_abandoned haccounted hreturned]
  have hexact : Runs.Throughout Pool.step (fun p => ¬ Abandoned p.Before p) (Pool.init n) as ↔
      Runs.Along Pool.step KeepsToQueue (Pool.init n) as := by
    refine Runs.throughout_iff_along hJ (fun p a p' h hp hstep => ?_) (accounted_init n) hfirst
    rcases before_step h hstep with hsame | ⟨-, hp', hkeeps⟩
    · rw [hsame]
      exact abandoned_step (Nat.not_lt.2 h.before) hp hstep
    · exact iff_of_true hp' hkeeps
  rw [← hexact]
  constructor
  · intro hlast
    refine Runs.throughout_of_final hJ (fun p a p' h hstep hp' hp => ?_) (accounted_init n) hrun
      hlast
    rcases before_step h hstep with hsame | ⟨hnot, -, -⟩
    · rw [hsame] at hp'
      exact hp' (abandoned_stays hp hstep)
    · exact hnot hp
  · intro hthrough
    exact hthrough.final hrun

/-! ### Two runs -/

/-- One worker and two tasks; the second one is queued while the first one runs, and only then
`StopAll` is called. -/
def busyWorker : List (PoolAction 1) :=
  [.enqueue, .worker 0, .worker 0, .worker 0, .enqueue, .stopAll, .stopAll, .stopAll, .stopAll,
    .worker 0, .worker 0, .stopAll, .stopAll]

/-- One worker runs its task before `StopAll` is called, and leaves with the queue empty. -/
def idleWorker : List (PoolAction 1) :=
  [.enqueue, .worker 0, .worker 0, .worker 0, .worker 0, .worker 0, .stopAll, .worker 0, .worker 0,
    .stopAll, .stopAll, .stopAll, .stopAll, .stopAll]

/-- The queue is drained where the worker leaves because it is empty. -/
theorem drained_idleWorker :
    Drained ((Runs.exec Pool.step (Pool.init 1) idleWorker).getD (Pool.init 1)) :=
  (drained_iff_along 1 (by decide) idleWorker
    (t := (Runs.exec Pool.step (Pool.init 1) idleWorker).getD (Pool.init 1)) rfl rfl).2 (by decide)

/-- The busy worker comes back to the head of its loop, finds its stop token set, and leaves the
second task in the queue. -/
theorem task_lost :
    ∃ t, Runs.exec Pool.step (Pool.init 1) busyWorker = some t ∧ t.stopAll = .returned ∧
      t.enqueuedBefore = 2 ∧ t.ran = [0] ∧ ¬ Drained t := by
  refine ⟨_, rfl, rfl, rfl, rfl, ?_⟩
  intro h
  exact absurd (h 1 (by decide)) (by decide)

end MpsEmulator
