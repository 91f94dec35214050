/-
**The condition variable of the thread pool.**

A worker that finds nothing to do goes to sleep on `m_Condition`, and only a notification, or a
wake-up for no reason, lets it look again.  `Enqueue` notifies one worker after it has released the
lock, `StopAll` notifies all.  Between the release and the notification anything may happen, a
notification that finds nobody asleep is gone, and one that wakes a worker may find that another one
has taken the task.

* `WaitingPool`, `WaitingPool.step` — the pool with the workers that are asleep and the
  notifications that are still to come;
* `pool_of_run` — it does nothing that the pool without them does not do;
* `looking` — the workers that will look at the queue before they sleep;
* `no_lost_wakeup` — **while somebody is asleep, no more tasks are queued than workers are looking
  and notifications are to come**;
* `pool_settles` — **left alone, the pool comes to rest after a bounded number of steps, and then
  tasks are queued only if all workers are busy**;
* `stopAll_returns` — **once `m_Stop` is set, `StopAll` returns if the tasks do**.
-/

import MpsEmulator.ThreadPool

set_option relaxedAutoImplicit false
set_option autoImplicit false

namespace MpsEmulator

open Function

variable {n : ℕ}

/-! ### The pool with its condition variable -/

/-- The pool, the workers that are asleep in `m_Condition.wait`, and the number of calls of
`Enqueue` that have released the lock and have not notified yet. -/
structure WaitingPool (n : ℕ) where
  pool : Pool n
  asleep : Fin n → Bool
  notifying : ℕ

/-- The pool the constructor makes. -/
def WaitingPool.init (n : ℕ) : WaitingPool n :=
  { pool := .init n, asleep := fun _ => false, notifying := 0 }

/-- Who moves. -/
inductive WaitAction (n : ℕ)
  /-- `Enqueue` up to the end of the block that holds the lock. -/
  | push
  /-- `m_Condition.notify_one()`, with the worker that it wakes. -/
  | notifyOne (woken : Option (Fin n))
  | worker (i : Fin n)
  /-- A worker wakes up without a notification. -/
  | spurious (i : Fin n)
  | stopAll
  deriving DecidableEq

/-- The worker finds nothing to do when it looks at its condition. -/
def WaitingPool.Finds (p : WaitingPool n) (i : Fin n) : Prop :=
  (p.pool.workers i).pc = .waiting ∧ p.pool.Free ∧ p.pool.tasks = [] ∧ p.pool.stop = false

instance (p : WaitingPool n) (i : Fin n) : Decidable (p.Finds i) :=
  inferInstanceAs (Decidable (_ ∧ _ ∧ _ ∧ _))

/-- One step. -/
def WaitingPool.step (p : WaitingPool n) : WaitAction n → Option (WaitingPool n)
  | .push =>
      (p.pool.step .enqueue).map fun pool => { p with pool := pool, notifying := p.notifying + 1 }
  | .notifyOne (some i) =>
      if 0 < p.notifying ∧ p.asleep i then
        some { p with asleep := update p.asleep i false, notifying := p.notifying - 1 }
      else none
  | .notifyOne none =>
      if 0 < p.notifying ∧ ∀ i, p.asleep i = false then
        some { p with notifying := p.notifying - 1 }
      else none
  | .worker i =>
      if p.asleep i then none
      else if p.Finds i then some { p with asleep := update p.asleep i true }
      else (p.pool.step (.worker i)).map fun pool => { p with pool := pool }
  | .spurious i => if p.asleep i then some { p with asleep := update p.asleep i false } else none
  | .stopAll =>
      (p.pool.step .stopAll).map fun pool => { p with
        pool := pool
        asleep := if p.pool.stopAll = .notify then fun _ => false else p.asleep }

/-- The steps of the pool with its condition variable. -/
inductive WaitStep (p : WaitingPool n) : WaitAction n → WaitingPool n → Prop
  | push (pool : Pool n) (hpool : p.pool.step .enqueue = some pool) :
      WaitStep p .push { p with pool := pool, notifying := p.notifying + 1 }
  | notify (i : Fin n) (hsome : 0 < p.notifying) (hi : p.asleep i = true) :
      WaitStep p (.notifyOne (some i))
        { p with asleep := update p.asleep i false, notifying := p.notifying - 1 }
  | notifyNobody (hsome : 0 < p.notifying) (hawake : ∀ i, p.asleep i = false) :
      WaitStep p (.notifyOne none) { p with notifying := p.notifying - 1 }
  | sleep (i : Fin n) (hi : p.asleep i = false) (hfinds : p.Finds i) :
      WaitStep p (.worker i) { p with asleep := update p.asleep i true }
  | worker (i : Fin n) (pool : Pool n) (hi : p.asleep i = false) (hfinds : ¬ p.Finds i)
      (hpool : p.pool.step (.worker i) = some pool) : WaitStep p (.worker i) { p with pool := pool }
  | spurious (i : Fin n) (hi : p.asleep i = true) :
      WaitStep p (.spurious i) { p with asleep := update p.asleep i false }
  | stopAll (pool : Pool n) (hpool : p.pool.step .stopAll = some pool) :
      WaitStep p .stopAll { p with
        pool := pool
        asleep := if p.pool.stopAll = .notify then fun _ => false else p.asleep }

/-- Every step is one of these. -/
theorem waitStep_of_step {p p' : WaitingPool n} {a : WaitAction n} (h : p.step a = some p') :
    WaitStep p a p' := by
  cases a with
  | push =>
      obtain ⟨pool, hpool, rfl⟩ := Option.map_eq_some_iff.1 h
      exact .push pool hpool
  | notifyOne woken =>
      cases woken with
      | none =>
          obtain ⟨⟨hsome, hawake⟩, h⟩ := Option.ite_none_right_eq_some.1 h
          rw [← Option.some_inj.1 h]
          exact .notifyNobody hsome hawake
      | some i =>
          obtain ⟨⟨hsome, hi⟩, h⟩ := Option.ite_none_right_eq_some.1 h
          rw [← Option.some_inj.1 h]
          exact .notify i hsome hi
  | worker i =>
      obtain ⟨hi, h⟩ := Option.ite_none_left_eq_some.1 h
      have hawake : p.asleep i = false := Bool.eq_false_iff.2 hi
      split at h
      · next hfinds =>
        rw [← Option.some_inj.1 h]
        exact .sleep i hawake hfinds
      · next hfinds =>
        obtain ⟨pool, hpool, rfl⟩ := Option.map_eq_some_iff.1 h
        exact .worker i pool hawake hfinds hpool
  | spurious i =>
      obtain ⟨hi, h⟩ := Option.ite_none_right_eq_some.1 h
      rw [← Option.some_inj.1 h]
      exact .spurious i hi
  | stopAll =>
      obtain ⟨pool, hpool, rfl⟩ := Option.map_eq_some_iff.1 h
      exact .stopAll pool hpool

/-! ### The pool without its condition variable -/

/-- What a step is for the pool: one of its steps, or none. -/
def WaitingPool.calls (p : WaitingPool n) : WaitAction n → List (PoolAction n)
  | .push => [.enqueue]
  | .worker i => if p.Finds i then [] else [.worker i]
  | .stopAll => [.stopAll]
  | .notifyOne _ | .spurious _ => []

theorem pool_of_step {p p' : WaitingPool n} {a : WaitAction n} (h : p.step a = some p') :
    Runs.exec Pool.step p.pool (p.calls a) = some p'.pool := by
  cases waitStep_of_step h with
  | push pool hpool => exact Runs.exec_cons_eq_some.2 ⟨pool, hpool, rfl⟩
  | sleep i hi hfinds => rw [WaitingPool.calls, if_pos hfinds]; rfl
  | worker i pool hi hfinds hpool =>
      rw [WaitingPool.calls, if_neg hfinds]
      exact Runs.exec_cons_eq_some.2 ⟨pool, hpool, rfl⟩
  | stopAll pool hpool => exact Runs.exec_cons_eq_some.2 ⟨pool, hpool, rfl⟩
  | _ => rfl

/-- **A run with the condition variable is a run without it**: workers that may look at any time do
all that workers do that are notified. -/
theorem pool_of_run {p p' : WaitingPool n} {as : List (WaitAction n)}
    (hrun : Runs.exec WaitingPool.step p as = some p') :
    Runs.exec Pool.step p.pool (Runs.trace WaitingPool.step WaitingPool.calls p as) =
      some p'.pool := by
  have hstep : ∀ (p : WaitingPool n) q a p', p.pool = q → p.step a = some p' →
      ∃ q', Runs.exec Pool.step q (p.calls a) = some q' ∧ p'.pool = q' := by
    rintro p _ a p' rfl h
    exact ⟨p'.pool, pool_of_step h, rfl⟩
  obtain ⟨q, hq, hpool⟩ := Runs.exec_trace (R := fun p q => p.pool = q) hstep rfl hrun
  rw [hq, hpool]

/-- What every step of the pool keeps, the steps with the condition variable keep. -/
theorem pool_invariant {P : Pool n → Prop} (hP : ∀ q b q', P q → q.step b = some q' → P q')
    {p p' : WaitingPool n} {a : WaitAction n} (hp : P p.pool) (h : p.step a = some p') :
    P p'.pool := Runs.invariant hP hp (pool_of_step h)

theorem accounted_waiting_step {p p' : WaitingPool n} {a : WaitAction n} (hp : Accounted p.pool)
    (h : p.step a = some p') : Accounted p'.pool :=
  pool_invariant (fun _ _ _ hq hstep => accounted_step hq hstep) hp h

/-! ### Workers that will look -/

/-- The worker will look at the queue before it sleeps: `1` or `0`. -/
def looks (asleep : Bool) : WorkerPc → ℕ
  | .test | .waiting | .locked => if asleep then 0 else 1
  | .running _ | .left => 0

/-- The sum over the workers of what one counts for. -/
def WaitingPool.total (p : WaitingPool n) (f : Bool → WorkerPc → ℕ) : ℕ :=
  ∑ i, f (p.asleep i) (p.pool.workers i).pc

/-- The number of workers that will look at the queue before they sleep. -/
def WaitingPool.looking (p : WaitingPool n) : ℕ := p.total looks

/-- What a change at one place does to a sum. -/
theorem sum_change {f g : Fin n → ℕ} (i : Fin n) (h : ∀ j ≠ i, g j = f j) :
    (∑ j, g j) + f i = (∑ j, f j) + g i := by
  have hrest : ∑ j ∈ Finset.univ.erase i, g j = ∑ j ∈ Finset.univ.erase i, f j :=
    Finset.sum_congr rfl fun j hj => h j (Finset.ne_of_mem_erase hj)
  have hf := Finset.add_sum_erase Finset.univ f (Finset.mem_univ i)
  have hg := Finset.add_sum_erase Finset.univ g (Finset.mem_univ i)
  omega

/-- A worker that falls asleep or wakes up. -/
theorem total_asleep (p : WaitingPool n) (f : Bool → WorkerPc → ℕ) (i : Fin n) (b : Bool) (k : ℕ) :
    WaitingPool.total { p with asleep := update p.asleep i b, notifying := k } f +
        f (p.asleep i) (p.pool.workers i).pc =
      p.total f + f b (p.pool.workers i).pc := by
  have hchange := sum_change (f := fun j => f (p.asleep j) (p.pool.workers j).pc)
    (g := fun j => f (update p.asleep i b j) (p.pool.workers j).pc) i
    fun j hj => by rw [update_of_ne hj]
  rw [update_self] at hchange
  exact hchange

/-- A worker that moves on. -/
theorem total_setPc (p : WaitingPool n) (f : Bool → WorkerPc → ℕ) (i : Fin n) (pc : WorkerPc)
    (tasks ran : List ℕ) :
    WaitingPool.total { p with pool := { p.pool.setPc i pc with tasks := tasks, ran := ran } } f +
        f (p.asleep i) (p.pool.workers i).pc =
      p.total f + f (p.asleep i) pc := by
  have hchange := sum_change (f := fun j => f (p.asleep j) (p.pool.workers j).pc)
    (g := fun j => f (p.asleep j) ((p.pool.setPc i pc).workers j).pc) i
    fun j hj => by rw [setPc_pc, if_neg hj]
  have hpc : ((p.pool.setPc i pc).workers i).pc = pc := by rw [setPc_pc, if_pos rfl]
  rw [hpc] at hchange
  exact hchange

/-! ### No notification is lost -/

/-- Who sleeps waits; nobody is told to leave before all are woken, and nobody sleeps after that;
and while somebody sleeps, no more tasks are queued than will be looked at. -/
structure Wakeful (p : WaitingPool n) : Prop where
  accounted : Accounted p.pool
  sleeping : ∀ i, p.asleep i = true → (p.pool.workers i).pc = .waiting
  tokens : p.pool.stopAll = .idle ∨ p.pool.stopAll = .notify →
    ∀ i, (p.pool.workers i).stopRequested = false
  told : p.pool.stopAll ≠ .idle → p.pool.stopAll ≠ .notify → ∀ i, p.asleep i = false
  enough : ∀ i, p.asleep i = true → p.pool.tasks.length ≤ p.notifying + p.looking

theorem wakeful_init (n : ℕ) : Wakeful (WaitingPool.init n) where
  accounted := accounted_init n
  sleeping _ h := absurd h (by simp [WaitingPool.init])
  tokens _ _ := rfl
  told _ _ _ := rfl
  enough _ h := absurd h (by simp [WaitingPool.init])

variable {p p' : WaitingPool n} {a : WaitAction n}

/-- A worker that is awake moves, perhaps with a task: enough workers look if it does not take more
away from those that look than from the queue. -/
theorem Wakeful.move (h : Wakeful p) {i : Fin n} {pc : WorkerPc} {tasks ran : List ℕ}
    (hi : p.asleep i = false)
    (haccounted : Accounted { p.pool.setPc i pc with tasks := tasks, ran := ran })
    (henough : ∀ j, p.asleep j = true →
      tasks.length + looks false (p.pool.workers i).pc ≤ p.pool.tasks.length + looks false pc ∨
        tasks = []) :
    Wakeful { p with pool := { p.pool.setPc i pc with tasks := tasks, ran := ran } } where
  accounted := haccounted
  sleeping j hj := by
    show ((p.pool.setPc i pc).workers j).pc = .waiting
    rw [setPc_pc, if_neg]
    · exact h.sleeping j hj
    · rintro rfl
      rw [hi] at hj
      cases hj
  tokens hat j := by
    show ((p.pool.setPc i pc).workers j).stopRequested = false
    rw [setPc_stopRequested]
    exact h.tokens hat j
  told := h.told
  enough j hj := by
    have hlooking := total_setPc p looks i pc tasks ran
    rw [hi] at hlooking
    have hbefore := h.enough j hj
    rw [WaitingPool.looking] at hbefore ⊢
    rcases henough j hj with hle | rfl
    · show tasks.length ≤ p.notifying + _
      omega
    · exact Nat.zero_le _

/-- Somebody may wake up at any time, with a notification or without. -/
theorem Wakeful.wake (h : Wakeful p) {i : Fin n} (hi : p.asleep i = true) {k : ℕ}
    (hk : p.notifying ≤ k + 1) :
    Wakeful { p with asleep := update p.asleep i false, notifying := k } where
  accounted := h.accounted
  sleeping j hj := by
    have hasleep : update p.asleep i false j = true := hj
    rw [update_apply] at hasleep
    split at hasleep
    · cases hasleep
    · exact h.sleeping j hasleep
  tokens := h.tokens
  told hidle hnotify j := by
    have hawake := h.told hidle hnotify i
    rw [hi] at hawake
    cases hawake
  enough j _ := by
    have hlooking := total_asleep p looks i false k
    rw [hi, h.sleeping i hi] at hlooking
    have hone : looks false .waiting = 1 := rfl
    have hzero : looks true .waiting = 0 := rfl
    have hbefore := h.enough i hi
    rw [WaitingPool.looking] at hbefore ⊢
    show p.pool.tasks.length ≤ k + _
    omega

/-- With a task comes a notification. -/
theorem Wakeful.push (h : Wakeful p)
    (haccounted : Accounted { p.pool with
      tasks := p.pool.tasks ++ [p.pool.enqueued], enqueued := p.pool.enqueued + 1 }) :
    Wakeful { p with
      pool := { p.pool with
        tasks := p.pool.tasks ++ [p.pool.enqueued], enqueued := p.pool.enqueued + 1 }
      notifying := p.notifying + 1 } := by
  refine ⟨haccounted, h.sleeping, h.tokens, h.told, fun i hi => ?_⟩
  have hbefore := h.enough i hi
  show (p.pool.tasks ++ [p.pool.enqueued]).length ≤ p.notifying + 1 + p.looking
  rw [List.length_append, List.length_singleton]
  omega

/-- Only where the queue is empty and nobody has called `StopAll` does a worker fall asleep. -/
theorem Wakeful.sleep (h : Wakeful p) {i : Fin n} (hfinds : p.Finds i) :
    Wakeful { p with asleep := update p.asleep i true } := by
  obtain ⟨hpc, -, htasks, hstop⟩ := hfinds
  refine ⟨h.accounted, fun j hj => ?_, h.tokens, fun hidle hnotify j => ?_, fun j _ => ?_⟩
  · have hasleep : update p.asleep i true j = true := hj
    rw [update_apply] at hasleep
    split at hasleep
    · next hji => rw [hji]; exact hpc
    · exact h.sleeping j hasleep
  · rw [h.accounted.stopped hidle] at hstop
    cases hstop
  · show p.pool.tasks.length ≤ _
    rw [htasks]
    exact Nat.zero_le _

/-- Once all have been woken, nothing that `StopAll` does puts anybody to sleep. -/
theorem Wakeful.woken (h : Wakeful p) {pool : Pool n}
    (haccounted : Accounted pool) (hidle : p.pool.stopAll ≠ .idle)
    (hnotify : p.pool.stopAll ≠ .notify) (hlater : pool.stopAll ≠ .idle ∧ pool.stopAll ≠ .notify) :
    Wakeful { p with
      pool := pool, asleep := if p.pool.stopAll = .notify then fun _ => false else p.asleep } := by
  have hawake := h.told hidle hnotify
  rw [if_neg hnotify]
  refine ⟨haccounted, fun i hi => ?_, fun hearly => ?_, fun _ _ => hawake, fun i hi => ?_⟩
  · exact absurd hi (by simp [hawake i])
  · exact absurd hearly (by simp [hlater])
  · exact absurd hi (by simp [hawake i])

/-- **Every step keeps it.** -/
theorem wakeful_step (h : Wakeful p) (hstep : p.step a = some p') : Wakeful p' := by
  have haccounted := accounted_waiting_step h.accounted hstep
  cases waitStep_of_step hstep with
  | push pool hpool =>
      have hp := enqueue_eq hpool
      subst hp
      exact h.push haccounted
  | notify i hsome hi => exact h.wake hi (by omega)
  | notifyNobody hsome hawake =>
      refine ⟨haccounted, h.sleeping, h.tokens, h.told, fun i hi => ?_⟩
      rw [hawake i] at hi
      cases hi
  | sleep i hi hfinds =>
      exact h.sleep hfinds
  | worker i pool hi hfinds hpool =>
      cases poolStep_of_step hpool with
      | goOn _ hpc htoken =>
          refine h.move hi haccounted fun _ _ => Or.inl ?_
          rw [hpc]
          exact le_rfl
      | leaveByToken _ hpc htoken =>
          refine h.move hi haccounted fun j hj => ?_
          -- the token says that all have been woken
          have hidle : p.pool.stopAll ≠ .idle := fun hat => by
            rw [h.tokens (.inl hat) i] at htoken
            cases htoken
          have hnotify : p.pool.stopAll ≠ .notify := fun hat => by
            rw [h.tokens (.inr hat) i] at htoken
            cases htoken
          rw [h.told hidle hnotify j] at hj
          cases hj
      | wake _ hpc hfree =>
          refine h.move hi haccounted fun _ _ => Or.inl ?_
          rw [hpc]
          exact le_rfl
      | leaveEmpty _ hpc htasks hstop => exact h.move hi haccounted fun _ _ => Or.inr htasks
      | take _ hpc task tasks htasks =>
          refine h.move hi haccounted fun _ _ => Or.inl ?_
          rw [hpc, htasks, List.length_cons]
          exact le_rfl
      | finish _ task hpc =>
          refine h.move hi haccounted fun _ _ => Or.inl ?_
          rw [hpc]
          exact Nat.le_succ _
  | spurious i hi => exact h.wake hi (Nat.le_succ _)
  | stopAll pool hpool =>
      cases poolStep_of_step hpool with
      | setStop hidle hfree =>
          have hnot : p.pool.stopAll ≠ .notify := by simp [hidle]
          simp only [if_neg hnot] at haccounted ⊢
          exact ⟨haccounted, h.sleeping, fun _ => h.tokens (.inl hidle),
            fun _ hnotify => absurd rfl hnotify, h.enough⟩
      | notify hat =>
          simp only [if_pos hat] at haccounted ⊢
          exact ⟨haccounted, fun i hi => absurd hi (by simp), fun hearly => absurd hearly (by simp),
            fun _ _ _ => rfl, fun i hi => absurd hi (by simp)⟩
      | request i hat => exact h.woken haccounted (by simp [hat]) (by simp [hat]) (by simp)
      | requested i hat => exact h.woken haccounted (by simp [hat]) (by simp [hat]) (by simp)
      | join i hat hleft => exact h.woken haccounted (by simp [hat]) (by simp [hat]) (by simp)
      | joined i hat hi => exact h.woken haccounted (by simp [hat]) (by simp [hat]) (by simp)

/-- In every reachable state, **while a worker is asleep, no more tasks are queued than workers are
about to look at the queue and notifications are still to come**. -/
theorem no_lost_wakeup (n : ℕ) (as : List (WaitAction n)) :
    Runs.Throughout WaitingPool.step
      (fun p => ∀ i, p.asleep i = true → p.pool.tasks.length ≤ p.notifying + p.looking)
      (.init n) as :=
  (Runs.throughout_of_step (fun _ _ _ h hstep => wakeful_step h hstep) (wakeful_init n)).mono
    fun _ h => h.enough

/-! ### Who holds the lock -/

/-- At most one worker holds the lock, and it has found something to do. -/
structure Holder (p : Pool n) : Prop where
  alone : ∀ i j, (p.workers i).pc = .locked → (p.workers j).pc = .locked → i = j
  work : ∀ i, (p.workers i).pc = .locked → p.tasks ≠ [] ∨ p.stop = true

theorem holder_init (n : ℕ) : Holder (Pool.init n) where
  alone i j hi := absurd hi (by simp [Pool.init])
  work i hi := absurd hi (by simp [Pool.init])

/-- Nobody who does not hold the lock already comes to hold it. -/
theorem Holder.mono {q q' : Pool n} (h : Holder q)
    (hlocked : ∀ i, (q'.workers i).pc = .locked →
      (q.workers i).pc = .locked ∧ q'.tasks = q.tasks ∧ q'.stop = q.stop) : Holder q' where
  alone i j hi hj := h.alone i j (hlocked i hi).1 (hlocked j hj).1
  work i hi := by
    obtain ⟨hold, htasks, hstop⟩ := hlocked i hi
    rw [htasks, hstop]
    exact h.work i hold

theorem holder_step {q q' : Pool n} {b : PoolAction n} (h : Holder q) (hstep : q.step b = some q') :
    Holder q' := by
  have hmoved : ∀ {i j : Fin n} {pc : WorkerPc}, pc ≠ .locked →
      ((q.setPc i pc).workers j).pc = .locked → j ≠ i ∧ (q.workers j).pc = .locked := by
    intro i j pc hpc hj
    rw [setPc_pc] at hj
    split at hj
    · exact absurd hj hpc
    · next hji => exact ⟨hji, hj⟩
  cases poolStep_of_step hstep with
  | enqueue hfree => exact h.mono fun i hi => absurd hi (hfree i)
  | goOn i hpc htoken => exact h.mono fun j hj => ⟨(hmoved (by simp) hj).2, rfl, rfl⟩
  | leaveByToken i hpc htoken => exact h.mono fun j hj => ⟨(hmoved (by simp) hj).2, rfl, rfl⟩
  | wake i hpc hfree =>
      have honly : ∀ j, ((q.setPc i .locked).workers j).pc = .locked → j = i := by
        intro j hj
        by_contra hji
        rw [setPc_pc, if_neg hji] at hj
        exact hfree j hj
      rw [Pool.step, Pool.workerStep, hpc] at hstep
      obtain ⟨⟨-, hwork⟩, -⟩ := Option.ite_none_right_eq_some.1 hstep
      exact ⟨fun j k hj hk => (honly j hj).trans (honly k hk).symm, fun _ _ => hwork⟩
  | leaveEmpty i hpc htasks hstop => exact h.mono fun j hj => ⟨(hmoved (by simp) hj).2, rfl, rfl⟩
  | take i hpc task tasks htasks =>
      -- the one worker that holds the lock lets go of it
      refine h.mono fun j hj => ?_
      obtain ⟨hji, hj⟩ := hmoved (by simp) hj
      exact absurd (h.alone j i hj hpc) hji
  | finish i task hpc => exact h.mono fun j hj => ⟨(hmoved (by simp) hj).2, rfl, rfl⟩
  | setStop hidle hfree => exact h.mono fun i hi => absurd hi (hfree i)
  | request i hat => exact h.mono fun j hj => ⟨(request_pc q.workers i j).symm.trans hj, rfl, rfl⟩
  | _ => exact h.mono fun j hj => ⟨hj, rfl, rfl⟩

/-- What holds in every reachable state. -/
def Sound (p : WaitingPool n) : Prop := Wakeful p ∧ Holder p.pool

theorem sound_waiting_init (n : ℕ) : Sound (WaitingPool.init n) := ⟨wakeful_init n, holder_init n⟩

theorem sound_waiting_step (h : Sound p) (hstep : p.step a = some p') : Sound p' :=
  ⟨wakeful_step h.1 hstep,
    pool_invariant (fun _ _ _ hq hpool => holder_step hq hpool) h.2 hstep⟩

theorem sound_of_run {as : List (WaitAction n)}
    (hrun : Runs.exec WaitingPool.step (.init n) as = some p) : Sound p :=
  Runs.invariant (fun _ _ _ h hstep => sound_waiting_step h hstep) (sound_waiting_init n) hrun

/-- A worker that is awake, and neither in a task nor gone, can move as soon as nobody else holds
the lock; and whoever holds it can move. -/
theorem can_move (h : Sound p) {i : Fin n} (hi : p.asleep i = false)
    (hrunning : ∀ task, (p.pool.workers i).pc ≠ .running task)
    (hleft : (p.pool.workers i).pc ≠ .left) :
    ∃ j, (∀ task, (p.pool.workers j).pc ≠ .running task) ∧ (p.step (.worker j)).isSome := by
  have hlocked : ∀ j, (p.pool.workers j).pc = .locked →
      (∀ task, (p.pool.workers j).pc ≠ .running task) ∧ (p.step (.worker j)).isSome := by
    intro j hj
    have hawake : ¬ p.asleep j = true := fun hasleep => by
      rw [h.1.sleeping j hasleep] at hj
      cases hj
    have hfinds : ¬ p.Finds j := fun hfinds => by
      rw [hfinds.1] at hj
      cases hj
    refine ⟨by simp [hj], ?_⟩
    rw [WaitingPool.step, if_neg hawake, if_neg hfinds, Option.isSome_map, Pool.step,
      Pool.workerStep, hj]
    cases htasks : p.pool.tasks with
    | cons task tasks => rfl
    | nil =>
        have hstop := (h.2.work j hj).resolve_left (not_not.2 htasks)
        simp [hstop]
  have hawake : ¬ p.asleep i = true := by simp [hi]
  cases hpc : (p.pool.workers i).pc with
  | test =>
      have hfinds : ¬ p.Finds i := fun hfinds => by
        rw [hfinds.1] at hpc
        cases hpc
      refine ⟨i, hrunning, ?_⟩
      rw [WaitingPool.step, if_neg hawake, if_neg hfinds, Option.isSome_map, Pool.step,
        Pool.workerStep, hpc]
      rfl
  | waiting =>
      by_cases hfree : p.pool.Free
      · refine ⟨i, hrunning, ?_⟩
        rw [WaitingPool.step, if_neg hawake]
        split
        · rfl
        · next hfinds =>
          have hwork : p.pool.tasks ≠ [] ∨ p.pool.stop = true := by
            by_contra hnone
            obtain ⟨htasks, hstop⟩ := not_or.1 hnone
            exact hfinds ⟨hpc, hfree, not_not.1 htasks, Bool.eq_false_iff.2 hstop⟩
          rw [Option.isSome_map, Pool.step, Pool.workerStep, hpc]
          exact Option.isSome_iff_exists.2 ⟨_, if_pos ⟨hfree, hwork⟩⟩
      · obtain ⟨j, hj⟩ := not_forall.1 hfree
        exact ⟨j, hlocked j (not_not.1 hj)⟩
  | locked => exact ⟨i, hlocked i hpc⟩
  | running task => exact absurd hpc (hrunning task)
  | left => exact absurd hpc hleft

/-! ### The pool comes to rest -/

/-- The steps of the pool itself: notifications that are to come, and workers that are not in a
task. -/
def WaitingPool.Own (p : WaitingPool n) : WaitAction n → Prop
  | .notifyOne _ => True
  | .worker i => ∀ task, (p.pool.workers i).pc ≠ .running task
  | _ => False

/-- The worker is in a task. -/
def WorkerPc.inTask : WorkerPc → Bool
  | .running _ => true
  | _ => false

theorem WorkerPc.inTask_eq_false_iff (pc : WorkerPc) :
    pc.inTask = false ↔ ∀ task, pc ≠ .running task := by
  cases pc <;> simp [WorkerPc.inTask]

instance (p : WaitingPool n) : ∀ a, Decidable (p.Own a)
  | .notifyOne _ => inferInstanceAs (Decidable True)
  | .worker i => decidable_of_iff _ (WorkerPc.inTask_eq_false_iff (p.pool.workers i).pc)
  | .push | .spurious _ | .stopAll => inferInstanceAs (Decidable False)

/-- How many steps a worker is away from sleeping, running or leaving. -/
def toRest (asleep : Bool) : WorkerPc → ℕ
  | .test => 3
  | .waiting => if asleep then 0 else 2
  | .locked => 1
  | .running _ | .left => 0

/-- No more steps of its own are left to the pool than this. -/
def WaitingPool.unrest (p : WaitingPool n) : ℕ := 3 * p.notifying + p.total toRest

/-- A worker that moves is nearer to rest. -/
theorem unrest_move_lt {i : Fin n} (hi : p.asleep i = false) {pc : WorkerPc} {tasks ran : List ℕ}
    (hlt : toRest false pc < toRest false (p.pool.workers i).pc) :
    WaitingPool.unrest
        { p with pool := { p.pool.setPc i pc with tasks := tasks, ran := ran } } <
      p.unrest := by
  have htotal := total_setPc p toRest i pc tasks ran
  rw [hi] at htotal
  rw [WaitingPool.unrest, WaitingPool.unrest]
  show 3 * p.notifying + _ < _
  omega

/-- **Every step of its own brings the pool nearer to rest.** -/
theorem unrest_lt (h : Sound p) (hown : p.Own a) (hstep : p.step a = some p') :
    p'.unrest < p.unrest := by
  cases waitStep_of_step hstep with
  | notify i hsome hi =>
      have htotal := total_asleep p toRest i false (p.notifying - 1)
      rw [hi, h.1.sleeping i hi] at htotal
      have hold : toRest true .waiting = 0 := rfl
      have hnew : toRest false .waiting = 2 := rfl
      rw [WaitingPool.unrest, WaitingPool.unrest]
      show 3 * (p.notifying - 1) + _ < _
      omega
  | notifyNobody hsome hawake =>
      rw [WaitingPool.unrest, WaitingPool.unrest]
      show 3 * (p.notifying - 1) + p.total toRest < _
      omega
  | sleep i hi hfinds =>
      have htotal := total_asleep p toRest i true p.notifying
      rw [hi, hfinds.1] at htotal
      have hold : toRest false .waiting = 2 := rfl
      have hnew : toRest true .waiting = 0 := rfl
      rw [WaitingPool.unrest, WaitingPool.unrest]
      show 3 * p.notifying + _ < _
      omega
  | worker i pool hi hfinds hpool =>
      cases poolStep_of_step hpool with
      | goOn _ hpc htoken => exact unrest_move_lt hi (by rw [hpc]; decide)
      | leaveByToken _ hpc htoken => exact unrest_move_lt hi (by rw [hpc]; decide)
      | wake _ hpc hfree => exact unrest_move_lt hi (by rw [hpc]; decide)
      | leaveEmpty _ hpc htasks hstop => exact unrest_move_lt hi (by rw [hpc]; decide)
      | take _ hpc task tasks htasks =>
          refine unrest_move_lt hi ?_
          rw [hpc]
          exact Nat.zero_lt_one
      | finish _ task hpc => exact absurd hpc (hown task)
  | push pool hpool => exact absurd hown id
  | spurious i hi => exact absurd hown id
  | stopAll pool hpool => exact absurd hown id

/-- From any state with these many workers and notifications. -/
theorem unrest_le (p : WaitingPool n) : p.unrest ≤ 3 * (p.notifying + n) := by
  have hworker : ∀ i, toRest (p.asleep i) (p.pool.workers i).pc ≤ 3 := by
    intro i
    cases (p.pool.workers i).pc <;> cases p.asleep i <;> simp [toRest]
  have htotal := Finset.sum_le_card_nsmul Finset.univ
    (fun i => toRest (p.asleep i) (p.pool.workers i).pc) 3 fun i _ => hworker i
  rw [Finset.card_univ, Fintype.card_fin, smul_eq_mul] at htotal
  have hdef : p.total toRest = ∑ i, toRest (p.asleep i) (p.pool.workers i).pc := rfl
  rw [WaitingPool.unrest]
  omega

/-- Where the pool has no step of its own, a task is queued only if every worker is in a task or
gone. -/
theorem rested (h : Sound p) (hrest : ∀ b, p.Own b → p.step b = none) :
    p.pool.tasks = [] ∨
      ∀ i, (∃ task, (p.pool.workers i).pc = .running task) ∨ (p.pool.workers i).pc = .left := by
  -- no notification is to come, since it could be given
  have hnotifying : p.notifying = 0 := by
    by_contra hsome
    have hpos : 0 < p.notifying := Nat.pos_of_ne_zero hsome
    by_cases hnobody : ∀ i, p.asleep i = false
    · have hnone := hrest (.notifyOne none) trivial
      rw [WaitingPool.step, if_pos ⟨hpos, hnobody⟩] at hnone
      cases hnone
    · obtain ⟨i, hi⟩ := not_forall.1 hnobody
      have hnone := hrest (.notifyOne (some i)) trivial
      rw [WaitingPool.step, if_pos ⟨hpos, by simpa using hi⟩] at hnone
      cases hnone
  -- and every worker that is awake is in a task or gone, since it could move
  have hbusy : ∀ i, p.asleep i = false →
      (∃ task, (p.pool.workers i).pc = .running task) ∨ (p.pool.workers i).pc = .left := by
    intro i hi
    by_contra hidle
    obtain ⟨hrunning, hleft⟩ := not_or.1 hidle
    obtain ⟨j, hj, hsome⟩ := can_move h hi (not_exists.1 hrunning) hleft
    rw [hrest (.worker j) hj] at hsome
    cases hsome
  by_cases hasleep : ∃ i, p.asleep i = true
  · obtain ⟨i, hi⟩ := hasleep
    have hlooking : p.looking = 0 := by
      rw [WaitingPool.looking, WaitingPool.total]
      refine Finset.sum_eq_zero fun j _ => ?_
      cases hj : p.asleep j with
      | true =>
          rw [h.1.sleeping j hj]
          rfl
      | false =>
          rcases hbusy j hj with ⟨task, htask⟩ | hleft
          · rw [htask]
            rfl
          · rw [hleft]
            rfl
    have henough := h.1.enough i hi
    rw [hnotifying, hlooking] at henough
    exact Or.inl (List.length_eq_zero_iff.1 (Nat.le_zero.1 henough))
  · refine Or.inr fun i => hbusy i ?_
    rw [Bool.eq_false_iff]
    exact fun hi => hasleep ⟨i, hi⟩

/-- **Left alone, the pool comes to rest**: from any reachable state, it has at most three steps of
its own for each worker and each notification that is to come, and when it has none left, a task is
queued only if every worker is in a task or gone. -/
theorem pool_settles {as bs : List (WaitAction n)} {p q : WaitingPool n}
    (hrun : Runs.exec WaitingPool.step (.init n) as = some p)
    (hown : Runs.Along WaitingPool.step WaitingPool.Own p bs)
    (hrest : Runs.exec WaitingPool.step p bs = some q) :
    bs.length ≤ 3 * (p.notifying + n) ∧
      ((∀ b, q.Own b → q.step b = none) → q.pool.tasks = [] ∨
        ∀ i, (∃ task, (q.pool.workers i).pc = .running task) ∨ (q.pool.workers i).pc = .left) := by
  have hp := sound_of_run hrun
  refine ⟨?_, rested (Runs.invariant (fun _ _ _ h hstep => sound_waiting_step h hstep) hp hrest)⟩
  have hlength := Runs.length_add_le_of_along (μ := WaitingPool.unrest)
    (fun _ _ _ h _ hstep => sound_waiting_step h hstep)
    (fun _ _ _ h hown hstep => unrest_lt h hown hstep) hp hown hrest
  have hbound := unrest_le p
  omega

/-- A worker falls asleep, and then a task is queued. -/
def taskForSleeper (i : Fin n) : List (WaitAction n) := [.worker i, .worker i, .push]

/-- The sleeper is woken and takes the task, and the other worker falls asleep. -/
def sleeperTakes (i j : Fin n) : List (WaitAction n) :=
  [.notifyOne (some i), .worker i, .worker i, .worker j, .worker j]

/-- With no notification to come, nobody can be notified. -/
theorem step_notifyOne_of_none (hnone : p.notifying = 0) (woken : Option (Fin n)) :
    p.step (.notifyOne woken) = none := by
  cases woken <;> exact if_neg fun h => absurd h.1 (by omega)

theorem pool_settles_one_task :
    ∃ p q, Runs.exec WaitingPool.step (.init 2) (taskForSleeper 0) = some p ∧
      Runs.exec WaitingPool.step p (sleeperTakes 0 1) = some q ∧
      (sleeperTakes (0 : Fin 2) 1).length ≤ 3 * (p.notifying + 2) ∧ q.notifying = 0 ∧
      (∀ i, q.Own (.worker i) → q.step (.worker i) = none) ∧ (q.pool.tasks = [] ∨
        ∀ i, (∃ task, (q.pool.workers i).pc = .running task) ∨ (q.pool.workers i).pc = .left) := by
  have hown : ∀ p ∈ Runs.exec WaitingPool.step (.init 2) (taskForSleeper 0),
      Runs.Along WaitingPool.step WaitingPool.Own p (sleeperTakes 0 1) := by decide
  have hruns : ((Runs.exec WaitingPool.step (.init 2) (taskForSleeper 0)).bind
      fun p => Runs.exec WaitingPool.step p (sleeperTakes 0 1)).isSome := by decide
  -- where the run ends, no step of the pool's own is left
  have hend : ∀ p ∈ Runs.exec WaitingPool.step (.init 2) (taskForSleeper 0),
      ∀ q ∈ Runs.exec WaitingPool.step p (sleeperTakes 0 1),
        q.notifying = 0 ∧ ∀ i, q.Own (.worker i) → q.step (.worker i) = none := by decide
  obtain ⟨q, hq⟩ := Option.isSome_iff_exists.1 hruns
  obtain ⟨p, hp, hq⟩ := Option.bind_eq_some_iff.1 hq
  obtain ⟨hnotifying, hworkers⟩ := hend p hp q hq
  obtain ⟨hlength, hrested⟩ := pool_settles hp (hown p hp) hq
  refine ⟨p, q, hp, hq, hlength, hnotifying, hworkers, hrested fun b hb => ?_⟩
  cases b with
  | notifyOne woken => exact step_notifyOne_of_none hnotifying woken
  | worker i => exact hworkers i hb
  | push | spurious | stopAll => exact hb.elim

/-! ### `StopAll` returns -/

/-- How many steps a worker makes until it leaves, once `m_Stop` is set and if it takes no task
before. -/
def toLeave (asleep : Bool) : WorkerPc → ℕ
  | .running _ => 6
  | .test => 5
  | .waiting => if asleep then 4 else 3
  | .locked => 2
  | .left => 0

/-- How many steps are left to `StopAll` itself. -/
def StopAllPc.toReturn (n : ℕ) : StopAllPc → ℕ
  | .idle => 2 * n + 5
  | .notify => 2 * n + 4
  | .request i => n + 3 + (n - i)
  | .join i => 2 + (n - i)
  | .returned => 0

/-- Once `m_Stop` is set, no more steps than this are left: five for each task in the queue, which
somebody may still take, besides those of the workers, of the notifications and of `StopAll`. -/
def WaitingPool.toStop (p : WaitingPool n) : ℕ :=
  5 * p.pool.tasks.length + p.total toLeave + p.notifying + p.pool.stopAll.toReturn n

/-- Waking everybody brings nobody further away from leaving. -/
theorem total_toLeave_le (p : WaitingPool n) :
    WaitingPool.total { p with asleep := fun _ => false } toLeave ≤ p.total toLeave := by
  refine Finset.sum_le_sum fun i _ => ?_
  cases (p.pool.workers i).pc <;> cases p.asleep i <;> simp [toLeave]

theorem stop_step (hstop : p.pool.stop = true)
    (hstep : p.step a = some p') : p'.pool.stop = true := by
  refine pool_invariant (P := fun q => q.stop = true) ?_ hstop hstep
  intro q b q' hq hb
  cases hpool : q'.stop with
  | true => rfl
  | false =>
      cases poolStep_of_step hb <;>
        first | cases hpool | exact absurd (hq.symm.trans hpool) (by simp)

/-- A worker that wakes up, with a notification or without, has a step less to make. -/
theorem toStop_wake_lt (h : Wakeful p) {i : Fin n} (hi : p.asleep i = true) {k : ℕ}
    (hk : k ≤ p.notifying) :
    WaitingPool.toStop { p with asleep := update p.asleep i false, notifying := k } <
      p.toStop := by
  have htotal := total_asleep p toLeave i false k
  rw [hi, h.sleeping i hi] at htotal
  have hold : toLeave true .waiting = 4 := rfl
  have hnew : toLeave false .waiting = 3 := rfl
  rw [WaitingPool.toStop, WaitingPool.toStop]
  show 5 * p.pool.tasks.length + _ + k + p.pool.stopAll.toReturn n < _
  omega

/-- A worker that moves pays with its own steps, or with the task that it takes. -/
theorem toStop_move_lt {i : Fin n} (hi : p.asleep i = false) {pc : WorkerPc} {tasks ran : List ℕ}
    (hlt : 5 * tasks.length + toLeave false pc <
      5 * p.pool.tasks.length + toLeave false (p.pool.workers i).pc) :
    WaitingPool.toStop
        { p with pool := { p.pool.setPc i pc with tasks := tasks, ran := ran } } <
      p.toStop := by
  have htotal := total_setPc p toLeave i pc tasks ran
  rw [hi] at htotal
  rw [WaitingPool.toStop, WaitingPool.toStop]
  show 5 * tasks.length + _ + p.notifying + p.pool.stopAll.toReturn n < _
  omega

/-- A step of `StopAll` that wakes nobody is one less for `StopAll`. -/
theorem toStop_call_lt (hnotify : p.pool.stopAll ≠ .notify) {pool : Pool n}
    (hworkers : ∀ j, (pool.workers j).pc = (p.pool.workers j).pc)
    (htasks : pool.tasks = p.pool.tasks)
    (hlt : pool.stopAll.toReturn n < p.pool.stopAll.toReturn n) :
    WaitingPool.toStop
        { p with
          pool := pool
          asleep := if p.pool.stopAll = .notify then fun _ => false else p.asleep } <
      p.toStop := by
  have htotal : WaitingPool.total
      { p with
        pool := pool
        asleep := if p.pool.stopAll = .notify then fun _ => false else p.asleep } toLeave =
      p.total toLeave := by
    refine Finset.sum_congr rfl fun j _ => ?_
    rw [if_neg hnotify, hworkers j]
  rw [WaitingPool.toStop, WaitingPool.toStop, htotal]
  show 5 * pool.tasks.length + _ + p.notifying + pool.stopAll.toReturn n < _
  rw [htasks]
  omega

/-- **Every step but `Enqueue` brings `StopAll` nearer to its return.** -/
theorem toStop_lt (h : Sound p) (hstop : p.pool.stop = true) (ha : a ≠ .push)
    (hstep : p.step a = some p') : p'.toStop < p.toStop := by
  cases waitStep_of_step hstep with
  | push pool hpool => exact absurd rfl ha
  | notify i hsome hi => exact toStop_wake_lt h.1 hi (Nat.sub_le _ _)
  | notifyNobody hsome hawake =>
      rw [WaitingPool.toStop, WaitingPool.toStop]
      show 5 * p.pool.tasks.length + p.total toLeave + (p.notifying - 1) +
        p.pool.stopAll.toReturn n < _
      omega
  | sleep i hi hfinds =>
      rw [hfinds.2.2.2] at hstop
      cases hstop
  | spurious i hi => exact toStop_wake_lt h.1 hi le_rfl
  | worker i pool hi hfinds hpool =>
      cases poolStep_of_step hpool with
      | goOn _ hpc htoken => exact toStop_move_lt hi (by rw [hpc]; simp [toLeave])
      | leaveByToken _ hpc htoken => exact toStop_move_lt hi (by rw [hpc]; simp [toLeave])
      | wake _ hpc hfree => exact toStop_move_lt hi (by rw [hpc]; simp [toLeave])
      | leaveEmpty _ hpc htasks hstop => exact toStop_move_lt hi (by rw [hpc]; simp [toLeave])
      | take _ hpc task tasks htasks =>
          -- a task is worth the steps that the worker makes behind it
          refine toStop_move_lt hi ?_
          rw [hpc, htasks, List.length_cons]
          simp only [toLeave]
          omega
      | finish _ task hpc => exact toStop_move_lt hi (by rw [hpc]; simp [toLeave])
  | stopAll pool hpool =>
      cases poolStep_of_step hpool with
      | setStop hidle hfree =>
          rw [h.1.accounted.idle hidle] at hstop
          cases hstop
      | notify hat =>
          have hwoken := total_toLeave_le p
          rw [WaitingPool.toStop, WaitingPool.toStop]
          simp only [hat, if_true, StopAllPc.toReturn]
          show 5 * p.pool.tasks.length + WaitingPool.total { p with asleep := fun _ => false }
            toLeave + p.notifying + _ < _
          omega
      | request i hat =>
          refine toStop_call_lt (by simp [hat]) (request_pc p.pool.workers i) rfl ?_
          have hi := i.isLt
          simp only [hat, StopAllPc.toReturn]
          omega
      | requested i hat =>
          refine toStop_call_lt (by simp [hat]) (fun _ => rfl) rfl ?_
          simp only [hat, StopAllPc.toReturn]
          omega
      | join i hat hleft =>
          refine toStop_call_lt (by simp [hat]) (fun _ => rfl) rfl ?_
          have hi := i.isLt
          simp only [hat, StopAllPc.toReturn]
          omega
      | joined i hat hi =>
          refine toStop_call_lt (by simp [hat]) (fun _ => rfl) rfl ?_
          simp only [hat, StopAllPc.toReturn]
          omega

/-- Where nothing can move but `Enqueue` and a worker that wakes up for no reason, `StopAll` has
returned. -/
theorem returned_of_stuck (h : Sound p) (hstop : p.pool.stop = true)
    (hstuck : ∀ b, b ≠ .push → (∀ i, b ≠ .spurious i) → p.step b = none) :
    p.pool.stopAll = .returned := by
  have hcall : p.pool.stopAllStep = none := by
    have hnone := hstuck .stopAll (by simp) (by simp)
    rw [WaitingPool.step, Option.map_eq_none_iff] at hnone
    exact hnone
  rw [Pool.stopAllStep] at hcall
  cases hat : p.pool.stopAll with
  | idle =>
      rw [h.1.accounted.idle hat] at hstop
      cases hstop
  | notify =>
      rw [hat] at hcall
      cases hcall
  | request i =>
      simp only [hat] at hcall
      split at hcall <;> cases hcall
  | join i =>
      simp only [hat] at hcall
      split at hcall
      · next hi =>
        -- the worker that is waited for can move, or another one that has the lock
        have hleft : (p.pool.workers ⟨i, hi⟩).pc ≠ .left := fun hleft => by
          rw [if_pos hleft] at hcall
          cases hcall
        have hawake : p.asleep ⟨i, hi⟩ = false := h.1.told (by simp [hat]) (by simp [hat]) _
        by_cases hrunning : ∀ task, (p.pool.workers ⟨i, hi⟩).pc ≠ .running task
        · obtain ⟨j, -, hsome⟩ := can_move h hawake hrunning hleft
          rw [hstuck (.worker j) (by simp) (by simp)] at hsome
          cases hsome
        · obtain ⟨task, htask⟩ := not_forall.1 hrunning
          have hpc := not_not.1 htask
          have hnone := hstuck (.worker ⟨i, hi⟩) (by simp) (by simp)
          have hfinds : ¬ p.Finds ⟨i, hi⟩ := fun hfinds => by
            rw [hfinds.1] at hpc
            cases hpc
          rw [WaitingPool.step, hawake, if_neg (by simp), if_neg hfinds, Option.map_eq_none_iff,
            Pool.step, Pool.workerStep, hpc] at hnone
          cases hnone
      · cases hcall
  | returned => rfl

/-- **Once `m_Stop` is set, `StopAll` returns if the tasks do**: whatever the order of the steps,
there is a bound on their number as long as nothing is enqueued, and when no step is left,
`StopAll` has returned and every worker is gone. -/
theorem stopAll_returns {as bs : List (WaitAction n)} {p q : WaitingPool n}
    (hrun : Runs.exec WaitingPool.step (.init n) as = some p) (hstop : p.pool.stop = true)
    (hpush : ∀ b ∈ bs, b ≠ .push) (hrest : Runs.exec WaitingPool.step p bs = some q) :
    bs.length ≤ p.toStop ∧
      ((∀ b, b ≠ .push → (∀ i, b ≠ .spurious i) → q.step b = none) →
        q.pool.stopAll = .returned ∧ ∀ i, (q.pool.workers i).pc = .left) := by
  have hp := sound_of_run hrun
  have hq := Runs.invariant (fun _ _ _ h hstep => sound_waiting_step h hstep) hp hrest
  have hJ : ∀ (p : WaitingPool n) a p', (Sound p ∧ p.pool.stop = true) → p.step a = some p' →
      Sound p' ∧ p'.pool.stop = true :=
    fun p a p' h hstep => ⟨sound_waiting_step h.1 hstep, stop_step h.2 hstep⟩
  have hqstop := Runs.invariant hJ ⟨hp, hstop⟩ hrest
  refine ⟨?_, fun hstuck => ?_⟩
  · have hlength := Runs.length_add_le_of_along (μ := WaitingPool.toStop)
      (C := fun _ b => b ≠ .push) (fun p a p' h _ hstep => hJ p a p' h hstep)
      (fun _ _ _ h ha hstep => toStop_lt h.1 h.2 ha hstep) ⟨hp, hstop⟩
      (Runs.along_of_forall hpush) hrest
    omega
  · have hreturned := returned_of_stuck hq hqstop.2 hstuck
    exact ⟨hreturned, hq.1.accounted.returned hreturned⟩

/-- `StopAll` wakes the one worker, tells it to stop, and waits until it has left. -/
def stopWorker (i : Fin n) : List (WaitAction n) :=
  [.stopAll, .stopAll, .stopAll, .worker i, .stopAll, .stopAll]

theorem stopAll_returns_one_worker :
    ∃ p q, Runs.exec WaitingPool.step (.init 1) [.stopAll] = some p ∧
      Runs.exec WaitingPool.step p (stopWorker 0) = some q ∧
      (stopWorker (0 : Fin 1)).length ≤ p.toStop ∧
      q.pool.stopAll = .returned ∧ ∀ i, (q.pool.workers i).pc = .left := by
  have hstop : ∀ p ∈ Runs.exec WaitingPool.step (.init 1) [.stopAll], p.pool.stop = true := by
    decide
  have hruns : ((Runs.exec WaitingPool.step (.init 1) [.stopAll]).bind
      fun p => Runs.exec WaitingPool.step p (stopWorker 0)).isSome := by decide
  -- where the run ends, neither the worker nor `StopAll` can go on
  have hend : ∀ p ∈ Runs.exec WaitingPool.step (.init 1) [.stopAll],
      ∀ q ∈ Runs.exec WaitingPool.step p (stopWorker 0),
        q.notifying = 0 ∧ (∀ i, q.step (.worker i) = none) ∧ q.step .stopAll = none := by decide
  obtain ⟨q, hq⟩ := Option.isSome_iff_exists.1 hruns
  obtain ⟨p, hp, hq⟩ := Option.bind_eq_some_iff.1 hq
  obtain ⟨hnotifying, hworkers, hcall⟩ := hend p hp q hq
  obtain ⟨hlength, hreturned⟩ := stopAll_returns hp (hstop p hp) (by decide) hq
  refine ⟨p, q, hp, hq, hlength, hreturned fun b hpush hspurious => ?_⟩
  cases b with
  | push => exact absurd rfl hpush
  | notifyOne woken => exact step_notifyOne_of_none hnotifying woken
  | worker i => exact hworkers i
  | spurious i => exact absurd rfl (hspurious i)
  | stopAll => exact hcall

end MpsEmulator
