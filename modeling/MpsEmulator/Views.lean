/-
**Programs that share a state, and what each of them owns of it.**

A program performs operations on a state that others change as well.  A *view* is what one of them
may rely on, views are added up, and a relation between views and states says which states are as a
sum of views has it.  An operation is safe for a view when it leaves, beside whatever the others
hold, a view that the rest of the program is safe for; the others take no part in that.

* `Prog` — a program as the tree of its operations, one branch for each answer;
* `alone` — a program that nobody interrupts;
* `Safe` — the program may be run with a view, and ends with a result and a view as promised;
* `Safe.bind`, `Safe.frame`, `Safe.mono` — how safe programs are put together, and that a view may
  be left aside;
* `Config`, `step` — threads that run blocks of code, one operation at a time and in any order; a
  block ends by naming the next one;
* `Verified` — every block is safe for the views it is entered with;
* `owned_throughout` — **in every state of a run of verified blocks the threads have views that add
  up to the state**.

The results a program relies on from outside (what the operations answer) are choices of the
environment, and a predicate says which of them are reckoned with.
-/

import MpsEmulator.Runs

set_option relaxedAutoImplicit false
set_option autoImplicit false

namespace Views

/-! ### Programs -/

/-- A program: it is done, or performs an operation and goes on with the answer. -/
inductive Prog (O : Type*) (A : O → Type*) (α : Type*)
  | done (a : α)
  | op (o : O) (next : A o → Prog O A α)

variable {O : Type*} {A : O → Type} {α β : Type}

namespace Prog

/-- One program after the other. -/
def bind : Prog O A α → (α → Prog O A β) → Prog O A β
  | done a, f => f a
  | op o next, f => op o fun x => (next x).bind f

instance : Monad (Prog O A) where
  pure := done
  bind := bind

/-- The program of one operation. -/
def perform (o : O) : Prog O A (A o) := op o done

/-- Doing nothing afterwards makes no difference. -/
theorem bind_done (c : Prog O A α) : c >>= done = c := by
  induction c with
  | done a => rfl
  | op o next ih => exact congrArg (op o) (funext ih)

end Prog

/-! ### Programs on their own -/

variable {W C V : Type*}

/-- The program performs its operations without others in between; each of them takes one of the
choices. -/
def alone (act : (o : O) → C → W → Option (A o × W)) :
    Prog O A α → List C → W → Option (α × W)
  | .done a, [], w => some (a, w)
  | .op o next, c :: cs, w => (act o c w).bind fun (x, w') => alone act (next x) cs w'
  | _, _, _ => none

/-! ### Safe programs -/

variable [AddCommMonoid V] {act : (o : O) → C → W → Option (A o × W)}
  {ok : C → Prop} {reify : V → W → Prop}

/-- The program may be run with the view `p`, whatever view the others have, and ends with a result
and a view of `Q`. -/
def Safe (act : (o : O) → C → W → Option (A o × W)) (ok : C → Prop) (reify : V → W → Prop)
    (Q : α → V → Prop) : Prog O A α → V → Prop
  | .done a, p => Q a p
  | .op o next, p => ∀ r w c x w', reify (p + r) w → ok c → act o c w = some (x, w') →
      ∃ p', reify (p' + r) w' ∧ Safe act ok reify Q (next x) p'

/-- What one operation does to a view, beside any other one. -/
def Does (act : (o : O) → C → W → Option (A o × W)) (ok : C → Prop) (reify : V → W → Prop)
    (o : O) (p : V) (Q : A o → V → Prop) : Prop :=
  ∀ r w c x w', reify (p + r) w → ok c → act o c w = some (x, w') →
    ∃ p', reify (p' + r) w' ∧ Q x p'

section Rules

variable {Q R : α → V → Prop} {T : β → V → Prop} {c : Prog O A α} {p : V}

theorem safe_done {a : α} (h : Q a p) : Safe act ok reify Q (.done a) p := h

theorem safe_op {o : O} {next : A o → Prog O A α} {P : A o → V → Prop}
    (ho : Does act ok reify o p P)
    (hnext : ∀ x p', P x p' → Safe act ok reify Q (next x) p') :
    Safe act ok reify Q (.op o next) p := by
  intro r w c x w' hw hc hact
  obtain ⟨p', hw', hp'⟩ := ho r w c x w' hw hc hact
  exact ⟨p', hw', hnext x p' hp'⟩

theorem safe_perform {o : O} {P : A o → V → Prop} (ho : Does act ok reify o p P) :
    Safe act ok reify P (.perform o) p := safe_op ho fun _ _ h => h

/-- A weaker promise is kept as well. -/
theorem Safe.mono (hQR : ∀ a p, Q a p → R a p) (h : Safe act ok reify Q c p) :
    Safe act ok reify R c p := by
  induction c generalizing p with
  | done a => exact hQR a p h
  | op o next ih =>
      intro r w c x w' hw hc hact
      obtain ⟨p', hw', hsafe⟩ := h r w c x w' hw hc hact
      exact ⟨p', hw', ih x hsafe⟩

/-- One program after the other is safe if the second one is, for what the first one ends with. -/
theorem Safe.bind {f : α → Prog O A β} (h : Safe act ok reify Q c p)
    (hf : ∀ a p', Q a p' → Safe act ok reify T (f a) p') : Safe act ok reify T (c >>= f) p := by
  induction c generalizing p with
  | done a => exact hf a p h
  | op o next ih =>
      intro r w c x w' hw hc hact
      obtain ⟨p', hw', hsafe⟩ := h r w c x w' hw hc hact
      exact ⟨p', hw', ih x hsafe⟩

/-- **The frame rule**: what a safe program does not need stays as it is. -/
theorem Safe.frame (v : V) (h : Safe act ok reify Q c p) :
    Safe act ok reify (fun a p' => ∃ q, Q a q ∧ p' = q + v) c (p + v) := by
  induction c generalizing p with
  | done a => exact ⟨p, h, rfl⟩
  | op o next ih =>
      intro r w c x w' hw hc hact
      rw [add_assoc] at hw
      obtain ⟨p', hw', hsafe⟩ := h (v + r) w c x w' hw hc hact
      rw [← add_assoc] at hw'
      exact ⟨p' + v, hw', ih x hsafe⟩

/-- The frame rule for one operation. -/
theorem Does.frame {o : O} {P : A o → V → Prop} (v : V) (h : Does act ok reify o p P) :
    Does act ok reify o (p + v) fun x p' => ∃ q, P x q ∧ p' = q + v := by
  intro r w c x w' hw hc hact
  rw [add_assoc] at hw
  obtain ⟨p', hw', hp'⟩ := h (v + r) w c x w' hw hc hact
  rw [← add_assoc] at hw'
  exact ⟨p' + v, hw', p', hp', rfl⟩

end Rules

/-! ### Threads -/

/-- The shared state, and the rest of the block that each thread is in, if it is in one. -/
structure Config (ι O : Type*) (A : O → Type) (L W : Type*) where
  state : W
  thread : ι → Option (Prog O A (Option L))

/-- An idle thread begins with a block, or a thread makes its next step; `c` is the choice of the
environment for it. -/
inductive Action (ι L C : Type*)
  | start (i : ι) (l : L)
  | turn (i : ι) (c : C)

variable {ι : Type*} [DecidableEq ι] {L : Type}

/-- No thread is in a block. -/
def Config.idle (ι : Type*) (A : O → Type) (L : Type) (w : W) : Config ι O A L W :=
  { state := w, thread := fun _ => none }

/-- The thread has this left to do. -/
def Config.setThread (s : Config ι O A L W) (i : ι) (rest : Option (Prog O A (Option L))) :
    Config ι O A L W :=
  { s with thread := Function.update s.thread i rest }

/-- A step of the threads.  A block may be begun with if `entry` says so. -/
def step (act : (o : O) → C → W → Option (A o × W)) (code : L → Prog O A (Option L))
    (entry : L → Bool) (s : Config ι O A L W) : Action ι L C → Option (Config ι O A L W)
  | .start i l =>
      match s.thread i with
      | none => if entry l then some (s.setThread i (some (code l))) else none
      | some _ => none
  | .turn i c =>
      match s.thread i with
      | none => none
      | some (.done none) => some (s.setThread i none)
      | some (.done (some l)) => some (s.setThread i (some (code l)))
      | some (.op o next) =>
          (act o c s.state).map fun (x, w) => { s.setThread i (some (next x)) with state := w }

/-! ### Views of all threads -/

/-- A block ends with what the next one is entered with, or with nothing. -/
def Ends (inv : L → V → Prop) : Option L → V → Prop
  | none, p => p = 0
  | some l, p => inv l p

/-- The blocks are safe for the views that `inv` lets them be entered with, and those that may be
begun with need nothing. -/
structure Verified (act : (o : O) → C → W → Option (A o × W)) (ok : C → Prop)
    (reify : V → W → Prop) (code : L → Prog O A (Option L)) (entry : L → Bool) (start : L → Prop)
    (inv : L → V → Prop) : Prop where
  entry : ∀ l, entry l = true → start l → inv l 0
  code : ∀ l p, inv l p → Safe act ok reify (Ends inv) (code l) p

/-- The choices in the action are ones that are reckoned with. -/
def Action.Ok (ok : C → Prop) (start : L → Prop) : Action ι L C → Prop
  | .start _ l => start l
  | .turn _ c => ok c

/-- The view of a thread lets it do the rest of its block. -/
def Holds (act : (o : O) → C → W → Option (A o × W)) (ok : C → Prop) (reify : V → W → Prop)
    (inv : L → V → Prop) : Option (Prog O A (Option L)) → V → Prop
  | none, p => p = 0
  | some c, p => Safe act ok reify (Ends inv) c p

/-- The threads have views that let them go on and that add up to the state. -/
def Owned [Fintype ι] (act : (o : O) → C → W → Option (A o × W)) (ok : C → Prop)
    (reify : V → W → Prop) (inv : L → V → Prop) (s : Config ι O A L W) : Prop :=
  ∃ view : ι → V, (∀ i, Holds act ok reify inv (s.thread i) (view i)) ∧
    reify (∑ i, view i) s.state

variable [Fintype ι] {code : L → Prog O A (Option L)} {entry : L → Bool} {start : L → Prop}
  {inv : L → V → Prop} {s s' : Config ι O A L W} {a : Action ι L C}

omit [DecidableEq ι] in
theorem owned_idle {w : W} (hw : reify 0 w) :
    Owned act ok reify inv (Config.idle ι A L w) := by
  refine ⟨fun _ => 0, fun _ => rfl, ?_⟩
  rwa [Finset.sum_const_zero]

/-- The view of one thread and those of the others. -/
theorem sum_update (view : ι → V) (i : ι) (p : V) :
    ∑ j, Function.update view i p j = p + ∑ j ∈ Finset.univ.erase i, view j := by
  rw [Finset.sum_update_of_mem (Finset.mem_univ i), Finset.sdiff_singleton_eq_erase]

/-- A thread goes on with another rest and another view. -/
theorem owned_setThread {view : ι → V} {i : ι} {p : V} {rest : Option (Prog O A (Option L))}
    {w : W} (hothers : ∀ j, Holds act ok reify inv (s.thread j) (view j))
    (hrest : Holds act ok reify inv rest p)
    (hw : reify (p + ∑ j ∈ Finset.univ.erase i, view j) w) :
    Owned act ok reify inv { s.setThread i rest with state := w } := by
  refine ⟨Function.update view i p, fun j => ?_, ?_⟩
  · by_cases hj : j = i
    · subst hj
      simpa [Config.setThread] using hrest
    · simpa [Config.setThread, hj] using hothers j
  · rwa [sum_update]

/-- **Every step of verified blocks keeps the views.** -/
theorem owned_step (hverified : Verified act ok reify code entry start inv)
    (h : Owned act ok reify inv s) (ha : a.Ok ok start)
    (hstep : step act code entry s a = some s') : Owned act ok reify inv s' := by
  obtain ⟨view, hview, hw⟩ := h
  have hsum : ∀ i, ∑ j, view j = view i + ∑ j ∈ Finset.univ.erase i, view j :=
    fun i => (Finset.add_sum_erase _ _ (Finset.mem_univ i)).symm
  cases a with
  | start i l =>
      rw [step] at hstep
      cases hi : s.thread i with
      | some c =>
          rw [hi] at hstep
          cases hstep
      | none =>
          rw [hi] at hstep
          obtain ⟨hentry, hstep⟩ := Option.ite_none_right_eq_some.1 hstep
          have hzero : view i = 0 := by
            have hnone := hview i
            rwa [hi] at hnone
          rw [hsum i, hzero] at hw
          rw [← Option.some_inj.1 hstep]
          exact owned_setThread (s := s) hview
            (hverified.code l 0 (hverified.entry l hentry ha)) hw
  | turn i c =>
      have hthread := hview i
      rw [hsum i] at hw
      rw [step] at hstep
      cases hi : s.thread i with
      | none =>
          rw [hi] at hstep
          cases hstep
      | some rest =>
          rw [hi] at hstep hthread
          cases rest with
          | done next =>
              cases next with
              | none =>
                  have hzero : view i = 0 := hthread
                  rw [hzero] at hw
                  rw [← Option.some_inj.1 hstep]
                  exact owned_setThread (s := s) hview rfl hw
              | some l =>
                  rw [← Option.some_inj.1 hstep]
                  exact owned_setThread (s := s) hview (hverified.code l (view i) hthread) hw
          | op o next =>
              obtain ⟨⟨x, w⟩, hact, rfl⟩ := Option.map_eq_some_iff.1 hstep
              obtain ⟨p', hw', hsafe⟩ := hthread _ _ c x w hw ha hact
              exact owned_setThread (s := s) hview hsafe hw'

/-- **In every state of a run of verified blocks the threads have views that let them go on and that
add up to the state**, as far as the environment chooses what is reckoned with. -/
theorem owned_throughout (hverified : Verified act ok reify code entry start inv)
    (h : Owned act ok reify inv s) {as : List (Action ι L C)} (has : ∀ a ∈ as, a.Ok ok start) :
    Runs.Throughout (step act code entry) (Owned act ok reify inv) s as := by
  induction as generalizing s with
  | nil => exact h
  | cons a as ih =>
      refine ⟨h, fun s₁ hstep => ?_⟩
      have h₁ := owned_step hverified h (has a List.mem_cons_self) hstep
      exact ih h₁ fun b hb => has b (List.mem_cons_of_mem _ hb)

end Views
