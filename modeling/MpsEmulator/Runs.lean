/-
**Runs of a labelled transition system, and what holds along them.**

A system is a partial step function `step : σ → α → Option σ`: the state `s` can perform the
action `a` exactly when `step s a` is a state.  An action carries everything the step needs from
outside (a clock reading, a received segment, the choice of the thread that moves), so a list of
actions is one interleaving and determines the run.

Main definitions:

* `Runs.exec` — the state a list of actions leads to;
* `Runs.Throughout` — a property of states holds in every state a run passes through;
* `Runs.Along` — every step of a run meets a condition on the state before it and its action;
* `Runs.annotate` — the system that also keeps a note of what happened so far;
* `Runs.record` — the system that also keeps the list of everything observed so far.

Main results:

* `Runs.throughout_of_along` — what the steps that meet a condition preserve holds throughout
  every run of such steps;
* `Runs.along_of_along` — one condition on steps follows from another one, given an invariant;
* `Runs.throughout_of_final` — a property that no step brings about holds throughout a run if it
  holds at its end;
* `Runs.throughout_iff_along` — when a step keeps the property exactly if it meets the condition,
  a run has the property throughout exactly if all its steps meet the condition;
* `Runs.throughout_iff_along_of_inv` — the same with an invariant that only such steps preserve;
* `Runs.countP_add_le_of_along`, `Runs.length_add_le_of_along` — a run whose steps lower a measure
  is bounded by it;
* `Runs.exists_replicate_of_measure` — an action that lowers a measure leads to where it ends;
* `Runs.Leads`, `Runs.Leads.trans` — what an action leads to when nothing else is done;
* `Runs.exec_trace` — a system whose steps are matched by runs of another one simulates it;
* `Runs.exec_filter` — what has no influence on a part of the state can be left out of a run.
-/

import Mathlib

set_option relaxedAutoImplicit false
set_option autoImplicit false

namespace Runs

variable {σ α ω : Type*}

/-! ### Executing a list of actions -/

/-- The state reached by performing the actions one after the other; `none` as soon as one of
them is not enabled. -/
def exec (step : σ → α → Option σ) : σ → List α → Option σ
  | s, [] => some s
  | s, a :: as => (step s a).bind fun s' => exec step s' as

variable {step : σ → α → Option σ}

@[simp] theorem exec_nil (s : σ) : exec step s [] = some s := rfl

theorem exec_cons (s : σ) (a : α) (as : List α) :
    exec step s (a :: as) = (step s a).bind fun s' => exec step s' as := rfl

/-- A run that starts with `a` is a step and a run from the state after it. -/
theorem exec_cons_eq_some {s t : σ} {a : α} {as : List α} :
    exec step s (a :: as) = some t ↔ ∃ s', step s a = some s' ∧ exec step s' as = some t := by
  rw [exec_cons, Option.bind_eq_some_iff]

/-! ### Properties of a run -/

/-- `P` holds in every state the run passes through, both ends included. -/
def Throughout (step : σ → α → Option σ) (P : σ → Prop) : σ → List α → Prop
  | s, [] => P s
  | s, a :: as => P s ∧ ∀ s' ∈ step s a, Throughout step P s' as

/-- Every step the run performs meets the condition `C` on the state before it and its action. -/
def Along (step : σ → α → Option σ) (C : σ → α → Prop) : σ → List α → Prop
  | _, [] => True
  | s, a :: as => ∀ s' ∈ step s a, C s a ∧ Along step C s' as

/-- A property that can be decided in every state can be decided along a run. -/
instance Throughout.instDecidable (step : σ → α → Option σ) (P : σ → Prop) [DecidablePred P] :
    ∀ s as, Decidable (Throughout step P s as)
  | s, [] => inferInstanceAs (Decidable (P s))
  | s, a :: as =>
      have : DecidablePred fun s' => Throughout step P s' as :=
        fun s' => Throughout.instDecidable step P s' as
      inferInstanceAs (Decidable (P s ∧ ∀ s' ∈ step s a, Throughout step P s' as))

instance Along.instDecidable (step : σ → α → Option σ) (C : σ → α → Prop)
    [∀ s a, Decidable (C s a)] : ∀ s as, Decidable (Along step C s as)
  | _, [] => inferInstanceAs (Decidable True)
  | s, a :: as =>
      have : DecidablePred fun s' => Along step C s' as :=
        fun s' => Along.instDecidable step C s' as
      inferInstanceAs (Decidable (∀ s' ∈ step s a, C s a ∧ Along step C s' as))

variable {P Q J : σ → Prop} {C D : σ → α → Prop}

theorem Throughout.start {s : σ} {as : List α} (h : Throughout step P s as) : P s := by
  cases as with
  | nil => exact h
  | cons a as => exact h.1

/-- A property that holds throughout a run holds in the state the run ends in. -/
theorem Throughout.final {s t : σ} {as : List α} (h : Throughout step P s as)
    (hrun : exec step s as = some t) : P t := by
  induction as generalizing s with
  | nil => rwa [← Option.some_inj.1 hrun]
  | cons a as ih =>
      obtain ⟨s', hs, ht⟩ := exec_cons_eq_some.1 hrun
      exact ih (h.2 s' hs) ht

/-- A condition that implies another one may be replaced by it. -/
theorem Along.mono (hCD : ∀ s a, C s a → D s a) {s : σ} {as : List α} (h : Along step C s as) :
    Along step D s as := by
  induction as generalizing s with
  | nil => trivial
  | cons a as ih =>
      intro s' hs
      exact ⟨hCD s a (h s' hs).1, ih (h s' hs).2⟩

/-- Two conditions that every step meets are one. -/
theorem Along.and {s : σ} {as : List α} (hC : Along step C s as) (hD : Along step D s as) :
    Along step (fun s a => C s a ∧ D s a) s as := by
  induction as generalizing s with
  | nil => trivial
  | cons a as ih =>
      intro s' hs
      exact ⟨⟨(hC s' hs).1, (hD s' hs).1⟩, ih (hC s' hs).2 (hD s' hs).2⟩

/-- What holds throughout a run holds before each of its steps. -/
theorem Throughout.along {s : σ} {as : List α} (h : Throughout step P s as) :
    Along step (fun s _ => P s) s as := by
  induction as generalizing s with
  | nil => trivial
  | cons a as ih =>
      intro s' hs
      exact ⟨h.1, ih (h.2 s' hs)⟩

/-- The first part of a run that meets a condition does. -/
theorem Along.left {s : σ} {as bs : List α} (h : Along step C s (as ++ bs)) :
    Along step C s as := by
  induction as generalizing s with
  | nil => trivial
  | cons a as ih =>
      intro s' hs
      exact ⟨(h s' hs).1, ih (h s' hs).2⟩

/-- The rest of a run that meets a condition does. -/
theorem Along.right {s t : σ} {as bs : List α} (h : Along step C s (as ++ bs))
    (hrun : exec step s as = some t) : Along step C t bs := by
  induction as generalizing s with
  | nil => rwa [← Option.some_inj.1 hrun]
  | cons a as ih =>
      obtain ⟨s', hs, hrest⟩ := exec_cons_eq_some.1 hrun
      exact ih (h s' hs).2 hrest

/-- A run is its first part and a run from where that ends. -/
theorem exec_append {s : σ} {as bs : List α} :
    exec step s (as ++ bs) = (exec step s as).bind fun t => exec step t bs := by
  induction as generalizing s with
  | nil => rfl
  | cons a as ih =>
      rw [List.cons_append, exec_cons, exec_cons, Option.bind_assoc]
      exact Option.bind_congr fun s' _ => ih

theorem exec_append_eq_some {s t : σ} {as bs : List α} :
    exec step s (as ++ bs) = some t ↔
      ∃ s', exec step s as = some s' ∧ exec step s' bs = some t := by
  rw [exec_append, Option.bind_eq_some_iff]

/-- A condition on actions alone holds along a run of such actions. -/
theorem along_of_forall {E : α → Prop} {s : σ} {as : List α} (h : ∀ a ∈ as, E a) :
    Along step (fun _ a => E a) s as := by
  induction as generalizing s with
  | nil => trivial
  | cons a as ih =>
      intro s' _
      exact ⟨h a List.mem_cons_self, ih fun b hb => h b (List.mem_cons_of_mem _ hb)⟩

/-! ### Invariants -/

/-- The invariant rule for all the states on the way: the property holds throughout. -/
theorem throughout_of_along
    (hstep : ∀ s a s', P s → C s a → step s a = some s' → P s')
    {s : σ} {as : List α} (hs : P s) (hC : Along step C s as) : Throughout step P s as := by
  induction as generalizing s with
  | nil => exact hs
  | cons a as ih =>
      refine ⟨hs, fun s' hs' => ?_⟩
      obtain ⟨hCa, hCs⟩ := hC s' hs'
      exact ih (hstep s a s' hs hCa hs') hCs

theorem Throughout.mono (hPQ : ∀ s, P s → Q s) {s : σ} {as : List α}
    (h : Throughout step P s as) : Throughout step Q s as := by
  induction as generalizing s with
  | nil => exact hPQ s h
  | cons a as ih => exact ⟨hPQ s h.1, fun s' hs => ih (h.2 s' hs)⟩

/-- The invariant rule for a property that every step preserves. -/
theorem invariant (hstep : ∀ s a s', P s → step s a = some s' → P s')
    {s t : σ} {as : List α} (hs : P s) (hrun : exec step s as = some t) : P t := by
  induction as generalizing s with
  | nil => rwa [← Option.some_inj.1 hrun]
  | cons a as ih =>
      obtain ⟨s', hs', ht⟩ := exec_cons_eq_some.1 hrun
      exact ih (hstep s a s' hs hs') ht

/-- What every step preserves holds throughout a run. -/
theorem throughout_of_step (hstep : ∀ s a s', P s → step s a = some s' → P s') {s : σ}
    {as : List α} (hs : P s) : Throughout step P s as := by
  induction as generalizing s with
  | nil => exact hs
  | cons a as ih => exact ⟨hs, fun s' hs' => ih (hstep s a s' hs hs')⟩

/-- The rule backwards: what holds after a step only if it held before it holds throughout a run at
whose end it holds. -/
theorem throughout_of_final (hJ : ∀ s a s', J s → step s a = some s' → J s')
    (hback : ∀ s a s', J s → step s a = some s' → P s' → P s)
    {s t : σ} {as : List α} (hJs : J s) (hrun : exec step s as = some t) (ht : P t) :
    Throughout step P s as := by
  induction as generalizing s with
  | nil =>
      rw [Option.some_inj.1 hrun]
      exact ht
  | cons a as ih =>
      obtain ⟨s', hs, hrest⟩ := exec_cons_eq_some.1 hrun
      have hthrough := ih (hJ s a s' hJs hs) hrest
      refine ⟨hback s a s' hJs hs hthrough.start, fun s'' hs'' => ?_⟩
      obtain rfl : s' = s'' := Option.some_inj.1 (hs.symm.trans hs'')
      exact hthrough

/-- The **exact rule**.  Let `J` be preserved by every step.  If, from a state with `J` and `P`,
a step leads to a state with `P` exactly when it meets the condition `C`, then a run has `P`
throughout exactly when all its steps meet `C`. -/
theorem throughout_iff_along
    (hJ : ∀ s a s', J s → step s a = some s' → J s')
    (hPC : ∀ s a s', J s → P s → step s a = some s' → (P s' ↔ C s a))
    {s : σ} {as : List α} (hJs : J s) (hPs : P s) :
    Throughout step P s as ↔ Along step C s as := by
  induction as generalizing s with
  | nil => exact iff_of_true hPs trivial
  | cons a as ih =>
      constructor
      · rintro ⟨-, h⟩ s' hs
        have hP' : P s' := (h s' hs).start
        exact ⟨(hPC s a s' hJs hPs hs).1 hP', (ih (hJ s a s' hJs hs) hP').1 (h s' hs)⟩
      · intro h
        refine ⟨hPs, fun s' hs => ?_⟩
        obtain ⟨hCa, hCs⟩ := h s' hs
        exact (ih (hJ s a s' hJs hs) ((hPC s a s' hJs hPs hs).2 hCa)).2 hCs

/-- The exact rule with an invariant `J` of the steps that meet `C`: if `J` implies `P`, and from a
state with `J` a step to a state with `P` meets `C`, then a run has `P` throughout exactly when all
its steps meet `C`. -/
theorem throughout_iff_along_of_inv (hJP : ∀ s, J s → P s)
    (hnecessary : ∀ s a s', J s → step s a = some s' → P s' → C s a)
    (hsufficient : ∀ s a s', J s → step s a = some s' → C s a → J s')
    {s : σ} {as : List α} (hJs : J s) : Throughout step P s as ↔ Along step C s as := by
  constructor
  · intro h
    induction as generalizing s with
    | nil => trivial
    | cons a as ih =>
        intro s' hs
        have hC : C s a := hnecessary s a s' hJs hs (h.2 s' hs).start
        exact ⟨hC, ih (hsufficient s a s' hJs hs hC) (h.2 s' hs)⟩
  · intro h
    exact (throughout_of_along (fun s a s' hJ hC hs => hsufficient s a s' hJ hs hC) hJs h).mono hJP

/-- The rule for conditions on steps.  Let `J` be preserved by every step.  If, from a state with
`J`, a step that meets `C` also meets `D`, then a run whose steps meet `C` is one whose steps meet
`D`. -/
theorem along_of_along (hJ : ∀ s a s', J s → step s a = some s' → J s')
    (hCD : ∀ s a s', J s → step s a = some s' → C s a → D s a)
    {s : σ} {as : List α} (hJs : J s) (hC : Along step C s as) : Along step D s as := by
  induction as generalizing s with
  | nil => trivial
  | cons a as ih =>
      intro s' hs
      obtain ⟨hCa, hCs⟩ := hC s' hs
      exact ⟨hCD s a s' hJs hs hCa, ih (hJ s a s' hJs hs) hCs⟩

/-- The rule for conditions on steps with an invariant of the steps that meet `C`: if every step
from a state with it meets `D`, then so do all steps of such a run. -/
theorem along_of_inv (hJ : ∀ s a s', J s → C s a → step s a = some s' → J s')
    (hD : ∀ s a, J s → D s a) {s : σ} {as : List α} (hJs : J s) (hC : Along step C s as) :
    Along step D s as := by
  induction as generalizing s with
  | nil => trivial
  | cons a as ih =>
      intro s' hs
      obtain ⟨hCa, hCs⟩ := hC s' hs
      exact ⟨hD s a hJs, ih (hJ s a s' hJs hCa hs) hCs⟩

/-- The rule for conditions on steps with an invariant of all steps. -/
theorem along_of_step (hJ : ∀ s a s', J s → step s a = some s' → J s')
    (hD : ∀ s a, J s → D s a) {s : σ} {as : List α} (hJs : J s) : Along step D s as := by
  induction as generalizing s with
  | nil => trivial
  | cons a as ih =>
      intro s' hs
      exact ⟨hD s a hJs, ih (hJ s a s' hJs hs)⟩

/-- The exact rule for conditions on steps: where an invariant makes two conditions say the same of
a step, they say the same of a run. -/
theorem along_iff_along (hJ : ∀ s a s', J s → step s a = some s' → J s')
    (hCD : ∀ s a, J s → (C s a ↔ D s a)) {s : σ} {as : List α} (hJs : J s) :
    Along step C s as ↔ Along step D s as :=
  ⟨along_of_along hJ (fun s a _ hs _ => (hCD s a hs).1) hJs,
    along_of_along hJ (fun s a _ hs _ => (hCD s a hs).2) hJs⟩

/-! ### Measures -/

/-- A measure that no step raises and the steps of one kind lower bounds the number of these. -/
theorem countP_add_le_of_along {μ : σ → ℕ} {f : α → Bool}
    (hJ : ∀ s a s', J s → C s a → step s a = some s' → J s')
    (hμ : ∀ s a s', J s → C s a → step s a = some s' → μ s' + (f a).toNat ≤ μ s)
    {s t : σ} {as : List α} (hJs : J s) (hC : Along step C s as)
    (hrun : exec step s as = some t) : as.countP f + μ t ≤ μ s := by
  induction as generalizing s with
  | nil =>
      rw [← Option.some_inj.1 hrun, List.countP_nil, Nat.zero_add]
  | cons a as ih =>
      obtain ⟨s', hs, hrest⟩ := exec_cons_eq_some.1 hrun
      obtain ⟨ha, has⟩ := hC s' hs
      have hstep := hμ s a s' hJs ha hs
      have hle := ih (hJ s a s' hJs ha hs) has hrest
      rw [List.countP_cons]
      cases hf : f a with
      | true =>
          rw [hf, Bool.toNat_true] at hstep
          simp only [if_true]
          omega
      | false =>
          rw [hf, Bool.toNat_false] at hstep
          simp only [Bool.false_eq_true, if_false]
          omega

/-- A run whose steps all lower a measure has no more steps than the measure goes down. -/
theorem length_add_le_of_along {μ : σ → ℕ}
    (hJ : ∀ s a s', J s → C s a → step s a = some s' → J s')
    (hμ : ∀ s a s', J s → C s a → step s a = some s' → μ s' < μ s)
    {s t : σ} {as : List α} (hJs : J s) (hC : Along step C s as)
    (hrun : exec step s as = some t) : as.length + μ t ≤ μ s := by
  have hcount := countP_add_le_of_along (f := fun _ => true) hJ hμ hJs hC hrun
  rwa [List.countP_true] at hcount

/-- One action, performed again and again, leads to a state with `P`, if in every other state it can
be performed and lowers a measure. -/
theorem exists_replicate_of_measure {μ : σ → ℕ} {a : α}
    (hprogress : ∀ s, J s → ¬ P s → ∃ s', step s a = some s' ∧ J s' ∧ μ s' < μ s)
    {s : σ} (hJs : J s) : ∃ k t, exec step s (List.replicate k a) = some t ∧ J t ∧ P t := by
  induction hn : μ s using Nat.strong_induction_on generalizing s with
  | _ n ih =>
      by_cases hP : P s
      · exact ⟨0, s, rfl, hJs, hP⟩
      · obtain ⟨s', hs, hJs', hlt⟩ := hprogress s hJs hP
        obtain ⟨k, t, hrun, ht⟩ := ih (μ s') (hn ▸ hlt) hJs' rfl
        exact ⟨k + 1, t, exec_cons_eq_some.2 ⟨s', hs, hrun⟩, ht⟩

/-! ### One action again and again -/

/-- Performed again and again, the action leads to a state with the property. -/
def Leads (step : σ → α → Option σ) (a : α) (s : σ) (P : σ → Prop) : Prop :=
  ∃ k t, exec step s (List.replicate k a) = some t ∧ P t

section Leads

variable {a : α} {P Q : σ → Prop} {s s' : σ}

theorem Leads.now (h : P s) : Leads step a s P := ⟨0, s, rfl, h⟩

theorem Leads.before (hstep : step s a = some s') (h : Leads step a s' P) : Leads step a s P := by
  obtain ⟨k, t, hrun, ht⟩ := h
  exact ⟨k + 1, t, exec_cons_eq_some.2 ⟨s', hstep, hrun⟩, ht⟩

/-- Where all states of one kind lead on, so does what leads to them. -/
theorem Leads.trans (h : Leads step a s P) (hnext : ∀ t, P t → Leads step a t Q) :
    Leads step a s Q := by
  obtain ⟨k, t, hrun, ht⟩ := h
  obtain ⟨l, u, hrun', hu⟩ := hnext t ht
  refine ⟨k + l, u, ?_, hu⟩
  rw [List.replicate_add, exec_append, hrun]
  exact hrun'

end Leads

/-! ### Remembering earlier states -/

/-- The system together with a note of what happened so far, which each step may change.  The note
has no influence on the steps. -/
def annotate {β : Type*} (step : σ → α → Option σ) (next : β → σ → α → σ → β) :
    σ × β → α → Option (σ × β)
  | (s, b), a => (step s a).map fun s' => (s', next b s a s')

theorem annotate_eq_some {β : Type*} {next : β → σ → α → σ → β} {s t : σ × β} {a : α} :
    annotate step next s a = some t ↔
      step s.1 a = some t.1 ∧ t.2 = next s.2 s.1 a t.1 := by
  obtain ⟨s, b⟩ := s
  obtain ⟨t, c⟩ := t
  simp only [annotate, Option.map_eq_some_iff, Prod.mk.injEq]
  constructor
  · rintro ⟨s', hs, rfl, rfl⟩
    exact ⟨hs, rfl⟩
  · rintro ⟨hs, rfl⟩
    exact ⟨t, hs, rfl, rfl⟩

/-! ### Recording what is observed -/

/-- The system together with the list of everything observed so far.  An observation may depend
on the states before and after the step. -/
def record (step : σ → α → Option σ) (obs : σ → α → σ → List ω) :
    σ × List ω → α → Option (σ × List ω)
  | (s, seen), a => (step s a).map fun s' => (s', seen ++ obs s a s')

variable {obs : σ → α → σ → List ω}

theorem record_eq_some {s : σ × List ω} {a : α} {t : σ × List ω} :
    record step obs s a = some t ↔
      step s.1 a = some t.1 ∧ t.2 = s.2 ++ obs s.1 a t.1 := by
  -- what was observed so far is a note that grows
  have hnote : record step obs s a = annotate step (fun seen s a t => seen ++ obs s a t) s a := rfl
  rw [hnote, annotate_eq_some]

/-! ### Simulations -/

/-- The run of another system that the steps of a run ask for. -/
def trace {β : Type*} (step : σ → α → Option σ) (calls : σ → α → List β) : σ → List α → List β
  | _, [] => []
  | s, a :: as =>
      match step s a with
      | some s' => calls s a ++ trace step calls s' as
      | none => []

/-- What a run asks for has what the steps ask for has, given an invariant. -/
theorem forall_mem_trace {β : Type*} {calls : σ → α → List β} {J : σ → Prop} {Q : α → Prop}
    {P : β → Prop} (hJ : ∀ s a s', J s → Q a → step s a = some s' → J s')
    (hcalls : ∀ s a, J s → Q a → ∀ b ∈ calls s a, P b) {s : σ} {as : List α} (hs : J s)
    (has : ∀ a ∈ as, Q a) : ∀ b ∈ trace step calls s as, P b := by
  induction as generalizing s with
  | nil => exact nofun
  | cons a as ih =>
      intro b hb
      have ha : Q a := has a List.mem_cons_self
      rw [trace] at hb
      cases hstep : step s a with
      | none =>
          rw [hstep] at hb
          cases hb
      | some s' =>
          rw [hstep] at hb
          rcases List.mem_append.1 hb with hb | hb
          · exact hcalls s a hs ha b hb
          · exact ih (hJ s a s' hs ha hstep) (fun c hc => has c (List.mem_cons_of_mem _ hc)) b hb

/-- **The simulation rule**: where every step is matched by a run of the other system, so is every
run. -/
theorem exec_trace {τ β : Type*} {step' : τ → β → Option τ} {calls : σ → α → List β}
    {R : σ → τ → Prop}
    (hstep : ∀ s t a s', R s t → step s a = some s' →
      ∃ t', exec step' t (calls s a) = some t' ∧ R s' t')
    {s s' : σ} {t : τ} {as : List α} (hR : R s t) (hrun : exec step s as = some s') :
    ∃ t', exec step' t (trace step calls s as) = some t' ∧ R s' t' := by
  induction as generalizing s t with
  | nil =>
      rw [← Option.some_inj.1 hrun]
      exact ⟨t, rfl, hR⟩
  | cons a as ih =>
      obtain ⟨s₁, hs, hrest⟩ := exec_cons_eq_some.1 hrun
      obtain ⟨t₁, ht₁, hR₁⟩ := hstep s t a s₁ hR hs
      obtain ⟨t', ht', hR'⟩ := ih hR₁ hrest
      refine ⟨t', ?_, hR'⟩
      rw [trace, hs, exec_append, ht₁, Option.bind_some, ht']

/-- **The unwinding rule**: actions that leave what a relation sees alone can be left out of a run,
if the others act in the same way on all that it takes for the same. -/
theorem exec_filter {R : σ → σ → Prop} {keep : α → Bool}
    (hout : ∀ s t a s', keep a = false → R s t → step s a = some s' → R s' t)
    (hin : ∀ s t a s', keep a = true → R s t → step s a = some s' →
      ∃ t', step t a = some t' ∧ R s' t')
    {s s' t : σ} {as : List α} (hR : R s t) (hrun : exec step s as = some s') :
    ∃ t', exec step t (as.filter keep) = some t' ∧ R s' t' := by
  induction as generalizing s t with
  | nil =>
      rw [← Option.some_inj.1 hrun]
      exact ⟨t, rfl, hR⟩
  | cons a as ih =>
      obtain ⟨s₁, hs, hrest⟩ := exec_cons_eq_some.1 hrun
      cases hkeep : keep a with
      | false =>
          rw [List.filter_cons_of_neg (by simp [hkeep])]
          exact ih (hout s t a s₁ hkeep hR hs) hrest
      | true =>
          obtain ⟨t₁, ht₁, hR₁⟩ := hin s t a s₁ hkeep hR hs
          obtain ⟨t', ht', hR'⟩ := ih hR₁ hrest
          rw [List.filter_cons_of_pos hkeep]
          exact ⟨t', exec_cons_eq_some.2 ⟨t₁, ht₁, ht'⟩, hR'⟩

end Runs
