/-
**Messages that are posted, taken and delivered.**

Whoever has a message posts it to a queue; carriers take messages from the front of the queue, one
at a time, and deliver the one they have in hand.  Nothing is said about who moves when.

* `Relay`, `Relay.step` — the queue, the hands and what was delivered, and the three moves;
* `Relay.InLine`, `Relay.InLine.exec` — **the messages are taken in the order in which they are
  posted, and each one that was taken is in one hand or delivered, once**;
* `Relay.line`, `Relay.line_exec` — **a single carrier delivers them in that order as well**.
-/

import MpsEmulator.Runs

set_option relaxedAutoImplicit false
set_option autoImplicit false

/-- The messages not taken yet, the one in the hand of each carrier, and those delivered. -/
structure Relay (ι M : Type*) where
  queue : List M
  hand : ι → Option M
  delivered : List M

namespace Relay

variable {ι M : Type*}

/-- No message yet. -/
def empty (ι M : Type*) : Relay ι M := { queue := [], hand := fun _ => none, delivered := [] }

/-- What is done with a message, and by whom. -/
inductive Move (ι M : Type*)
  | post (m : M)
  | take (i : ι)
  | deliver (i : ι)

/-- A carrier takes the first message into an empty hand, and delivers the one in its hand. -/
def step [DecidableEq ι] (r : Relay ι M) : Move ι M → Option (Relay ι M)
  | .post m => some { r with queue := r.queue ++ [m] }
  | .take i =>
      match r.queue, r.hand i with
      | m :: rest, none => some { r with queue := rest, hand := Function.update r.hand i (some m) }
      | _, _ => none
  | .deliver i =>
      match r.hand i with
      | some m =>
          some
            { r with
              hand := Function.update r.hand i none
              delivered := r.delivered ++ [m] }
      | none => none

/-- The message of a move that posts one. -/
def Move.posted : Move ι M → List M
  | .post m => [m]
  | .take _ => []
  | .deliver _ => []

/-- The carrier takes and delivers all messages. -/
def Move.IsBy (i : ι) : Move ι M → Prop
  | .post _ => True
  | .take j | .deliver j => j = i

variable [DecidableEq ι] {r r' : Relay ι M} {a : Move ι M} {moves : List (Move ι M)} {i : ι} {m : M}

/-! ### The moves -/

theorem step_take {rest : List M} (hqueue : r.queue = m :: rest) (hhand : r.hand i = none) :
    r.step (.take i) =
      some { r with queue := rest, hand := Function.update r.hand i (some m) } := by
  simp only [step, hqueue, hhand]

theorem step_deliver (hhand : r.hand i = some m) :
    r.step (.deliver i) =
      some
        { r with
          hand := Function.update r.hand i none
          delivered := r.delivered ++ [m] } := by
  simp only [step, hhand]

/-- What a move can do. -/
theorem step_cases (hstep : r.step a = some r') :
    (∃ m, a = .post m ∧ r' = { r with queue := r.queue ++ [m] }) ∨
      (∃ i m rest, a = .take i ∧ r.queue = m :: rest ∧ r.hand i = none ∧
        r' = { r with queue := rest, hand := Function.update r.hand i (some m) }) ∨
      ∃ i m, a = .deliver i ∧ r.hand i = some m ∧
        r' = { r with
          hand := Function.update r.hand i none
          delivered := r.delivered ++ [m] } := by
  cases a with
  | post m => exact .inl ⟨m, rfl, (Option.some_inj.1 hstep).symm⟩
  | take i =>
      right
      left
      cases hqueue : r.queue with
      | nil => simp [step, hqueue] at hstep
      | cons m rest =>
          cases hhand : r.hand i with
          | some m' => simp [step, hqueue, hhand] at hstep
          | none =>
              rw [step_take hqueue hhand] at hstep
              exact ⟨i, m, rest, rfl, rfl, hhand, (Option.some_inj.1 hstep).symm⟩
  | deliver i =>
      right
      right
      cases hhand : r.hand i with
      | none => simp [step, hhand] at hstep
      | some m =>
          rw [step_deliver hhand] at hstep
          exact ⟨i, m, rfl, hhand, (Option.some_inj.1 hstep).symm⟩

/-! ### Where the messages are -/

/-- The messages that were taken: those delivered and those in a hand. -/
def taken [Fintype ι] (r : Relay ι M) : Multiset M :=
  ↑r.delivered + ∑ i, (↑(r.hand i).toList : Multiset M)

/-- The queue is the end of the messages posted so far, and those before it were taken. -/
def InLine [Fintype ι] (r : Relay ι M) (posted : List M) : Prop :=
  ∃ front, posted = front ++ r.queue ∧ (↑front : Multiset M) = r.taken

/-- The messages in the hands, when one hand gets another message. -/
theorem sum_hand [Fintype ι] (hand : ι → Option M) (i : ι) (o : Option M) :
    ∑ j, (↑(Function.update hand i o j).toList : Multiset M) =
      ↑o.toList + ∑ j ∈ Finset.univ.erase i, (↑(hand j).toList : Multiset M) := by
  rw [← Finset.add_sum_erase _ _ (Finset.mem_univ i), Function.update_self]
  refine congrArg _ (Finset.sum_congr rfl fun j hj => ?_)
  rw [Function.update_of_ne (Finset.ne_of_mem_erase hj)]

/-- A message that is taken from the queue is one more that was taken. -/
theorem taken_take [Fintype ι] (rest : List M) (hhand : r.hand i = none) :
    taken { r with queue := rest, hand := Function.update r.hand i (some m) } =
      r.taken + {m} := by
  rw [taken, taken, sum_hand, ← Finset.add_sum_erase _ _ (Finset.mem_univ i), hhand]
  simp only [Option.toList_some, Option.toList_none, Multiset.coe_singleton, Multiset.coe_nil,
    zero_add]
  rw [add_assoc]
  exact congrArg _ (add_comm _ _)

/-- A message that is delivered was taken before. -/
theorem taken_deliver [Fintype ι] (hhand : r.hand i = some m) :
    taken { r with
      hand := Function.update r.hand i none
      delivered := r.delivered ++ [m] } = r.taken := by
  rw [taken, taken, sum_hand, ← Finset.add_sum_erase _ _ (Finset.mem_univ i), hhand,
    ← Multiset.coe_add]
  simp only [Option.toList_some, Option.toList_none, Multiset.coe_singleton, Multiset.coe_nil,
    zero_add]
  rw [add_assoc]

/-- A move keeps the messages in line. -/
theorem InLine.move [Fintype ι] {posted : List M} (h : r.InLine posted)
    (hstep : r.step a = some r') : r'.InLine (posted ++ a.posted) := by
  obtain ⟨front, rfl, hfront⟩ := h
  rcases step_cases hstep with
    ⟨m, rfl, rfl⟩ | ⟨i, m, rest, rfl, hqueue, hhand, rfl⟩ | ⟨i, m, rfl, hhand, rfl⟩
  · exact ⟨front, List.append_assoc .., hfront⟩
  · refine ⟨front ++ [m], ?_, ?_⟩
    · simp [hqueue, Move.posted]
    · rw [taken_take rest hhand, ← Multiset.coe_add, hfront]
      rfl
  · refine ⟨front, List.append_nil _, ?_⟩
    rw [taken_deliver hhand, hfront]

/-- **Messages are taken in the order in which they are posted, none is lost, and none is
doubled.** -/
theorem InLine.exec [Fintype ι] {posted : List M} (h : r.InLine posted)
    (hrun : Runs.exec step r moves = some r') :
    r'.InLine (posted ++ moves.flatMap Move.posted) := by
  induction moves generalizing r posted with
  | nil =>
      rw [← Option.some_inj.1 hrun, List.flatMap_nil, List.append_nil]
      exact h
  | cons a moves ih =>
      obtain ⟨r₁, hstep, hrest⟩ := Runs.exec_cons_eq_some.1 hrun
      rw [List.flatMap_cons, ← List.append_assoc]
      exact ih (h.move hstep) hrest

omit [DecidableEq ι] in
theorem inLine_empty [Fintype ι] : (empty ι M).InLine [] := by
  refine ⟨[], rfl, ?_⟩
  simp [taken, empty]

/-! ### The order of the messages -/

/-- The messages in the order in which they were posted, if only `i` carries any. -/
def line (r : Relay ι M) (i : ι) : List M := r.delivered ++ (r.hand i).toList ++ r.queue

theorem line_step (hby : a.IsBy i) (hstep : r.step a = some r') :
    r'.line i = r.line i ++ a.posted := by
  rcases step_cases hstep with
    ⟨m, rfl, rfl⟩ | ⟨j, m, rest, rfl, hqueue, hhand, rfl⟩ | ⟨j, m, rfl, hhand, rfl⟩
  · simp [line, Move.posted]
  · obtain rfl : j = i := hby
    simp [line, Move.posted, hqueue, hhand]
  · obtain rfl : j = i := hby
    simp [line, Move.posted, hhand]

/-- **A single carrier delivers the messages in the order in which they are posted.** -/
theorem line_exec (hby : ∀ a ∈ moves, a.IsBy i) (hrun : Runs.exec step r moves = some r') :
    r'.line i = r.line i ++ moves.flatMap Move.posted := by
  induction moves generalizing r with
  | nil => rw [← Option.some_inj.1 hrun, List.flatMap_nil, List.append_nil]
  | cons a moves ih =>
      obtain ⟨r₁, hstep, hrest⟩ := Runs.exec_cons_eq_some.1 hrun
      rw [ih (fun b hb => hby b (List.mem_cons_of_mem a hb)) hrest,
        line_step (hby a List.mem_cons_self) hstep, List.flatMap_cons, List.append_assoc]

end Relay
