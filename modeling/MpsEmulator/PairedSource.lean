/-
**Sources that produce their values in pairs.**

A source makes two values at a time, gives out the first one and keeps the second one for the next
call.  Starting the source over goes back to its first pair, but does not take away a value that is
kept; so the values that follow are the first ones again only if an even number was given out.

* `PairedSource`, `PairedSource.next`, `PairedSource.restart` — the state of a source, and what is
  done with it;
* `pairedStream` — all values in the order in which a fresh source gives them out;
* `PairedSource.after` — the state behind so many of them; `next_after`;
* `restart_after_iff` — **a source starts over exactly behind an even number of values**.
-/

import Mathlib

set_option relaxedAutoImplicit false
set_option autoImplicit false

namespace MpsEmulator

variable {β : Type*}

/-- The number of pairs that were made, and the value that is kept from the last one. -/
structure PairedSource (β : Type*) where
  made : ℕ
  kept : Option β

namespace PairedSource

/-- The next value. -/
def next (pair : ℕ → β × β) (s : PairedSource β) : β × PairedSource β :=
  match s.kept with
  | some v => (v, { s with kept := none })
  | none => ((pair s.made).1, { made := s.made + 1, kept := some (pair s.made).2 })

/-- Going back to the first pair. -/
def restart (s : PairedSource β) : PairedSource β := { s with made := 0 }

/-- The state of a fresh source behind its first `k` values. -/
def after (pair : ℕ → β × β) (k : ℕ) : PairedSource β where
  made := (k + 1) / 2
  kept := if k % 2 = 0 then none else some (pair (k / 2)).2

end PairedSource

/-- The values of a fresh source, in order. -/
def pairedStream (pair : ℕ → β × β) (k : ℕ) : β :=
  if k % 2 = 0 then (pair (k / 2)).1 else (pair (k / 2)).2

namespace PairedSource

variable {pair : ℕ → β × β} {k : ℕ}

/-- Behind an even number of values nothing is kept. -/
theorem kept_after_even (hk : k % 2 = 0) : (after pair k).kept = none := if_pos hk

/-- **The values come in the order of the stream.** -/
theorem next_after : (after pair k).next pair = (pairedStream pair k, after pair (k + 1)) := by
  have hparity : k % 2 = 0 ∨ k % 2 = 1 := by omega
  rcases hparity with hk | hk
  · -- a new pair is made
    have hmade : (k + 1) / 2 = k / 2 := by omega
    have hmade' : (k + 1 + 1) / 2 = k / 2 + 1 := by omega
    have hodd : ¬ (k + 1) % 2 = 0 := by omega
    rw [next, kept_after_even hk, pairedStream, if_pos hk, after, after, if_neg hodd, hmade, hmade']
  · -- the value that was kept is given out
    have hodd : ¬ k % 2 = 0 := by omega
    have heven : (k + 1) % 2 = 0 := by omega
    have hmade : (k + 1) / 2 = (k + 1 + 1) / 2 := by omega
    rw [next, after, if_neg hodd, pairedStream, if_neg hodd, after, if_pos heven, ← hmade]

/-- **A source starts over exactly behind an even number of values.** -/
theorem restart_after_iff : (after pair k).restart = after pair 0 ↔ k % 2 = 0 := by
  constructor
  · intro h
    have hkept : (after pair k).kept = none := congrArg PairedSource.kept h
    by_contra hodd
    rw [after, if_neg hodd] at hkept
    cases hkept
  · intro hk
    rw [restart, kept_after_even hk]
    rfl

end PairedSource

end MpsEmulator
