/-
**`utils::SplitString`: cutting a string at delimiters.**

The loop looks for the next delimiter at or after `first`, keeps the piece before it unless that
piece is empty, and goes on behind it; when there is no further delimiter it keeps the rest of
the string, empty or not.  The definition below is that loop, with a bound on the number of its
rounds that it cannot reach.

* `findFirstOf`, `splitStringLoop`, `splitString` — the code;
* `splitScan` — the same pieces found by reading the string once, character by character;
* `splitString_eq_scan` — **the loop computes the scan**, so it always finishes;
* `splitString_ne_nil` — there is always a first piece;
* `firstToken`, `headD_splitString` — the first piece is the first run of other characters, and is
  empty when there is none.
-/

import Mathlib

set_option relaxedAutoImplicit false
set_option autoImplicit false

/-- The bytes of a `std::string` or `std::string_view`. -/
abbrev Bytes := List Char

namespace MpsEmulator

/-! ### The loop -/

/-- `string.find_first_of(delimiters, first)`, with `none` for `npos`. -/
def findFirstOf (string delimiters : Bytes) (first : ℕ) : Option ℕ :=
  ((string.drop first).findIdx? (· ∈ delimiters)).map (· + first)

/-- The rounds of the loop of `SplitString` from the index `first` on. -/
def splitStringLoop (string delimiters : Bytes) : ℕ → ℕ → List Bytes → List Bytes
  | 0, _, result => result
  | rounds + 1, first, result =>
      if first ≤ string.length then
        match findFirstOf string delimiters first with
        | some second =>
            splitStringLoop string delimiters rounds (second + 1)
              (if first ≠ second then result ++ [(string.drop first).take (second - first)]
               else result)
        | none => result ++ [string.drop first]
      else result

/-- `utils::SplitString`.  Every round but the last one moves `first` behind a delimiter, so the
length of the string bounds their number. -/
def splitString (string delimiters : Bytes) : List Bytes :=
  splitStringLoop string delimiters (string.length + 1) 0 []

/-! ### Reading the string once -/

/-- The pieces of a string of which `piece` has been read since the last delimiter. -/
def splitScan (delimiters : Bytes) : Bytes → Bytes → List Bytes
  | piece, [] => [piece]
  | piece, c :: s =>
      if c ∈ delimiters then
        (if piece = [] then [] else [piece]) ++ splitScan delimiters [] s
      else splitScan delimiters (piece ++ [c]) s

variable {delimiters : Bytes}

/-- Characters that are not delimiters extend the current piece. -/
theorem splitScan_append {run : Bytes} (hrun : ∀ c ∈ run, c ∉ delimiters) (piece s : Bytes) :
    splitScan delimiters piece (run ++ s) = splitScan delimiters (piece ++ run) s := by
  induction run generalizing piece with
  | nil => simp
  | cons c run ih =>
      have hc : c ∉ delimiters := hrun c (List.mem_cons_self ..)
      rw [List.cons_append, splitScan, if_neg hc,
        ih (fun b hb => hrun b (List.mem_cons_of_mem _ hb)), List.append_assoc,
        List.singleton_append]

theorem splitScan_ne_nil (piece s : Bytes) : splitScan delimiters piece s ≠ [] := by
  induction s generalizing piece with
  | nil => simp [splitScan]
  | cons c s ih =>
      rw [splitScan]
      split
      · simp [ih]
      · exact ih _

/-- A string without delimiters is cut nowhere; otherwise the search for the first delimiter
splits it into the run before the delimiter and the string behind it. -/
theorem findIdx?_mem_cases (delimiters s : Bytes) :
    (s.findIdx? (· ∈ delimiters) = none ∧ ∀ c ∈ s, c ∉ delimiters) ∨
      ∃ run d rest, s = run ++ d :: rest ∧ (∀ c ∈ run, c ∉ delimiters) ∧ d ∈ delimiters ∧
        s.findIdx? (· ∈ delimiters) = some run.length := by
  induction s with
  | nil => exact Or.inl ⟨rfl, by simp⟩
  | cons c s ih =>
      by_cases hc : c ∈ delimiters
      · exact Or.inr ⟨[], c, s, rfl, by simp, hc, by simp [List.findIdx?_cons, hc]⟩
      · rcases ih with ⟨hnone, hs⟩ | ⟨run, d, rest, rfl, hrun, hd, hsome⟩
        · left
          refine ⟨by simp [List.findIdx?_cons, hc, hnone], ?_⟩
          intro b hb
          rcases List.mem_cons.1 hb with rfl | hb
          · exact hc
          · exact hs b hb
        · right
          refine ⟨c :: run, d, rest, rfl, ?_, hd, by simp [List.findIdx?_cons, hc, hsome]⟩
          intro b hb
          rcases List.mem_cons.1 hb with rfl | hb
          · exact hc
          · exact hrun b hb

/-- From any index on, the loop appends the pieces the scan finds there. -/
theorem splitStringLoop_eq_scan (string delimiters : Bytes) :
    ∀ (rounds first : ℕ) (result : List Bytes), first ≤ string.length →
      string.length - first < rounds →
      splitStringLoop string delimiters rounds first result =
        result ++ splitScan delimiters [] (string.drop first) := by
  intro rounds
  induction rounds with
  | zero => intro first result _ h; omega
  | succ rounds ih =>
      intro first result hfirst hrounds
      rw [splitStringLoop, if_pos hfirst, findFirstOf]
      rcases findIdx?_mem_cases delimiters (string.drop first) with
        ⟨hnone, hrun⟩ | ⟨run, d, rest, hdrop, hrun, hd, hsome⟩
      · have hscan := splitScan_append hrun [] []
        rw [List.append_nil, List.nil_append] at hscan
        rw [hnone, hscan]
        rfl
      · have hlen : run.length + 1 + rest.length = string.length - first := by
          have := congrArg List.length hdrop
          simp only [List.length_drop, List.length_append, List.length_cons] at this
          omega
        have hrest : string.drop (run.length + first + 1) = rest := by
          rw [show run.length + first + 1 = first + (run.length + 1) by omega, ← List.drop_drop,
            hdrop, List.append_cons, List.drop_left' (by simp)]
        have htake : (string.drop first).take (run.length + first - first) = run := by
          rw [hdrop, Nat.add_sub_cancel, List.take_left]
        simp only [hsome, Option.map_some]
        rw [ih _ _ (by omega) (by omega), hrest, htake, hdrop, splitScan_append hrun, splitScan,
          if_pos hd, List.nil_append]
        cases run with
        | nil => simp
        | cons c run => simp

/-- The loop of `SplitString` computes **the pieces that one pass over the string finds**. -/
theorem splitString_eq_scan (string delimiters : Bytes) :
    splitString string delimiters = splitScan delimiters [] string := by
  rw [splitString, splitStringLoop_eq_scan _ _ _ _ _ (by omega) (by omega)]
  rfl

theorem splitString_ne_nil (string delimiters : Bytes) : splitString string delimiters ≠ [] := by
  rw [splitString_eq_scan]
  exact splitScan_ne_nil _ _

/-! ### The first token -/

/-- The first maximal run of characters that are not delimiters, empty if there is none. -/
def firstToken (delimiters s : Bytes) : Bytes :=
  (s.dropWhile (· ∈ delimiters)).takeWhile (· ∉ delimiters)

theorem firstToken_cons_of_mem {c : Char} (hc : c ∈ delimiters) (s : Bytes) :
    firstToken delimiters (c :: s) = firstToken delimiters s := by
  simp [firstToken, hc]

theorem firstToken_cons_of_not_mem {c : Char} (hc : c ∉ delimiters) (s : Bytes) :
    firstToken delimiters (c :: s) = c :: s.takeWhile (· ∉ delimiters) := by
  simp [firstToken, hc]

theorem head_splitScan_of_ne_nil {piece : Bytes} (hp : piece ≠ []) (s : Bytes) :
    (splitScan delimiters piece s).headD [] = piece ++ s.takeWhile (· ∉ delimiters) := by
  induction s generalizing piece with
  | nil => simp [splitScan]
  | cons c s ih =>
      rw [splitScan]
      by_cases hc : c ∈ delimiters
      · simp [hc, hp]
      · rw [if_neg hc, ih (by simp)]
        simp [hc]

/-- `tokens[0]` is the first run of characters that are not delimiters. -/
theorem headD_splitString (string delimiters : Bytes) :
    (splitString string delimiters).headD [] = firstToken delimiters string := by
  rw [splitString_eq_scan]
  induction string with
  | nil => rfl
  | cons c s ih =>
      rw [splitScan]
      by_cases hc : c ∈ delimiters
      · rw [if_pos hc, if_pos rfl, List.nil_append, ih, firstToken_cons_of_mem hc]
      · rw [if_neg hc, head_splitScan_of_ne_nil (by simp), firstToken_cons_of_not_mem hc]
        simp

/-- The first token is empty exactly when the string has only delimiters. -/
theorem firstToken_eq_nil {s : Bytes} :
    firstToken delimiters s = [] ↔ ∀ c ∈ s, c ∈ delimiters := by
  induction s with
  | nil => simp [firstToken]
  | cons c s ih =>
      by_cases hc : c ∈ delimiters
      · rw [firstToken_cons_of_mem hc, ih]
        simp [hc]
      · rw [firstToken_cons_of_not_mem hc]
        simp [hc]

theorem not_mem_of_mem_firstToken {s : Bytes} {c : Char} (hc : c ∈ firstToken delimiters s) :
    c ∉ delimiters := by
  simpa using List.mem_takeWhile_imp hc

theorem mem_of_mem_firstToken {s : Bytes} {c : Char} (hc : c ∈ firstToken delimiters s) : c ∈ s :=
  (List.dropWhile_sublist _).subset ((List.takeWhile_sublist _).subset hc)

/-- Leading delimiters do not matter for the first token. -/
theorem firstToken_append_left {lead : Bytes} (hlead : ∀ c ∈ lead, c ∈ delimiters) (s : Bytes) :
    firstToken delimiters (lead ++ s) = firstToken delimiters s := by
  induction lead with
  | nil => rfl
  | cons c lead ih =>
      rw [List.cons_append, firstToken_cons_of_mem (hlead c (List.mem_cons_self ..)),
        ih fun b hb => hlead b (List.mem_cons_of_mem _ hb)]

end MpsEmulator
