/-
**The tokens of a string, and the callers that index them.**

`SplitString` returns the maximal runs of characters that are no delimiters, in order.  When the
string is empty or ends with a delimiter, its last round adds the rest of the string, which is then
empty.  `OnCommand` and `ParseCommands` read `tokens[0]` and `tokens[0][0]`, and `SET FORMAT` reads
pairs of tokens, without asking whether they are there.

* `SplitStringReturns`, `splitStringReturns_iff` — the loop run to its end, which it always reaches;
* `IsRun`, `isRun_append_cons` — maximal runs, and that none goes across a delimiter;
* `splitString_runs` — **the runs, and an empty string at most at the end**;
* `stringAt` — reading a character where a string has one, or its terminating NUL;
* `onCommandChecked`, `parseCommandsChecked` — the callers with these accesses checked;
* `splitString_characterised` — the tokens, and that no access of the callers fails.
-/

import MpsEmulator.Configuration
import MpsEmulator.ServerLayer

set_option relaxedAutoImplicit false
set_option autoImplicit false

namespace MpsEmulator

/-! ### The loop ends -/

/-- The loop of `SplitString`, entered with `first` and `result`, ends and returns `out`. -/
inductive SplitStringReturns (string delimiters : Bytes) : ℕ → List Bytes → List Bytes → Prop
  /-- `first` is behind the end of the string -/
  | past {first : ℕ} {result : List Bytes} (hfirst : string.length < first) :
      SplitStringReturns string delimiters first result result
  /-- there is no further delimiter -/
  | last {first : ℕ} {result : List Bytes} (hfirst : first ≤ string.length)
      (hnone : findFirstOf string delimiters first = none) :
      SplitStringReturns string delimiters first result (result ++ [string.drop first])
  /-- another round behind the next delimiter -/
  | next {first second : ℕ} {result out : List Bytes} (hfirst : first ≤ string.length)
      (hsome : findFirstOf string delimiters first = some second)
      (hrest : SplitStringReturns string delimiters (second + 1)
        (if first ≠ second then result ++ [(string.drop first).take (second - first)] else result)
        out) :
      SplitStringReturns string delimiters first result out

variable {delimiters s : Bytes}

/-- A delimiter that is found stands at or after `first`, and inside the string. -/
theorem findFirstOf_bounds {first second : ℕ} (h : findFirstOf s delimiters first = some second) :
    first ≤ second ∧ second < s.length := by
  obtain ⟨i, hi, rfl⟩ := Option.map_eq_some_iff.1 h
  obtain ⟨hlt, -⟩ := List.findIdx?_eq_some_iff_getElem.1 hi
  rw [List.length_drop] at hlt
  omega

/-- The loop ends, and its bounded form, given enough rounds, says with what. -/
theorem splitStringReturns_loop (s delimiters : Bytes) (rounds first : ℕ) (result : List Bytes)
    (hfirst : first ≤ s.length) (hrounds : s.length - first < rounds) :
    SplitStringReturns s delimiters first result
      (splitStringLoop s delimiters rounds first result) := by
  induction rounds generalizing first result with
  | zero => omega
  | succ rounds ih =>
      rw [splitStringLoop, if_pos hfirst]
      cases hfind : findFirstOf s delimiters first with
      | none => exact .last hfirst hfind
      | some second =>
          obtain ⟨hle, hlt⟩ := findFirstOf_bounds hfind
          exact .next hfirst hfind (ih _ _ (by omega) (by omega))

/-- The loop ends in one way only. -/
theorem SplitStringReturns.unique {first : ℕ} {result out out' : List Bytes}
    (h : SplitStringReturns s delimiters first result out)
    (h' : SplitStringReturns s delimiters first result out') : out = out' := by
  induction h with
  | past hfirst =>
      cases h' with
      | past => rfl
      | last hfirst' => omega
      | next hfirst' => omega
  | last hfirst hnone =>
      cases h' with
      | past hfirst' => omega
      | last => rfl
      | next _ hsome => exact absurd (hnone.symm.trans hsome) (by simp)
  | next hfirst hsome _ ih =>
      cases h' with
      | past hfirst' => omega
      | last _ hnone => exact absurd (hnone.symm.trans hsome) (by simp)
      | next _ hsome' hrest' =>
          obtain rfl := Option.some_inj.1 (hsome.symm.trans hsome')
          exact ih hrest'

/-- `SplitString` **terminates** on every string and every set of delimiters, with the value of
`splitString`. -/
theorem splitStringReturns_iff (s delimiters : Bytes) (out : List Bytes) :
    SplitStringReturns s delimiters 0 [] out ↔ out = splitString s delimiters := by
  have hloop : SplitStringReturns s delimiters 0 [] (splitString s delimiters) :=
    splitStringReturns_loop s delimiters _ 0 [] (Nat.zero_le _) (by omega)
  constructor
  · intro h
    exact h.unique hloop
  · rintro rfl
    exact hloop

/-! ### Maximal runs -/

/-- The characters `w` from the index `i` of `s` on are a nonempty run without delimiters, with the
ends of the string or delimiters around it. -/
def IsRun (delimiters s : Bytes) (i : ℕ) (w : Bytes) : Prop :=
  w ≠ [] ∧ (∀ c ∈ w, c ∉ delimiters) ∧
    ∃ p q, s = p ++ (w ++ q) ∧ p.length = i ∧
      (∀ c ∈ p.getLast?, c ∈ delimiters) ∧ ∀ c ∈ q.head?, c ∈ delimiters

/-- The string is empty or ends with a delimiter. -/
def EndsSplit (delimiters s : Bytes) : Prop := s = [] ∨ ∃ c ∈ delimiters, s.getLast? = some c

instance (delimiters s : Bytes) : Decidable (EndsSplit delimiters s) :=
  inferInstanceAs (Decidable (s = [] ∨ ∃ c ∈ delimiters, s.getLast? = some c))

/-- A string without delimiters is its own only run, unless it is empty. -/
theorem isRun_of_free (hs : ∀ c ∈ s, c ∉ delimiters) (i : ℕ) (w : Bytes) :
    IsRun delimiters s i w ↔ s ≠ [] ∧ i = 0 ∧ w = s := by
  constructor
  · rintro ⟨hw, -, p, q, rfl, rfl, hleft, hright⟩
    -- a delimiter next to the run would be a character of the string
    have hp : p = [] := by
      cases hlast : p.getLast? with
      | none => exact List.getLast?_eq_none_iff.1 hlast
      | some c =>
          have hmem : c ∈ p ++ (w ++ q) := by simp [List.mem_of_getLast? hlast]
          exact absurd (hleft c hlast) (hs c hmem)
    have hq : q = [] := by
      cases q with
      | nil => rfl
      | cons c q => exact absurd (hright c rfl) (hs c (by simp))
    subst hp hq
    exact ⟨by simpa using hw, rfl, by simp⟩
  · rintro ⟨hne, rfl, rfl⟩
    exact ⟨hne, hs, [], [], by simp, rfl, by simp, by simp⟩

/-- The runs of two strings with a delimiter between them are those of the first string and, moved
behind the delimiter, those of the second one. -/
theorem isRun_append_cons {a b : Bytes} {d : Char} (hd : d ∈ delimiters) (i : ℕ) (w : Bytes) :
    IsRun delimiters (a ++ d :: b) i w ↔
      IsRun delimiters a i w ∨ ∃ j, i = j + (a.length + 1) ∧ IsRun delimiters b j w := by
  constructor
  · rintro ⟨hw, hfree, p, q, hs, rfl, hleft, hright⟩
    rcases List.append_eq_append_iff.1 hs with ⟨t, rfl, hb⟩ | ⟨t, rfl, hwq⟩
    · -- the run begins at the delimiter or behind it, and it does not begin at it
      rcases List.cons_eq_append_iff.1 hb with ⟨rfl, hwq⟩ | ⟨t', rfl, rfl⟩
      · obtain ⟨c, w, rfl⟩ := List.exists_cons_of_ne_nil hw
        obtain ⟨rfl, -⟩ := List.cons_eq_cons.1 hwq
        exact absurd hd (hfree _ List.mem_cons_self)
      · refine Or.inr ⟨t'.length, by simp; omega, hw, hfree, t', q, rfl, rfl, ?_, hright⟩
        intro c hc
        cases t' with
        | nil => simp at hc
        | cons c' t' =>
            have hc' : (c' :: t').getLast? = some c := hc
            exact hleft c (by simp [List.getLast?_append, List.getLast?_cons_cons, hc'])
    · -- the run begins in the first string, and it ends there
      rcases List.append_eq_append_iff.1 hwq with ⟨u, rfl, rfl⟩ | ⟨v, rfl, hb⟩
      · refine Or.inl ⟨hw, hfree, p, u, rfl, rfl, hleft, fun c hc => hright c ?_⟩
        cases u with
        | nil => simp at hc
        | cons c' u => exact hc
      · cases v with
        | nil =>
            refine Or.inl ⟨hw, hfree, p, [], by simp, rfl, hleft, by simp⟩
        | cons c v =>
            obtain ⟨rfl, -⟩ := List.cons_eq_cons.1 hb
            exact absurd hd (hfree _ (by simp))
  · rintro (⟨hw, hfree, p, q, rfl, rfl, hleft, hright⟩ |
      ⟨j, rfl, hw, hfree, p, q, rfl, rfl, hleft, hright⟩)
    · refine ⟨hw, hfree, p, q ++ d :: b, by simp, rfl, hleft, fun c hc => ?_⟩
      cases q with
      | nil =>
          obtain rfl : d = c := by simpa using hc
          exact hd
      | cons c' q => exact hright c hc
    · refine ⟨hw, hfree, a ++ d :: p, q, by simp, by simp; omega, fun c hc => ?_, hright⟩
      cases p with
      | nil =>
          obtain rfl : d = c := by simpa using hc
          exact hd
      | cons c' p =>
          exact hleft c (by simpa [List.getLast?_append, List.getLast?_cons_cons] using hc)

/-- Behind a delimiter, the end of a string decides whether it ends with one. -/
theorem endsSplit_append_cons {a b : Bytes} {d : Char} (hd : d ∈ delimiters) :
    EndsSplit delimiters (a ++ d :: b) ↔ EndsSplit delimiters b := by
  cases b with
  | nil => exact iff_of_true (Or.inr ⟨d, hd, by simp⟩) (Or.inl rfl)
  | cons c b => simp [EndsSplit, List.getLast?_append, List.getLast?_cons_cons]

/-- The list has the maximal runs of `s`, each with its index, from left to right. -/
structure RunsOf (delimiters s : Bytes) (runs : List (ℕ × Bytes)) : Prop where
  sorted : runs.Pairwise fun r r' => r.1 < r'.1
  complete : ∀ i w, (i, w) ∈ runs ↔ IsRun delimiters s i w

theorem RunsOf.of_free (hs : ∀ c ∈ s, c ∉ delimiters) :
    RunsOf delimiters s (if s = [] then [] else [(0, s)]) := by
  refine ⟨by split <;> simp, fun i w => ?_⟩
  rw [isRun_of_free hs]
  split
  · next h => simp [h]
  · next h => simp [h]

/-- The runs on both sides of a delimiter, one after the other. -/
theorem RunsOf.append {a b : Bytes} {d : Char} {runs runs' : List (ℕ × Bytes)}
    (hd : d ∈ delimiters) (h : RunsOf delimiters a runs) (h' : RunsOf delimiters b runs') :
    RunsOf delimiters (a ++ d :: b)
      (runs ++ runs'.map fun r => (r.1 + (a.length + 1), r.2)) := by
  refine ⟨?_, fun i w => ?_⟩
  · refine List.pairwise_append.2 ⟨h.sorted, ?_, ?_⟩
    · rw [List.pairwise_map]
      exact h'.sorted.imp fun hlt => Nat.add_lt_add_right hlt _
    · rintro ⟨i, w⟩ hr r' hr'
      obtain ⟨r, -, rfl⟩ := List.mem_map.1 hr'
      -- a run of the first string begins inside it
      obtain ⟨-, -, p, q, rfl, rfl, -⟩ := (h.complete i w).1 hr
      simp only [List.length_append]
      omega
  · rw [isRun_append_cons hd, List.mem_append, h.complete, List.mem_map]
    refine or_congr_right ⟨?_, ?_⟩
    · rintro ⟨⟨j, w'⟩, hr, heq⟩
      obtain ⟨rfl, rfl⟩ := Prod.mk.inj heq
      exact ⟨j, rfl, (h'.complete j w').1 hr⟩
    · rintro ⟨j, rfl, hr⟩
      exact ⟨(j, w), (h'.complete j w).2 hr, rfl⟩

/-- The pieces the scan finds are **the maximal runs in order**, and one empty string behind them
exactly when the string is empty or ends with a delimiter. -/
theorem splitString_runs (s delimiters : Bytes) :
    ∃ runs, RunsOf delimiters s runs ∧
      splitString s delimiters =
        runs.map Prod.snd ++ if EndsSplit delimiters s then [[]] else [] := by
  rw [splitString_eq_scan]
  -- by induction on the length: behind the first delimiter the string is shorter
  induction hlen : s.length using Nat.strong_induction_on generalizing s with
  | _ n ih =>
      rcases findIdx?_mem_cases delimiters s with ⟨-, hfree⟩ | ⟨run, d, rest, rfl, hrun, hd, -⟩
      · refine ⟨_, RunsOf.of_free hfree, ?_⟩
        have hscan := splitScan_append hfree [] []
        rw [List.append_nil, List.nil_append] at hscan
        rw [hscan]
        by_cases hs : s = []
        · simp [hs, EndsSplit, splitScan]
        · have hends : ¬ EndsSplit delimiters s := by
            rintro (h | ⟨c, hc, hlast⟩)
            · exact hs h
            · exact hfree c (List.mem_of_getLast? hlast) hc
          simp [hs, hends, splitScan]
      · obtain ⟨runs, hruns, hrest⟩ := ih rest.length (by simp at hlen; omega) rest rfl
        refine ⟨_, (RunsOf.of_free hrun).append hd hruns, ?_⟩
        rw [splitScan_append hrun, splitScan, if_pos hd, List.nil_append, hrest]
        simp only [endsSplit_append_cons hd, List.map_append, List.map_map, List.append_assoc]
        congr 1
        split <;> rfl

/-! ### Accesses that the callers do not check -/

/-- `string[i]`: a character of the string, or its terminating NUL; `none` for an access out of
range. -/
def stringAt (t : Bytes) (i : ℕ) : Option Char := if i = t.length then some '\x00' else t[i]?

/-- Every string has a first character, if only its NUL. -/
theorem stringAt_zero (t : Bytes) : stringAt t 0 = some (t.headD '\x00') := by
  cases t <;> rfl

/-- The selection of the command, with `tokens[0]` and `tokens[0][0]` checked. -/
def verbChecked (tokens : List Bytes) : Option (Option Verb) := do
  let t ← tokens[0]?
  if isOneOf t ["VER", "ver", "VERSION", "version"] then some (some .ver)
  else if isOneOf t ["STATUS", "status"] then some (some .status)
  else if isOneOf t ["CALZ", "calz"] then some (some .calz)
  else if isOneOf t ["SCAN", "scan"] then some (some .scan)
  else if isOneOf t ["STOP", "stop"] then some (some .stop)
  else do
    let c ← stringAt t 0
    if c = '\x1b' then some (some .stop)
    else if isOneOf t ["SET", "set"] then some (some .set)
    else if isOneOf t ["GET", "get"] then some (some .get)
    else if isOneOf t ["LIST", "list"] then some (some .list)
    else some none

/-- The loop of `SET FORMAT` from the index `i` on, with `tokens[i][0]` and `tokens[i + 1][0]`
checked.  The index is an `int`, which fewer than `2 ^ 31` tokens do not overflow. -/
def setFormatFrom (E : Env) (tokens : List Bytes) (d : Mps) (i : ℕ) :
    Option (Mps × Option Bytes) :=
  if _h : i < tokens.length then
    if tokens.length ≤ i + 1 then
      some (d, some
        ("Invalid Command: `SET FORMAT` requires argument pairs: " ++
          "e.g. SET FORMAT F <format>\r\n>").toList)
    else do
      let type ← tokens[i]?
      let fmt ← tokens[i + 1]?
      let t ← stringAt type 0
      let f ← stringAt fmt 0
      match setDataFormat E d t f with
      | some d' => setFormatFrom E tokens d' (i + 2)
      | none =>
          some (d, some
            ("Invalid Command: SET FORMAT ".toList ++ type ++ " ".toList ++ fmt ++ prompt))
  else some (d, none)
termination_by tokens.length - i

/-- `SET FORMAT` with its accesses checked. -/
def setFormatChecked (E : Env) (x : Session) (tokens : List Bytes) (d : Mps) : Option Outcome := do
  match ← setFormatFrom E tokens d 2 with
  | (d', none) =>
      some (x.answer d' ("SET FORMAT".toList ++ buildDataFormatResponse E d' ++ prompt))
  | (d', some error) => some (x.answer d' error)

/-- `ParseCommands` with these accesses checked; all the others follow a test of the number of
tokens. -/
def parseCommandsChecked (E : Env) (x : Session) (d : Mps) (cmd : Bytes) : Option Outcome := do
  let tokens := splitString cmd blanks
  match ← verbChecked tokens with
  | some .set =>
      if settingOf (tok tokens 1) = some .format then setFormatChecked E x tokens d
      else some (parseCommands E x d cmd)
  | _ => some (parseCommands E x d cmd)

/-- `ServerLayer::OnCommand` with `tokens[0]` and `tokens[0][0]` checked. -/
def onCommandChecked (E : Env) (x : Session) (l : ServerLayer) (id : ℕ) (cmd : Bytes) :
    Option LayerOutcome :=
  if id ≠ l.commandClient.id ∧ id ≠ 0 then
    some (x.reply l
      [(id, "[Error] you do not have permission to control this device\r\n".toList)])
  else
    match editCommand ((l.cmds id).getD []) cmd with
    | (clientCmd, false) => some (x.reply (l.setCmd id clientCmd) [])
    | (clientCmd, true) => do
        let line ← (splitString clientCmd lineEnds)[0]?
        let c ← stringAt line 0
        if c = '\r' ∨ line = [] then some (x.reply (l.setCmd id []) [(id, "\r>".toList)])
        else some (dispatchLine E x (l.setCmd id []) id line)

/-- There is always a first token. -/
theorem splitString_getElem_zero (s delimiters : Bytes) :
    (splitString s delimiters)[0]? = some (tok (splitString s delimiters) 0) := by
  obtain ⟨t, rest, h⟩ := List.exists_cons_of_ne_nil (splitString_ne_nil s delimiters)
  rw [h]
  rfl

theorem verbChecked_splitString (cmd : Bytes) :
    verbChecked (splitString cmd blanks) = some (verb cmd) := by
  rw [verbChecked, splitString_getElem_zero, verb]
  generalize tok (splitString cmd blanks) 0 = t
  -- `STOP` and the escape character are one branch there, and two here
  simp only [Option.bind_eq_bind, Option.bind_some, stringAt_zero, verbOf, ite_or, apply_ite some]

/-- From any index on, the loop over the indices is the loop over the tokens, and none of its
accesses fails. -/
theorem setFormatFrom_eq (E : Env) (tokens : List Bytes) (d : Mps) (i : ℕ) :
    setFormatFrom E tokens d i = some (setFormatLoop E d (tokens.drop i)) := by
  -- by induction on the tokens that are left
  induction hleft : tokens.length - i using Nat.strong_induction_on generalizing d i with
  | _ n ih =>
      rw [setFormatFrom]
      by_cases h : i < tokens.length
      · rw [dif_pos h, List.drop_eq_getElem_cons h]
        by_cases hlast : tokens.length ≤ i + 1
        · rw [if_pos hlast, List.drop_eq_nil_of_le hlast, setFormatLoop]
        · rw [if_neg hlast, List.drop_eq_getElem_cons (by omega : i + 1 < tokens.length),
            setFormatLoop, List.getElem?_eq_getElem h, List.getElem?_eq_getElem (by omega)]
          simp only [Option.bind_eq_bind, Option.bind_some, stringAt_zero]
          cases hset : setDataFormat E d (tokens[i].headD '\x00') (tokens[i + 1].headD '\x00') with
          | none => rfl
          | some d' => exact ih _ (by omega) d' (i + 2) rfl
      · rw [dif_neg h, List.drop_eq_nil_of_le (by omega), setFormatLoop]

theorem parseCommandsChecked_eq (E : Env) (x : Session) (d : Mps) (cmd : Bytes) :
    parseCommandsChecked E x d cmd = some (parseCommands E x d cmd) := by
  rw [parseCommandsChecked, verbChecked_splitString]
  simp only [Option.bind_eq_bind, Option.bind_some]
  split
  · next hverb =>
    split
    · next hset =>
      have hlen : ¬ (splitString cmd blanks).length < 2 := Nat.not_lt.2 (two_le_of_settingOf hset)
      rw [verb] at hverb
      rw [setFormatChecked, setFormatFrom_eq, parseCommands, hverb]
      simp only [parseSet, if_neg hlen, hset, Option.getD_some, setFormat, Option.bind_eq_bind,
        Option.bind_some]
      split <;> simp_all
    · rfl
  · rfl

theorem onCommandChecked_eq (E : Env) (x : Session) (l : ServerLayer) (id : ℕ) (cmd : Bytes) :
    onCommandChecked E x l id cmd = some (onCommand E x l id cmd) := by
  rw [onCommandChecked, onCommand]
  split
  · rfl
  · cases hedit : editCommand ((l.cmds id).getD []) cmd with
    | mk clientCmd complete =>
        cases complete with
        | false => rfl
        | true =>
            dsimp only
            rw [splitString_getElem_zero]
            simp only [Option.bind_eq_bind, Option.bind_some, stringAt_zero]
            split
            · next hempty => rw [dispatchLine, if_pos hempty]
            · rfl

/-! ### The characterisation -/

/-- `SplitString` terminates and returns **the maximal runs without delimiters, in order, and one
empty string behind them** exactly when the string is empty or ends with a delimiter.  So there is
always a first token, only the last one can be empty, and no access of `OnCommand` or
`ParseCommands` to a token or to its first character is out of range. -/
theorem splitString_characterised :
    (∀ s delimiters : Bytes,
      (∀ out, SplitStringReturns s delimiters 0 [] out ↔ out = splitString s delimiters) ∧
      (∃ runs, RunsOf delimiters s runs ∧
        splitString s delimiters =
          runs.map Prod.snd ++ if EndsSplit delimiters s then [[]] else []) ∧
      splitString s delimiters ≠ [] ∧ ∀ t ∈ (splitString s delimiters).dropLast, t ≠ []) ∧
    (∀ E x l id cmd, onCommandChecked E x l id cmd = some (onCommand E x l id cmd)) ∧
    ∀ E x d cmd, parseCommandsChecked E x d cmd = some (parseCommands E x d cmd) := by
  refine ⟨fun s delimiters => ⟨splitStringReturns_iff s delimiters, splitString_runs s delimiters,
    splitString_ne_nil s delimiters, ?_⟩, onCommandChecked_eq, parseCommandsChecked_eq⟩
  rw [splitString_eq_scan]
  exact splitScan_dropLast_ne_nil

end MpsEmulator
