/-
**Blanks behind a command.**

A delimiter at the end of a command leaves an empty token behind the others.  The commands without
arguments do not look at it, but `SET` counts its tokens, and then the empty one may be the argument
that was missing: `sscanf` reads nothing from it and its result is not looked at.  `SET FORMAT`
takes it for half a pair, after the pairs before it are in force.

* `splitString_append_blanks` — the tokens of a command with blanks behind it;
* `SameVerdict` — two calls leave the same device, and both or none of them reject their command;
* `countsBlank` — the commands for which the empty token makes the difference;
* `trailing_blanks_iff` — **blanks behind a command do not matter exactly for the others**;
* `trailing_blank_matters` — one for which they do.
-/

import MpsEmulator.NumericSettings

set_option relaxedAutoImplicit false
set_option autoImplicit false

namespace MpsEmulator

open CNumeral

/-! ### The empty token -/

section Tokens

variable {delimiters gap : Bytes}

/-- A string of delimiters has one empty piece. -/
theorem splitScan_of_delimiters (hgap : ∀ c ∈ gap, c ∈ delimiters) :
    splitScan delimiters [] gap = [[]] := by
  induction gap with
  | nil => rfl
  | cons c gap ih =>
      rw [splitScan, if_pos (hgap c List.mem_cons_self), if_pos rfl, List.nil_append,
        ih fun b hb => hgap b (List.mem_cons_of_mem _ hb)]

/-- Delimiters behind a string that does not end with one leave an empty piece behind the others. -/
theorem splitScan_append_gap (hgap : ∀ c ∈ gap, c ∈ delimiters) (hne : gap ≠ [])
    (piece s : Bytes) (hs : piece ++ s ≠ []) (hlast : ∀ c ∈ (piece ++ s).getLast?, c ∉ delimiters) :
    splitScan delimiters piece (s ++ gap) = splitScan delimiters piece s ++ [[]] := by
  induction s generalizing piece with
  | nil =>
      obtain ⟨c, gap, rfl⟩ := List.exists_cons_of_ne_nil hne
      rw [List.append_nil] at hs
      rw [List.nil_append, splitScan, splitScan, if_pos (hgap c List.mem_cons_self), if_neg hs,
        splitScan_of_delimiters fun b hb => hgap b (List.mem_cons_of_mem _ hb)]
  | cons c s ih =>
      rw [List.cons_append, splitScan, splitScan]
      split
      · next hc =>
        -- the string goes on behind this delimiter
        cases s with
        | nil => exact absurd hc (hlast c (by simp))
        | cons b s =>
            rw [ih [] (by simp) fun a ha => hlast a ?_, List.append_assoc]
            simpa [List.getLast?_append, List.getLast?_cons_cons] using ha
      · exact ih (piece ++ [c]) (by simp) (by simpa using hlast)

end Tokens

variable {E : Env} {x : Session} {d : Mps} {cmd cmd' : Bytes} {tokens : List Bytes} {n : ℕ}

/-- Blanks behind a command add one empty token. -/
theorem splitString_append_blanks (hne : cmd ≠ []) (hlast : ∀ c ∈ cmd.getLast?, c ∉ blanks)
    (hn : n ≠ 0) :
    splitString (cmd ++ List.replicate n ' ') blanks = splitString cmd blanks ++ [[]] := by
  rw [splitString_eq_scan, splitString_eq_scan]
  refine splitScan_append_gap (fun c hc => ?_) (by simpa using hn) [] cmd (by simpa using hne)
    (by simpa using hlast)
  rw [List.eq_of_mem_replicate hc]
  decide

/-- An empty token more is seen in the number of tokens only. -/
theorem tok_append_nil (tokens : List Bytes) (i : ℕ) : tok (tokens ++ [[]]) i = tok tokens i := by
  rw [tok, tok]
  rcases lt_trichotomy i tokens.length with h | h | h
  · rw [List.getD_append _ _ _ _ h]
  · rw [h, List.getD_append_right _ _ _ _ le_rfl, List.getD_eq_default _ _ le_rfl]
    simp
  · rw [List.getD_eq_default _ _ (by simp; omega), List.getD_eq_default _ _ h.le]

/-! ### Verdicts -/

/-- The two calls leave the same device, and both or none of them call their command invalid. -/
def SameVerdict (o o' : Outcome) : Prop :=
  o.device = o'.device ∧ (invalidCommand <+: o.reply ↔ invalidCommand <+: o'.reply)

theorem SameVerdict.refl (o : Outcome) : SameVerdict o o := ⟨rfl, Iff.rfl⟩

theorem sameVerdict_answer {x x' : Session} {reply reply' : Bytes}
    (h : invalidCommand <+: reply ↔ invalidCommand <+: reply') :
    SameVerdict (x.answer d reply) (x'.answer d reply') := ⟨rfl, h⟩

theorem invalidCommand_unrecognised (x : Session) (d : Mps) (cmd : Bytes) :
    invalidCommand <+: (unrecognised x d cmd).reply := by
  rw [unrecognised, Session.answer, List.append_assoc]
  exact invalidCommand_append (invalidCommand_text rfl) _

/-- A setting that is echoed once it has `k` tokens: one token more does not matter unless it is the
one that was missing. -/
theorem sameVerdict_echo_iff (hverb : verb cmd = some .set) (hverb' : verb cmd' = some .set)
    {text : Bytes} (htext : invalidCommand <+: text) (d' : Mps) (len k : ℕ) :
    SameVerdict (if len < k then x.answer d text else x.answer d' (cmd ++ prompt))
        (if len + 1 < k then x.answer d text else x.answer d' (cmd' ++ prompt)) ↔
      len + 1 ≠ k := by
  have hecho := not_invalidCommand_echo hverb prompt
  have hecho' := not_invalidCommand_echo hverb' prompt
  by_cases hlen : len < k
  · rw [if_pos hlen]
    by_cases hlen' : len + 1 < k
    · rw [if_pos hlen']
      exact iff_of_true (.refl _) (by omega)
    · rw [if_neg hlen']
      exact iff_of_false (fun h => hecho' (h.2.1 htext)) (by omega)
  · rw [if_neg hlen, if_neg (by omega)]
    exact iff_of_true (sameVerdict_answer (iff_of_false hecho hecho')) (by omega)

/-! ### The commands that count the empty token -/

/-- The command is a `SET` that an empty argument makes acceptable, or a `SET FORMAT` that is
acceptable without one. -/
def countsBlank (E : Env) (cmd : Bytes) : Bool :=
  let tokens := splitString cmd blanks
  verb cmd = some .set &&
    match settingOf (tok tokens 1) with
    | some .rate | some .fps | some .enudp | some .enftp => tokens.length = 2
    | some .ipudp => tokens.length = 3
    | some .format => (tokens.drop 2).length = 2 * (acceptedPairs E (tokens.drop 2)).length
    | some .units => tokens.length = 2 && (E.mpsUnitsFromString []).isSome
    | some .sim | none => false

/-- No channel allows NUL as a format. -/
theorem setDataFormat_nul (E : Env) (d : Mps) (type : Char) :
    setDataFormat E d type '\x00' = none := by
  simp [setDataFormat, allowedFormat]

/-- With an empty token behind its tokens, the loop of `SET FORMAT` applies the same pairs and
always gives up. -/
theorem setFormatLoop_append_nil (E : Env) (d : Mps) (tokens : List Bytes) :
    ∃ error, setFormatLoop E d (tokens ++ [[]]) = ((setFormatLoop E d tokens).1, some error) := by
  induction d, tokens using setFormatLoop.induct E with
  | case1 d => exact ⟨_, rfl⟩
  | case2 d t =>
      have hnul := setDataFormat_nul E d (t.headD '\x00')
      simp only [List.cons_append, List.nil_append, setFormatLoop, List.headD_nil, hnul]
      exact ⟨_, rfl⟩
  | case3 d type fmt rest d' hset ih =>
      simp only [List.cons_append, setFormatLoop, hset]
      exact ih
  | case4 d type fmt rest hset =>
      simp only [List.cons_append, setFormatLoop, hset]
      exact ⟨_, rfl⟩

/-- An empty token turns an accepted `SET FORMAT` into a rejected one, and leaves a rejected one as
it is. -/
theorem sameVerdict_setFormat_iff (hlen : 2 ≤ tokens.length) :
    SameVerdict (setFormat E x d tokens) (setFormat E x d (tokens ++ [[]])) ↔
      (tokens.drop 2).length ≠ 2 * (acceptedPairs E (tokens.drop 2)).length := by
  obtain ⟨error', hloop'⟩ := setFormatLoop_append_nil E d (tokens.drop 2)
  have hsaid := @setFormatLoop_error E d (tokens.drop 2)
  have hsaid' : invalidCommand <+: error' := setFormatLoop_error (congrArg Prod.snd hloop')
  rw [ne_eq, ← (setFormatLoop_eq E d (tokens.drop 2)).2, setFormat, setFormat,
    List.drop_append_of_le_length hlen, hloop']
  cases hloop : setFormatLoop E d (tokens.drop 2) with
  | mk d' error =>
      rw [hloop] at hsaid
      cases error with
      | none =>
          refine iff_of_false (fun h => ?_) (by simp)
          obtain ⟨tail, htail⟩ := h.2.2 hsaid'
          exact absurd (List.cons_eq_cons.1 htail).1 (by decide)
      | some error =>
          exact iff_of_true (sameVerdict_answer (iff_of_true (hsaid rfl) hsaid')) (by simp)

/-- A token that is not there reads as an empty one. -/
theorem tok_of_length_le {i : ℕ} (h : tokens.length ≤ i) : tok tokens i = [] :=
  List.getD_eq_default _ _ h

theorem sameVerdict_setUnits_iff (hverb : verb cmd = some .set) (hverb' : verb cmd' = some .set)
    (hlen : 2 ≤ tokens.length) :
    SameVerdict (setUnits E x d cmd tokens) (setUnits E x d cmd' (tokens ++ [[]])) ↔
      ¬ (tokens.length = 2 ∧ (E.mpsUnitsFromString []).isSome) := by
  have hpre : invalidCommand <+: "Invalid Command: SET UNITS ".toList := invalidCommand_text rfl
  have hecho := not_invalidCommand_echo hverb prompt
  have hecho' := not_invalidCommand_echo hverb' prompt
  have hlength : ¬ (tokens ++ [[]]).length < 3 := by simp; omega
  rw [setUnits, setUnits, if_neg hlength, tok_append_nil]
  by_cases hshort : tokens.length = 2
  · have hnone : invalidCommand <+:
        "Invalid Command: `SET UNITS` requires 1 argument: SET UNITS <UNIT>\r\n>".toList :=
      invalidCommand_text rfl
    rw [if_pos (by omega), tok_of_length_le (by omega), show cStr [] = [] from rfl]
    cases E.mpsUnitsFromString [] with
    | none =>
        refine iff_of_true (sameVerdict_answer (iff_of_true hnone ?_)) (by simp)
        rw [List.append_assoc]
        exact invalidCommand_append hpre _
    | some u => exact iff_of_false (fun h => hecho' (h.2.1 hnone)) (by simp [hshort])
  · rw [if_neg (by omega)]
    refine iff_of_true ?_ (by simp [hshort])
    cases E.mpsUnitsFromString (cStr (tok tokens 2)) with
    | none => exact .refl _
    | some u => exact sameVerdict_answer (iff_of_false hecho hecho')

theorem sameVerdict_setSim (hverb : verb cmd = some .set) (hverb' : verb cmd' = some .set)
    (hlen : 2 ≤ tokens.length) :
    SameVerdict (setSim E x d cmd tokens) (setSim E x d cmd' (tokens ++ [[]])) := by
  have hpre : ∀ s : Bytes, invalidCommand <+: "Invalid Command: ".toList ++ s :=
    invalidCommand_append (invalidCommand_text rfl)
  have hpre' : ∀ s : Bytes, invalidCommand <+: "Invalid Command: `SET SIM`".toList ++ s :=
    invalidCommand_append (invalidCommand_text rfl)
  have hecho := not_invalidCommand_echo hverb prompt
  have hecho' := not_invalidCommand_echo hverb' prompt
  have hlength : ¬ (tokens ++ [[]]).length < 3 := by simp; omega
  rw [setSim, setSim, if_neg hlength, tok_append_nil]
  by_cases hshort : tokens.length = 2
  · -- an empty argument has no digits, and is answered like a missing one
    rw [if_pos (by omega), tok_of_length_le (by omega)]
    exact sameVerdict_answer Iff.rfl
  · rw [if_neg (by omega)]
    dsimp only
    split
    · exact .refl _
    · split
      · rw [List.append_assoc, List.append_assoc]
        exact sameVerdict_answer (iff_of_true (hpre' _) (hpre' _))
      · split
        · rw [List.append_assoc, List.append_assoc]
          exact sameVerdict_answer (iff_of_true (hpre _) (hpre _))
        · exact sameVerdict_answer (iff_of_false hecho hecho')

/-- `SET` with one empty token more. -/
theorem sameVerdict_set_iff (hverb : verb cmd = some .set) (hverb' : verb cmd' = some .set)
    (htokens : splitString cmd' blanks = splitString cmd blanks ++ [[]]) :
    SameVerdict (parseCommands E x d cmd) (parseCommands E x d cmd') ↔
      countsBlank E cmd = false := by
  have htok : tok (splitString cmd' blanks) = tok (splitString cmd blanks) := by
    rw [htokens]
    exact funext (tok_append_nil _)
  have hlength : (splitString cmd' blanks).length = (splitString cmd blanks).length + 1 := by
    rw [htokens]
    simp
  simp only [countsBlank, hverb, decide_true, Bool.true_and]
  cases hset : settingOf (tok (splitString cmd blanks) 1) with
  | none =>
      refine iff_of_true ?_ rfl
      have hset' : settingOf (tok (splitString cmd' blanks) 1) = none := htok ▸ hset
      rw [verb] at hverb hverb'
      rw [parseCommands, parseCommands, hverb, hverb']
      simp only [parseSet, hset, hset']
      split <;> split <;> refine sameVerdict_answer (iff_of_true ?_ ?_) <;>
        first | exact invalidCommand_text rfl | exact invalidCommand_unrecognised x d _
  | some setting =>
      have hlen := two_le_of_settingOf hset
      rw [parseCommands_set hverb hset, parseCommands_set hverb' (htok ▸ hset)]
      generalize htokens' : splitString cmd' blanks = tokens' at *
      generalize splitString cmd blanks = tokens at *
      cases setting
      case rate =>
        rw [decide_eq_false_iff_not]
        simp only [setRate, htok, hlength, Session.afterSscanf_eq]
        exact (sameVerdict_echo_iff hverb hverb' (invalidCommand_text rfl) _ _ 3).trans (by omega)
      case fps =>
        rw [decide_eq_false_iff_not]
        simp only [setFps, htok, hlength, Session.afterSscanf_eq]
        exact (sameVerdict_echo_iff hverb hverb' (invalidCommand_text rfl) _ _ 3).trans (by omega)
      case enudp =>
        rw [decide_eq_false_iff_not]
        simp only [setEnudp, htok, hlength, Session.afterSscanf_eq]
        exact (sameVerdict_echo_iff hverb hverb' (invalidCommand_text rfl) _ _ 3).trans (by omega)
      case enftp =>
        rw [decide_eq_false_iff_not]
        simp only [setEnftp, htok, hlength, Session.afterSscanf_eq]
        exact (sameVerdict_echo_iff hverb hverb' (invalidCommand_text rfl) _ _ 3).trans (by omega)
      case ipudp =>
        rw [decide_eq_false_iff_not]
        simp only [setIpudp, htok, hlength, Session.afterSscanf_eq]
        exact (sameVerdict_echo_iff hverb hverb' (invalidCommand_text rfl) _ _ 4).trans (by omega)
      case format =>
        dsimp only
        rw [htokens, sameVerdict_setFormat_iff hlen, decide_eq_false_iff_not]
      case units =>
        dsimp only
        rw [htokens, sameVerdict_setUnits_iff hverb hverb' hlen]
        simp
      case sim =>
        dsimp only
        rw [htokens]
        exact iff_of_true (sameVerdict_setSim hverb hverb' hlen) rfl

/-! ### All commands -/

theorem length_append_nil (tokens : List Bytes) : (tokens ++ [[]]).length = tokens.length + 1 := by
  rw [List.length_append, List.length_singleton]

/-- `GET` and `LIST` look at the second token only, and an empty one names no setting. -/
theorem parseGet_append_nil (E : Env) (d : Mps) (hne : 1 ≤ tokens.length) :
    parseGet E d (tokens ++ [[]]) = if 2 ≤ tokens.length then parseGet E d tokens else none := by
  have hlength : ¬ (tokens ++ [[]]).length < 2 := by rw [length_append_nil]; omega
  rw [parseGet, if_neg hlength, tok_append_nil]
  by_cases hlen : 2 ≤ tokens.length
  · rw [if_pos hlen, parseGet, if_neg (Nat.not_lt.2 hlen)]
  · rw [if_neg hlen, tok_of_length_le (by omega)]
    rfl

theorem parseList_append_nil (E : Env) (d : Mps) (hne : 1 ≤ tokens.length) :
    parseList E d (tokens ++ [[]]) = if 2 ≤ tokens.length then parseList E d tokens else none := by
  have hlength : ¬ (tokens ++ [[]]).length < 2 := by rw [length_append_nil]; omega
  rw [parseList, if_neg hlength, tok_append_nil]
  by_cases hlen : 2 ≤ tokens.length
  · rw [if_pos hlen, parseList, if_neg (Nat.not_lt.2 hlen)]
  · rw [if_neg hlen, tok_of_length_le (by omega)]
    rfl

/-- A reply, and the call that is made where there is none. -/
theorem sameVerdict_getD {reply : Option Bytes} {text : Bytes} (htext : invalidCommand <+: text)
    (hshort : tokens.length < 2 → reply = some text) :
    SameVerdict ((reply.map (x.answer d)).getD (unrecognised x d cmd))
      (((if 2 ≤ tokens.length then reply else none).map (x.answer d)).getD
        (unrecognised x d cmd')) := by
  have hinvalid := invalidCommand_unrecognised x d
  by_cases hlen : 2 ≤ tokens.length
  · rw [if_pos hlen]
    cases reply with
    | none => exact sameVerdict_answer (iff_of_true (hinvalid _) (hinvalid _))
    | some reply => exact .refl _
  · rw [if_neg hlen, hshort (by omega)]
    exact sameVerdict_answer (iff_of_true htext (hinvalid _))

/-- An empty token more matters to no other command. -/
theorem sameVerdict_of_verb_ne (hverb : verb cmd ≠ some .set)
    (htokens : splitString cmd' blanks = splitString cmd blanks ++ [[]]) :
    SameVerdict (parseCommands E x d cmd) (parseCommands E x d cmd') := by
  have hinvalid := invalidCommand_unrecognised x d
  have hne : 1 ≤ (splitString cmd blanks).length :=
    List.length_pos_of_ne_nil (splitString_ne_nil cmd blanks)
  rw [verb] at hverb
  rw [parseCommands, parseCommands, htokens, tok_append_nil]
  generalize splitString cmd blanks = tokens at *
  cases hv : verbOf (tok tokens 0) with
  | none => exact sameVerdict_answer (iff_of_true (hinvalid _) (hinvalid _))
  | some v =>
      cases v
      case set => exact absurd hv hverb
      case get =>
        simp only [parseGet_append_nil E d hne]
        exact sameVerdict_getD (invalidCommand_text rfl) fun h => if_pos h
      case list =>
        simp only [parseList_append_nil E d hne]
        exact sameVerdict_getD (invalidCommand_text rfl) fun h => if_pos h
      all_goals exact .refl _

/-- Blanks behind a command without line ends that does not end in a blank **do not matter, exactly
if** there are none or the command does not count the empty token they leave. -/
theorem trailing_blanks_iff (E : Env) (x : Session) (d : Mps) (cmd : Bytes) (n : ℕ)
    (hline : '\r' ∉ cmd ∧ '\n' ∉ cmd) (hlast : cmd.getLast? ≠ some ' ') :
    SameVerdict (parseCommands E x d cmd) (parseCommands E x d (cmd ++ List.replicate n ' ')) ↔
      n = 0 ∨ countsBlank E cmd = false := by
  by_cases hn : n = 0
  · simp [hn, SameVerdict.refl]
  by_cases hcmd : cmd = []
  · -- a command of blanks has one token, and it is empty
    subst hcmd
    have htokens : splitString (List.replicate n ' ') blanks = [[]] := by
      rw [splitString_eq_scan]
      refine splitScan_of_delimiters fun c hc => ?_
      rw [List.eq_of_mem_replicate hc]
      decide
    refine iff_of_true ?_ (Or.inr rfl)
    rw [List.nil_append, parseCommands, parseCommands, htokens]
    exact sameVerdict_answer
      (iff_of_true (invalidCommand_unrecognised x d _) (invalidCommand_unrecognised x d _))
  have hlast' : ∀ c ∈ cmd.getLast?, c ∉ blanks := by
    intro c hc hblank
    have hmem : c ∈ cmd := List.mem_of_getLast? hc
    rcases (by simpa [blanks] using hblank : c = ' ' ∨ c = '\r' ∨ c = '\n') with rfl | rfl | rfl
    · exact hlast hc
    · exact hline.1 hmem
    · exact hline.2 hmem
  have htokens := splitString_append_blanks hcmd hlast' hn
  rw [or_iff_right hn]
  by_cases hverb : verb cmd = some .set
  · refine sameVerdict_set_iff hverb ?_ htokens
    rw [verb, htokens, tok_append_nil]
    exact hverb
  · refine iff_of_true (sameVerdict_of_verb_ne hverb htokens) ?_
    simp [countsBlank, hverb]

theorem trailing_blanks_iff_sim :
    SameVerdict (parseCommands referenceEnv .quiet (attachedDevice mps4264 1) "SET SIM 64".toList)
      (parseCommands referenceEnv .quiet (attachedDevice mps4264 1)
        ("SET SIM 64".toList ++ List.replicate 2 ' ')) :=
  (trailing_blanks_iff referenceEnv .quiet (attachedDevice mps4264 1) "SET SIM 64".toList 2
    ⟨by decide, by decide⟩ (by decide)).2 (.inr (by decide +kernel))

/-- Without its argument the command is rejected; with a blank in place of the argument it is
echoed, and the device no longer sends to UDP. -/
theorem trailing_blank_matters :
    ('\r' ∉ "SET ENUDP".toList ∧ '\n' ∉ "SET ENUDP".toList) ∧
      "SET ENUDP".toList.getLast? ≠ some ' ' ∧
      (parseCommands referenceEnv .quiet (attachedDevice mps4264 1)
        "SET ENUDP".toList).device.cfg.udpEnabled = true ∧
      (parseCommands referenceEnv .quiet (attachedDevice mps4264 1)
        ("SET ENUDP".toList ++ List.replicate 1 ' ')).device.cfg.udpEnabled = false ∧
      ¬ SameVerdict
        (parseCommands referenceEnv .quiet (attachedDevice mps4264 1) "SET ENUDP".toList)
        (parseCommands referenceEnv .quiet (attachedDevice mps4264 1)
          ("SET ENUDP".toList ++ List.replicate 1 ' ')) := by
  refine ⟨by decide, by decide, by decide +kernel, by decide +kernel, fun h => ?_⟩
  exact absurd (h.2.1 (by decide +kernel)) (by decide +kernel)

end MpsEmulator
