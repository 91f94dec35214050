/-
**`SET SIM` and what was sent before it.**

`SET SIM` is the one command that checks its number: it looks at the end pointer and at the range.
Two things still come between the argument and the answer.  The range error is looked up in `errno`,
which nothing clears, so a number that was too large for `strtoul` once makes every later `SET SIM`
of the thread fail; the `sscanf` of the other settings is taken to leave `errno` alone
(`Platform.sscanfErrno_eq`).  And `strtoul` skips white space, takes a sign, wraps the value behind
a minus, and ends at a NUL.

* `simNumeral`, `simRead` — the value of an argument as a numeral in full, and as `strtoul` takes
  it;
* `parseCommands_sim` — what `SET SIM` does, by `errno` and what is read;
* `overflows`, `onThread_errno` — which commands set `errno`, and that it stays set;
* `SimByArgument` — the answer depends on the argument alone;
* `set_sim_iff` — **exactly when it does, for every history of the thread**;
* `set_sim_after_overflow`, `set_sim_negative` — both ways in which it does not.
-/

import MpsEmulator.NumericSettings

set_option relaxedAutoImplicit false
set_option autoImplicit false

namespace MpsEmulator

open CNumeral

/-! ### The argument -/

/-- The command is a `SET SIM` with an argument. -/
def isSimCommand (cmd : Bytes) : Bool :=
  let tokens := splitString cmd blanks
  verb cmd = some .set ∧ settingOf (tok tokens 1) = some .sim ∧ 3 ≤ tokens.length

/-- The argument of a `SET SIM`. -/
def simToken (cmd : Bytes) : Bytes := tok (splitString cmd blanks) 2

/-- The value of an unsigned numeral that is one in full and at most 65535. -/
def simNumeral (t : Bytes) : Option ℕ :=
  (wholeUnsigned t).bind fun n => if n ≤ 65535 then some n else none

/-- The value of a text that is a numeral up to its first NUL, perhaps behind white space and a
sign, fits an `unsigned long`, and is at most 65535 once a minus has wrapped it. -/
def simRead (E : Env) (t : Bytes) : Option ℕ :=
  let (minus, r) := sign ((cStr t).dropWhile isSpace)
  (wholeUnsigned r).bind fun n =>
    let value := if minus then (E.ulongMax + 1 - n) % (E.ulongMax + 1) else n
    if n ≤ E.ulongMax ∧ value ≤ 65535 then some value else none

/-- A numeral begins with no sign and holds neither white space nor NUL. -/
theorem isPlain_of_wholeUnsigned {t : Bytes} {n : ℕ} (h : wholeUnsigned t = some n) :
    (∀ c ∈ t, IsPlain c) ∧ sign t = (false, t) := by
  rw [wholeUnsigned.eq_def] at h
  split at h
  · next x r =>
    refine ⟨?_, rfl⟩
    split at h
    · next hx =>
      obtain ⟨⟨-, hdigits⟩, -⟩ := wholeDigits_eq_some.1 h
      intro c hc
      rcases List.mem_cons.1 hc with rfl | hc
      · decide
      · rcases List.mem_cons.1 hc with rfl | hc
        · rcases hx with rfl | rfl <;> decide
        · exact isPlain_of_isDigit (by decide) (hdigits c hc)
    · obtain ⟨⟨-, hdigits⟩, -⟩ := wholeDigits_eq_some.1 h
      intro c hc
      rcases List.mem_cons.1 hc with rfl | hc
      · decide
      · exact isPlain_of_isDigit (by decide) (hdigits c hc)
  · obtain ⟨⟨-, hdigits⟩, -⟩ := wholeDigits_eq_some.1 h
    refine ⟨fun c hc => isPlain_of_isDigit (by decide) (hdigits c hc), ?_⟩
    rw [sign.eq_def]
    split
    · exact absurd (hdigits '-' List.mem_cons_self) (by decide)
    · exact absurd (hdigits '+' List.mem_cons_self) (by decide)
    · rfl

/-- A numeral up to 65535 is read as what it is. -/
theorem simRead_of_simNumeral {E : Env} (hulong : 65535 ≤ E.ulongMax) {t : Bytes} {n : ℕ}
    (h : simNumeral t = some n) : simRead E t = some n := by
  obtain ⟨m, hm, h⟩ := Option.bind_eq_some_iff.1 h
  obtain ⟨hmax, h⟩ := Option.ite_none_right_eq_some.1 h
  obtain rfl := Option.some_inj.1 h
  obtain ⟨hplain, hsign⟩ := isPlain_of_wholeUnsigned hm
  have hspace : ∀ c ∈ (sign t).2.head?, isSpace c = false := by
    rw [hsign]
    exact fun c hc => (hplain c (List.mem_of_mem_head? hc)).1
  rw [simRead, cStr_eq_self fun c hc => (hplain c hc).2, dropWhile_isSpace hspace, hsign]
  dsimp only
  rw [hm, Option.bind_some]
  exact if_pos ⟨hmax.trans hulong, hmax⟩

/-! ### One command -/

variable {E : Env} {x : Session} {d : Mps} {cmd : Bytes}

/-- The value is stored and the command echoed; without a value the command is rejected without
effect. -/
def SimAnswer (d : Mps) (cmd : Bytes) (o : Outcome) : Option ℕ → Prop
  | some sim => o.reply = cmd ++ prompt ∧ o.device = { d with cfg := { d.cfg with sim := sim } }
  | none => invalidCommand <+: o.reply ∧ o.device = d

/-- `SET SIM` stores what is read, if it can be read and `errno` was clear. -/
theorem parseCommands_sim (h : isSimCommand cmd = true) :
    SimAnswer d cmd (parseCommands E x d cmd)
      (if x.errnoRange then none else simRead E (simToken cmd)) := by
  obtain ⟨hverb, hset, hlen⟩ := of_decide_eq_true h
  have hlen' : ¬ (splitString cmd blanks).length < 3 := Nat.not_lt.2 hlen
  have hmissing : invalidCommand <+:
      "Invalid Command: `SET SIM` requires 1 argument: SET SIM <SIM>\r\n>".toList :=
    invalidCommand_text rfl
  have htrailing : invalidCommand <+: "Invalid Command: `SET SIM`".toList ++ cmd ++ prompt := by
    rw [List.append_assoc]
    exact invalidCommand_append (invalidCommand_text rfl) _
  have hrange : invalidCommand <+: "Invalid Command: ".toList ++ cmd ++
      " Value out of range [0-65535]\r\n>".toList := by
    rw [List.append_assoc]
    exact invalidCommand_append (invalidCommand_text rfl) _
  rw [parseCommands_set hverb hset, simRead, simToken]
  dsimp only
  rw [setSim, if_neg hlen']
  dsimp only
  generalize cStr (tok (splitString cmd blanks) 2) = s
  cases hwhole : wholeUnsigned (sign (s.dropWhile isSpace)).2 with
  | none =>
      have hrest := @strtoul_rest_ne_nil E.ulongMax _ hwhole
      rw [Option.bind_none, ite_self]
      cases hr : (strtoul E.ulongMax s).rest with
      | none => exact ⟨hmissing, rfl⟩
      | some rest =>
          have hne : rest ≠ [] := fun hnil => hrest (hr.trans (congrArg some hnil))
          dsimp only
          rw [if_pos hne]
          exact ⟨htrailing, rfl⟩
  | some n =>
      rw [Option.bind_some, strtoul_of_wholeUnsigned hwhole]
      generalize (if (sign (s.dropWhile isSpace)).1 = true then
        (E.ulongMax + 1 - n) % (E.ulongMax + 1) else n) = value
      by_cases hfit : E.ulongMax < n
      · -- the value is too large, and `errno` is set by this very call
        have hread : ¬ (n ≤ E.ulongMax ∧ value ≤ 65535) := fun h => Nat.not_le.2 hfit h.1
        rw [if_neg hread, ite_self, if_pos hfit]
        simp only [ne_eq, not_true_eq_false, if_false, Bool.or_true, true_or, if_true]
        exact ⟨hrange, rfl⟩
      · rw [if_neg hfit]
        simp only [ne_eq, not_true_eq_false, if_false, Bool.or_false]
        by_cases hrejected : x.errnoRange = true ∨ 65535 < value
        · have hread : (if x.errnoRange = true then none
              else if n ≤ E.ulongMax ∧ value ≤ 65535 then some value else none) = none := by
            split
            · rfl
            · next herrno => exact if_neg fun h => Nat.not_lt.2 h.2 (hrejected.resolve_left herrno)
          rw [hread, if_pos hrejected]
          exact ⟨hrange, rfl⟩
        · obtain ⟨herrno, hvalue⟩ := not_or.1 hrejected
          have hread : n ≤ E.ulongMax ∧ value ≤ 65535 :=
            ⟨Nat.not_lt.1 hfit, Nat.not_lt.1 hvalue⟩
          rw [if_neg herrno, if_pos hread, if_neg hrejected]
          exact ⟨rfl, rfl⟩

/-! ### What happened before on the thread -/

/-- The command makes `strtoul` report a range error. -/
def overflows (E : Env) (cmd : Bytes) : Bool :=
  isSimCommand cmd && (strtoul E.ulongMax (cStr (simToken cmd))).range

theorem overflows_of_not_sim (h : isSimCommand cmd = false) : overflows E cmd = false := by
  rw [overflows, h, Bool.false_and]

theorem isSimCommand_of_verb_ne (h : verb cmd ≠ some .set) : isSimCommand cmd = false :=
  decide_eq_false fun hsim => h hsim.1

/-- A call leaves `errno` as it is, or sets it. -/
theorem parseCommands_errno (E : Env) (x : Session) (d : Mps) (cmd : Bytes) :
    (parseCommands E x d cmd).errnoRange = (x.errnoRange || overflows E cmd) := by
  by_cases hverb : verb cmd = some .set
  · cases hset : settingOf (tok (splitString cmd blanks) 1) with
    | none =>
        have hother : isSimCommand cmd = false := decide_eq_false fun h => by simp [hset] at h
        rw [overflows_of_not_sim hother, Bool.or_false]
        rw [verb] at hverb
        simp only [parseCommands, hverb, parseSet, hset]
        split <;> rfl
    | some setting =>
        rw [parseCommands_set hverb hset]
        by_cases hsim : setting = .sim
        · subst hsim
          dsimp only
          by_cases hlen : (splitString cmd blanks).length < 3
          · have hother : isSimCommand cmd = false :=
              decide_eq_false fun h => Nat.not_lt.2 h.2.2 hlen
            rw [overflows_of_not_sim hother, Bool.or_false, setSim, if_pos hlen]
            rfl
          · have hsim : isSimCommand cmd = true := decide_eq_true ⟨hverb, hset, Nat.not_lt.1 hlen⟩
            rw [overflows, hsim, Bool.true_and, simToken, setSim, if_neg hlen]
            dsimp only
            split
            · rfl
            · split
              · rfl
              · split <;> rfl
        · have hother : isSimCommand cmd = false :=
            decide_eq_false fun h => hsim (Option.some_inj.1 (hset.symm.trans h.2.1))
          rw [overflows_of_not_sim hother, Bool.or_false]
          cases setting
          case sim => exact absurd rfl hsim
          case rate =>
            dsimp only
            rw [setRate]
            split
            · rfl
            · exact x.errnoRange_afterSscanf E _
          case fps =>
            dsimp only
            rw [setFps]
            split
            · rfl
            · exact x.errnoRange_afterSscanf E _
          case enudp =>
            dsimp only
            rw [setEnudp]
            split
            · rfl
            · exact x.errnoRange_afterSscanf E _
          case enftp =>
            dsimp only
            rw [setEnftp]
            split
            · rfl
            · exact x.errnoRange_afterSscanf E _
          case ipudp =>
            dsimp only
            rw [setIpudp]
            split
            · rfl
            · exact x.errnoRange_afterSscanf E _
          case format => dsimp only; rw [setFormat]; split <;> rfl
          case units =>
            dsimp only
            rw [setUnits]
            split
            · rfl
            · split <;> rfl
  · rw [overflows_of_not_sim (isSimCommand_of_verb_ne hverb), Bool.or_false]
    rw [verb] at hverb
    rw [parseCommands]
    cases hv : verbOf (tok (splitString cmd blanks) 0) with
    | none => rfl
    | some v =>
        cases v
        case set => exact absurd hv hverb
        case get => cases parseGet E d (splitString cmd blanks) <;> rfl
        case list => cases parseList E d (splitString cmd blanks) <;> rfl
        all_goals rfl

/-- The device and `errno` after the commands of a thread, which passes `errno` from each call to
the next. -/
def onThread (E : Env) : Mps × Bool → List (Session × Bytes) → Mps × Bool
  | s, [] => s
  | (d, errnoRange), (x, cmd) :: cmds =>
      let o := parseCommands E { x with errnoRange := errnoRange } d cmd
      onThread E (o.device, o.errnoRange) cmds

/-- `errno` is set from the first range error on. -/
theorem onThread_errno (E : Env) (s : Mps × Bool) (cmds : List (Session × Bytes)) :
    (onThread E s cmds).2 = (s.2 || cmds.any fun c => overflows E c.2) := by
  induction cmds generalizing s with
  | nil => simp [onThread]
  | cons c cmds ih =>
      obtain ⟨d, errnoRange⟩ := s
      obtain ⟨x, cmd⟩ := c
      rw [onThread, ih, parseCommands_errno, List.any_cons, Bool.or_assoc]

/-! ### Exactly when the answer depends on the argument alone -/

/-- The command is accepted exactly for an unsigned numeral of at most 65535; then its value is
stored, and otherwise the setting keeps its value. -/
structure SimByArgument (d : Mps) (cmd : Bytes) (o : Outcome) : Prop where
  accepted : ¬ invalidCommand <+: o.reply ↔ (simNumeral (simToken cmd)).isSome
  stored : ¬ invalidCommand <+: o.reply → simNumeral (simToken cmd) = some o.device.cfg.sim
  unchanged : invalidCommand <+: o.reply → o.device.cfg.sim = d.cfg.sim

/-- What is read has to be the value of the argument as a numeral. -/
theorem SimAnswer.byArgument_iff {o : Outcome} {read : Option ℕ} (h : isSimCommand cmd = true)
    (ho : SimAnswer d cmd o read) : SimByArgument d cmd o ↔ read = simNumeral (simToken cmd) := by
  have hverb : verb cmd = some .set := (of_decide_eq_true h).1
  cases read with
  | none =>
      obtain ⟨hinvalid, hdevice⟩ := ho
      constructor
      · intro hrule
        have hnone := mt hrule.accepted.2 (not_not_intro hinvalid)
        exact (Option.not_isSome_iff_eq_none.1 hnone).symm
      · intro hnone
        refine ⟨?_, fun hvalid => absurd hinvalid hvalid, fun _ => by rw [hdevice]⟩
        rw [← hnone]
        exact iff_of_false (not_not_intro hinvalid) (by simp)
  | some sim =>
      obtain ⟨hecho, hdevice⟩ := ho
      have hvalid : ¬ invalidCommand <+: o.reply := by
        rw [hecho]
        exact not_invalidCommand_echo hverb prompt
      have hstored : o.device.cfg.sim = sim := by rw [hdevice]
      constructor
      · intro hrule
        rw [hrule.stored hvalid, hstored]
      · intro hread
        refine ⟨?_, fun _ => ?_, fun hinvalid => absurd hinvalid hvalid⟩
        · rw [← hread]
          exact iff_of_true hvalid rfl
        · rw [← hread, hstored]

/-- For every history of a thread and every argument, the answer to `SET SIM` **depends on the
argument alone exactly if** the argument is no numeral in range, where an earlier number was too
large for `strtoul`, and else if `strtoul` reads a number in range from such a numeral only. -/
theorem set_sim_iff (E : Env) (hulong : 65535 ≤ E.ulongMax) (d : Mps)
    (history : List (Session × Bytes)) (x : Session) (cmd : Bytes) (h : isSimCommand cmd = true) :
    (let s := onThread E (d, false) history
     SimByArgument s.1 cmd (parseCommands E { x with errnoRange := s.2 } s.1 cmd)) ↔
      if history.any fun c => overflows E c.2 then simNumeral (simToken cmd) = none
      else simNumeral (simToken cmd) = none → simRead E (simToken cmd) = none := by
  have herrno := onThread_errno E (d, false) history
  rw [Bool.false_or] at herrno
  dsimp only
  rw [(parseCommands_sim h).byArgument_iff h]
  dsimp only
  rw [herrno]
  split
  · exact eq_comm
  · constructor
    · intro hread hnone
      rw [hread, hnone]
    · intro hnone
      cases hnumeral : simNumeral (simToken cmd) with
      | none => exact hnone hnumeral
      | some n => exact simRead_of_simNumeral hulong hnumeral

theorem set_sim_iff_64 :
    let s := onThread referenceEnv (attachedDevice mps4216 1, false) [(.quiet, "SCAN".toList)]
    SimByArgument s.1 "SET SIM 0x40".toList
      (parseCommands referenceEnv { Session.quiet with errnoRange := s.2 } s.1
        "SET SIM 0x40".toList) :=
  (set_sim_iff referenceEnv (by decide) (attachedDevice mps4216 1) [(.quiet, "SCAN".toList)] .quiet
    "SET SIM 0x40".toList (by decide +kernel)).2 (by decide +kernel)

/-- After a number that was too large, `SET SIM 0` is rejected, which is accepted otherwise. -/
theorem set_sim_after_overflow :
    isSimCommand "SET SIM 0".toList = true ∧
      simNumeral (simToken "SET SIM 0".toList) = some 0 ∧
      ¬ invalidCommand <+: (parseCommands referenceEnv .quiet (attachedDevice mps4264 1)
        "SET SIM 0".toList).reply ∧
      (let s := onThread referenceEnv (attachedDevice mps4264 1, false)
        [(.quiet, "SET SIM 99999999999999999999".toList)]
       invalidCommand <+: (parseCommands referenceEnv { Session.quiet with errnoRange := s.2 } s.1
          "SET SIM 0".toList).reply ∧
        ¬ SimByArgument s.1 "SET SIM 0".toList
          (parseCommands referenceEnv { Session.quiet with errnoRange := s.2 } s.1
            "SET SIM 0".toList)) := by
  have hinvalid : invalidCommand <+: (parseCommands referenceEnv { Session.quiet with
      errnoRange := (onThread referenceEnv (attachedDevice mps4264 1, false)
        [(.quiet, "SET SIM 99999999999999999999".toList)]).2 }
      (onThread referenceEnv (attachedDevice mps4264 1, false)
        [(.quiet, "SET SIM 99999999999999999999".toList)]).1 "SET SIM 0".toList).reply := by
    decide +kernel
  refine ⟨by decide +kernel, by decide +kernel, by decide +kernel, hinvalid, fun h => ?_⟩
  exact h.accepted.2 (by decide +kernel) hinvalid

/-- A minus is taken, and the value it wraps to is stored. -/
theorem set_sim_negative :
    (parseCommands referenceEnv .quiet (attachedDevice mps4264 1)
        "SET SIM -4294967232".toList).device.cfg.sim = 64 ∧
      simNumeral (simToken "SET SIM -4294967232".toList) = none := by
  decide +kernel

end MpsEmulator
