/-
**Settings with a number, and whether the number was understood.**

`SET RATE`, `SET FPS`, `SET ENUDP`, `SET ENFTP` and `SET IPUDP` read their number with `sscanf` and
look at neither its result nor what it left unread.  They answer with the echo of the command
whenever there is an argument, so the echo does not tell whether the argument was a number, whether
it fitted the field, or whether anything was stored at all.

* `isNumericSet`, `hasArguments` — the commands in question, and those of them that have enough
  tokens;
* `understood` — what a command asks for when its number is one in full and in the range of its
  field;
* `UnderstoodIfAcknowledged` — an echo means that the command was understood and is in force, and
  anything else is rejected without effect;
* `numericSet_understood_iff` — **the code keeps this exactly for the commands that are understood
  or lack an argument**;
* `enable_not_understood` — a command that is not understood, echoed, with a stored value that is
  whatever the stack held.
-/

import MpsEmulator.RejectedCommands

set_option relaxedAutoImplicit false
set_option autoImplicit false

namespace MpsEmulator

open CNumeral

/-! ### The commands and their numbers -/

/-- The settings whose argument is a number. -/
def numericSettings : List Setting := [.rate, .fps, .enudp, .enftp, .ipudp]

/-- The command is `SET` with one of these settings. -/
def isNumericSet (cmd : Bytes) : Bool :=
  verb cmd = some .set ∧
    ∃ setting ∈ numericSettings, settingOf (tok (splitString cmd blanks) 1) = some setting

/-- The command has the tokens its setting needs: `SET IPUDP` two arguments, the others one. -/
def hasArguments (cmd : Bytes) : Bool :=
  let tokens := splitString cmd blanks
  if settingOf (tok tokens 1) = some .ipudp then 4 ≤ tokens.length else 3 ≤ tokens.length

/-- The value of an integer numeral that is at most `max` and not negative. -/
def numeralUpTo (max : ℕ) (t : Bytes) : Option ℕ :=
  (wholeInt t).bind fun z => if 0 ≤ z ∧ z ≤ max then some z.toNat else none

/-- The `float` for a floating-point numeral whose value is in the range of `float`. -/
def rateNumeral (E : Env) (t : Bytes) : Option CFloat :=
  (wholeFloat t).bind fun q =>
    match E.roundToFloat q with
    | .fin r => some (.fin r)
    | _ => none

/-- The change a command asks for, if its number is understood: the token is a numeral in full, and
its value is in the range of the field. -/
def understood (E : Env) (cmd : Bytes) : Option (MpsConfig → MpsConfig) :=
  let tokens := splitString cmd blanks
  match settingOf (tok tokens 1) with
  | some .rate =>
      (rateNumeral E (tok tokens 2)).map fun rate cfg => { cfg with scanRateHz := rate }
  | some .fps =>
      (numeralUpTo (2 ^ 32 - 1) (tok tokens 2)).map fun fps cfg => { cfg with framesPerScan := fps }
  | some .enudp =>
      (numeralUpTo 1 (tok tokens 2)).map fun enudp cfg => { cfg with udpEnabled := enudp = 1 }
  | some .enftp =>
      (numeralUpTo 1 (tok tokens 2)).map fun enftp cfg => { cfg with ftpEnabled := enftp = 1 }
  | some .ipudp =>
      (numeralUpTo 65535 (tok tokens 3)).map fun port cfg =>
        { cfg with udpTargetIp := tok tokens 2, udpTargetPort := port }
  | _ => none

/-- An echo means that the command was understood and that exactly what it asks for is stored; a
command that is not understood is rejected and stores nothing.  Both hold whatever the call finds in
the uninitialised locals, and what is stored does not depend on it. -/
structure UnderstoodIfAcknowledged (E : Env) (d : Mps) (cmd : Bytes) : Prop where
  acknowledged : ∀ x, (parseCommands E x d cmd).reply = cmd ++ prompt →
    ∃ change, understood E cmd = some change ∧
      (parseCommands E x d cmd).device.cfg = change d.cfg
  rejected : understood E cmd = none → ∀ x,
    invalidCommand <+: (parseCommands E x d cmd).reply ∧
      (parseCommands E x d cmd).device.cfg = d.cfg
  determined : ∀ x x', (parseCommands E x d cmd).device.cfg = (parseCommands E x' d cmd).device.cfg

/-! ### What `sscanf` reads of an understood number -/

theorem cStr_eq_self {t : Bytes} (h : ∀ c ∈ t, c ≠ '\x00') : cStr t = t :=
  List.takeWhile_eq_self_iff.2 fun c hc => decide_eq_true (h c hc)

theorem sscanfInt_of_numeralUpTo {max n : ℕ} {t : Bytes} (h : numeralUpTo max t = some n) :
    sscanfInt (cStr t) = some (n : ℤ) ∧ n ≤ max := by
  obtain ⟨z, hz, h⟩ := Option.bind_eq_some_iff.1 h
  obtain ⟨⟨hlow, hhigh⟩, h⟩ := Option.ite_none_right_eq_some.1 h
  have hn : z.toNat = n := Option.some_inj.1 h
  refine ⟨?_, by omega⟩
  rw [cStr_eq_self fun c hc => (isPlain_of_wholeInt hz c hc).2, sscanfInt_of_wholeInt hz, ← hn,
    Int.toNat_of_nonneg hlow]

theorem wrapUnsigned_of_lt {w n : ℕ} (h : n < 2 ^ w) : wrapUnsigned w n = n := by
  have hlt : (n : ℤ) < 2 ^ w := by exact_mod_cast h
  rw [wrapUnsigned, Int.emod_eq_of_lt (by omega) hlt, Int.toNat_natCast]

/-- An enable flag is set exactly by the numeral `1`, whatever the local held before. -/
theorem enabled_of_numeralUpTo {n : ℕ} {t : Bytes} (local' : ℤ) (h : numeralUpTo 1 t = some n) :
    decide (wrapUnsigned 32 ((sscanfInt (cStr t)).getD local') ≠ 0) = decide (n = 1) := by
  obtain ⟨hread, hmax⟩ := sscanfInt_of_numeralUpTo h
  rw [hread, Option.getD_some, wrapUnsigned_of_lt (by omega), decide_eq_decide]
  omega

theorem rateAfter_of_rateNumeral {E : Env} {cfg : MpsConfig} {t : Bytes} {rate : CFloat}
    (h : rateNumeral E t = some rate) : rateAfter E cfg t = rate := by
  obtain ⟨q, hq, h⟩ := Option.bind_eq_some_iff.1 h
  rw [rateAfter, cStr_eq_self fun c hc => (isPlain_of_wholeFloat hq c hc).2,
    sscanfFloat_of_wholeFloat _ hq, Option.getD_some]
  split at h
  · next r hr => rw [hr, Option.some_inj.1 h]
  · exact absurd h (by simp)

/-! ### The five settings -/

variable {E : Env} {x : Session} {d : Mps} {cmd : Bytes}

/-- A `SET` command is carried out by its setting. -/
theorem parseCommands_set {setting : Setting} (hverb : verb cmd = some .set) :
    settingOf (tok (splitString cmd blanks) 1) = some setting → parseCommands E x d cmd =
      match setting with
      | .rate => setRate E x d cmd (splitString cmd blanks)
      | .fps => setFps E x d cmd (splitString cmd blanks)
      | .enudp => setEnudp E x d cmd (splitString cmd blanks)
      | .enftp => setEnftp E x d cmd (splitString cmd blanks)
      | .ipudp => setIpudp E x d cmd (splitString cmd blanks)
      | .format => setFormat E x d (splitString cmd blanks)
      | .units => setUnits E x d cmd (splitString cmd blanks)
      | .sim => setSim E x d cmd (splitString cmd blanks) := by
  intro hset
  have hlen : ¬ (splitString cmd blanks).length < 2 := Nat.not_lt.2 (two_le_of_settingOf hset)
  rw [verb] at hverb
  rw [parseCommands, hverb]
  cases setting <;> simp only [parseSet, if_neg hlen, hset, Option.getD_some]

/-- With enough tokens, the command is echoed, and if it was understood, it is in force. -/
theorem numericSet_echo (h : isNumericSet cmd = true) (hargs : hasArguments cmd = true) :
    (parseCommands E x d cmd).reply = cmd ++ prompt ∧
      ∀ change, understood E cmd = some change →
        (parseCommands E x d cmd).device.cfg = change d.cfg := by
  obtain ⟨hverb, setting, hmem, hset⟩ := of_decide_eq_true h
  rw [parseCommands_set hverb hset]
  simp only [hasArguments, hset] at hargs
  simp only [understood, hset]
  cases setting
  case rate =>
    have hlen : ¬ (splitString cmd blanks).length < 3 := by simpa using hargs
    rw [setRate, if_neg hlen]
    refine ⟨rfl, fun change hchange => ?_⟩
    obtain ⟨rate, hrate, rfl⟩ := Option.map_eq_some_iff.1 hchange
    rw [← @rateAfter_of_rateNumeral E d.cfg _ _ hrate]
    rfl
  case fps =>
    have hlen : ¬ (splitString cmd blanks).length < 3 := by simpa using hargs
    rw [setFps, if_neg hlen]
    refine ⟨rfl, fun change hchange => ?_⟩
    obtain ⟨fps, hfps, rfl⟩ := Option.map_eq_some_iff.1 hchange
    obtain ⟨hread, hmax⟩ := sscanfInt_of_numeralUpTo hfps
    rw [hread, Option.map_some, Option.getD_some, wrapUnsigned_of_lt (by omega)]
    rfl
  case enudp =>
    have hlen : ¬ (splitString cmd blanks).length < 3 := by simpa using hargs
    rw [setEnudp, if_neg hlen]
    refine ⟨rfl, fun change hchange => ?_⟩
    obtain ⟨enudp, henudp, rfl⟩ := Option.map_eq_some_iff.1 hchange
    exact congrArg (fun b => { d.cfg with udpEnabled := b })
      (enabled_of_numeralUpTo x.enudp henudp)
  case enftp =>
    have hlen : ¬ (splitString cmd blanks).length < 3 := by simpa using hargs
    rw [setEnftp, if_neg hlen]
    refine ⟨rfl, fun change hchange => ?_⟩
    obtain ⟨enftp, henftp, rfl⟩ := Option.map_eq_some_iff.1 hchange
    exact congrArg (fun b => { d.cfg with ftpEnabled := b })
      (enabled_of_numeralUpTo x.enftp henftp)
  case ipudp =>
    have hlen : ¬ (splitString cmd blanks).length < 4 := by simpa using hargs
    rw [setIpudp, if_neg hlen]
    refine ⟨rfl, fun change hchange => ?_⟩
    obtain ⟨port, hport, rfl⟩ := Option.map_eq_some_iff.1 hchange
    obtain ⟨hread, hmax⟩ := sscanfInt_of_numeralUpTo hport
    rw [hread, Option.map_some, Option.getD_some, wrapUnsigned_of_lt (by omega)]
    rfl
  all_goals exact absurd hmem (by decide)

/-- Without enough tokens, the command is rejected without effect, and there is no number to
understand. -/
theorem numericSet_reject (h : isNumericSet cmd = true) (hargs : hasArguments cmd = false) :
    invalidCommand <+: (parseCommands E x d cmd).reply ∧
      (parseCommands E x d cmd).device = d ∧ understood E cmd = none := by
  obtain ⟨hverb, setting, hmem, hset⟩ := of_decide_eq_true h
  have hnone : ∀ i, (splitString cmd blanks).length ≤ i → tok (splitString cmd blanks) i = [] :=
    fun i hi => List.getD_eq_default _ _ hi
  have hnumeral : ∀ max, numeralUpTo max [] = none := fun max => rfl
  have hrate : rateNumeral E [] = none := rfl
  rw [parseCommands_set hverb hset]
  simp only [hasArguments, hset] at hargs
  simp only [understood, hset]
  cases setting
  case rate =>
    have hlen : (splitString cmd blanks).length < 3 := by simpa using hargs
    rw [setRate, if_pos hlen, hnone 2 (by omega), hrate]
    dsimp only [Session.answer]
    exact ⟨invalidCommand_text rfl, rfl, rfl⟩
  case fps =>
    have hlen : (splitString cmd blanks).length < 3 := by simpa using hargs
    rw [setFps, if_pos hlen, hnone 2 (by omega), hnumeral]
    dsimp only [Session.answer]
    exact ⟨invalidCommand_text rfl, rfl, rfl⟩
  case enudp =>
    have hlen : (splitString cmd blanks).length < 3 := by simpa using hargs
    rw [setEnudp, if_pos hlen, hnone 2 (by omega), hnumeral]
    dsimp only [Session.answer]
    exact ⟨invalidCommand_text rfl, rfl, rfl⟩
  case enftp =>
    have hlen : (splitString cmd blanks).length < 3 := by simpa using hargs
    rw [setEnftp, if_pos hlen, hnone 2 (by omega), hnumeral]
    dsimp only [Session.answer]
    exact ⟨invalidCommand_text rfl, rfl, rfl⟩
  case ipudp =>
    have hlen : (splitString cmd blanks).length < 4 := by simpa using hargs
    rw [setIpudp, if_pos hlen, hnone 3 (by omega), hnumeral]
    dsimp only [Session.answer]
    exact ⟨invalidCommand_text rfl, rfl, rfl⟩
  all_goals exact absurd hmem (by decide)

/-! ### Exactly which commands -/

/-- The code **keeps the rule exactly** for the commands whose number is understood and for those
that lack an argument: it never looks at the number. -/
theorem numericSet_understood_iff (E : Env) (d : Mps) (cmd : Bytes) (h : isNumericSet cmd = true) :
    UnderstoodIfAcknowledged E d cmd ↔ (hasArguments cmd = true → (understood E cmd).isSome) := by
  cases hargs : hasArguments cmd with
  | false =>
      refine iff_of_true ⟨fun x hecho => ?_, fun _ x => ?_, fun x x' => ?_⟩ (by simp)
      · obtain ⟨hinvalid, -, -⟩ := numericSet_reject (E := E) (x := x) (d := d) h hargs
        rw [hecho] at hinvalid
        exact absurd hinvalid (not_invalidCommand_echo (of_decide_eq_true h).1 prompt)
      · obtain ⟨hinvalid, hdevice, -⟩ := numericSet_reject (E := E) (x := x) (d := d) h hargs
        exact ⟨hinvalid, congrArg Mps.cfg hdevice⟩
      · rw [(numericSet_reject h hargs).2.1, (numericSet_reject h hargs).2.1]
  | true =>
      have hecho := fun x => numericSet_echo (E := E) (x := x) (d := d) h hargs
      constructor
      · intro hrule _
        obtain ⟨change, hchange, -⟩ := hrule.acknowledged .quiet (hecho .quiet).1
        rw [hchange]
        rfl
      · intro hunderstood
        obtain ⟨change, hchange⟩ := Option.isSome_iff_exists.1 (hunderstood rfl)
        refine ⟨fun x _ => ⟨change, hchange, (hecho x).2 change hchange⟩, fun hnone => ?_,
          fun x x' => ?_⟩
        · rw [hnone] at hchange
          exact absurd hchange (by simp)
        · rw [(hecho x).2 change hchange, (hecho x').2 change hchange]

theorem numericSet_understood_iff_fps :
    UnderstoodIfAcknowledged referenceEnv (attachedDevice mps4264 1) "SET FPS 12".toList :=
  (numericSet_understood_iff referenceEnv (attachedDevice mps4264 1) "SET FPS 12".toList
    (by decide +kernel)).2 fun _ => by decide +kernel

/-- The argument is no number, the command is echoed, and what is stored is what the uninitialised
local happened to hold. -/
theorem enable_not_understood :
    (parseCommands referenceEnv .quiet (attachedDevice mps4264 1) "SET ENUDP on".toList).reply =
        "SET ENUDP on".toList ++ prompt ∧
      (parseCommands referenceEnv { Session.quiet with enudp := 0 } (attachedDevice mps4264 1)
        "SET ENUDP on".toList).device.cfg.udpEnabled = false ∧
      (parseCommands referenceEnv { Session.quiet with enudp := 1 } (attachedDevice mps4264 1)
        "SET ENUDP on".toList).device.cfg.udpEnabled = true ∧
      isNumericSet "SET ENUDP on".toList = true ∧
      ¬ UnderstoodIfAcknowledged referenceEnv (attachedDevice mps4264 1) "SET ENUDP on".toList := by
  refine ⟨by decide +kernel, by decide +kernel, by decide +kernel, by decide +kernel, ?_⟩
  intro h
  have hinvalid := (h.rejected (by decide +kernel) .quiet).1
  exact absurd hinvalid (by decide +kernel)

end MpsEmulator
