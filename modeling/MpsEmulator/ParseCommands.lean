/-
**`Mps::ParseCommands`: the command interpreter of the device.**

A command line is cut into tokens at blanks, CR and LF.  The first token selects the command and,
for `SET`, `GET` and `LIST`, the second one selects the setting; both are compared with an upper-
and a lower-case spelling.  A command line that matches nothing is answered like one that lacks an
argument, with a text that begins with `Invalid Command`.

* `Session` — what a call finds besides the device: the clocks, whether `errno` is `ERANGE`, and
  the contents of the two local variables that have no initialiser;
* `Outcome` — what it leaves: the device, the reply, the status callbacks and `errno`;
* `Verb`, `verbOf`, `Setting`, `settingOf` — the keywords;
* `setRate`, …, `setSim`, `parseSet`, `parseGet`, `parseList`, `parseCommands` — the code.

What a command can do to the device is said once, by `parseCommands_device`: `CALZ`, `SCAN` and
`STOP` make their call, `SET` changes the configuration and, for `SET RATE`, the number of internal
averages, and the other commands change nothing; `CommandEffect` puts the settings together.  What
it can answer is said by `parseCommands_isReply`.
-/

import MpsEmulator.CNumeral
import MpsEmulator.Device

set_option relaxedAutoImplicit false
set_option autoImplicit false

namespace MpsEmulator

open CNumeral

/-! ### Surroundings and results of a call -/

/-- What a call of `ParseCommands` finds besides the device. -/
structure Session where
  now : Clock
  /-- Whether `errno` is `ERANGE` when the call begins. -/
  errnoRange : Bool
  /-- The contents of the uninitialised local `enudp`. -/
  enudp : ℤ
  /-- The contents of the uninitialised local `enftp`. -/
  enftp : ℤ
  deriving DecidableEq

/-- A call at time zero that finds nothing left behind by earlier ones. -/
def Session.quiet : Session :=
  { now := { steady := 0, system := 0 }, errnoRange := false, enudp := 0, enftp := 0 }

/-- What a call of `ParseCommands` leaves. -/
structure Outcome where
  device : Mps
  reply : Bytes
  notices : List MpsStatus
  errnoRange : Bool

/-- A reply without a status callback. -/
def Session.answer (x : Session) (d : Mps) (reply : Bytes) : Outcome :=
  { device := d, reply := reply, notices := [], errnoRange := x.errnoRange }

/-- A reply after one of the three calls. -/
def Session.answerCall (x : Session) (c : Called) (reply : Bytes) : Outcome :=
  { device := c.device, reply := reply, notices := c.notices, errnoRange := x.errnoRange }

/-- What is found after a call of `sscanf`: on the platform, what was found before. -/
def Session.afterSscanf (E : Env) (x : Session) (text : Bytes) : Session :=
  { x with errnoRange := E.sscanfErrno text x.errnoRange }

@[simp] theorem Session.afterSscanf_eq (E : Env) (x : Session) (text : Bytes) :
    x.afterSscanf E text = x := by
  rw [Session.afterSscanf, E.sscanfErrno_eq]

theorem Session.errnoRange_afterSscanf (E : Env) (x : Session) (text : Bytes) :
    (x.afterSscanf E text).errnoRange = x.errnoRange := E.sscanfErrno_eq text x.errnoRange

/-- The delimiters between tokens. -/
def blanks : Bytes := " \r\n".toList

/-- `tokens[i]`, empty beyond the end. -/
def tok (tokens : List Bytes) (i : ℕ) : Bytes := tokens.getD i []

theorem tok_zero (tokens : List Bytes) : tok tokens 0 = tokens.headD [] := by
  cases tokens <;> rfl

/-- The characters a C function sees of a string: those before the first NUL. -/
def cStr (s : Bytes) : Bytes := s.takeWhile (· ≠ '\x00')

/-- The end of most replies. -/
def prompt : Bytes := "\r\n>".toList

/-! ### Keywords -/

/-- The commands. -/
inductive Verb
  | ver
  | status
  | calz
  | scan
  | stop
  | set
  | get
  | list
  deriving DecidableEq

/-- The comparison of a token with the spellings of a keyword. -/
def isOneOf (t : Bytes) (words : List String) : Bool := words.any fun w => w.toList = t

/-- The command a first token selects.  `STOP` may also be any token that begins with ESC. -/
def verbOf (t : Bytes) : Option Verb :=
  if isOneOf t ["VER", "ver", "VERSION", "version"] then some .ver
  else if isOneOf t ["STATUS", "status"] then some .status
  else if isOneOf t ["CALZ", "calz"] then some .calz
  else if isOneOf t ["SCAN", "scan"] then some .scan
  else if isOneOf t ["STOP", "stop"] ∨ t.headD '\x00' = '\x1b' then some .stop
  else if isOneOf t ["SET", "set"] then some .set
  else if isOneOf t ["GET", "get"] then some .get
  else if isOneOf t ["LIST", "list"] then some .list
  else none

/-- The settings of `SET`. -/
inductive Setting
  | rate
  | fps
  | enudp
  | enftp
  | ipudp
  | format
  | units
  | sim
  deriving DecidableEq

/-- The setting a second token selects.  `ENFTP` is compared with the same spelling twice. -/
def settingOf (t : Bytes) : Option Setting :=
  if isOneOf t ["RATE", "rate"] then some .rate
  else if isOneOf t ["FPS", "fps"] then some .fps
  else if isOneOf t ["ENUDP", "enudp"] then some .enudp
  else if isOneOf t ["ENFTP", "ENFTP"] then some .enftp
  else if isOneOf t ["IPUDP", "ipudp"] then some .ipudp
  else if isOneOf t ["FORMAT", "format"] then some .format
  else if isOneOf t ["UNITS", "units"] then some .units
  else if isOneOf t ["SIM", "sim"] then some .sim
  else none

/-! ### SET -/

/-- The rate after `SET RATE`: what `sscanf` reads, and the old rate where it reads nothing. -/
def rateAfter (E : Env) (cfg : MpsConfig) (t : Bytes) : CFloat :=
  (sscanfFloat E.roundToFloat (cStr t)).getD cfg.scanRateHz

/-- `SET RATE <rate>`. -/
def setRate (E : Env) (x : Session) (d : Mps) (cmd : Bytes) (tokens : List Bytes) : Outcome :=
  if tokens.length < 3 then
    x.answer d
      "Invalid Command: `SET RATE` requires at least 1 arguments: SET RATE <rate>\r\n>".toList
  else
    let cfg := { d.cfg with scanRateHz := rateAfter E d.cfg (tok tokens 2) }
    let x' := x.afterSscanf E (cStr (tok tokens 2))
    x'.answer (updateScanAverages E { d with cfg := cfg }) (cmd ++ prompt)

/-- `SET FPS <fps>`: a signed conversion into an unsigned field. -/
def setFps (E : Env) (x : Session) (d : Mps) (cmd : Bytes) (tokens : List Bytes) : Outcome :=
  if tokens.length < 3 then
    x.answer d "Invalid Command: `SET FPS` requires 1 argument: SET FPS <fps>\r\n>".toList
  else
    let fps := ((sscanfInt (cStr (tok tokens 2))).map (wrapUnsigned 32)).getD d.cfg.framesPerScan
    let x' := x.afterSscanf E (cStr (tok tokens 2))
    x'.answer { d with cfg := { d.cfg with framesPerScan := fps } } (cmd ++ prompt)

/-- `SET ENUDP <0 or 1>`: where `sscanf` reads nothing, the local keeps what it happened to
hold. -/
def setEnudp (E : Env) (x : Session) (d : Mps) (cmd : Bytes) (tokens : List Bytes) : Outcome :=
  if tokens.length < 3 then
    x.answer d "Invalid Command: `SET ENUDP` requires 1 argument: SET ENUDP <0 or 1>\r\n>".toList
  else
    let enudp := (sscanfInt (cStr (tok tokens 2))).getD x.enudp
    let x' := x.afterSscanf E (cStr (tok tokens 2))
    x'.answer { d with cfg := { d.cfg with udpEnabled := wrapUnsigned 32 enudp ≠ 0 } }
      (cmd ++ prompt)

/-- `SET ENFTP <0 or 1>`. -/
def setEnftp (E : Env) (x : Session) (d : Mps) (cmd : Bytes) (tokens : List Bytes) : Outcome :=
  if tokens.length < 3 then
    x.answer d "Invalid Command: `SET FTP` requires 1 argument: SET ENUDP <0 or 1>\r\n>".toList
  else
    let enftp := (sscanfInt (cStr (tok tokens 2))).getD x.enftp
    let x' := x.afterSscanf E (cStr (tok tokens 2))
    x'.answer { d with cfg := { d.cfg with ftpEnabled := wrapUnsigned 32 enftp ≠ 0 } }
      (cmd ++ prompt)

/-- `SET IPUDP <ip> <port>`. -/
def setIpudp (E : Env) (x : Session) (d : Mps) (cmd : Bytes) (tokens : List Bytes) : Outcome :=
  if tokens.length < 4 then
    x.answer d
      "Invalid Command: `SET IPUDP` requires 2 argument: SET IPUDP <ip> <port>\r\n>".toList
  else
    let port := ((sscanfInt (cStr (tok tokens 3))).map (wrapUnsigned 16)).getD d.cfg.udpTargetPort
    let x' := x.afterSscanf E (cStr (tok tokens 3))
    x'.answer { d with cfg := { d.cfg with udpTargetIp := tok tokens 2, udpTargetPort := port } }
      (cmd ++ prompt)

/-- The loop of `SET FORMAT` over the tokens from index 2 on: the device it leaves, and the text of
the error that ended it, if one did. -/
def setFormatLoop (E : Env) (d : Mps) : List Bytes → Mps × Option Bytes
  | [] => (d, none)
  | [_] =>
      (d, some
        ("Invalid Command: `SET FORMAT` requires argument pairs: " ++
          "e.g. SET FORMAT F <format>\r\n>").toList)
  | type :: fmt :: rest =>
      match setDataFormat E d (type.headD '\x00') (fmt.headD '\x00') with
      | some d' => setFormatLoop E d' rest
      | none =>
          (d, some ("Invalid Command: SET FORMAT ".toList ++ type ++ " ".toList ++ fmt ++ prompt))

/-- `SET FORMAT`, with any number of pairs. -/
def setFormat (E : Env) (x : Session) (d : Mps) (tokens : List Bytes) : Outcome :=
  match setFormatLoop E d (tokens.drop 2) with
  | (d', none) => x.answer d' ("SET FORMAT".toList ++ buildDataFormatResponse E d' ++ prompt)
  | (d', some error) => x.answer d' error

/-- `SET UNITS <UNIT>`. -/
def setUnits (E : Env) (x : Session) (d : Mps) (cmd : Bytes) (tokens : List Bytes) : Outcome :=
  if tokens.length < 3 then
    x.answer d "Invalid Command: `SET UNITS` requires 1 argument: SET UNITS <UNIT>\r\n>".toList
  else
    match E.mpsUnitsFromString (cStr (tok tokens 2)) with
    | none =>
        x.answer d ("Invalid Command: SET UNITS ".toList ++ tok tokens 2 ++
          " (case sensitive)\r\n>".toList)
    | some units => x.answer { d with cfg := { d.cfg with units := units } } (cmd ++ prompt)

/-- `SET SIM <SIM>`.  Nothing clears `errno`, so a range error of an earlier call is still seen. -/
def setSim (E : Env) (x : Session) (d : Mps) (cmd : Bytes) (tokens : List Bytes) : Outcome :=
  if tokens.length < 3 then
    x.answer d "Invalid Command: `SET SIM` requires 1 argument: SET SIM <SIM>\r\n>".toList
  else
    let parsed := strtoul E.ulongMax (cStr (tok tokens 2))
    let x' := { x with errnoRange := x.errnoRange || parsed.range }
    match parsed.rest with
    | none =>
        x'.answer d "Invalid Command: `SET SIM` requires 1 argument: SET SIM <SIM>\r\n>".toList
    | some rest =>
        if rest ≠ [] then x'.answer d ("Invalid Command: `SET SIM`".toList ++ cmd ++ prompt)
        else if x'.errnoRange ∨ 65535 < parsed.value then
          x'.answer d ("Invalid Command: ".toList ++ cmd ++
            " Value out of range [0-65535]\r\n>".toList)
        else x'.answer { d with cfg := { d.cfg with sim := parsed.value } } (cmd ++ prompt)

/-- The part of `ParseCommands` for `SET`; `none` when no setting matches. -/
def parseSet (E : Env) (x : Session) (d : Mps) (cmd : Bytes) (tokens : List Bytes) :
    Option Outcome :=
  if tokens.length < 2 then
    some (x.answer d "Invalid Command: `SET` requires arguments\r\n>".toList)
  else
    match settingOf (tok tokens 1) with
    | some .rate => some (setRate E x d cmd tokens)
    | some .fps => some (setFps E x d cmd tokens)
    | some .enudp => some (setEnudp E x d cmd tokens)
    | some .enftp => some (setEnftp E x d cmd tokens)
    | some .ipudp => some (setIpudp E x d cmd tokens)
    | some .format => some (setFormat E x d tokens)
    | some .units => some (setUnits E x d cmd tokens)
    | some .sim => some (setSim E x d cmd tokens)
    | none => none

/-! ### GET and LIST -/

/-- The line that describes the units. -/
def unitsLine (E : Env) (d : Mps) : Bytes :=
  "SET UNITS ".toList ++ E.mpsUnitsToString d.cfg.units ++ " ".toList ++
    E.showFloat (.fin (E.mpsUnitsConversionFactor d.cfg.units))

/-- The reply of `GET`; `none` when no setting matches. -/
def parseGet (E : Env) (d : Mps) (tokens : List Bytes) : Option Bytes :=
  if tokens.length < 2 then some "Invalid Command: `GET` requires arguments\r\n>".toList
  else if isOneOf (tok tokens 1) ["SN", "sn"] then
    some ("SET SN ".toList ++ showNat d.cfg.serialNumber ++ prompt)
  else if isOneOf (tok tokens 1) ["RATE", "rate"] then
    some ("SET RATE ".toList ++ E.showFloat d.cfg.scanRateHz ++ prompt)
  else if isOneOf (tok tokens 1) ["UNITS", "units"] then some (unitsLine E d ++ prompt)
  else if isOneOf (tok tokens 1) ["FPS", "fps"] then
    some ("SET FPS ".toList ++ showNat d.cfg.framesPerScan ++ prompt)
  else none

/-- The decimal text of a boolean. -/
def showBool (b : Bool) : Bytes := if b then "1".toList else "0".toList

/-- The reply of `LIST S`. -/
def listS (E : Env) (d : Mps) : Bytes :=
  "SET RATE ".toList ++ E.showFloat d.cfg.scanRateHz ++ "\r\n".toList ++
    "SET FPS ".toList ++ showNat d.cfg.framesPerScan ++ "\r\n".toList ++
    unitsLine E d ++ "\r\n".toList ++
    "SET FORMAT".toList ++ buildDataFormatResponse E d ++ "\r\n".toList ++
    "SET TRIG 0 \r\n".toList ++
    "SET ENFTP ".toList ++ showBool d.cfg.ftpEnabled ++ " \r\n".toList ++ ">".toList

/-- The reply of `LIST UDP`. -/
def listUdp (d : Mps) : Bytes :=
  "SET ENUDP ".toList ++ showBool d.cfg.udpEnabled ++ "\r\n".toList ++
    "SET IPUDP ".toList ++ d.cfg.udpTargetIp ++ " ".toList ++ showNat d.cfg.udpTargetPort ++
    "\r\n".toList ++ ">".toList

/-- The reply of `LIST M`. -/
def listM (d : Mps) : Bytes :=
  "SET SIM ".toList ++ showNat d.cfg.sim ++ "\r\n".toList ++
    "SET ECHO 1\r\nSET XITE 2\r\nSET ETOL 0\r\n>".toList

/-- The reply of `LIST`; `none` when no setting matches. -/
def parseList (E : Env) (d : Mps) (tokens : List Bytes) : Option Bytes :=
  if tokens.length < 2 then some "Invalid Command: `LIST` requires arguments\r\n>".toList
  else if isOneOf (tok tokens 1) ["S", "s"] then some (listS E d)
  else if isOneOf (tok tokens 1) ["UDP", "udp"] then some (listUdp d)
  else if isOneOf (tok tokens 1) ["M", "m"] then some (listM d)
  else none

/-! ### The whole function -/

/-- The reply to a command that is not recognised. -/
def unrecognised (x : Session) (d : Mps) (cmd : Bytes) : Outcome :=
  x.answer d ("Invalid Command: `".toList ++ cmd ++ "`\r\n>".toList)

/-- `Mps::ParseCommands`. -/
def parseCommands (E : Env) (x : Session) (d : Mps) (cmd : Bytes) : Outcome :=
  let tokens := splitString cmd blanks
  match verbOf (tok tokens 0) with
  | some .ver =>
      x.answer d ("Aiolos (c) MPS Emulator v".toList ++ E.mpsEmulatorVersionString ++
        ": Emulating Scanivalve Firmware v".toList ++ E.mpsFirmwareVersionString ++ prompt)
  | some .status =>
      x.answer d ("STATUS: ".toList ++ (E.mpsStatusToString d.status).getD [] ++ prompt)
  | some .calz => x.answerCall (calZ d) []
  | some .scan => x.answerCall (startScan E x.now d) "Scan started ..".toList
  | some .stop => x.answerCall (stopScan d) []
  | some .set => (parseSet E x d cmd tokens).getD (unrecognised x d cmd)
  | some .get => ((parseGet E d tokens).map (x.answer d)).getD (unrecognised x d cmd)
  | some .list => ((parseList E d tokens).map (x.answer d)).getD (unrecognised x d cmd)
  | none => unrecognised x d cmd

/-! ### What a command does to the device -/

/-- The command of a command line. -/
def verb (cmd : Bytes) : Option Verb := verbOf (tok (splitString cmd blanks) 0)

/-- The argument of a `SET RATE` that has one. -/
def rateToken (cmd : Bytes) : Option Bytes :=
  let tokens := splitString cmd blanks
  if verbOf (tok tokens 0) = some .set ∧ 3 ≤ tokens.length ∧
      settingOf (tok tokens 1) = some .rate then some (tok tokens 2)
  else none

theorem rateToken_of_verb_ne {cmd : Bytes} (h : verb cmd ≠ some .set) : rateToken cmd = none :=
  if_neg fun hset => h hset.1

/-- A setting is selected only where there is a second token. -/
theorem two_le_of_settingOf {tokens : List Bytes} {setting : Setting}
    (h : settingOf (tok tokens 1) = some setting) : 2 ≤ tokens.length := by
  by_contra hshort
  have hnil : tok tokens 1 = [] := by
    rw [tok, List.getD_eq_default _ _ (by omega)]
  rw [hnil] at h
  exact absurd h (by decide +revert)

/-- The two devices differ in their configuration only, and not in the rate. -/
def OnlyCfg (d d' : Mps) : Prop :=
  d' = { d with cfg := d'.cfg } ∧ d'.cfg.scanRateHz = d.cfg.scanRateHz

theorem OnlyCfg.refl (d : Mps) : OnlyCfg d d := ⟨rfl, rfl⟩

theorem OnlyCfg.trans {d d' d'' : Mps} (h : OnlyCfg d d') (h' : OnlyCfg d' d'') :
    OnlyCfg d d'' := by
  refine ⟨?_, h'.2.trans h.2⟩
  rw [h'.1, h.1]

theorem OnlyCfg.of_cfg {d : Mps} {cfg : MpsConfig} (h : cfg.scanRateHz = d.cfg.scanRateHz) :
    OnlyCfg d { d with cfg := cfg } := ⟨rfl, h⟩

theorem setDataFormat_onlyCfg {E : Env} {d d' : Mps} {type fmt : Char}
    (h : setDataFormat E d type fmt = some d') : OnlyCfg d d' := by
  obtain ⟨f, ⟨-, rfl⟩ | ⟨-, rfl⟩ | ⟨-, rfl⟩⟩ := setDataFormat_cases h <;> exact OnlyCfg.of_cfg rfl

/-- The rule for the loop of `SET FORMAT`: a reflexive and transitive relation that holds of every
accepted pair holds of the loop. -/
theorem setFormatLoop_rule {E : Env} {R : Mps → Mps → Prop} (hrefl : ∀ d, R d d)
    (htrans : ∀ {d d' d''}, R d d' → R d' d'' → R d d'')
    (hset : ∀ {d d' type fmt}, setDataFormat E d type fmt = some d' → R d d')
    (d : Mps) (tokens : List Bytes) : R d (setFormatLoop E d tokens).1 := by
  induction d, tokens using setFormatLoop.induct E with
  | case1 d => exact hrefl d
  | case2 d t => exact hrefl d
  | case3 d type fmt rest d' h ih =>
      rw [setFormatLoop, h]
      exact htrans (hset h) ih
  | case4 d type fmt rest h =>
      rw [setFormatLoop, h]
      exact hrefl d

/-- The two texts the loop of `SET FORMAT` gives up with. -/
theorem setFormatLoop_error_cases {E : Env} {d : Mps} {tokens : List Bytes} {error : Bytes}
    (h : (setFormatLoop E d tokens).2 = some error) :
    error = ("Invalid Command: `SET FORMAT` requires argument pairs: " ++
        "e.g. SET FORMAT F <format>\r\n>").toList ∨
      ∃ type fmt, error =
        "Invalid Command: SET FORMAT ".toList ++ type ++ " ".toList ++ fmt ++ prompt := by
  induction d, tokens using setFormatLoop.induct E with
  | case1 d => exact absurd h (by simp [setFormatLoop])
  | case2 d t => exact .inl (Option.some_inj.1 h).symm
  | case3 d type fmt rest d' hset ih =>
      rw [setFormatLoop, hset] at h
      exact ih h
  | case4 d type fmt rest hset =>
      rw [setFormatLoop, hset] at h
      exact .inr ⟨type, fmt, (Option.some_inj.1 h).symm⟩

variable {E : Env} {x : Session} {d : Mps} {cmd : Bytes}

/-- A setting other than the rate changes the rest of the configuration only. -/
theorem parseSet_onlyCfg {tokens : List Bytes} {o : Outcome}
    (ho : parseSet E x d cmd tokens = some o)
    (hrate : ¬ (3 ≤ tokens.length ∧ settingOf (tok tokens 1) = some .rate)) :
    OnlyCfg d o.device := by
  rw [parseSet] at ho
  split at ho
  · rw [← Option.some_inj.1 ho]
    exact OnlyCfg.refl d
  · cases hset : settingOf (tok tokens 1) with
    | none => simp [hset] at ho
    | some setting =>
        rw [hset] at ho
        cases setting <;> rw [← Option.some_inj.1 ho]
        case rate =>
          have hshort : tokens.length < 3 := by
            by_contra h
            exact hrate ⟨by omega, hset⟩
          rw [setRate, if_pos hshort]
          exact OnlyCfg.refl d
        case fps => rw [setFps]; split <;> exact OnlyCfg.of_cfg rfl
        case enudp => rw [setEnudp]; split <;> exact OnlyCfg.of_cfg rfl
        case enftp => rw [setEnftp]; split <;> exact OnlyCfg.of_cfg rfl
        case ipudp => rw [setIpudp]; split <;> exact OnlyCfg.of_cfg rfl
        case format =>
          have hloop := setFormatLoop_rule OnlyCfg.refl OnlyCfg.trans
            (fun h => setDataFormat_onlyCfg (E := E) h) d (tokens.drop 2)
          rw [setFormat]
          split <;> rename_i heq <;> rw [heq] at hloop <;> exact hloop
        case units =>
          rw [setUnits]
          split
          · exact OnlyCfg.refl d
          · split
            · exact OnlyCfg.refl d
            · exact OnlyCfg.of_cfg rfl
        case sim =>
          rw [setSim]
          split
          · exact OnlyCfg.refl d
          · dsimp only
            split
            · exact OnlyCfg.refl d
            · split
              · exact OnlyCfg.refl d
              · split
                · exact OnlyCfg.refl d
                · exact OnlyCfg.of_cfg rfl

/-- The device after a command line, by the command it holds.  Only `SET RATE` with an argument
changes the rate, and it sets the number of averages to what the new rate asks for. -/
theorem parseCommands_device (E : Env) (x : Session) (d : Mps) (cmd : Bytes) :
    match verb cmd with
    | some .calz => (parseCommands E x d cmd).device = (calZ d).device
    | some .scan => (parseCommands E x d cmd).device = (startScan E x.now d).device
    | some .stop => (parseCommands E x d cmd).device = (stopScan d).device
    | some .set =>
        match rateToken cmd with
        | some t =>
            (parseCommands E x d cmd).device =
              updateScanAverages E
                { d with cfg := { d.cfg with scanRateHz := rateAfter E d.cfg t } }
        | none => OnlyCfg d (parseCommands E x d cmd).device
    | _ => (parseCommands E x d cmd).device = d := by
  rw [verb, parseCommands]
  cases hverb : verbOf (tok (splitString cmd blanks) 0) with
  | none => rfl
  | some v =>
      cases v <;> try rfl
      case set =>
        by_cases hrate : 3 ≤ (splitString cmd blanks).length ∧
            settingOf (tok (splitString cmd blanks) 1) = some .rate
        · have htok : rateToken cmd = some (tok (splitString cmd blanks) 2) := by
            rw [rateToken, if_pos ⟨hverb, hrate⟩]
          have hlen : ¬ (splitString cmd blanks).length < 3 := by omega
          have hlen' : ¬ (splitString cmd blanks).length < 2 := by omega
          simp only [htok, parseSet, if_neg hlen', hrate.2, Option.getD_some, setRate, if_neg hlen]
          rfl
        · have htok : rateToken cmd = none := by
            rw [rateToken, if_neg fun h => hrate h.2]
          simp only [htok]
          cases ho : parseSet E x d cmd (splitString cmd blanks) with
          | none => exact OnlyCfg.refl d
          | some o => exact parseSet_onlyCfg ho hrate
      case get => cases parseGet E d (splitString cmd blanks) <;> rfl
      case list => cases parseList E d (splitString cmd blanks) <;> rfl

/-- What a command line can do to the device: one of the three calls, or settings, which are at most
the configuration and the number of averages. -/
inductive CommandEffect (E : Env) (x : Session) (d : Mps) (cmd : Bytes) : Mps → Prop
  | scan (hverb : verb cmd = some .scan) : CommandEffect E x d cmd (startScan E x.now d).device
  | stop (hverb : verb cmd = some .stop) : CommandEffect E x d cmd (stopScan d).device
  | calz (hverb : verb cmd = some .calz) : CommandEffect E x d cmd (calZ d).device
  | settings (hscan : verb cmd ≠ some .scan) (hstop : verb cmd ≠ some .stop)
      (hcalz : verb cmd ≠ some .calz) (cfg : MpsConfig) (averages : ℕ) :
      CommandEffect E x d cmd { d with cfg := cfg, nSubFrameAverages := averages }

theorem parseCommands_effect (E : Env) (x : Session) (d : Mps) (cmd : Bytes) :
    CommandEffect E x d cmd (parseCommands E x d cmd).device := by
  have h := parseCommands_device E x d cmd
  by_cases hscan : verb cmd = some .scan
  · rw [hscan] at h
    rw [h]
    exact .scan hscan
  by_cases hstop : verb cmd = some .stop
  · rw [hstop] at h
    rw [h]
    exact .stop hstop
  by_cases hcalz : verb cmd = some .calz
  · rw [hcalz] at h
    rw [h]
    exact .calz hcalz
  have hsettings : ∀ d' : Mps,
      d' = { d with cfg := d'.cfg, nSubFrameAverages := d'.nSubFrameAverages } →
        CommandEffect E x d cmd d' := by
    intro d' hd'
    rw [hd']
    exact .settings hscan hstop hcalz d'.cfg d'.nSubFrameAverages
  refine hsettings _ ?_
  cases hverb : verb cmd with
  | none =>
      rw [hverb] at h
      rw [h]
  | some v =>
      rw [hverb] at h
      cases v
      case calz => exact absurd hverb hcalz
      case scan => exact absurd hverb hscan
      case stop => exact absurd hverb hstop
      case set =>
        cases htok : rateToken cmd with
        | none =>
            simp only [htok] at h
            rw [h.1]
        | some t =>
            simp only [htok] at h
            rw [h]
            rfl
      all_goals rw [h]

/-! ### Replies -/

/-- The reply is empty, tells that a scan has started, or ends with the prompt. -/
def IsReply (reply : Bytes) : Prop :=
  reply = [] ∨ reply = "Scan started ..".toList ∨ reply.getLast? = some '>'

theorem isReply_of_getLast? {s : Bytes} (hs : s.getLast? = some '>') : IsReply s :=
  Or.inr (Or.inr hs)

/-- The last character of a literal, read off its characters. -/
theorem getLast?_text {text : List Char} {c : Char} (h : text.getLast? = some c) :
    (String.ofList text).toList.getLast? = some c := by
  rw [String.toList_ofList]
  exact h

theorem isReply_text {text : List Char} (h : text.getLast? = some '>') :
    IsReply (String.ofList text).toList := isReply_of_getLast? (getLast?_text h)

theorem getLast?_append_text (s : Bytes) {text : List Char} {c : Char}
    (h : text.getLast? = some c) : (s ++ (String.ofList text).toList).getLast? = some c := by
  rw [List.getLast?_append, getLast?_text h]
  rfl

theorem isReply_append (s : Bytes) {text : List Char} (h : text.getLast? = some '>') :
    IsReply (s ++ (String.ofList text).toList) := isReply_of_getLast? (getLast?_append_text s h)

theorem isReply_prompt (s : Bytes) : IsReply (s ++ prompt) := isReply_append s rfl

theorem setFormatLoop_isReply {E : Env} {d : Mps} {tokens : List Bytes} {error : Bytes}
    (h : (setFormatLoop E d tokens).2 = some error) : IsReply error := by
  rcases setFormatLoop_error_cases h with rfl | ⟨type, fmt, rfl⟩
  · exact isReply_of_getLast? rfl
  · exact isReply_prompt _

/-- How a setting other than the formats is answered: with a text that ends with the prompt, and
leaves the device as it was, or with the echo of the command. -/
inductive SetEffect (d : Mps) (cmd : Bytes) (o : Outcome) : Prop
  | rejected (hdevice : o.device = d) (hreply : o.reply.getLast? = some '>')
  | stored (hreply : o.reply = cmd ++ prompt)

theorem parseSet_effect {tokens : List Bytes} {o : Outcome}
    (ho : parseSet E x d cmd tokens = some o) (hformat : settingOf (tok tokens 1) ≠ some .format) :
    SetEffect d cmd o := by
  have hrejected : ∀ {text : List Char}, text.getLast? = some '>' →
      SetEffect d cmd (x.answer d (String.ofList text).toList) :=
    fun h => .rejected rfl (getLast?_text h)
  rw [parseSet] at ho
  split at ho
  · rw [← Option.some_inj.1 ho]
    exact hrejected rfl
  · cases hset : settingOf (tok tokens 1) with
    | none => simp [hset] at ho
    | some setting =>
        rw [hset] at ho hformat
        cases setting <;> rw [← Option.some_inj.1 ho]
        case format => exact absurd rfl hformat
        case rate =>
          rw [setRate]
          split
          · exact hrejected rfl
          · exact .stored rfl
        case fps =>
          rw [setFps]
          split
          · exact hrejected rfl
          · exact .stored rfl
        case enudp =>
          rw [setEnudp]
          split
          · exact hrejected rfl
          · exact .stored rfl
        case enftp =>
          rw [setEnftp]
          split
          · exact hrejected rfl
          · exact .stored rfl
        case ipudp =>
          rw [setIpudp]
          split
          · exact hrejected rfl
          · exact .stored rfl
        case units =>
          rw [setUnits]
          split
          · exact hrejected rfl
          · split
            · exact .rejected rfl (getLast?_append_text _ rfl)
            · exact .stored rfl
        case sim =>
          rw [setSim]
          split
          · exact hrejected rfl
          · dsimp only
            split
            · exact .rejected rfl (getLast?_text rfl)
            · split
              · exact .rejected rfl (getLast?_append_text _ rfl)
              · split
                · exact .rejected rfl (getLast?_append_text _ rfl)
                · exact .stored rfl

theorem parseSet_isReply {tokens : List Bytes} {o : Outcome}
    (ho : parseSet E x d cmd tokens = some o) : IsReply o.reply := by
  by_cases hformat : settingOf (tok tokens 1) = some .format
  · have hlen : ¬ tokens.length < 2 := Nat.not_lt.2 (two_le_of_settingOf hformat)
    rw [parseSet, if_neg hlen, hformat] at ho
    rw [← Option.some_inj.1 ho, setFormat]
    split
    · exact isReply_prompt _
    · next hloop => exact setFormatLoop_isReply (congrArg Prod.snd hloop)
  · cases parseSet_effect ho hformat with
    | rejected _ hreply => exact isReply_of_getLast? hreply
    | stored hreply =>
        rw [hreply]
        exact isReply_prompt cmd

theorem parseGet_isReply {tokens : List Bytes} {reply : Bytes}
    (hr : parseGet E d tokens = some reply) : IsReply reply := by
  rw [parseGet] at hr
  split at hr
  · cases hr
    exact isReply_text rfl
  · split at hr
    · cases hr
      exact isReply_prompt _
    · split at hr
      · cases hr
        exact isReply_prompt _
      · split at hr
        · cases hr
          exact isReply_prompt _
        · obtain ⟨-, hr⟩ := Option.ite_none_right_eq_some.1 hr
          cases hr
          exact isReply_prompt _

theorem parseList_isReply {tokens : List Bytes} {reply : Bytes}
    (hr : parseList E d tokens = some reply) : IsReply reply := by
  rw [parseList] at hr
  split at hr
  · cases hr
    exact isReply_text rfl
  · split at hr
    · cases hr
      exact isReply_append _ rfl
    · split at hr
      · cases hr
        exact isReply_append _ rfl
      · obtain ⟨-, hr⟩ := Option.ite_none_right_eq_some.1 hr
        cases hr
        exact isReply_append _ rfl

/-- **Every reply** is empty, tells that a scan has started, or ends with the prompt. -/
theorem parseCommands_isReply (E : Env) (x : Session) (d : Mps) (cmd : Bytes) :
    IsReply (parseCommands E x d cmd).reply := by
  have hunrecognised : IsReply (unrecognised x d cmd).reply := isReply_append _ rfl
  rw [parseCommands]
  cases hverb : verbOf (tok (splitString cmd blanks) 0) with
  | none => exact hunrecognised
  | some v =>
      cases v
      case ver => exact isReply_prompt _
      case status => exact isReply_prompt _
      case calz => exact Or.inl rfl
      case scan => exact Or.inr (Or.inl rfl)
      case stop => exact Or.inl rfl
      case set =>
        cases ho : parseSet E x d cmd (splitString cmd blanks) with
        | none => simpa only [hverb, ho, Option.getD_none] using hunrecognised
        | some o => simpa only [hverb, ho, Option.getD_some] using parseSet_isReply ho
      case get =>
        cases ho : parseGet E d (splitString cmd blanks) with
        | none => simpa only [hverb, ho, Option.map_none, Option.getD_none] using hunrecognised
        | some reply =>
            simp only [Option.map_some, Option.getD_some]
            exact parseGet_isReply ho
      case list =>
        cases ho : parseList E d (splitString cmd blanks) with
        | none => simpa only [hverb, ho, Option.map_none, Option.getD_none] using hunrecognised
        | some reply =>
            simp only [Option.map_some, Option.getD_some]
            exact parseList_isReply ho
end MpsEmulator
