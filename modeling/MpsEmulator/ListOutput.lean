/-
**What `LIST` prints, `SET` reads back.**

The replies to `LIST S`, `LIST UDP` and `LIST M` are lines of words, and every line is a `SET`
command.  Fed line by line to another device, they give it the settings of the first one, and it
then answers the three commands with the same text.  Lines with settings that `SET` does not know
are answered as invalid and change nothing.

Two of the fields need care.  The tokens of a line are right only if what is printed between the
blanks has none itself, and a format is printed as the letter the package has for it, which `SET
FORMAT` takes only on the channels that allow it.  Both hold because of what `SET` has checked when
the field was written, so they are facts about the configurations a device can get to.  The rate may
come back as another `float`, but as one that is printed the same.

`errno` is followed through the calls.  Of the functions the commands call, `strtoul` is the one
that reports through it; that `sscanf` does not is what `Platform.sscanfErrno_eq` says.

* `unwords`, `crlfLines`, `splitString_unwords`, `crlfLines_reply` — words and lines, and that both
  are found again;
* `FormatLetters`, `UnitNames`, `ShowsSixDigits`, `ReadsNearest` — what is relied on of the protocol
  package and of the platform;
* `Restorable`, `restorable_of_reachable` — **every reachable field is one its own parser gives
  back**;
* `Assigns`, `feedLines`, `feedLines_cfg` — what a line assigns, and what a list of lines does;
* `list_restores` — **the listing restores the settings**.
-/

import MpsEmulator.Configuration
import MpsEmulator.NumericSettings
import MpsEmulator.PrintedNumerals

set_option relaxedAutoImplicit false
set_option autoImplicit false

namespace MpsEmulator

open CNumeral FloatDecimal Relation

/-! ### Words and lines -/

/-- Words with a blank between every two of them. -/
def unwords : List Bytes → Bytes
  | [] => []
  | [w] => w
  | w :: w' :: ws => w ++ ' ' :: unwords (w' :: ws)

/-- The characters of a word: no blank, CR or LF. -/
def IsBlankFree (w : Bytes) : Prop := ∀ c ∈ w, c ∉ blanks

instance (w : Bytes) : Decidable (IsBlankFree w) := List.decidableBAll (· ∉ blanks) w

/-- A line of words.  Only the last one may be empty, where the line ends with a blank. -/
def IsLine : List Bytes → Prop
  | [] => False
  | [w] => IsBlankFree w
  | w :: w' :: ws => w ≠ [] ∧ IsBlankFree w ∧ IsLine (w' :: ws)

/-- The pieces of a text between its CR-LF pairs, the first of which has been read up to `piece`. -/
def crlfScan : Bytes → Bytes → List Bytes
  | piece, '\r' :: '\n' :: s => piece :: crlfScan [] s
  | piece, c :: s => crlfScan (piece ++ [c]) s
  | piece, [] => [piece]

/-- The CR-LF separated lines of a text. -/
def crlfLines (s : Bytes) : List Bytes := crlfScan [] s

/-- A reply of whole lines, with the prompt behind them. -/
def replyOf (lines : List (List Bytes)) : Bytes :=
  (lines.flatMap fun ws => unwords ws ++ "\r\n".toList) ++ ">".toList

theorem unwords_cons {ws : List Bytes} (h : ws ≠ []) (w : Bytes) :
    unwords (w :: ws) = w ++ ' ' :: unwords ws := by
  cases ws with
  | nil => exact absurd rfl h
  | cons w' ws => rfl

theorem isLine_cons {w : Bytes} {ws : List Bytes} (hne : w ≠ []) (hw : IsBlankFree w)
    (h : IsLine ws) : IsLine (w :: ws) := by
  cases ws with
  | nil => exact h.elim
  | cons w' ws => exact ⟨hne, hw, h⟩

theorem splitScan_unwords {ws : List Bytes} (h : IsLine ws) :
    splitScan blanks [] (unwords ws) = ws := by
  induction ws using unwords.induct with
  | case1 => exact h.elim
  | case2 w =>
      have hscan := splitScan_append h [] []
      rw [List.append_nil, List.nil_append] at hscan
      exact hscan
  | case3 w w' ws ih =>
      obtain ⟨hne, hfree, hrest⟩ := h
      rw [unwords, splitScan_append hfree, List.nil_append, splitScan, if_pos (by decide),
        if_neg hne, ih hrest, List.singleton_append]

/-- **The tokens of a line** are its words. -/
theorem splitString_unwords {ws : List Bytes} (h : IsLine ws) :
    splitString (unwords ws) blanks = ws := by
  rw [splitString_eq_scan, splitScan_unwords h]

theorem cr_not_mem_unwords {ws : List Bytes} (h : IsLine ws) : '\r' ∉ unwords ws := by
  have hcr : ∀ {w : Bytes}, IsBlankFree w → '\r' ∉ w := fun hw hmem => hw _ hmem (by decide)
  induction ws using unwords.induct with
  | case1 => exact h.elim
  | case2 w => exact hcr h
  | case3 w w' ws ih =>
      obtain ⟨-, hfree, hrest⟩ := h
      rw [unwords, List.mem_append, List.mem_cons, not_or, not_or]
      exact ⟨hcr hfree, by decide, ih hrest⟩

theorem crlfScan_append {run : Bytes} (hrun : '\r' ∉ run) (piece s : Bytes) :
    crlfScan piece (run ++ s) = crlfScan (piece ++ run) s := by
  induction run generalizing piece with
  | nil => simp
  | cons c run ih =>
      rw [List.mem_cons, not_or] at hrun
      rw [List.cons_append, crlfScan.eq_2 _ _ _ fun s' hc _ => hrun.1 hc.symm, ih hrun.2,
        List.append_assoc, List.singleton_append]

/-- **The lines of a reply** are the lines it was made of, and the prompt. -/
theorem crlfLines_reply {lines : List (List Bytes)} (h : ∀ ws ∈ lines, IsLine ws) :
    crlfLines (replyOf lines) = lines.map unwords ++ [">".toList] := by
  rw [crlfLines, replyOf]
  induction lines with
  | nil => rfl
  | cons ws lines ih =>
      have hcr := cr_not_mem_unwords (h ws List.mem_cons_self)
      rw [List.flatMap_cons, List.append_assoc, List.append_assoc, crlfScan_append hcr,
        List.map_cons, List.cons_append, ← ih fun ws' hws' => h ws' (List.mem_cons_of_mem _ hws')]
      rfl

/-! ### What is relied on -/

/-- A format is printed as its letter, in upper case, and a letter that is accepted for a format is
that letter in either case. -/
structure FormatLetters (E : Env) : Prop where
  fromChar_toChar (f : MpsDataFormat) : E.mpsFormatFromChar (E.mpsFormatToChar f) = some f
  toChar_of_fromChar {c : Char} {f : MpsDataFormat} (h : E.mpsFormatFromChar c = some f) :
    E.mpsFormatToChar f = c.toUpper
  toChar_ascii : E.mpsFormatToChar .ascii = 'A'
  toChar_binary : E.mpsFormatToChar .binary = 'B'

/-- The name of the units is a word that is read as them. -/
structure IsNamed (E : Env) (u : MpsUnits) : Prop where
  ne_nil : E.mpsUnitsToString u ≠ []
  plain : ∀ c ∈ E.mpsUnitsToString u, IsPlain c
  fromString : E.mpsUnitsFromString (E.mpsUnitsToString u) = some u

/-- The units the package knows, PA among them, have names. -/
structure UnitNames (E : Env) : Prop where
  pa : IsNamed E .pa
  other {t : Bytes} {u : MpsUnits} (h : E.mpsUnitsFromString t = some u) : IsNamed E u

/-- A `float` is printed with six significant digits, as a numeral. -/
structure ShowsSixDigits (E : Env) (render : ℚ → Bytes) : Prop where
  nearest (q : ℚ) : ∃ g, Nearest (HasDigits 10 6) q g ∧ E.showFloat (.fin q) = render g
  numeral {g : ℚ} (h : HasDigits 10 6 g) : wholeFloat (render g) = some g

/-- A numeral in the range of `float` is read as a `float` that is nearest to it. -/
structure ReadsNearest (E : Env) : Prop where
  isFloat {g r : ℚ} (h : E.roundToFloat g = .fin r) : IsFloat r
  nearest {g : ℚ} (h : |g| ≤ maxFloat) : ∃ r, E.roundToFloat g = .fin r ∧ Nearest IsFloat g r

/-! ### The configurations a device can get to -/

/-- The device after the command lines, each called in its own session. -/
def runCommands (E : Env) (d : Mps) : List (Session × Bytes) → Mps
  | [] => d
  | (x, cmd) :: cmds => runCommands E (parseCommands E x d cmd).device cmds

/-- The configuration is the one `ServerLayer::OnAttach` makes or one that commands lead to from
it. -/
def ReachableCfg (E : Env) (deviceId : MpsDeviceID) (serialNumber : ℕ) (c : MpsConfig) : Prop :=
  ∃ cmds, (runCommands E (attachedDevice deviceId serialNumber) cmds).cfg = c

/-- Every field holds a value that its own `SET` gives back when it reads what `LIST` prints for
it. -/
structure Restorable (E : Env) (c : MpsConfig) : Prop where
  telnetFormat : allowedFormat E ['A', 'a', 'F', 'f', 'C', 'c'] (E.mpsFormatToChar c.telnetFormat) =
    some c.telnetFormat
  ftpUdpFormat : allowedFormat E ['A', 'a', 'B', 'b', 'C', 'c'] (E.mpsFormatToChar c.ftpUdpFormat) =
    some c.ftpUdpFormat
  binaryFormat : allowedFormat E ['B', 'b', 'L', 'l'] (E.mpsFormatToChar c.binaryFormat) =
    some c.binaryFormat
  rate : ∀ q, c.scanRateHz = .fin q → IsFloat q
  fps : c.framesPerScan < 2 ^ 32
  units : IsNamed E c.units
  ip : c.udpTargetIp ≠ [] ∧ IsBlankFree c.udpTargetIp
  port : c.udpTargetPort < 2 ^ 16
  sim : c.sim ≤ 65535

variable {E : Env} {x : Session} {d : Mps} {cmd : Bytes} {render : ℚ → Bytes}

theorem runCommands_cfg (E : Env) (d : Mps) (cmds : List (Session × Bytes)) :
    ReflTransGen (CfgStep E) d.cfg (runCommands E d cmds).cfg := by
  induction cmds generalizing d with
  | nil => exact .refl
  | cons call cmds ih => exact (parseCommands_cfg E call.1 d call.2).trans (ih _)

/-- What is accepted on a channel is printed as a letter that is accepted there. -/
theorem allowedFormat_toChar (hformat : FormatLetters E) {allowed : List Char} {fmt : Char}
    {f : MpsDataFormat} (hupper : allowed.all (·.toUpper ∈ allowed) = true)
    (h : allowedFormat E allowed fmt = some f) :
    allowedFormat E allowed (E.mpsFormatToChar f) = some f := by
  obtain ⟨hmem, hf⟩ := Option.ite_none_right_eq_some.1 h
  have hletter : E.mpsFormatToChar f ∈ allowed := by
    rw [hformat.toChar_of_fromChar hf]
    exact of_decide_eq_true (List.all_eq_true.1 hupper fmt hmem)
  rw [allowedFormat, if_pos hletter, hformat.fromChar_toChar]

theorem wrapUnsigned_lt (w : ℕ) (z : ℤ) : wrapUnsigned w z < 2 ^ w := by
  have hpos : (0 : ℤ) < 2 ^ w := by positivity
  have hlow := Int.emod_nonneg z hpos.ne'
  have hhigh := Int.emod_lt_of_pos z hpos
  zify
  rw [wrapUnsigned, Int.toNat_of_nonneg hlow]
  exact hhigh

/-- A rate that was read is a `float`. -/
theorem isFloat_rateAfter (hread : ReadsNearest E) {c : MpsConfig}
    (hc : ∀ q, c.scanRateHz = .fin q → IsFloat q) (t : Bytes) {q : ℚ}
    (h : rateAfter E c t = .fin q) : IsFloat q := by
  rw [rateAfter] at h
  cases hscan : sscanfFloat E.roundToFloat (cStr t) with
  | none =>
      rw [hscan] at h
      exact hc q h
  | some rate =>
      rw [hscan, Option.getD_some] at h
      rw [h, sscanfFloat] at hscan
      dsimp only at hscan
      split at hscan
      · split at hscan <;> simp at hscan
      · split at hscan
        · split at hscan <;> simp at hscan
        · obtain ⟨g, -, hg⟩ := Option.map_eq_some_iff.1 hscan
          exact hread.isFloat hg

theorem restorable_attachConfig (hformat : FormatLetters E) (hunits : UnitNames E)
    (deviceId : MpsDeviceID) (serialNumber : ℕ) :
    Restorable E (attachConfig deviceId serialNumber) where
  telnetFormat := by
    simp only [attachConfig, allowedFormat, hformat.toChar_ascii]
    rw [if_pos (by decide), ← hformat.toChar_ascii, hformat.fromChar_toChar]
  ftpUdpFormat := by
    simp only [attachConfig, allowedFormat, hformat.toChar_binary]
    rw [if_pos (by decide), ← hformat.toChar_binary, hformat.fromChar_toChar]
  binaryFormat := by
    simp only [attachConfig, allowedFormat, hformat.toChar_binary]
    rw [if_pos (by decide), ← hformat.toChar_binary, hformat.fromChar_toChar]
  rate q h := by
    cases h
    exact ⟨10, 0, by norm_num, by norm_num, by norm_num, by norm_num⟩
  fps := by
    rw [attachConfig]
    norm_num
  units := hunits.pa
  ip := (by decide : "127.0.0.1".toList ≠ [] ∧ IsBlankFree "127.0.0.1".toList)
  port := by
    rw [attachConfig]
    norm_num
  sim := (by decide : mpsSimSimulated64Ch ≤ 65535)

/-- One assignment keeps every field restorable. -/
theorem Restorable.assign (hformat : FormatLetters E) (hunits : UnitNames E)
    (hread : ReadsNearest E) {c c' : MpsConfig} (h : Restorable E c) (hstep : CfgStep E c c') :
    Restorable E c' := by
  cases hstep
  case rate t => exact { h with rate := fun q hq => isFloat_rateAfter hread h.rate t hq }
  case fps z => exact { h with fps := wrapUnsigned_lt 32 z }
  case enudp enabled => exact { h with }
  case enftp enabled => exact { h with }
  case ip t hne hblank => exact { h with ip := ⟨hne, hblank⟩ }
  case port z => exact { h with port := wrapUnsigned_lt 16 z }
  case telnetFormat fmt f hf =>
      exact { h with telnetFormat := allowedFormat_toChar hformat (by decide) hf }
  case ftpUdpFormat fmt f hf =>
      exact { h with ftpUdpFormat := allowedFormat_toChar hformat (by decide) hf }
  case binaryFormat fmt f hf =>
      exact { h with binaryFormat := allowedFormat_toChar hformat (by decide) hf }
  case units t u hu => exact { h with units := hunits.other hu }
  case sim n hn => exact { h with sim := hn }

/-- **Every reachable field is restorable.** -/
theorem restorable_of_reachable (hformat : FormatLetters E) (hunits : UnitNames E)
    (hread : ReadsNearest E) {deviceId : MpsDeviceID} {serialNumber : ℕ} {c : MpsConfig}
    (hc : ReachableCfg E deviceId serialNumber c) : Restorable E c := by
  obtain ⟨cmds, rfl⟩ := hc
  exact CfgStep.preserved (fun c c' h hstep => h.assign hformat hunits hread hstep)
    (restorable_attachConfig hformat hunits deviceId serialNumber)
    (runCommands_cfg E (attachedDevice deviceId serialNumber) cmds)

/-! ### What a line assigns -/

/-- The words of a `SET` line. -/
def setLine (setting : String) (args : List Bytes) : List Bytes :=
  "SET".toList :: setting.toList :: args

/-- Called where `errno` is clear, the line makes this change to the configuration, and `errno` is
clear afterwards. -/
structure Assigns (E : Env) (ws : List Bytes) (change : MpsConfig → MpsConfig) : Prop where
  isLine : IsLine ws
  effect (x : Session) (d : Mps) (h : x.errnoRange = false) :
    (parseCommands E x d (unwords ws)).device.cfg = change d.cfg ∧
      (parseCommands E x d (unwords ws)).errnoRange = false

theorem isLine_setLine {k : String} {args : List Bytes} (hne : k.toList ≠ [])
    (hfree : IsBlankFree k.toList) (h : IsLine args) : IsLine (setLine k args) :=
  isLine_cons (by decide) (by decide) (isLine_cons hne hfree h)

/-- A `SET` line is carried out with its words as the tokens. -/
theorem parseCommands_setLine {k : String} {args : List Bytes} (h : IsLine (setLine k args))
    {setting : Setting} :
    settingOf k.toList = some setting → parseCommands E x d (unwords (setLine k args)) =
      match setting with
      | .rate => setRate E x d (unwords (setLine k args)) (setLine k args)
      | .fps => setFps E x d (unwords (setLine k args)) (setLine k args)
      | .enudp => setEnudp E x d (unwords (setLine k args)) (setLine k args)
      | .enftp => setEnftp E x d (unwords (setLine k args)) (setLine k args)
      | .ipudp => setIpudp E x d (unwords (setLine k args)) (setLine k args)
      | .format => setFormat E x d (setLine k args)
      | .units => setUnits E x d (unwords (setLine k args)) (setLine k args)
      | .sim => setSim E x d (unwords (setLine k args)) (setLine k args) := by
  have hverb : verb (unwords (setLine k args)) = some .set := by
    rw [verb, splitString_unwords h]
    exact (by decide : verbOf "SET".toList = some .set)
  intro hk
  have hset := parseCommands_set (E := E) (x := x) (d := d) hverb
    (show settingOf (tok (splitString (unwords (setLine k args)) blanks) 1) = some setting by
      rw [splitString_unwords h]
      exact hk)
  rwa [splitString_unwords h] at hset

/-- A line with a setting that `SET` does not know changes nothing. -/
theorem assigns_unknown {k : String} {args : List Bytes} (h : IsLine (setLine k args))
    (hk : settingOf k.toList = none) : Assigns E (setLine k args) id := by
  refine ⟨h, fun x d herrno => ?_⟩
  have hverb : verbOf (tok (setLine k args) 0) = some .set :=
    (by decide : verbOf "SET".toList = some .set)
  have hset : settingOf (tok (setLine k args) 1) = none := hk
  have hlen : ¬ (setLine k args).length < 2 := by simp [setLine]
  rw [parseCommands, splitString_unwords h, hverb]
  simp only [parseSet, if_neg hlen, hset, Option.getD_none]
  exact ⟨rfl, herrno⟩

theorem isBlankFree_of_isPlain {w : Bytes} (h : ∀ c ∈ w, IsPlain c) : IsBlankFree w := by
  intro c hc hblank
  have hspace : isSpace c = true :=
    List.all_eq_true.1 (by decide : blanks.all isSpace = true) c hblank
  rw [(h c hc).1] at hspace
  exact absurd hspace (by simp)

theorem isPlain_showNat (n : ℕ) : ∀ c ∈ showNat n, IsPlain c :=
  isPlain_of_wholeInt (wholeInt_toDigits n)

theorem isBlankFree_showNat (n : ℕ) : IsBlankFree (showNat n) :=
  isBlankFree_of_isPlain (isPlain_showNat n)

theorem sscanfInt_showNat (n : ℕ) : sscanfInt (cStr (showNat n)) = some (n : ℤ) := by
  rw [cStr_eq_self fun c hc => (isPlain_showNat n c hc).2]
  exact sscanfInt_of_wholeInt (wholeInt_toDigits n)

theorem assigns_rate {t : Bytes} (ht : IsBlankFree t) {rate : CFloat}
    (hrate : ∀ c, rateAfter E c t = rate) :
    Assigns E (setLine "RATE" [t]) fun c => { c with scanRateHz := rate } := by
  have hline : IsLine (setLine "RATE" [t]) := isLine_setLine (by decide) (by decide) ht
  refine ⟨hline, fun x d herrno => ?_⟩
  rw [parseCommands_setLine hline (by decide : settingOf "RATE".toList = some .rate)]
  refine ⟨?_, (x.errnoRange_afterSscanf E _).trans herrno⟩
  rw [← hrate d.cfg]
  rfl

theorem assigns_fps {n : ℕ} (hn : n < 2 ^ 32) :
    Assigns E (setLine "FPS" [showNat n]) fun c => { c with framesPerScan := n } := by
  have hline : IsLine (setLine "FPS" [showNat n]) :=
    isLine_setLine (by decide) (by decide) (isBlankFree_showNat n)
  refine ⟨hline, fun x d herrno => ?_⟩
  rw [parseCommands_setLine hline (by decide : settingOf "FPS".toList = some .fps)]
  refine ⟨?_, (x.errnoRange_afterSscanf E _).trans herrno⟩
  change { d.cfg with framesPerScan :=
    ((sscanfInt (cStr (showNat n))).map (wrapUnsigned 32)).getD d.cfg.framesPerScan } = _
  rw [sscanfInt_showNat, Option.map_some, Option.getD_some, wrapUnsigned_of_lt hn]

theorem isBlankFree_showBool (b : Bool) : IsBlankFree (showBool b) := by
  cases b <;> decide

/-- The text of a flag is read as that flag, whatever the local held. -/
theorem sscanfInt_showBool (b : Bool) (z : ℤ) :
    decide (wrapUnsigned 32 ((sscanfInt (cStr (showBool b))).getD z) ≠ 0) = b := by
  cases b <;> rfl

theorem assigns_enudp (b : Bool) :
    Assigns E (setLine "ENUDP" [showBool b]) fun c => { c with udpEnabled := b } := by
  have hline : IsLine (setLine "ENUDP" [showBool b]) :=
    isLine_setLine (by decide) (by decide) (isBlankFree_showBool b)
  refine ⟨hline, fun x d herrno => ?_⟩
  rw [parseCommands_setLine hline (by decide : settingOf "ENUDP".toList = some .enudp)]
  exact ⟨congrArg (fun b => { d.cfg with udpEnabled := b }) (sscanfInt_showBool b x.enudp),
    (x.errnoRange_afterSscanf E _).trans herrno⟩

theorem assigns_enftp (b : Bool) :
    Assigns E (setLine "ENFTP" [showBool b, []]) fun c => { c with ftpEnabled := b } := by
  have hline : IsLine (setLine "ENFTP" [showBool b, []]) :=
    isLine_setLine (by decide) (by decide)
      ⟨by cases b <;> decide, isBlankFree_showBool b, (by decide : IsBlankFree [])⟩
  refine ⟨hline, fun x d herrno => ?_⟩
  rw [parseCommands_setLine hline (by decide : settingOf "ENFTP".toList = some .enftp)]
  exact ⟨congrArg (fun b => { d.cfg with ftpEnabled := b }) (sscanfInt_showBool b x.enftp),
    (x.errnoRange_afterSscanf E _).trans herrno⟩

theorem assigns_ipudp {ip : Bytes} (hip : ip ≠ [] ∧ IsBlankFree ip) {port : ℕ}
    (hport : port < 2 ^ 16) :
    Assigns E (setLine "IPUDP" [ip, showNat port]) fun c =>
      { c with udpTargetIp := ip, udpTargetPort := port } := by
  have hline : IsLine (setLine "IPUDP" [ip, showNat port]) :=
    isLine_setLine (by decide) (by decide) ⟨hip.1, hip.2, isBlankFree_showNat port⟩
  refine ⟨hline, fun x d herrno => ?_⟩
  rw [parseCommands_setLine hline (by decide : settingOf "IPUDP".toList = some .ipudp)]
  refine ⟨?_, (x.errnoRange_afterSscanf E _).trans herrno⟩
  change { d.cfg with
    udpTargetIp := ip
    udpTargetPort :=
      ((sscanfInt (cStr (showNat port))).map (wrapUnsigned 16)).getD d.cfg.udpTargetPort } = _
  rw [sscanfInt_showNat, Option.map_some, Option.getD_some, wrapUnsigned_of_lt hport]

theorem assigns_units {u : MpsUnits} (hu : IsNamed E u) {factor : Bytes}
    (hfactor : IsBlankFree factor) :
    Assigns E (setLine "UNITS" [E.mpsUnitsToString u, factor]) fun c => { c with units := u } := by
  have hline : IsLine (setLine "UNITS" [E.mpsUnitsToString u, factor]) :=
    isLine_setLine (by decide) (by decide)
      ⟨hu.ne_nil, isBlankFree_of_isPlain hu.plain, hfactor⟩
  refine ⟨hline, fun x d herrno => ?_⟩
  rw [parseCommands_setLine hline (by decide : settingOf "UNITS".toList = some .units)]
  have hlen : ¬ (setLine "UNITS" [E.mpsUnitsToString u, factor]).length < 3 := by simp [setLine]
  have hname : cStr (tok (setLine "UNITS" [E.mpsUnitsToString u, factor]) 2) =
      E.mpsUnitsToString u := cStr_eq_self fun c hc => (hu.plain c hc).2
  simp only [setUnits, if_neg hlen, hname, hu.fromString]
  exact ⟨rfl, herrno⟩

theorem assigns_sim (hulong : 65535 ≤ E.ulongMax) {n : ℕ} (hn : n ≤ 65535) :
    Assigns E (setLine "SIM" [showNat n]) fun c => { c with sim := n } := by
  have hline : IsLine (setLine "SIM" [showNat n]) :=
    isLine_setLine (by decide) (by decide) (isBlankFree_showNat n)
  refine ⟨hline, fun x d herrno => ?_⟩
  rw [parseCommands_setLine hline (by decide : settingOf "SIM".toList = some .sim)]
  have hlen : ¬ (setLine "SIM" [showNat n]).length < 3 := by simp [setLine]
  have hparsed : strtoul E.ulongMax (cStr (tok (setLine "SIM" [showNat n]) 2)) =
      { value := n, range := false, rest := some [] } := by
    have htok : tok (setLine "SIM" [showNat n]) 2 = showNat n := rfl
    rw [htok, cStr_eq_self fun c hc => (isPlain_showNat n c hc).2]
    exact strtoul_toDigits (hn.trans hulong)
  have hrange : ¬ ((x.errnoRange || false) = true ∨ 65535 < n) := by
    rw [herrno]
    simpa using hn
  simp only [setSim, if_neg hlen, hparsed, if_neg hrange, ne_eq, not_true_eq_false, if_false]
  exact ⟨rfl, by simp [Session.answer, herrno]⟩

/-- The words of the line with the three formats. -/
def formatWords (E : Env) (c : MpsConfig) : List Bytes :=
  ["T".toList, [E.mpsFormatToChar c.telnetFormat, ','], "F".toList,
    [E.mpsFormatToChar c.ftpUdpFormat, ','], "B".toList, [E.mpsFormatToChar c.binaryFormat]]

theorem ne_blank_of_allowedFormat {allowed : List Char} (h : allowed.all (· ∉ blanks) = true)
    {c : Char} {f : MpsDataFormat} (hc : allowedFormat E allowed c = some f) : c ∉ blanks :=
  of_decide_eq_true (List.all_eq_true.1 h c (Option.ite_none_right_eq_some.1 hc).1)

/-- Every format is a letter its own channel takes, with or without the comma behind it. -/
theorem assigns_format {c : MpsConfig} (hc : Restorable E c) :
    Assigns E (setLine "FORMAT" (formatWords E c)) fun c' =>
      { c' with
        telnetFormat := c.telnetFormat
        ftpUdpFormat := c.ftpUdpFormat
        binaryFormat := c.binaryFormat } := by
  have htelnet := ne_blank_of_allowedFormat (by decide) hc.telnetFormat
  have hftp := ne_blank_of_allowedFormat (by decide) hc.ftpUdpFormat
  have hbinary := ne_blank_of_allowedFormat (by decide) hc.binaryFormat
  have hline : IsLine (setLine "FORMAT" (formatWords E c)) := by
    have hword : ∀ {c : Char} {w : Bytes}, c ∉ blanks → IsBlankFree w → IsBlankFree (c :: w) :=
      fun hc hw => List.forall_mem_cons.2 ⟨hc, hw⟩
    have hcomma : IsBlankFree [','] := by decide
    exact isLine_setLine (by decide) (by decide)
      ⟨by decide, by decide, by simp, hword htelnet hcomma, by decide, by decide, by simp,
        hword hftp hcomma, by decide, by decide, hword hbinary (by decide)⟩
  refine ⟨hline, fun x d herrno => ?_⟩
  rw [parseCommands_setLine hline (by decide : settingOf "FORMAT".toList = some .format)]
  have hloop : setFormatLoop E d (formatWords E c) =
      ({ d with
        cfg := { d.cfg with
          telnetFormat := c.telnetFormat
          ftpUdpFormat := c.ftpUdpFormat
          binaryFormat := c.binaryFormat } }, none) := by
    simp [formatWords, setFormatLoop, setDataFormat, hc.telnetFormat, hc.ftpUdpFormat,
      hc.binaryFormat]
  have hdrop : (setLine "FORMAT" (formatWords E c)).drop 2 = formatWords E c := rfl
  simp only [setFormat, hdrop, hloop]
  exact ⟨rfl, herrno⟩

/-! ### Feeding a listing -/

/-- The device after the lines, each called on a thread that keeps its `errno` from one call to the
next.  The other things the calls find are given by their number. -/
def feedLines (E : Env) (xs : ℕ → Session) (d : Mps) (errnoRange : Bool) : List Bytes → Mps
  | [] => d
  | line :: lines =>
      let o := parseCommands E { xs 0 with errnoRange := errnoRange } d line
      feedLines E (fun i => xs (i + 1)) o.device o.errnoRange lines

/-- Lines that each assign, fed one after the other, assign one after the other. -/
theorem feedLines_cfg {lines : List (List Bytes)} {changes : List (MpsConfig → MpsConfig)}
    (h : List.Forall₂ (Assigns E) lines changes) (xs : ℕ → Session) (d : Mps) :
    (feedLines E xs d false (lines.map unwords)).cfg = changes.foldl (fun c f => f c) d.cfg := by
  induction h generalizing xs d with
  | nil => rfl
  | @cons ws change lines changes hline _ ih =>
      obtain ⟨hcfg, herrno⟩ := hline.effect { xs 0 with errnoRange := false } d rfl
      rw [List.map_cons, feedLines, herrno, ih, hcfg, List.foldl_cons]

theorem isLine_of_assigns {lines : List (List Bytes)} {changes : List (MpsConfig → MpsConfig)}
    (h : List.Forall₂ (Assigns E) lines changes) : ∀ ws ∈ lines, IsLine ws := by
  induction h with
  | nil => simp
  | cons hline _ ih => exact List.forall_mem_cons.2 ⟨hline.isLine, ih⟩

/-- The three commands that list the settings. -/
def listCommands : List Bytes := ["LIST S".toList, "LIST UDP".toList, "LIST M".toList]

/-- The lines of the three replies, without their prompts. -/
def listing (E : Env) (x : Session) (d : Mps) : List Bytes :=
  listCommands.flatMap fun cmd => (crlfLines (parseCommands E x d cmd).reply).dropLast

/-- The words of the lines of `LIST S`. -/
def listSLines (E : Env) (c : MpsConfig) : List (List Bytes) :=
  [setLine "RATE" [E.showFloat c.scanRateHz],
    setLine "FPS" [showNat c.framesPerScan],
    setLine "UNITS" [E.mpsUnitsToString c.units,
      E.showFloat (.fin (E.mpsUnitsConversionFactor c.units))],
    setLine "FORMAT" (formatWords E c),
    setLine "TRIG" ["0".toList, []],
    setLine "ENFTP" [showBool c.ftpEnabled, []]]

/-- The words of the lines of `LIST UDP`. -/
def listUdpLines (c : MpsConfig) : List (List Bytes) :=
  [setLine "ENUDP" [showBool c.udpEnabled],
    setLine "IPUDP" [c.udpTargetIp, showNat c.udpTargetPort]]

/-- The words of the lines of `LIST M`. -/
def listMLines (c : MpsConfig) : List (List Bytes) :=
  [setLine "SIM" [showNat c.sim],
    setLine "ECHO" ["1".toList],
    setLine "XITE" ["2".toList],
    setLine "ETOL" ["0".toList]]

/-- The words of the lines of the three replies. -/
def listLines (E : Env) (c : MpsConfig) : List (List Bytes) :=
  listSLines E c ++ listUdpLines c ++ listMLines c

theorem replyOf_cons (ws : List Bytes) (lines : List (List Bytes)) :
    replyOf (ws :: lines) = unwords ws ++ ("\r\n".toList ++ replyOf lines) := by
  rw [replyOf, List.flatMap_cons, List.append_assoc, List.append_assoc, replyOf]

/-- The reply to `LIST S` is made of its lines. -/
theorem listS_eq (E : Env) (d : Mps) : listS E d = replyOf (listSLines E d.cfg) := by
  have hrate : unwords (setLine "RATE" [E.showFloat d.cfg.scanRateHz]) =
      "SET RATE ".toList ++ E.showFloat d.cfg.scanRateHz := rfl
  have hfps : unwords (setLine "FPS" [showNat d.cfg.framesPerScan]) =
      "SET FPS ".toList ++ showNat d.cfg.framesPerScan := rfl
  have hunits : unwords (setLine "UNITS" [E.mpsUnitsToString d.cfg.units,
      E.showFloat (.fin (E.mpsUnitsConversionFactor d.cfg.units))]) = unitsLine E d := by
    have hfirst : ∀ s : Bytes, unwords (setLine "UNITS" [E.mpsUnitsToString d.cfg.units, s]) =
        "SET UNITS ".toList ++ (E.mpsUnitsToString d.cfg.units ++ (" ".toList ++ s)) := fun s => rfl
    rw [hfirst]
    unfold unitsLine
    generalize "SET UNITS ".toList = a, " ".toList = b
    simp only [List.append_assoc]
  have hformat : unwords (setLine "FORMAT" (formatWords E d.cfg)) =
      "SET FORMAT".toList ++ buildDataFormatResponse E d := rfl
  have htrig : ∀ s : Bytes, unwords (setLine "TRIG" ["0".toList, []]) ++ ("\r\n".toList ++ s) =
      "SET TRIG 0 \r\n".toList ++ s := fun s => rfl
  have henftp : ∀ s : Bytes, unwords (setLine "ENFTP" [showBool d.cfg.ftpEnabled, []]) ++
      ("\r\n".toList ++ s) =
        "SET ENFTP ".toList ++ (showBool d.cfg.ftpEnabled ++ (" \r\n".toList ++ s)) := by
    intro s
    cases d.cfg.ftpEnabled <;> rfl
  have hprompt : replyOf [] = ">".toList := rfl
  rw [listSLines, replyOf_cons, replyOf_cons, replyOf_cons, replyOf_cons, replyOf_cons,
    replyOf_cons, hrate, hfps, hunits, hformat, htrig, henftp, hprompt]
  unfold listS
  generalize "SET RATE ".toList = a, "SET FPS ".toList = b, "\r\n".toList = c,
    "SET FORMAT".toList = e, "SET TRIG 0 \r\n".toList = f, "SET ENFTP ".toList = g,
    " \r\n".toList = h, ">".toList = i
  simp only [List.append_assoc]

/-- The reply to `LIST UDP` is made of its lines. -/
theorem listUdp_eq (d : Mps) : listUdp d = replyOf (listUdpLines d.cfg) := by
  have hen : unwords (setLine "ENUDP" [showBool d.cfg.udpEnabled]) =
      "SET ENUDP ".toList ++ showBool d.cfg.udpEnabled := rfl
  have hip : unwords (setLine "IPUDP" [d.cfg.udpTargetIp, showNat d.cfg.udpTargetPort]) =
      "SET IPUDP ".toList ++
        (d.cfg.udpTargetIp ++ (" ".toList ++ showNat d.cfg.udpTargetPort)) := rfl
  have hprompt : replyOf [] = ">".toList := rfl
  rw [listUdpLines, replyOf_cons, replyOf_cons, hen, hip, hprompt]
  unfold listUdp
  generalize "SET ENUDP ".toList = a, "SET IPUDP ".toList = b, " ".toList = c, "\r\n".toList = e,
    ">".toList = f
  simp only [List.append_assoc]

/-- The reply to `LIST M` is made of its lines. -/
theorem listM_eq (d : Mps) : listM d = replyOf (listMLines d.cfg) := by
  have hsim : unwords (setLine "SIM" [showNat d.cfg.sim]) =
      "SET SIM ".toList ++ showNat d.cfg.sim := rfl
  have hrest : replyOf [setLine "ECHO" ["1".toList], setLine "XITE" ["2".toList],
      setLine "ETOL" ["0".toList]] =
        "SET ECHO 1\r\nSET XITE 2\r\nSET ETOL 0\r\n>".toList := by decide
  rw [listMLines, replyOf_cons, hsim, hrest]
  unfold listM
  generalize "SET SIM ".toList = a, "\r\n".toList = b,
    "SET ECHO 1\r\nSET XITE 2\r\nSET ETOL 0\r\n>".toList = c
  simp only [List.append_assoc]

/-- The three commands are answered with the three replies. -/
theorem parseCommands_list (E : Env) (x : Session) (d : Mps) :
    listCommands.map (fun cmd => (parseCommands E x d cmd).reply) =
      [replyOf (listSLines E d.cfg), replyOf (listUdpLines d.cfg), replyOf (listMLines d.cfg)] := by
  have hs : (parseCommands E x d "LIST S".toList).reply = listS E d := rfl
  have hudp : (parseCommands E x d "LIST UDP".toList).reply = listUdp d := rfl
  have hm : (parseCommands E x d "LIST M".toList).reply = listM d := rfl
  rw [← listS_eq, ← listUdp_eq, ← listM_eq, ← hs, ← hudp, ← hm]
  rfl

/-- The settings that are listed and can be set. -/
structure SameSettings (c c' : MpsConfig) : Prop where
  telnetFormat : c'.telnetFormat = c.telnetFormat
  ftpUdpFormat : c'.ftpUdpFormat = c.ftpUdpFormat
  binaryFormat : c'.binaryFormat = c.binaryFormat
  framesPerScan : c'.framesPerScan = c.framesPerScan
  units : c'.units = c.units
  udpEnabled : c'.udpEnabled = c.udpEnabled
  udpTargetIp : c'.udpTargetIp = c.udpTargetIp
  udpTargetPort : c'.udpTargetPort = c.udpTargetPort
  ftpEnabled : c'.ftpEnabled = c.ftpEnabled
  sim : c'.sim = c.sim

theorem isBlankFree_showFloat (hshow : ShowsSixDigits E render) (q : ℚ) :
    IsBlankFree (E.showFloat (.fin q)) := by
  obtain ⟨g, hg, hshown⟩ := hshow.nearest q
  rw [hshown]
  exact isBlankFree_of_isPlain (isPlain_of_wholeFloat (hshow.numeral hg.1))

/-- What is printed for a rate is read as a rate that is printed the same. -/
theorem rateAfter_showFloat (hshow : ShowsSixDigits E render) (hread : ReadsNearest E) {q : ℚ}
    (hq : IsFloat q) :
    ∃ r, (∀ c, rateAfter E c (E.showFloat (.fin q)) = .fin r) ∧
      E.showFloat (.fin r) = E.showFloat (.fin q) := by
  obtain ⟨g, hg, hshown⟩ := hshow.nearest q
  obtain ⟨r, hr, hnear⟩ := hread.nearest (hg.abs_le_maxFloat hq)
  have hnumeral := hshow.numeral hg.1
  refine ⟨r, fun c => ?_, ?_⟩
  · rw [hshown, rateAfter, cStr_eq_self fun ch hch => (isPlain_of_wholeFloat hnumeral ch hch).2,
      sscanfFloat_of_wholeFloat _ hnumeral, Option.getD_some, hr]
  · rcases print_read_print hq hg hnear with rfl | hsame
    · rfl
    · obtain ⟨g', hg', hshown'⟩ := hshow.nearest r
      rw [hshown, hshown', hsame g' hg']

/-- The listing is made of the lines of the three replies. -/
theorem listing_eq (x : Session) (h : ∀ ws ∈ listLines E d.cfg, IsLine ws) :
    listing E x d = (listLines E d.cfg).map unwords := by
  simp only [listLines, List.forall_mem_append] at h
  have hreplies : listing E x d =
      (listCommands.map fun cmd => (parseCommands E x d cmd).reply).flatMap
        fun reply => (crlfLines reply).dropLast := by
    rw [List.flatMap_map, listing]
  rw [hreplies, parseCommands_list]
  simp only [List.flatMap_cons, List.flatMap_nil, crlfLines_reply h.1.1, crlfLines_reply h.1.2,
    crlfLines_reply h.2, List.dropLast_concat, List.append_nil, listLines, List.map_append,
    List.append_assoc]

/-- A configuration for the device of another one, with a rate of its own. -/
def MpsConfig.restored (c c' : MpsConfig) (rate : CFloat) : MpsConfig :=
  { c with deviceId := c'.deviceId, serialNumber := c'.serialNumber, scanRateHz := rate }

/-- What the lines of a listing assign, one after the other. -/
theorem listLines_assign (hulong : 65535 ≤ E.ulongMax) {c : MpsConfig} (hc : Restorable E c)
    (hshow : ShowsSixDigits E render) {q : ℚ} (hq : c.scanRateHz = .fin q) {rate : CFloat}
    (hrate : ∀ c', rateAfter E c' (E.showFloat (.fin q)) = rate) :
    ∃ changes, List.Forall₂ (Assigns E) (listLines E c) changes ∧
      ∀ c', changes.foldl (fun c f => f c) c' = c.restored c' rate := by
  have htext := isBlankFree_showFloat hshow q
  have hfactor := isBlankFree_showFloat hshow (E.mpsUnitsConversionFactor c.units)
  have hunknown : ∀ (k : String) (args : List Bytes), k.toList ≠ [] → IsBlankFree k.toList →
      IsLine args → settingOf k.toList = none → Assigns E (setLine k args) id :=
    fun k args hne hfree hargs hk => assigns_unknown (isLine_setLine hne hfree hargs) hk
  rw [listLines, listSLines, listUdpLines, listMLines, hq]
  refine ⟨_, .cons (assigns_rate htext hrate) <| .cons (assigns_fps hc.fps) <|
    .cons (assigns_units hc.units hfactor) <| .cons (assigns_format hc) <|
    .cons (hunknown "TRIG" _ (by decide) (by decide) ?_ (by decide)) <|
    .cons (assigns_enftp c.ftpEnabled) <| .cons (assigns_enudp c.udpEnabled) <|
    .cons (assigns_ipudp hc.ip hc.port) <| .cons (assigns_sim hulong hc.sim) <|
    .cons (hunknown "ECHO" _ (by decide) (by decide) ?_ (by decide)) <|
    .cons (hunknown "XITE" _ (by decide) (by decide) ?_ (by decide)) <|
    .cons (hunknown "ETOL" _ (by decide) (by decide) ?_ (by decide)) .nil, fun c' => rfl⟩
  · exact ⟨by decide, by decide, (by decide : IsBlankFree [])⟩
  · exact (by decide : IsBlankFree "1".toList)
  · exact (by decide : IsBlankFree "2".toList)
  · exact (by decide : IsBlankFree "0".toList)

/-- **`LIST` restores the settings.**  Whatever device the lines of the listing are fed to, it gets
the settings of the device that printed them, and lists them with the same text. -/
theorem list_restores (hformat : FormatLetters E) (hunits : UnitNames E)
    (hshow : ShowsSixDigits E render) (hread : ReadsNearest E) (hulong : 2 ^ 32 - 1 ≤ E.ulongMax)
    {deviceId : MpsDeviceID} {serialNumber : ℕ} {d : Mps}
    (hd : ReachableCfg E deviceId serialNumber d.cfg) {q : ℚ} (hq : d.cfg.scanRateHz = .fin q)
    (x : Session) (xs : ℕ → Session) (d' : Mps) :
    SameSettings d.cfg (feedLines E xs d' false (listing E x d)).cfg ∧
      ∀ y y', listCommands.map (fun cmd =>
          (parseCommands E y (feedLines E xs d' false (listing E x d)) cmd).reply) =
        listCommands.map fun cmd => (parseCommands E y' d cmd).reply := by
  have hc := restorable_of_reachable hformat hunits hread hd
  obtain ⟨r, hr, htext⟩ := rateAfter_showFloat hshow hread (hc.rate q hq)
  obtain ⟨changes, hchanges, hrestored⟩ := listLines_assign (by omega) hc hshow hq hr
  have hcfg : (feedLines E xs d' false (listing E x d)).cfg = d.cfg.restored d'.cfg (.fin r) := by
    rw [listing_eq x (isLine_of_assigns hchanges), feedLines_cfg hchanges, hrestored]
  refine ⟨?_, fun y y' => ?_⟩
  · rw [hcfg]
    exact ⟨rfl, rfl, rfl, rfl, rfl, rfl, rfl, rfl, rfl, rfl⟩
  · have hsame : listSLines E (d.cfg.restored d'.cfg (.fin r)) = listSLines E d.cfg := by
      rw [listSLines, listSLines, hq, ← htext]
      rfl
    rw [parseCommands_list, parseCommands_list, hcfg, hsame]
    rfl

/-! ### A package and a platform with these properties -/

/-- The reference environment, with `float`s that are rounded and printed. -/
def printingEnv : Env :=
  { referenceEnv with
    roundToFloat := fun g => if |g| ≤ maxFloat then .fin (roundFloat g) else .inf (g < 0)
    showFloat := fun rate =>
      match rate with
      | .fin q => showSix (roundDigits 10 6 q)
      | .inf negative => if negative then "-inf".toList else "inf".toList
      | .nan => "nan".toList }

theorem formatLetters_printingEnv : FormatLetters printingEnv where
  fromChar_toChar f := by cases f <;> rfl
  toChar_of_fromChar {c f} h := by
    have hletter : referenceFormat c = some f := h
    rw [referenceFormat] at hletter
    split at hletter <;> rename_i hc <;> cases hletter <;> exact hc.symm
  toChar_ascii := rfl
  toChar_binary := rfl

theorem unitNames_printingEnv : UnitNames printingEnv := by
  have hplain : ∀ w : Bytes, w.all (fun c => decide (IsPlain c)) = true → ∀ c ∈ w, IsPlain c :=
    fun w hw c hc => of_decide_eq_true (List.all_eq_true.1 hw c hc)
  have hpa : IsNamed printingEnv .pa := ⟨by decide, hplain "PA".toList (by decide), by decide⟩
  have hraw : IsNamed printingEnv .raw := ⟨by decide, hplain "RAW".toList (by decide), by decide⟩
  refine ⟨hpa, fun {t u} h => ?_⟩
  have hname : (if t = "PA".toList then some MpsUnits.pa
      else if t = "RAW".toList then some .raw else none) = some u := h
  split at hname
  · exact Option.some_inj.1 hname ▸ hpa
  · obtain ⟨-, hname⟩ := Option.ite_none_right_eq_some.1 hname
    exact Option.some_inj.1 hname ▸ hraw

theorem showsSixDigits_printingEnv : ShowsSixDigits printingEnv showSix where
  nearest q := ⟨_, nearest_roundDigits (by norm_num) (by norm_num) q, rfl⟩
  numeral h := wholeFloat_showSix h

theorem readsNearest_printingEnv : ReadsNearest printingEnv where
  isFloat {g r} h := by
    have hround : (if |g| ≤ maxFloat then CFloat.fin (roundFloat g) else .inf (g < 0)) = .fin r := h
    split at hround
    · next hg => exact CFloat.fin.inj hround ▸ (nearest_roundFloat hg).1
    · cases hround
  nearest {g} h := ⟨roundFloat g, if_pos h, nearest_roundFloat h⟩

/-- A device that is configured by a few commands. -/
def configured : Mps :=
  runCommands printingEnv (attachedDevice mps4264 1)
    [(.quiet, "SET UNITS RAW".toList), (.quiet, "SET FORMAT T F B L".toList),
      (.quiet, "SET IPUDP 10.0.0.7 50000".toList), (.quiet, "SET FPS 4294967295".toList),
      (.quiet, "SET SIM 3".toList)]

theorem list_restores_configured :
    (configured.cfg.units = .raw ∧ configured.cfg.telnetFormat = .vt100 ∧
        configured.cfg.framesPerScan = 4294967295 ∧ configured.cfg.sim = 3) ∧
      SameSettings configured.cfg
        (feedLines printingEnv (fun _ => .quiet) (attachedDevice mps4264 1) false
          (listing printingEnv .quiet configured)).cfg ∧
      ∀ y y', listCommands.map (fun cmd => (parseCommands printingEnv y
          (feedLines printingEnv (fun _ => .quiet) (attachedDevice mps4264 1) false
            (listing printingEnv .quiet configured)) cmd).reply) =
        listCommands.map fun cmd => (parseCommands printingEnv y' configured cmd).reply :=
  ⟨by decide +kernel, list_restores formatLetters_printingEnv unitNames_printingEnv
    showsSixDigits_printingEnv readsNearest_printingEnv (by decide) ⟨_, rfl⟩
    (by decide +kernel : configured.cfg.scanRateHz = .fin 10) .quiet (fun _ => .quiet)
    (attachedDevice mps4264 1)⟩

end MpsEmulator
