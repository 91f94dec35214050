/-
**The settings do not interfere.**

The eight settings of `SET` are fields of one configuration, which every command is parsed over
again for, while scans start and stop and the scan thread reads it.  Whatever else goes on, each of
them has the value that its own commands have given it.  A command may also read `errno` and locals
that nobody has set; both are part of the command here, so that what other commands leave behind in
them comes with it.

* `Setting.Same` — two configurations agree in a setting;
* `setting` — the setting that a command is about;
* `parseCommands_same_of_ne` — a command for another setting leaves it as it is;
* `parseCommands_same` — a command does the same to it whatever the rest of the device is;
* `settings_independent` — **in every run of the emulator, a setting is what it is after the
  commands for it alone**.
-/

import MpsEmulator.Configuration
import MpsEmulator.WholeEmulator

set_option relaxedAutoImplicit false
set_option autoImplicit false

namespace MpsEmulator

/-! ### Configurations that agree in a setting -/

/-- The two configurations agree in the fields of the setting. -/
def Setting.Same (c c' : MpsConfig) : Setting → Prop
  | .rate => c.scanRateHz = c'.scanRateHz
  | .fps => c.framesPerScan = c'.framesPerScan
  | .enudp => c.udpEnabled = c'.udpEnabled
  | .enftp => c.ftpEnabled = c'.ftpEnabled
  | .ipudp => c.udpTargetIp = c'.udpTargetIp ∧ c.udpTargetPort = c'.udpTargetPort
  | .format => c.telnetFormat = c'.telnetFormat ∧ c.ftpUdpFormat = c'.ftpUdpFormat ∧
      c.binaryFormat = c'.binaryFormat
  | .units => c.units = c'.units
  | .sim => c.sim = c'.sim

/-- The setting that a command is about. -/
def setting (cmd : Bytes) : Option Setting :=
  if verb cmd = some .set then settingOf (tok (splitString cmd blanks) 1) else none

variable {c c' c'' : MpsConfig} {S : Setting}

theorem Setting.Same.refl (c : MpsConfig) (S : Setting) : S.Same c c := by
  cases S <;> simp [Setting.Same]

theorem Setting.Same.trans (h : S.Same c c') (h' : S.Same c' c'') : S.Same c c'' := by
  cases S <;> simp_all [Setting.Same]

/-- The two configurations agree in all settings but one. -/
def Setting.Only (S' : Setting) (c c' : MpsConfig) : Prop := ∀ S : Setting, S ≠ S' → S.Same c' c

theorem Setting.Only.refl (S' : Setting) (c : MpsConfig) : S'.Only c c :=
  fun S _ => Setting.Same.refl c S

/-! ### What `SET` does to the settings -/

variable {E : Env} {x : Session} {d d' : Mps} {cmd : Bytes} {tokens : List Bytes}

/-- An accepted pair of `SET FORMAT` changes the formats only. -/
theorem setDataFormat_only {type fmt : Char} (h : setDataFormat E d type fmt = some d') :
    Setting.format.Only d.cfg d'.cfg := by
  intro S hne
  obtain ⟨f, ⟨-, rfl⟩ | ⟨-, rfl⟩ | ⟨-, rfl⟩⟩ := setDataFormat_cases h
  all_goals cases S <;> simp_all [Setting.Same]

theorem setFormatLoop_only (E : Env) (d : Mps) (tokens : List Bytes) :
    Setting.format.Only d.cfg (setFormatLoop E d tokens).1.cfg :=
  setFormatLoop_rule (R := fun d d' => Setting.format.Only d.cfg d'.cfg)
    (fun _ => Setting.Only.refl _ _) (fun h h' S hne => (h' S hne).trans (h S hne))
    setDataFormat_only d tokens

theorem setFormat_device (E : Env) (x : Session) (d : Mps) (tokens : List Bytes) :
    (setFormat E x d tokens).device = (setFormatLoop E d (tokens.drop 2)).1 := by
  rw [setFormat]
  split
  · next d' hloop => rw [hloop]; rfl
  · next d' error hloop => rw [hloop]; rfl

/-- A `SET` changes its own setting only. -/
theorem parseSet_only {o : Outcome} {S' : Setting} (ho : parseSet E x d cmd tokens = some o)
    (hS' : settingOf (tok tokens 1) = some S') : S'.Only d.cfg o.device.cfg := by
  rw [parseSet, if_neg (by have := two_le_of_settingOf hS'; omega), hS'] at ho
  intro S hne
  cases S' <;> rw [← Option.some_inj.1 ho]
  case rate =>
    rw [setRate]
    split
    · exact Setting.Same.refl _ S
    · cases S <;>
        first
        | exact absurd rfl hne
        | simp [Setting.Same, Session.answer, updateScanAverages]
  case fps =>
    rw [setFps]
    split
    · exact Setting.Same.refl _ S
    · cases S <;> first | exact absurd rfl hne | simp [Setting.Same, Session.answer]
  case enudp =>
    rw [setEnudp]
    split
    · exact Setting.Same.refl _ S
    · cases S <;> first | exact absurd rfl hne | simp [Setting.Same, Session.answer]
  case enftp =>
    rw [setEnftp]
    split
    · exact Setting.Same.refl _ S
    · cases S <;> first | exact absurd rfl hne | simp [Setting.Same, Session.answer]
  case ipudp =>
    rw [setIpudp]
    split
    · exact Setting.Same.refl _ S
    · cases S <;> first | exact absurd rfl hne | simp [Setting.Same, Session.answer]
  case format =>
    rw [setFormat_device]
    exact setFormatLoop_only E d (tokens.drop 2) S hne
  case units =>
    rw [setUnits]
    split
    · exact Setting.Same.refl _ S
    · split
      · exact Setting.Same.refl _ S
      · cases S <;> first | exact absurd rfl hne | simp [Setting.Same, Session.answer]
  case sim =>
    rw [setSim]
    split
    · exact Setting.Same.refl _ S
    · dsimp only
      split
      · exact Setting.Same.refl _ S
      · split
        · exact Setting.Same.refl _ S
        · split
          · exact Setting.Same.refl _ S
          · cases S <;> first | exact absurd rfl hne | simp [Setting.Same, Session.answer]

/-- A pair of `SET FORMAT` does the same to the formats of any device. -/
theorem setDataFormat_same {d d' : Mps} (h : Setting.format.Same d.cfg d'.cfg) (type fmt : Char) :
    (setDataFormat E d type fmt = none ∧ setDataFormat E d' type fmt = none) ∨
      ∃ e e', setDataFormat E d type fmt = some e ∧ setDataFormat E d' type fmt = some e' ∧
        Setting.format.Same e.cfg e'.cfg := by
  obtain ⟨htelnet, hftp, hbinary⟩ := h
  rw [setDataFormat, setDataFormat]
  split
  · cases allowedFormat E ['A', 'a', 'F', 'f', 'C', 'c'] fmt with
    | none => exact Or.inl ⟨rfl, rfl⟩
    | some f => exact Or.inr ⟨_, _, rfl, rfl, rfl, hftp, hbinary⟩
  · split
    · cases allowedFormat E ['A', 'a', 'B', 'b', 'C', 'c'] fmt with
      | none => exact Or.inl ⟨rfl, rfl⟩
      | some f => exact Or.inr ⟨_, _, rfl, rfl, htelnet, rfl, hbinary⟩
    · split
      · cases allowedFormat E ['B', 'b', 'L', 'l'] fmt with
        | none => exact Or.inl ⟨rfl, rfl⟩
        | some f => exact Or.inr ⟨_, _, rfl, rfl, htelnet, hftp, rfl⟩
      · exact Or.inl ⟨rfl, rfl⟩

/-- So does the loop over the pairs. -/
theorem setFormatLoop_same {d d' : Mps} (h : Setting.format.Same d.cfg d'.cfg)
    (tokens : List Bytes) :
    Setting.format.Same (setFormatLoop E d tokens).1.cfg (setFormatLoop E d' tokens).1.cfg := by
  induction d, tokens using setFormatLoop.induct E generalizing d' with
  | case1 d => exact h
  | case2 d t => exact h
  | case3 d type fmt rest e hset ih =>
      rcases setDataFormat_same (E := E) h (type.headD '\x00') (fmt.headD '\x00') with
        ⟨hnone, -⟩ | ⟨e₁, e', hset₁, hset', hsame⟩
      · rw [hset] at hnone
        cases hnone
      · obtain rfl : e = e₁ := Option.some_inj.1 (hset.symm.trans hset₁)
        rw [setFormatLoop, setFormatLoop, hset, hset']
        exact ih hsame
  | case4 d type fmt rest hset =>
      rcases setDataFormat_same (E := E) h (type.headD '\x00') (fmt.headD '\x00') with
        ⟨-, hnone⟩ | ⟨e₁, e', hset₁, -, -⟩
      · rw [setFormatLoop, setFormatLoop, hset, hnone]
        exact h
      · rw [hset] at hset₁
        cases hset₁

/-- A `SET` does the same to its setting in any device. -/
theorem parseSet_same (E : Env) (x : Session) (cmd : Bytes) {d d' : Mps} {S : Setting}
    (hS : settingOf (tok tokens 1) = some S) (h : S.Same d.cfg d'.cfg) :
    ∃ o o', parseSet E x d cmd tokens = some o ∧ parseSet E x d' cmd tokens = some o' ∧
      S.Same o.device.cfg o'.device.cfg := by
  have hlen : ¬ tokens.length < 2 := by
    have := two_le_of_settingOf hS
    omega
  rw [parseSet, parseSet, if_neg hlen, if_neg hlen, hS]
  cases S
  case rate =>
    refine ⟨_, _, rfl, rfl, ?_⟩
    rw [setRate, setRate]
    split
    · exact h
    · have hrate : d.cfg.scanRateHz = d'.cfg.scanRateHz := h
      simp [Setting.Same, Session.answer, updateScanAverages, rateAfter, hrate]
  case fps =>
    refine ⟨_, _, rfl, rfl, ?_⟩
    rw [setFps, setFps]
    split
    · exact h
    · have hfps : d.cfg.framesPerScan = d'.cfg.framesPerScan := h
      simp [Setting.Same, Session.answer, hfps]
  case enudp =>
    refine ⟨_, _, rfl, rfl, ?_⟩
    rw [setEnudp, setEnudp]
    split
    · exact h
    · simp [Setting.Same, Session.answer]
  case enftp =>
    refine ⟨_, _, rfl, rfl, ?_⟩
    rw [setEnftp, setEnftp]
    split
    · exact h
    · simp [Setting.Same, Session.answer]
  case ipudp =>
    refine ⟨_, _, rfl, rfl, ?_⟩
    rw [setIpudp, setIpudp]
    split
    · exact h
    · have hport : d.cfg.udpTargetPort = d'.cfg.udpTargetPort := h.2
      simp [Setting.Same, Session.answer, hport]
  case format =>
    refine ⟨_, _, rfl, rfl, ?_⟩
    rw [setFormat_device, setFormat_device]
    exact setFormatLoop_same h (tokens.drop 2)
  case units =>
    refine ⟨_, _, rfl, rfl, ?_⟩
    rw [setUnits, setUnits]
    split
    · exact h
    · split
      · exact h
      · simp [Setting.Same, Session.answer]
  case sim =>
    refine ⟨_, _, rfl, rfl, ?_⟩
    rw [setSim, setSim]
    split
    · exact h
    · dsimp only
      split
      · exact h
      · split
        · exact h
        · split
          · exact h
          · simp [Setting.Same, Session.answer]

/-! ### What a command does to the settings -/

/-- Only a `SET` that names a setting changes the configuration. -/
theorem parseCommands_cfg_of_setting (h : setting cmd = none) :
    (parseCommands E x d cmd).device.cfg = d.cfg := by
  rw [setting, verb] at h
  rw [parseCommands]
  cases hverb : verbOf (tok (splitString cmd blanks) 0) with
  | none => rfl
  | some v =>
      cases v
      case ver | status | calz => rfl
      case scan => exact startScan_cfg
      case stop => exact stopScan_cfg
      case set =>
        rw [hverb, if_pos rfl] at h
        dsimp only
        rw [parseSet, h]
        split <;> rfl
      case get => cases parseGet E d (splitString cmd blanks) <;> rfl
      case list => cases parseList E d (splitString cmd blanks) <;> rfl

/-- A command that names a setting is handed to its part of `SET`. -/
theorem parseCommands_of_setting {o : Outcome} (hS : setting cmd = some S)
    (ho : parseSet E x d cmd (splitString cmd blanks) = some o) :
    parseCommands E x d cmd = o := by
  rw [setting, verb] at hS
  obtain ⟨hverb, -⟩ := Option.ite_none_right_eq_some.1 hS
  rw [parseCommands]
  simp only [hverb, ho, Option.getD_some]

/-- **A command for another setting leaves this one as it is.** -/
theorem parseCommands_same_of_ne (h : setting cmd ≠ some S) :
    S.Same (parseCommands E x d cmd).device.cfg d.cfg := by
  cases hS' : setting cmd with
  | none =>
      rw [parseCommands_cfg_of_setting hS']
      exact Setting.Same.refl _ S
  | some S' =>
      have htoken : settingOf (tok (splitString cmd blanks) 1) = some S' := by
        rw [setting] at hS'
        exact (Option.ite_none_right_eq_some.1 hS').2
      obtain ⟨o, -, ho, -, -⟩ :=
        parseSet_same E x cmd htoken (Setting.Same.refl d.cfg S')
      rw [parseCommands_of_setting hS' ho]
      exact parseSet_only ho htoken S fun heq => h (hS'.trans (congrArg some heq.symm))

/-- **A command does the same to its setting, whatever the rest of the device is.** -/
theorem parseCommands_same {d d' : Mps} (hS : setting cmd = some S) (h : S.Same d.cfg d'.cfg) :
    S.Same (parseCommands E x d cmd).device.cfg (parseCommands E x d' cmd).device.cfg := by
  have htoken : settingOf (tok (splitString cmd blanks) 1) = some S := by
    rw [setting] at hS
    exact (Option.ite_none_right_eq_some.1 hS).2
  obtain ⟨o, o', ho, ho', hsame⟩ := parseSet_same E x cmd htoken h
  rwa [parseCommands_of_setting hS ho, parseCommands_of_setting hS ho']

/-! ### Runs -/

/-- The call is a command for the setting. -/
def ScanAction.isFor (S : Setting) : ScanAction → Bool
  | .command _ cmd => setting cmd = some S
  | _ => false

variable {s s' t : Scanner} {a : ScanAction}

/-- All other steps leave the setting as it is. -/
theorem step_same_of_not_isFor (ha : a.isFor S = false) (h : step E s a = some s') :
    S.Same s'.device.cfg s.device.cfg := by
  have hsame : s'.device.cfg = s.device.cfg → S.Same s'.device.cfg s.device.cfg := by
    intro hcfg
    rw [hcfg]
    exact Setting.Same.refl _ S
  cases a with
  | startScan now => rw [← Option.some_inj.1 h] at hsame ⊢; exact hsame startScan_cfg
  | stopScan => rw [← Option.some_inj.1 h] at hsame ⊢; exact hsame stopScan_cfg
  | calZ => rw [← Option.some_inj.1 h] at hsame ⊢; exact hsame rfl
  | command x cmd =>
      rw [← Option.some_inj.1 h]
      exact parseCommands_same_of_ne (by simpa [ScanAction.isFor] using ha)
  | thread => exact hsame (threadStep_settings h).1

/-- A command for the setting can always be given, and does the same to it everywhere. -/
theorem step_same_of_isFor (ha : a.isFor S = true) (hst : S.Same s.device.cfg t.device.cfg)
    (h : step E s a = some s') :
    ∃ t', step E t a = some t' ∧ S.Same s'.device.cfg t'.device.cfg := by
  cases a with
  | command x cmd =>
      rw [← Option.some_inj.1 h]
      exact ⟨_, rfl, parseCommands_same (by simpa [ScanAction.isFor] using ha) hst⟩
  | _ => cases ha

/-- **A setting is what the commands for it alone make of it**: in every run of the emulator, with
any clients, any lines from the console and the scan thread in between, each setting ends as it does
when a device of its own is given only the commands for this setting.  Each of these commands finds
the same `errno` and the same uninitialised locals in both runs. -/
theorem settings_independent (E : Env) (deviceId : MpsDeviceID) (serialNumber : ℕ)
    (enableConsole : Bool) (bs : List MachineAction) (S : Setting) {m : Machine}
    (hrun : Runs.exec (Machine.step E) (.start deviceId serialNumber enableConsole) bs = some m) :
    ∃ d s, m.emulator.layer.device = some d ∧
      Runs.exec (step E) (.start (attachConfig deviceId serialNumber))
        ((Machine.trace E (.start deviceId serialNumber enableConsole) bs).filter
          (ScanAction.isFor S)) = some s ∧
      S.Same d.cfg s.device.cfg := by
  obtain ⟨sc, hexec, hsc⟩ := Machine.exec_scanner (Machine.scanner_start _ _ _) hrun
  obtain ⟨d, hd, rfl⟩ := Option.map_eq_some_iff.1 hsc
  obtain ⟨s, hs, hsame⟩ := Runs.exec_filter
    (R := fun s t : Scanner => S.Same s.device.cfg t.device.cfg)
    (fun _ _ _ _ ha hst h => (step_same_of_not_isFor ha h).trans hst)
    (fun _ _ _ _ ha hst h => step_same_of_isFor ha hst h) (Setting.Same.refl _ S) hexec
  exact ⟨d, s, hd, hs, hsame⟩

/-- The limit that a client sets, whatever the console does to the rate. -/
theorem settings_independent_fps :
    ∃ m d s, Runs.exec (Machine.step referenceEnv) (.start mps4216 1 true) clientAndConsole =
        some m ∧ m.emulator.layer.device = some d ∧
      Runs.exec (step referenceEnv) (.start (attachConfig mps4216 1))
        ((Machine.trace referenceEnv (.start mps4216 1 true) clientAndConsole).filter
          (ScanAction.isFor .fps)) = some s ∧
      Setting.fps.Same d.cfg s.device.cfg := by
  have hsome : (Runs.exec (Machine.step referenceEnv) (.start mps4216 1 true)
      clientAndConsole).isSome = true := by
    decide +kernel
  obtain ⟨m, hm⟩ := Option.isSome_iff_exists.1 hsome
  obtain ⟨d, s, hd, hs, hsame⟩ := settings_independent referenceEnv _ _ _ _ .fps hm
  exact ⟨m, d, s, hm, hd, hs, hsame⟩

end MpsEmulator
