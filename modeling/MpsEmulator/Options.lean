/-
**The command line of the emulator.**

`ParseAguments` looks each option up by name wherever it stands, and takes the argument behind it.
Numbers are read with `std::from_chars` and kept only if the whole argument is one; the device type
is not compared with the three that exist, and the address is taken over unread, with nothing in its
place where the argument is missing.

* `Options`, `hasOptionFlag`, `getOptionValue`, `argToNum`, `parseAguments` — the code;
* `argumentAfter`, `digitsUpTo` — the argument behind the first occurrence of a name, and the
  numbers that fit;
* `getOptionValue_eq`, `argToNum_eq` — what the code does with them;
* `Usable` — the options are those that the help text describes, and whatever happens to the device
  that is made with them, a scan with binary packets has a packet type;
* `GivesDevice`, `GivesAddress` — the type on the command line is one of the three, and the address
  is not missing;
* `usable_iff` — **the options are usable exactly if** both hold;
* `unusable_options` — two command lines that are accepted.
-/

import MpsEmulator.FrameSinks

set_option relaxedAutoImplicit false
set_option autoImplicit false

namespace MpsEmulator

open CNumeral Relation

/-! ### The code -/

/-- `args::Options`. -/
structure Options where
  deviceType : ℕ := 4264
  port : ℕ := 23
  bindIp : Bytes := "127.0.0.1".toList
  shouldClose : Bool := false
  enableConsole : Bool := true
  deriving DecidableEq

/-- `has_option_flag`. -/
def hasOptionFlag (args : List Bytes) (name : String) : Bool := args.any (· = name.toList)

/-- `get_option_value`: the loop goes on behind a match that is the last argument. -/
def getOptionValue : List Bytes → String → Bytes
  | [], _ => []
  | [_], _ => []
  | arg :: value :: args, name =>
      if arg = name.toList then value else getOptionValue (value :: args) name

/-- `std::from_chars` for an unsigned type with the largest value `max`: the value and what is left,
`none` for both of its errors. -/
def fromChars (max : ℕ) (opt : Bytes) : Option (ℕ × Bytes) :=
  match opt.takeWhile (isDigit 10) with
  | [] => none
  | ds =>
      if max < ofDigits 10 ds then none
      else some (ofDigits 10 ds, opt.dropWhile (isDigit 10))

/-- `arg_to_num`. -/
def argToNum (max : ℕ) (opt : Bytes) : Option ℕ :=
  if opt = [] then none
  else
    match fromChars max opt with
    | some (value, []) => some value
    | _ => none

/-- The part of `ParseAguments` for an option with a number: it keeps the old value, and logs an
error, where the argument is no number. -/
def numberOption (args : List Bytes) (max : ℕ) (name : String) (value : ℕ) : ℕ :=
  if hasOptionFlag args name then (argToNum max (getOptionValue args name)).getD value else value

/-- The largest values of `uint32_t` and `uint16_t`. -/
def uint32Max : ℕ := 2 ^ 32 - 1
def uint16Max : ℕ := 2 ^ 16 - 1

/-- `args::ParseAguments`, without the texts it prints. -/
def parseAguments (args : List Bytes) : Options :=
  let opts : Options := {}
  if hasOptionFlag args "-v" ∨ hasOptionFlag args "--version" then { opts with shouldClose := true }
  else if hasOptionFlag args "-h" ∨ hasOptionFlag args "--help" then
    { opts with shouldClose := true }
  else
    { opts with
      deviceType :=
        numberOption args uint32Max "--type" (numberOption args uint32Max "-t" opts.deviceType)
      port := numberOption args uint16Max "--port" (numberOption args uint16Max "-p" opts.port)
      bindIp :=
        if hasOptionFlag args "--bind-ip" then getOptionValue args "--bind-ip" else opts.bindIp
      enableConsole := hasOptionFlag args "--enable-console" }

/-! ### Arguments and numerals -/

/-- The argument behind the first occurrence of a name. -/
def argumentAfter (args : List Bytes) (name : String) : Option Bytes :=
  args[args.idxOf name.toList + 1]?

/-- The value of a text that is in full a decimal numeral at most `max`. -/
def digitsUpTo (max : ℕ) (arg : Bytes) : Option ℕ :=
  (wholeDigits 10 arg).bind fun value => if value ≤ max then some value else none

/-- The number behind an option. -/
def numberAfter (max : ℕ) (args : List Bytes) (name : String) : Option ℕ :=
  (argumentAfter args name).bind (digitsUpTo max)

variable {args : List Bytes} {name : String} {max : ℕ}

theorem hasOptionFlag_iff : hasOptionFlag args name ↔ name.toList ∈ args := by
  simp [hasOptionFlag]

/-- Without its name an option has no argument. -/
theorem argumentAfter_of_not_mem (h : ¬ hasOptionFlag args name) :
    argumentAfter args name = none := by
  rw [hasOptionFlag_iff] at h
  rw [argumentAfter, List.idxOf_eq_length h]
  exact List.getElem?_eq_none (by omega)

/-- The loop finds the argument behind the first occurrence, or nothing. -/
theorem getOptionValue_eq (args : List Bytes) (name : String) :
    getOptionValue args name = (argumentAfter args name).getD [] := by
  induction args with
  | nil => rfl
  | cons arg args ih =>
      cases args with
      | nil => simp [getOptionValue, argumentAfter]
      | cons value args =>
          rw [getOptionValue, argumentAfter]
          by_cases harg : arg = name.toList
          · rw [if_pos harg, harg, List.idxOf_cons_self]
            rfl
          · rw [if_neg harg, List.idxOf_cons_ne _ harg, ih, argumentAfter]
            rfl

/-- `arg_to_num` reads the decimal numerals that fit. -/
theorem argToNum_eq (max : ℕ) (opt : Bytes) : argToNum max opt = digitsUpTo max opt := by
  rw [argToNum, digitsUpTo, fromChars]
  cases hwhole : wholeDigits 10 opt with
  | some value =>
      obtain ⟨⟨hne, hall⟩, hvalue⟩ := wholeDigits_eq_some.1 hwhole
      have htake : opt.takeWhile (isDigit 10) = opt := List.takeWhile_eq_self_iff.2 hall
      have hdrop : opt.dropWhile (isDigit 10) = [] := List.dropWhile_eq_nil_iff.2 hall
      rw [if_neg hne, htake, hdrop]
      cases opt with
      | nil => exact absurd rfl hne
      | cons c opt =>
          dsimp only
          rw [hvalue]
          by_cases hle : value ≤ max
          · rw [if_neg (Nat.not_lt.2 hle), Option.bind_some, if_pos hle]
          · rw [if_pos (Nat.lt_of_not_le hle), Option.bind_some, if_neg hle]
  | none =>
      by_cases hne : opt = []
      · rw [if_pos hne]
        rfl
      · -- a character that is no digit is left over
        have hrest : opt.dropWhile (isDigit 10) ≠ [] := by
          intro hnil
          rw [wholeDigits_eq_some.2 ⟨⟨hne, List.dropWhile_eq_nil_iff.1 hnil⟩, rfl⟩] at hwhole
          cases hwhole
        rw [if_neg hne]
        obtain ⟨c, rest, hcons⟩ := List.exists_cons_of_ne_nil hrest
        rw [hcons]
        cases opt.takeWhile (isDigit 10) with
        | nil => rfl
        | cons d ds =>
            dsimp only
            by_cases hlt : max < ofDigits 10 (d :: ds)
            · rw [if_pos hlt]
              rfl
            · rw [if_neg hlt]
              rfl

theorem numberOption_eq (args : List Bytes) (max : ℕ) (name : String) (value : ℕ) :
    numberOption args max name value = (numberAfter max args name).getD value := by
  rw [numberOption, numberAfter]
  by_cases hflag : hasOptionFlag args name
  · rw [if_pos hflag, argToNum_eq, getOptionValue_eq]
    cases argumentAfter args name with
    | none => rfl
    | some arg => rfl
  · rw [if_neg hflag, argumentAfter_of_not_mem hflag]
    rfl

/-! ### Usable options -/

/-- The options without a flag for help or the version. -/
def AsksNothing (args : List Bytes) : Prop :=
  ∀ name ∈ ["-v", "--version", "-h", "--help"], ¬ hasOptionFlag args name

instance (args : List Bytes) : Decidable (AsksNothing args) :=
  inferInstanceAs (Decidable (∀ name ∈ ["-v", "--version", "-h", "--help"],
    ¬ hasOptionFlag args name))

/-- The device that the options configure has a packet type whenever it has binary packets: in every
state that commands, calls and the scan thread lead to, and when a scan is started there. -/
def HasPackets (E : Env) (opts : Options) : Prop :=
  ∀ (serialNumber : ℕ) (as : List ScanAction) (s : Scanner) (now : Clock),
    Runs.exec (step E) (Scanner.start (attachConfig opts.deviceType serialNumber)) as = some s →
      (startScan E now s.device).device.useBinary = true →
        (startScan E now s.device).device.packetType ≠ .undefined

/-- The argument behind `--bind-ip`, unless it is empty. -/
def addressGiven (args : List Bytes) : Option Bytes :=
  (argumentAfter args "--bind-ip").bind fun ip => if ip ≠ [] then some ip else none

/-- The options are those of the help text. -/
structure Usable (E : Env) (args : List Bytes) (opts : Options) : Prop where
  deviceType : opts.deviceType ∈ scanners
  port : opts.port =
    (numberAfter uint16Max args "--port").getD ((numberAfter uint16Max args "-p").getD 23)
  bindIp : opts.bindIp = (addressGiven args).getD "127.0.0.1".toList
  packets : HasPackets E opts

/-- The type on the command line, behind `--type` or else behind `-t`. -/
def typeGiven (args : List Bytes) : Option ℕ :=
  (numberAfter uint32Max args "--type").or (numberAfter uint32Max args "-t")

/-- The command line gives no type, or one of the three. -/
def GivesDevice (args : List Bytes) : Prop := ∀ type ∈ typeGiven args, type ∈ scanners

instance (args : List Bytes) : Decidable (GivesDevice args) :=
  inferInstanceAs (Decidable (∀ type ∈ typeGiven args, type ∈ scanners))

/-- The command line does not name the address, or gives one behind the name. -/
def GivesAddress (args : List Bytes) : Prop :=
  hasOptionFlag args "--bind-ip" → addressGiven args ≠ none

instance (args : List Bytes) : Decidable (GivesAddress args) :=
  inferInstanceAs (Decidable (hasOptionFlag args "--bind-ip" → addressGiven args ≠ none))

/-- Without the flags, each option is what is behind its names. -/
theorem parseAguments_eq (hasks : AsksNothing args) :
    parseAguments args =
      { deviceType := (typeGiven args).getD 4264
        port := (numberAfter uint16Max args "--port").getD
          ((numberAfter uint16Max args "-p").getD 23)
        bindIp := if hasOptionFlag args "--bind-ip" then
          (argumentAfter args "--bind-ip").getD [] else "127.0.0.1".toList
        shouldClose := false
        enableConsole := hasOptionFlag args "--enable-console" } := by
  have hversion : ¬ (hasOptionFlag args "-v" ∨ hasOptionFlag args "--version") := by
    rintro (h | h)
    · exact hasks "-v" (by simp) h
    · exact hasks "--version" (by simp) h
  have hhelp : ¬ (hasOptionFlag args "-h" ∨ hasOptionFlag args "--help") := by
    rintro (h | h)
    · exact hasks "-h" (by simp) h
    · exact hasks "--help" (by simp) h
  rw [parseAguments, if_neg hversion, if_neg hhelp, numberOption_eq, numberOption_eq,
    numberOption_eq, numberOption_eq, getOptionValue_eq, typeGiven, Option.getD_or]

/-- The address is the one given, or the default, exactly if it is not missing. -/
theorem bindIp_iff (args : List Bytes) :
    ((if hasOptionFlag args "--bind-ip" then (argumentAfter args "--bind-ip").getD []
      else "127.0.0.1".toList) = (addressGiven args).getD "127.0.0.1".toList) ↔
      GivesAddress args := by
  have hdefault : "127.0.0.1".toList ≠ [] := by decide
  rw [GivesAddress, addressGiven]
  by_cases hflag : hasOptionFlag args "--bind-ip"
  · rw [if_pos hflag]
    cases argumentAfter args "--bind-ip" with
    | none => exact iff_of_false hdefault.symm fun h => h hflag rfl
    | some ip =>
        rw [Option.bind_some, Option.getD_some]
        by_cases hip : ip = []
        · rw [if_neg (not_not.2 hip), hip]
          exact iff_of_false hdefault.symm fun h => h hflag rfl
        · rw [if_pos hip]
          exact iff_of_true rfl fun _ => by simp
  · rw [if_neg hflag, argumentAfter_of_not_mem hflag]
    exact iff_of_true rfl fun h => absurd h hflag

/-- A device of one of the three types has a packet type with its binary packets, after any run. -/
theorem hasPackets_of_mem {E : Env} {opts : Options} (hdevice : opts.deviceType ∈ scanners) :
    HasPackets E opts := by
  intro serialNumber as s now hrun
  have hinv : s.device.cfg.deviceId ∈ scanners ∧
      (s.device.layout.useBinary = true → s.device.layout.packetType ≠ .undefined) := by
    refine Runs.invariant (P := fun s : Scanner => s.device.cfg.deviceId ∈ scanners ∧
      (s.device.layout.useBinary = true → s.device.layout.packetType ≠ .undefined))
      (fun s a s' hs hstep => ?_) ⟨hdevice, fun h => Bool.noConfusion h⟩ hrun
    refine ⟨?_, ?_⟩
    · exact CfgStep.preserved (P := fun c => c.deviceId ∈ scanners)
        (fun c c' hc h => h.identity.1 ▸ hc) hs.1 (step_cfg hstep)
    · rw [step_layout hstep]
      split
      · exact (latchedFrom_configureScanLayout hs.1).packetType
      · exact hs.2
  rcases layoutStep_startScan (E := E) now s.device with ⟨hlayout, -⟩ | ⟨-, -, -, hlayout⟩
  · have hlatched := hinv.2
    rw [← hlayout] at hlatched
    exact hlatched
  · have hlatched := (latchedFrom_configureScanLayout (E := E) hinv.1).packetType
    rw [← hlayout] at hlatched
    exact hlatched

/-- Without a flag for help or the version, the options are usable, **and the device they configure
always has a packet type, exactly if** the command line gives none but the three types, and no
`--bind-ip` without an address. -/
theorem usable_iff (E : Env) (args : List Bytes) (hasks : AsksNothing args) :
    Usable E args (parseAguments args) ↔ GivesDevice args ∧ GivesAddress args := by
  rw [parseAguments_eq hasks]
  constructor
  · intro h
    refine ⟨fun type htype => ?_, (bindIp_iff args).1 h.bindIp⟩
    have hdevice := h.deviceType
    dsimp only at hdevice
    rwa [Option.mem_def.1 htype] at hdevice
  · rintro ⟨hdevice, haddress⟩
    have htype : (typeGiven args).getD 4264 ∈ scanners := by
      cases hgiven : typeGiven args with
      | none => decide
      | some type => exact hdevice type hgiven
    exact ⟨htype, rfl, (bindIp_iff args).2 haddress, hasPackets_of_mem htype⟩

/-- A command line as it is typed. -/
def commandLine (args : List String) : List Bytes := args.map String.toList

/-- Options in both spellings, of which the first one is no number. -/
theorem usable_iff_typed :
    Usable referenceEnv
      (commandLine ["mps-server", "-t", "4216", "--type", "42x", "--bind-ip", "10.0.0.7"])
      (parseAguments
        (commandLine ["mps-server", "-t", "4216", "--type", "42x", "--bind-ip", "10.0.0.7"])) :=
  (usable_iff referenceEnv _ (by decide)).2 ⟨by decide, by decide⟩

/-- A device of a type that does not exist is made, and with `SET SIM 0` its scans have binary
packets of no type; an address that is missing is taken to be empty. -/
theorem unusable_options :
    ((parseAguments (commandLine ["mps-server", "--type", "9999"])).deviceType = 9999 ∧
      ((Runs.exec (step referenceEnv) (Scanner.start (attachConfig 9999 1))
          [.command .quiet "SET SIM 0".toList]).map fun s =>
        ((startScan referenceEnv { steady := 0, system := 0 } s.device).device.useBinary,
          (startScan referenceEnv { steady := 0, system := 0 } s.device).device.packetType)) =
        some (true, .undefined)) ∧
      (parseAguments (commandLine ["mps-server", "--bind-ip"])).bindIp = [] ∧
      ∀ args ∈ [["mps-server", "--type", "9999"], ["mps-server", "--bind-ip"]],
        ¬ Usable referenceEnv (commandLine args) (parseAguments (commandLine args)) := by
  refine ⟨⟨by decide +kernel, by decide +kernel⟩, by decide +kernel, fun args hargs h => ?_⟩
  simp only [List.mem_cons, List.not_mem_nil, or_false] at hargs
  rcases hargs with rfl | rfl
  · have hunknown : (parseAguments (commandLine ["mps-server", "--type", "9999"])).deviceType ∉
        scanners := by decide +kernel
    exact hunknown h.deviceType
  · have hmissing : (parseAguments (commandLine ["mps-server", "--bind-ip"])).bindIp ≠
        (addressGiven (commandLine ["mps-server", "--bind-ip"])).getD "127.0.0.1".toList := by
      decide +kernel
    exact hmissing h.bindIp

end MpsEmulator
