/-
**Rejected commands, and what they have changed already.**

A reply that begins with `Invalid Command` says that the command was not carried out.  For one
command it says too much: `SET FORMAT` applies its pairs one after the other and gives up at the
first bad one, with the pairs before it already in force.  `SET UNITS` and `SET SIM` look at their
argument first and write afterwards.

* `acceptedPair`, `acceptedPairs` — the pairs `SET FORMAT` applies before it gives up;
* `setFormatLoop_eq` — the loop applies exactly these, and gives up exactly if tokens are left;
* `lastFormat` — the format they leave on a channel;
* `LeavesFormat` — the command is a `SET FORMAT` that gives up after it has changed a format;
* `rejected_unchanged_iff` — **a rejected command leaves the device as it was exactly if it is not
  such a `SET FORMAT`**;
* `rejected_after_change` — one that is.
-/

import MpsEmulator.ParseCommands

set_option relaxedAutoImplicit false
set_option autoImplicit false

namespace MpsEmulator

/-! ### Formats by channel -/

/-- The channels that have a data format. -/
inductive FormatChannel
  | telnet
  | ftpUdp
  | binary
  deriving DecidableEq

/-- The format of a channel. -/
def MpsConfig.format (cfg : MpsConfig) : FormatChannel → MpsDataFormat
  | .telnet => cfg.telnetFormat
  | .ftpUdp => cfg.ftpUdpFormat
  | .binary => cfg.binaryFormat

/-- The configuration with another format on one channel. -/
def MpsConfig.withFormat (cfg : MpsConfig) (p : FormatChannel × MpsDataFormat) : MpsConfig :=
  match p.1 with
  | .telnet => { cfg with telnetFormat := p.2 }
  | .ftpUdp => { cfg with ftpUdpFormat := p.2 }
  | .binary => { cfg with binaryFormat := p.2 }

theorem MpsConfig.format_withFormat (cfg : MpsConfig) (p : FormatChannel × MpsDataFormat)
    (ch : FormatChannel) :
    (cfg.withFormat p).format ch = if p.1 = ch then p.2 else cfg.format ch := by
  obtain ⟨ch', f⟩ := p
  cases ch' <;> cases ch <;> rfl

/-- Two configurations that differ in formats at most are the same if the formats are. -/
theorem MpsConfig.eq_of_format {cfg cfg' : MpsConfig}
    (h : cfg' = { cfg with
      telnetFormat := cfg'.telnetFormat
      ftpUdpFormat := cfg'.ftpUdpFormat
      binaryFormat := cfg'.binaryFormat })
    (hformat : ∀ ch, cfg'.format ch = cfg.format ch) : cfg' = cfg := by
  have ht : cfg'.telnetFormat = cfg.telnetFormat := hformat .telnet
  have hf : cfg'.ftpUdpFormat = cfg.ftpUdpFormat := hformat .ftpUdp
  have hb : cfg'.binaryFormat = cfg.binaryFormat := hformat .binary
  rw [h, ht, hf, hb]

/-- The configuration after some pairs, applied one after the other. -/
def MpsConfig.withFormats (cfg : MpsConfig) (pairs : List (FormatChannel × MpsDataFormat)) :
    MpsConfig := pairs.foldl MpsConfig.withFormat cfg

theorem MpsConfig.withFormats_eq (cfg : MpsConfig)
    (pairs : List (FormatChannel × MpsDataFormat)) :
    cfg.withFormats pairs = { cfg with
      telnetFormat := (cfg.withFormats pairs).telnetFormat
      ftpUdpFormat := (cfg.withFormats pairs).ftpUdpFormat
      binaryFormat := (cfg.withFormats pairs).binaryFormat } := by
  induction pairs generalizing cfg with
  | nil => rfl
  | cons p pairs ih =>
      have hstep := ih (cfg.withFormat p)
      rw [withFormats, List.foldl_cons]
      rw [withFormats] at hstep
      rw [hstep]
      obtain ⟨ch, f⟩ := p
      cases ch <;> rfl

/-- The format that the last pair for a channel names. -/
def lastFormat (pairs : List (FormatChannel × MpsDataFormat)) (ch : FormatChannel) :
    Option MpsDataFormat :=
  (pairs.reverse.find? fun p => p.1 = ch).map Prod.snd

/-- The last pair for a channel decides its format. -/
theorem MpsConfig.format_withFormats (cfg : MpsConfig)
    (pairs : List (FormatChannel × MpsDataFormat)) (ch : FormatChannel) :
    (cfg.withFormats pairs).format ch = (lastFormat pairs ch).getD (cfg.format ch) := by
  induction pairs generalizing cfg with
  | nil => rfl
  | cons p pairs ih =>
      rw [withFormats, List.foldl_cons, ← withFormats, ih, format_withFormat, lastFormat,
        lastFormat, List.reverse_cons, List.find?_append]
      cases hfind : pairs.reverse.find? fun p => p.1 = ch with
      | some q => rfl
      | none => by_cases hp : p.1 = ch <;> simp [hp]

/-- Pairs change nothing exactly if on every channel the last one names the format it has. -/
theorem MpsConfig.withFormats_eq_self_iff (cfg : MpsConfig)
    (pairs : List (FormatChannel × MpsDataFormat)) :
    cfg.withFormats pairs = cfg ↔ ∀ ch, ∀ f ∈ lastFormat pairs ch, f = cfg.format ch := by
  constructor
  · intro h ch f hf
    have hch := cfg.format_withFormats pairs ch
    rw [h, hf, Option.getD_some] at hch
    exact hch.symm
  · intro h
    refine MpsConfig.eq_of_format (cfg.withFormats_eq pairs) fun ch => ?_
    rw [cfg.format_withFormats]
    cases hlast : lastFormat pairs ch with
    | none => rfl
    | some f => exact h ch f hlast

/-! ### The pairs of SET FORMAT -/

/-- The channel and the format of a pair that `SetDataFormat` accepts. -/
def acceptedPair (E : Env) (type fmt : Char) : Option (FormatChannel × MpsDataFormat) :=
  if type = 'T' ∨ type = 't' then
    (allowedFormat E ['A', 'a', 'F', 'f', 'C', 'c'] fmt).map (Prod.mk .telnet)
  else if type = 'F' ∨ type = 'f' then
    (allowedFormat E ['A', 'a', 'B', 'b', 'C', 'c'] fmt).map (Prod.mk .ftpUdp)
  else if type = 'B' ∨ type = 'b' then
    (allowedFormat E ['B', 'b', 'L', 'l'] fmt).map (Prod.mk .binary)
  else none

theorem setDataFormat_eq (E : Env) (d : Mps) (type fmt : Char) :
    setDataFormat E d type fmt =
      (acceptedPair E type fmt).map fun p => { d with cfg := d.cfg.withFormat p } := by
  rw [setDataFormat, acceptedPair]
  split
  · rw [Option.map_map]; rfl
  · split
    · rw [Option.map_map]; rfl
    · split
      · rw [Option.map_map]; rfl
      · rfl

/-- The pairs before the first one that is rejected or incomplete. -/
def acceptedPairs (E : Env) : List Bytes → List (FormatChannel × MpsDataFormat)
  | type :: fmt :: rest =>
      match acceptedPair E (type.headD '\x00') (fmt.headD '\x00') with
      | some p => p :: acceptedPairs E rest
      | none => []
  | _ => []

/-- The text that begins the reply to a rejected command. -/
def invalidCommand : Bytes := "Invalid Command".toList

/-- A literal that begins with this text: `rfl` sees so on its characters. -/
theorem invalidCommand_text {text : List Char}
    (h : text.take 15 =
      ['I', 'n', 'v', 'a', 'l', 'i', 'd', ' ', 'C', 'o', 'm', 'm', 'a', 'n', 'd']) :
    invalidCommand <+: (String.ofList text).toList := by
  have hchars : invalidCommand =
      ['I', 'n', 'v', 'a', 'l', 'i', 'd', ' ', 'C', 'o', 'm', 'm', 'a', 'n', 'd'] :=
    String.toList_ofList
  rw [hchars, ← h, String.toList_ofList]
  exact List.take_prefix 15 text

/-- What begins with it, and goes on. -/
theorem invalidCommand_append {text : Bytes} (h : invalidCommand <+: text) (s : Bytes) :
    invalidCommand <+: text ++ s := h.trans (List.prefix_append text s)

/-- The loop of `SET FORMAT` **applies the accepted pairs**, and gives up exactly if they are not
all its tokens. -/
theorem setFormatLoop_eq (E : Env) (d : Mps) (tokens : List Bytes) :
    (setFormatLoop E d tokens).1 = { d with cfg := d.cfg.withFormats (acceptedPairs E tokens) } ∧
      ((setFormatLoop E d tokens).2 = none ↔
        tokens.length = 2 * (acceptedPairs E tokens).length) := by
  induction d, tokens using setFormatLoop.induct E with
  | case1 d => exact ⟨rfl, by simp [setFormatLoop, acceptedPairs]⟩
  | case2 d t => exact ⟨rfl, by simp [setFormatLoop, acceptedPairs]⟩
  | case3 d type fmt rest d' hset ih =>
      rw [setFormatLoop, hset, acceptedPairs]
      rw [setDataFormat_eq] at hset
      obtain ⟨p, hp, rfl⟩ := Option.map_eq_some_iff.1 hset
      simp only [hp]
      refine ⟨ih.1, ih.2.trans ?_⟩
      simp only [List.length_cons]
      omega
  | case4 d type fmt rest hset =>
      rw [setFormatLoop, hset, acceptedPairs]
      rw [setDataFormat_eq] at hset
      simp only [Option.map_eq_none_iff.1 hset]
      exact ⟨rfl, by simp⟩

/-- When the loop gives up, it says so. -/
theorem setFormatLoop_error {E : Env} {d : Mps} {tokens : List Bytes} {error : Bytes}
    (h : (setFormatLoop E d tokens).2 = some error) : invalidCommand <+: error := by
  rcases setFormatLoop_error_cases h with rfl | ⟨type, fmt, rfl⟩
  · decide
  · rw [List.append_assoc, List.append_assoc, List.append_assoc]
    exact invalidCommand_append (invalidCommand_text rfl) _

/-! ### Replies -/

variable {E : Env} {x : Session} {d : Mps} {cmd : Bytes}

theorem eq_set_of_verbOf {t : Bytes} (h : verbOf t = some .set) :
    t = "SET".toList ∨ t = "set".toList := by
  simp only [verbOf] at h
  split_ifs at h with h₁ h₂ h₃ h₄ h₅ h₆
  on_goal 6 =>
    simp only [isOneOf, List.any_cons, List.any_nil, Bool.or_false, Bool.or_eq_true,
      decide_eq_true_eq] at h₆
    exact h₆.imp Eq.symm Eq.symm
  all_goals exact absurd h (by decide)

/-- A call that leaves the device as it was, or does not call the command invalid. -/
def KeepsIfRejected (d : Mps) (o : Outcome) : Prop := invalidCommand <+: o.reply → o.device = d

theorem keepsIfRejected_same (reply : Bytes) : KeepsIfRejected d (x.answer d reply) := fun _ => rfl

/-- The echo of a `SET` command does not begin like a rejection. -/
theorem not_invalidCommand_echo (hverb : verb cmd = some .set) (rest : Bytes) :
    ¬ invalidCommand <+: cmd ++ rest := by
  have htoken : firstToken blanks cmd = "SET".toList ∨ firstToken blanks cmd = "set".toList := by
    rw [← headD_splitString, ← tok_zero]
    exact eq_set_of_verbOf hverb
  rintro hpre
  cases cmd with
  | nil => rcases htoken with h | h <;> exact absurd h (by decide)
  | cons c cmd =>
      obtain ⟨tail, htail⟩ := hpre
      have hc : 'I' = c := (List.cons_eq_cons.1 htail).1
      rw [← hc, firstToken_cons_of_not_mem (by decide)] at htoken
      rcases htoken with h | h <;> exact absurd (List.cons_eq_cons.1 h).1 (by decide)

/-- A setting other than the formats is changed only by a command that is not rejected. -/
theorem parseSet_keepsIfRejected {tokens : List Bytes} {o : Outcome} (hverb : verb cmd = some .set)
    (hset : settingOf (tok tokens 1) ≠ some .format) (ho : parseSet E x d cmd tokens = some o) :
    KeepsIfRejected d o := by
  intro hinvalid
  cases parseSet_effect ho hset with
  | rejected hdevice => exact hdevice
  | stored hreply =>
      rw [hreply] at hinvalid
      exact absurd hinvalid (not_invalidCommand_echo hverb prompt)

/-- Every command but `SET FORMAT` leaves the device as it was if it is rejected. -/
theorem parseCommands_keepsIfRejected
    (hformat : verb cmd = some .set → settingOf (tok (splitString cmd blanks) 1) ≠ some .format) :
    KeepsIfRejected d (parseCommands E x d cmd) := by
  rw [parseCommands]
  cases hverb : verbOf (tok (splitString cmd blanks) 0) with
  | none => exact keepsIfRejected_same _
  | some v =>
      cases v
      case ver => exact keepsIfRejected_same _
      case status => exact keepsIfRejected_same _
      case calz => exact fun h => absurd h (show ¬ invalidCommand <+: ([] : Bytes) by decide)
      case scan =>
        exact fun h => absurd h (show ¬ invalidCommand <+: "Scan started ..".toList by decide)
      case stop => exact fun h => absurd h (show ¬ invalidCommand <+: ([] : Bytes) by decide)
      case set =>
        dsimp only
        cases ho : parseSet E x d cmd (splitString cmd blanks) with
        | none => exact keepsIfRejected_same _
        | some o => exact parseSet_keepsIfRejected hverb (hformat hverb) ho
      case get => cases parseGet E d (splitString cmd blanks) <;> exact keepsIfRejected_same _
      case list => cases parseList E d (splitString cmd blanks) <;> exact keepsIfRejected_same _

/-! ### Exactly which commands -/

/-- The command is a `SET FORMAT` whose pairs, up to the first rejected or incomplete one, change a
format, and that has tokens left behind them. -/
structure LeavesFormat (E : Env) (d : Mps) (cmd : Bytes) : Prop where
  isSet : verb cmd = some .set
  isFormat : settingOf (tok (splitString cmd blanks) 1) = some .format
  leftOver : ((splitString cmd blanks).drop 2).length ≠
    2 * (acceptedPairs E ((splitString cmd blanks).drop 2)).length
  changes : ∃ ch, ∃ f ∈ lastFormat (acceptedPairs E ((splitString cmd blanks).drop 2)) ch,
    f ≠ d.cfg.format ch

/-- The call for `SET FORMAT`. -/
theorem parseCommands_setFormat (hverb : verb cmd = some .set)
    (hset : settingOf (tok (splitString cmd blanks) 1) = some .format) :
    parseCommands E x d cmd = setFormat E x d (splitString cmd blanks) := by
  have hlen : ¬ (splitString cmd blanks).length < 2 := Nat.not_lt.2 (two_le_of_settingOf hset)
  rw [verb] at hverb
  rw [parseCommands, hverb]
  simp only [parseSet, if_neg hlen, hset, Option.getD_some]

/-- A command that is rejected **leaves the device as it was exactly if** it is not a `SET FORMAT`
that gives up after it has changed a format. -/
theorem rejected_unchanged_iff (E : Env) (x : Session) (d : Mps) (cmd : Bytes) :
    (invalidCommand <+: (parseCommands E x d cmd).reply → (parseCommands E x d cmd).device = d) ↔
      ¬ LeavesFormat E d cmd := by
  by_cases hformat : verb cmd = some .set ∧
      settingOf (tok (splitString cmd blanks) 1) = some .format
  · obtain ⟨hverb, hset⟩ := hformat
    obtain ⟨hdevice, hleft⟩ := setFormatLoop_eq E d ((splitString cmd blanks).drop 2)
    have hsaid := @setFormatLoop_error E d ((splitString cmd blanks).drop 2)
    rw [parseCommands_setFormat hverb hset, setFormat]
    cases hloop : setFormatLoop E d ((splitString cmd blanks).drop 2) with
    | mk d' error =>
        rw [hloop] at hdevice hleft hsaid
        dsimp only at hdevice
        cases error with
        | none =>
            refine iff_of_true ?_ fun h => h.leftOver (hleft.1 rfl)
            rintro ⟨tail, htail⟩
            exact absurd (List.cons_eq_cons.1 htail).1 (by decide)
        | some error =>
            have hcfg : d' = d ↔
                d.cfg.withFormats (acceptedPairs E ((splitString cmd blanks).drop 2)) = d.cfg := by
              rw [hdevice]
              exact ⟨fun h => congrArg Mps.cfg h, fun h => by rw [h]⟩
            have hleft' := mt hleft.2 (by simp)
            calc (invalidCommand <+: error → d' = d) ↔ d' = d :=
                  ⟨fun h => h (hsaid rfl), fun h _ => h⟩
              _ ↔ ∀ ch, ∀ f ∈ lastFormat (acceptedPairs E ((splitString cmd blanks).drop 2)) ch,
                    f = d.cfg.format ch := hcfg.trans (MpsConfig.withFormats_eq_self_iff _ _)
              _ ↔ ¬ LeavesFormat E d cmd := by
                  constructor
                  · rintro h ⟨-, -, -, ch, f, hf, hne⟩
                    exact hne (h ch f hf)
                  · intro h ch f hf
                    by_contra hne
                    exact h ⟨hverb, hset, hleft', ch, f, hf, hne⟩
  · refine iff_of_true (parseCommands_keepsIfRejected fun hverb hset => hformat ⟨hverb, hset⟩) ?_
    exact fun h => hformat ⟨h.isSet, h.isFormat⟩

/-- The second pair is rejected, and the first one is in force. -/
theorem rejected_after_change :
    invalidCommand <+: (parseCommands referenceEnv .quiet (attachedDevice mps4264 1)
        "SET FORMAT T F X Y".toList).reply ∧
      (attachedDevice mps4264 1).cfg.telnetFormat = .ascii ∧
      (parseCommands referenceEnv .quiet (attachedDevice mps4264 1)
        "SET FORMAT T F X Y".toList).device.cfg.telnetFormat = .vt100 := by
  decide +kernel

end MpsEmulator
