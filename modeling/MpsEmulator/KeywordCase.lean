/-
**Upper case and lower case.**

Every keyword is compared with two spellings, by hand.  A line whose keywords are in upper case is
here cut at them, and its respelling has the same keywords in lower case and the same arguments.
The two lines have the same number of tokens and the same tokens behind the keywords, so they can
differ only in which keyword is recognised and in the echo of the line.

One setting is compared with its upper-case spelling twice: `SET ENFTP` has no lower case.

* `commandWords`, `settingWords` — the keywords in upper case;
* `Respelled` — a line, and the same line with its keywords in lower case;
* `SameDispatch` — the same device, the same request and the same verdict;
* `requestOf_respelled` — the commands to the application;
* `SameWords`, `parseCommands_sameWords` — what the device does with the same arguments;
* `respelled_iff` — **the two lines are dispatched the same exactly if they are not a `SET ENFTP`
  with an argument**;
* `lower_enftp` — one that is.
-/

import MpsEmulator.ServerLayer
import MpsEmulator.TrailingBlanks
import MpsEmulator.ListOutput

set_option relaxedAutoImplicit false
set_option autoImplicit false

namespace MpsEmulator

open CNumeral

/-! ### Lines and their respellings -/

/-- The command words that stand alone. -/
def commandWords : List String :=
  ["SHUTDOWN", "RESTART", "REBOOT", "VER", "VERSION", "STATUS", "CALZ", "SCAN", "STOP"]

/-- The command words with a setting, and the words of their settings. -/
def settingWords : List (String × String) :=
  [("SET", "RATE"), ("SET", "FPS"), ("SET", "ENUDP"), ("SET", "ENFTP"), ("SET", "IPUDP"),
    ("SET", "FORMAT"), ("SET", "UNITS"), ("SET", "SIM"), ("GET", "SN"), ("GET", "RATE"),
    ("GET", "UNITS"), ("GET", "FPS"), ("LIST", "S"), ("LIST", "UDP"), ("LIST", "M")]

/-- The lower-case spelling of a word. -/
def lowerCase (word : Bytes) : Bytes := word.map Char.toLower

/-- A run of blanks. -/
def spaces (n : ℕ) : Bytes := List.replicate n ' '

/-- A text that ends the keyword before it: there is none, or it begins with a blank. -/
def EndsWord (rest : Bytes) : Prop := ∀ c ∈ rest.head?, c = ' '

/-- A line whose keywords are in upper case, and the line with these keywords in lower case.  A
command word that needs a setting may also stand alone. -/
inductive Respelled : Bytes → Bytes → Prop
  | command (n : ℕ) {word : String} (hword : word ∈ commandWords) {rest : Bytes}
      (hrest : EndsWord rest) :
      Respelled (spaces n ++ (word.toList ++ rest)) (spaces n ++ (lowerCase word.toList ++ rest))
  | bare (n m : ℕ) {word : String} (hword : word ∈ settingWords.map Prod.fst) :
      Respelled (spaces n ++ (word.toList ++ spaces m))
        (spaces n ++ (lowerCase word.toList ++ spaces m))
  | setting (n m : ℕ) {word setting : String} (hword : (word, setting) ∈ settingWords)
      {rest : Bytes} (hrest : EndsWord rest) :
      Respelled (spaces n ++ (word.toList ++ (spaces (m + 1) ++ (setting.toList ++ rest))))
        (spaces n ++ (lowerCase word.toList ++ (spaces (m + 1) ++
          (lowerCase setting.toList ++ rest))))

/-- Two texts that both begin with `Invalid Command`, or neither. -/
def SameInvalid (text text' : Bytes) : Prop :=
  invalidCommand <+: text ↔ invalidCommand <+: text'

/-- The same layer, with its device, the same requests, and replies to the same clients with the
same verdicts. -/
structure SameDispatch (o o' : LayerOutcome) : Prop where
  layer : o.layer = o'.layer
  requests : o.requests = o'.requests
  sent : List.Forall₂ (fun m m' => m.1 = m'.1 ∧ SameInvalid m.2 m'.2) o.sent o'.sent
  printed : List.Forall₂ SameInvalid o.printed o'.printed
  errnoRange : o.errnoRange = o'.errnoRange

/-- The line is a `SET ENFTP` with a third token. -/
def SetsFtp (line : Bytes) : Prop :=
  tok (splitString line blanks) 0 = "SET".toList ∧
    tok (splitString line blanks) 1 = "ENFTP".toList ∧ 3 ≤ (splitString line blanks).length

/-! ### Tokens -/

/-- The tokens behind a keyword. -/
def argTokens : Bytes → List Bytes
  | [] => []
  | _ :: args => splitString args blanks

/-- A word that can be a token. -/
def IsWord (w : Bytes) : Prop := w ≠ [] ∧ IsBlankFree w

instance (w : Bytes) : Decidable (IsWord w) := inferInstanceAs (Decidable (_ ∧ _))

variable {E : Env} {x : Session} {d : Mps} {l : ServerLayer} {id : ℕ} {cmd cmd' : Bytes}

theorem splitString_spaces (n : ℕ) (s : Bytes) :
    splitString (spaces n ++ s) blanks = splitString s blanks := by
  rw [splitString_eq_scan, splitString_eq_scan]
  induction n with
  | zero => rfl
  | succ n ih =>
      rw [spaces, List.replicate_succ, List.cons_append, splitScan, if_pos (by decide), if_pos rfl,
        List.nil_append]
      exact ih

/-- **The tokens of a line** are its first word and those behind it. -/
theorem splitString_word {w rest : Bytes} (hw : IsWord w) (hrest : EndsWord rest) (n : ℕ) :
    splitString (spaces n ++ (w ++ rest)) blanks = w :: argTokens rest := by
  rw [splitString_spaces, splitString_eq_scan, splitScan_append hw.2, List.nil_append]
  cases rest with
  | nil => rfl
  | cons c args =>
      obtain rfl := hrest c rfl
      rw [splitScan, if_pos (by decide), if_neg hw.1, argTokens, splitString_eq_scan]
      rfl

theorem endsWord_spaces (n : ℕ) (s : Bytes) : EndsWord (spaces (n + 1) ++ s) := by
  intro c hc
  exact (Option.some_inj.1 hc).symm

theorem endsWord_spaces_nil (n : ℕ) : EndsWord (spaces n) := by
  cases n with
  | zero => exact fun c hc => absurd hc (by simp [spaces])
  | succ n => exact fun c hc => (Option.some_inj.1 hc).symm

theorem argTokens_spaces (n : ℕ) (s : Bytes) :
    argTokens (spaces (n + 1) ++ s) = splitString (spaces n ++ s) blanks := rfl

/-! ### The keywords in both spellings -/

/-- The settings of `GET` and of `LIST`, as they are compared. -/
def getListWords : List (List String) :=
  [["SN", "sn"], ["RATE", "rate"], ["UNITS", "units"], ["FPS", "fps"], ["S", "s"], ["UDP", "udp"],
    ["M", "m"]]

/-- The two spellings of a command word are words, and select the same command. -/
structure SameVerb (w w' : Bytes) : Prop where
  isWord : IsWord w
  isWord' : IsWord w'
  verbOf_eq : verbOf w = verbOf w'

/-- The two spellings of a setting are recognised alike. -/
structure SameSetting (b b' : Bytes) : Prop where
  settingOf_eq : settingOf b = settingOf b'
  isOneOf_eq : ∀ words ∈ getListWords, isOneOf b words = isOneOf b' words

/-- All command words. -/
def verbWords : List String := commandWords ++ settingWords.map Prod.fst

theorem sameVerb_of_mem {word : String} (h : word ∈ verbWords) :
    SameVerb word.toList (lowerCase word.toList) := by
  have hall : ∀ word ∈ verbWords, IsWord word.toList ∧ IsWord (lowerCase word.toList) ∧
      verbOf word.toList = verbOf (lowerCase word.toList) := by decide +kernel
  obtain ⟨hupper, hlower, hverb⟩ := hall word h
  exact ⟨hupper, hlower, hverb⟩

theorem sameVerb_command {word : String} (h : word ∈ commandWords) :
    SameVerb word.toList (lowerCase word.toList) := sameVerb_of_mem (List.mem_append_left _ h)

theorem sameVerb_setting {word : String} (h : word ∈ settingWords.map Prod.fst) :
    SameVerb word.toList (lowerCase word.toList) := sameVerb_of_mem (List.mem_append_right _ h)

theorem isWord_setting {p : String × String} (h : p ∈ settingWords) :
    IsWord p.2.toList ∧ IsWord (lowerCase p.2.toList) := by
  have hall : ∀ p ∈ settingWords, IsWord p.2.toList ∧ IsWord (lowerCase p.2.toList) := by
    decide +kernel
  exact hall p h

/-- Every setting **but `ENFTP`** is recognised in either case. -/
theorem sameSetting_of_ne {p : String × String} (h : p ∈ settingWords) (hne : p.2 ≠ "ENFTP") :
    SameSetting p.2.toList (lowerCase p.2.toList) := by
  have hsetting : ∀ p ∈ settingWords, p.2 ≠ "ENFTP" →
      settingOf p.2.toList = settingOf (lowerCase p.2.toList) := by decide +kernel
  have hwords : ∀ p ∈ settingWords, ∀ words ∈ getListWords,
      isOneOf p.2.toList words = isOneOf (lowerCase p.2.toList) words := by decide +kernel
  exact ⟨hsetting p h hne, hwords p h⟩

/-! ### The same call -/

/-- Two calls with the same verdict that also call back alike and leave the same `errno`. -/
structure SameCall (o o' : Outcome) : Prop where
  verdict : SameVerdict o o'
  notices : o.notices = o'.notices
  errnoRange : o.errnoRange = o'.errnoRange

theorem SameCall.refl (o : Outcome) : SameCall o o := ⟨.refl o, rfl, rfl⟩

theorem sameCall_answer {reply reply' : Bytes} (h : SameInvalid reply reply') :
    SameCall (x.answer d reply) (x.answer d reply') := ⟨sameVerdict_answer h, rfl, rfl⟩

theorem sameCall_unrecognised (x : Session) (d : Mps) (cmd cmd' : Bytes) :
    SameCall (unrecognised x d cmd) (unrecognised x d cmd') :=
  sameCall_answer
    (iff_of_true (invalidCommand_unrecognised x d cmd) (invalidCommand_unrecognised x d cmd'))

/-- The tokens behind the command word: the same ones, but for the spelling of the setting. -/
inductive SameWords : List Bytes → List Bytes → Prop
  | none : SameWords [] []
  | some {b b' : Bytes} (h : SameSetting b b') (r : List Bytes) : SameWords (b :: r) (b' :: r)

theorem SameWords.refl (ts : List Bytes) : SameWords ts ts := by
  cases ts with
  | nil => exact .none
  | cons b r => exact .some ⟨rfl, fun words _ => rfl⟩ r

variable {w w' b b' : Bytes} {r ts ts' : List Bytes}

section Set

variable (hecho : ¬ invalidCommand <+: cmd ++ prompt) (hecho' : ¬ invalidCommand <+: cmd' ++ prompt)

include hecho hecho'

/-- A setting that counts its tokens and echoes the line. -/
theorem sameCall_echo (text : Bytes) (x' : Session) (d' : Mps) (len k : ℕ) :
    SameCall (if len < k then x.answer d text else x'.answer d' (cmd ++ prompt))
      (if len < k then x.answer d text else x'.answer d' (cmd' ++ prompt)) := by
  by_cases hlen : len < k
  · rw [if_pos hlen, if_pos hlen]
    exact .refl _
  · rw [if_neg hlen, if_neg hlen]
    exact sameCall_answer (iff_of_false hecho hecho')

theorem setUnits_sameCall :
    SameCall (setUnits E x d cmd (w :: b :: r)) (setUnits E x d cmd' (w' :: b' :: r)) := by
  have htok : tok (w :: b :: r) 2 = tok (w' :: b' :: r) 2 := rfl
  have hlength : (w :: b :: r).length = (w' :: b' :: r).length := rfl
  rw [setUnits, setUnits, htok, hlength]
  by_cases hlen : (w' :: b' :: r).length < 3
  · rw [if_pos hlen, if_pos hlen]
    exact .refl _
  · rw [if_neg hlen, if_neg hlen]
    cases E.mpsUnitsFromString (cStr (tok (w' :: b' :: r) 2)) with
    | none => exact .refl _
    | some units => exact sameCall_answer (iff_of_false hecho hecho')

theorem setSim_sameCall :
    SameCall (setSim E x d cmd (w :: b :: r)) (setSim E x d cmd' (w' :: b' :: r)) := by
  have htok : tok (w :: b :: r) 2 = tok (w' :: b' :: r) 2 := rfl
  have hlength : (w :: b :: r).length = (w' :: b' :: r).length := rfl
  have hpre : ∀ s : Bytes, invalidCommand <+: "Invalid Command: ".toList ++ s :=
    invalidCommand_append (invalidCommand_text rfl)
  have hpre' : ∀ s : Bytes, invalidCommand <+: "Invalid Command: `SET SIM`".toList ++ s :=
    invalidCommand_append (invalidCommand_text rfl)
  rw [setSim, setSim, htok, hlength]
  by_cases hlen : (w' :: b' :: r).length < 3
  · rw [if_pos hlen, if_pos hlen]
    exact .refl _
  · rw [if_neg hlen, if_neg hlen]
    dsimp only
    cases (strtoul E.ulongMax (cStr (tok (w' :: b' :: r) 2))).rest with
    | none => exact .refl _
    | some rest =>
        dsimp only
        split
        · rw [List.append_assoc, List.append_assoc]
          exact sameCall_answer (iff_of_true (hpre' _) (hpre' _))
        · split
          · rw [List.append_assoc, List.append_assoc]
            exact sameCall_answer (iff_of_true (hpre _) (hpre _))
          · exact sameCall_answer (iff_of_false hecho hecho')

/-- `SET` with the same arguments. -/
theorem parseSet_sameCall (h : SameWords ts ts') :
    SameCall ((parseSet E x d cmd (w :: ts)).getD (unrecognised x d cmd))
      ((parseSet E x d cmd' (w' :: ts')).getD (unrecognised x d cmd')) := by
  cases h with
  | none => exact .refl _
  | @some b b' h r =>
      have hlen : ∀ w b : Bytes, ¬ (w :: b :: r).length < 2 := fun w b => by simp
      have htok : ∀ w b : Bytes, tok (w :: b :: r) 1 = b := fun w b => rfl
      rw [parseSet, parseSet, if_neg (hlen w b), if_neg (hlen w' b'), htok, htok, h.settingOf_eq]
      cases settingOf b' with
      | none => exact sameCall_unrecognised x d cmd cmd'
      | some setting =>
          cases setting with
          | rate => exact sameCall_echo hecho hecho' _ _ _ _ _
          | fps => exact sameCall_echo hecho hecho' _ _ _ _ _
          | enudp => exact sameCall_echo hecho hecho' _ _ _ _ _
          | enftp => exact sameCall_echo hecho hecho' _ _ _ _ _
          | ipudp => exact sameCall_echo hecho hecho' _ _ _ _ _
          | format => exact .refl _
          | units => exact setUnits_sameCall hecho hecho'
          | sim => exact setSim_sameCall hecho hecho'

end Set

theorem parseGet_sameWords (h : SameWords ts ts') :
    parseGet E d (w :: ts) = parseGet E d (w' :: ts') := by
  cases h with
  | none => rfl
  | @some b b' h r =>
      have hwords : ∀ words ∈ getListWords, isOneOf (tok (w :: b :: r) 1) words =
          isOneOf (tok (w' :: b' :: r) 1) words := h.isOneOf_eq
      have hlength : (w :: b :: r).length = (w' :: b' :: r).length := rfl
      rw [parseGet, parseGet, hlength, hwords ["SN", "sn"] (by decide),
        hwords ["RATE", "rate"] (by decide), hwords ["UNITS", "units"] (by decide),
        hwords ["FPS", "fps"] (by decide)]

theorem parseList_sameWords (h : SameWords ts ts') :
    parseList E d (w :: ts) = parseList E d (w' :: ts') := by
  cases h with
  | none => rfl
  | @some b b' h r =>
      have hwords : ∀ words ∈ getListWords, isOneOf (tok (w :: b :: r) 1) words =
          isOneOf (tok (w' :: b' :: r) 1) words := h.isOneOf_eq
      have hlength : (w :: b :: r).length = (w' :: b' :: r).length := rfl
      rw [parseList, parseList, hlength, hwords ["S", "s"] (by decide),
        hwords ["UDP", "udp"] (by decide), hwords ["M", "m"] (by decide)]

/-- **The same arguments behind the same command** make the same call. -/
theorem parseCommands_sameWords (htokens : splitString cmd blanks = w :: ts)
    (htokens' : splitString cmd' blanks = w' :: ts') (hverb : verbOf w = verbOf w')
    (h : SameWords ts ts') : SameCall (parseCommands E x d cmd) (parseCommands E x d cmd') := by
  have hw : ∀ (w : Bytes) (ts : List Bytes), tok (w :: ts) 0 = w := fun w ts => rfl
  have hechoes : verbOf w' = some .set →
      ¬ invalidCommand <+: cmd ++ prompt ∧ ¬ invalidCommand <+: cmd' ++ prompt := by
    intro hset
    refine ⟨not_invalidCommand_echo ?_ prompt, not_invalidCommand_echo ?_ prompt⟩
    · rw [verb, htokens, hw, hverb, hset]
    · rw [verb, htokens', hw, hset]
  have hanswered : ∀ reply : Option Bytes,
      SameCall ((reply.map (x.answer d)).getD (unrecognised x d cmd))
        ((reply.map (x.answer d)).getD (unrecognised x d cmd')) := by
    intro reply
    cases reply with
    | none => exact sameCall_unrecognised x d cmd cmd'
    | some reply => exact .refl _
  rw [parseCommands, parseCommands, htokens, htokens', hw, hw, hverb]
  cases hv : verbOf w' with
  | none => exact sameCall_unrecognised x d cmd cmd'
  | some v =>
      cases v with
      | set => exact parseSet_sameCall (hechoes hv).1 (hechoes hv).2 h
      | get =>
          dsimp only
          rw [parseGet_sameWords h]
          exact hanswered _
      | list =>
          dsimp only
          rw [parseList_sameWords h]
          exact hanswered _
      | ver => exact .refl _
      | status => exact .refl _
      | calz => exact .refl _
      | scan => exact .refl _
      | stop => exact .refl _

/-! ### The same dispatch -/

/-- The request to the application that a line is. -/
def requestOf (line : Bytes) : Option AppRequest :=
  if isOneOf line ["shutdown", "SHUTDOWN"] then some .shutdown
  else if isOneOf line ["restart", "RESTART", "reboot", "REBOOT"] then some .restart
  else none

/-- A line with a blank is none: the whole line is compared. -/
theorem requestOf_of_blank {line : Bytes} (h : ' ' ∈ line) : requestOf line = none := by
  have hwords : ∀ words : List String, (∀ w ∈ words, ' ' ∉ w.toList) →
      isOneOf line words = false := by
    intro words hwords
    rw [isOneOf, List.any_eq_false]
    intro w hw hline
    have hw' := hwords w hw
    rw [of_decide_eq_true hline] at hw'
    exact hw' h
  have hshutdown := hwords ["shutdown", "SHUTDOWN"] (by decide)
  have hrestart := hwords ["restart", "RESTART", "reboot", "REBOOT"] (by decide)
  rw [requestOf, hshutdown, hrestart]
  rfl

/-- A line that is not answered with a prompt at once. -/
def IsCommandLine (line : Bytes) : Prop := ¬ (line.headD '\x00' = '\r' ∨ line = [])

theorem isCommandLine_word {w : Bytes} (hw : IsWord w) (n : ℕ) (rest : Bytes) :
    IsCommandLine (spaces n ++ (w ++ rest)) := by
  cases n with
  | zero =>
      obtain ⟨c, w, rfl⟩ := List.exists_cons_of_ne_nil hw.1
      have hc : c ∉ blanks := hw.2 c List.mem_cons_self
      rintro (h | h)
      · have hr : c = '\r' := h
        rw [hr] at hc
        exact hc (by decide)
      · cases h
  | succ n =>
      rintro (h | h)
      · exact absurd (show ' ' = '\r' from h) (by decide)
      · cases h

theorem sameInvalid_append {text text' : Bytes} (h : SameInvalid text text') :
    SameInvalid (text ++ "\n".toList) (text' ++ "\n".toList) := by
  have hline : ∀ text : Bytes,
      invalidCommand <+: text ++ "\n".toList ↔ invalidCommand <+: text := by
    intro text
    have hconcat : text ++ "\n".toList = text ++ ['\n'] := rfl
    rw [hconcat, List.prefix_concat_iff]
    refine or_iff_right fun heq => ?_
    -- the text does not end with a line feed
    have hlast := congrArg List.getLast? heq
    rw [List.getLast?_concat] at hlast
    exact absurd hlast (by decide)
  exact ((hline text).trans h).trans (hline text').symm

theorem requestOf_eq_shutdown {line : Bytes} :
    requestOf line = some .shutdown ↔ isOneOf line ["shutdown", "SHUTDOWN"] := by
  rw [requestOf]
  by_cases h : isOneOf line ["shutdown", "SHUTDOWN"]
  · rw [if_pos h]
    exact iff_of_true rfl h
  · rw [if_neg h]
    refine iff_of_false ?_ h
    split <;> simp

theorem requestOf_eq_restart {line : Bytes} (h : ¬ isOneOf line ["shutdown", "SHUTDOWN"]) :
    requestOf line = some .restart ↔
      isOneOf line ["restart", "RESTART", "reboot", "REBOOT"] := by
  rw [requestOf, if_neg h]
  by_cases h' : isOneOf line ["restart", "RESTART", "reboot", "REBOOT"]
  · rw [if_pos h']
    exact iff_of_true rfl h'
  · rw [if_neg h']
    exact iff_of_false (by simp) h'

/-- Lines with the same request, and the same call where there is none, are dispatched the same. -/
theorem sameDispatch_of_call {line line' : Bytes} (hline : IsCommandLine line)
    (hline' : IsCommandLine line') (hrequest : requestOf line = requestOf line')
    (hcall : SameCall (parseCommands E x d line) (parseCommands E x d line')) :
    SameDispatch (dispatchLine E x { l with device := some d } id line)
      (dispatchLine E x { l with device := some d } id line') := by
  have hrefl : ∀ sent : List (ℕ × Bytes),
      List.Forall₂ (fun m m' => m.1 = m'.1 ∧ SameInvalid m.2 m'.2) sent sent :=
    fun sent => List.forall₂_same.2 fun m _ => ⟨rfl, Iff.rfl⟩
  have hshutdown : isOneOf line ["shutdown", "SHUTDOWN"] ↔
      isOneOf line' ["shutdown", "SHUTDOWN"] := by
    rw [← requestOf_eq_shutdown, ← requestOf_eq_shutdown, hrequest]
  rw [dispatchLine, dispatchLine, if_neg hline, if_neg hline']
  by_cases h : isOneOf line ["shutdown", "SHUTDOWN"]
  · rw [if_pos h, if_pos (hshutdown.1 h)]
    exact ⟨rfl, rfl, hrefl _, .nil, rfl⟩
  have h₁ := mt hshutdown.2 h
  have hrestart : isOneOf line ["restart", "RESTART", "reboot", "REBOOT"] ↔
      isOneOf line' ["restart", "RESTART", "reboot", "REBOOT"] := by
    rw [← requestOf_eq_restart h, ← requestOf_eq_restart h₁, hrequest]
  rw [if_neg h, if_neg h₁]
  by_cases h' : isOneOf line ["restart", "RESTART", "reboot", "REBOOT"]
  · rw [if_pos h', if_pos (hrestart.1 h')]
    exact ⟨rfl, rfl, hrefl _, .nil, rfl⟩
  rw [if_neg h', if_neg (mt hrestart.2 h')]
  obtain ⟨⟨hdevice, hverdict⟩, hnotices, herrno⟩ := hcall
  dsimp only
  refine ⟨?_, rfl, ?_, ?_, herrno⟩
  · dsimp only
    rw [hdevice]
  · dsimp only
    rw [hnotices]
    exact List.rel_append (hrefl _) (.cons ⟨rfl, hverdict⟩ .nil)
  · dsimp only
    split
    · exact .cons (sameInvalid_append hverdict) .nil
    · exact .nil

/-- The reply to a line that is not for the application. -/
theorem sent_dispatchLine {line : Bytes} (hline : IsCommandLine line)
    (hrequest : requestOf line = none) :
    (dispatchLine E x { l with device := some d } id line).sent =
      (parseCommands E x d line).notices.flatMap (onStatusChanged { l with device := some d }) ++
        [(id, (parseCommands E x d line).reply)] := by
  rw [requestOf] at hrequest
  split_ifs at hrequest with hshutdown hrestart
  rw [dispatchLine, if_neg hline, if_neg hshutdown, if_neg hrestart]

/-! ### Respelled lines -/

/-- A word with its lower case, by itself or before the same text. -/
theorem requestOf_word {w w' rest : Bytes} (h : requestOf w = requestOf w') (hrest : EndsWord rest)
    (n : ℕ) : requestOf (spaces n ++ (w ++ rest)) = requestOf (spaces n ++ (w' ++ rest)) := by
  cases n with
  | zero =>
      cases rest with
      | nil =>
          rw [List.append_nil, List.append_nil]
          exact h
      | cons c args =>
          obtain rfl := hrest c rfl
          rw [requestOf_of_blank (by simp), requestOf_of_blank (by simp)]
  | succ n =>
      have hblank : ∀ s : Bytes, ' ' ∈ spaces (n + 1) ++ s := fun s => List.mem_cons_self
      rw [requestOf_of_blank (hblank _), requestOf_of_blank (hblank _)]

variable {line line' : Bytes}

/-- Behind a word and a blank, no line is a request. -/
theorem requestOf_setting (n m : ℕ) (w s : Bytes) :
    requestOf (spaces n ++ (w ++ (spaces (m + 1) ++ s))) = none :=
  requestOf_of_blank (List.mem_append_right _ (List.mem_append_right _ List.mem_cons_self))

/-- **The commands to the application** have both spellings. -/
theorem requestOf_respelled (h : Respelled line line') : requestOf line = requestOf line' := by
  have hwords : ∀ word ∈ verbWords,
      requestOf word.toList = requestOf (lowerCase word.toList) := by decide +kernel
  cases h with
  | command n hword hrest =>
      exact requestOf_word (hwords _ (List.mem_append_left _ hword)) hrest n
  | bare n m hword =>
      exact requestOf_word (hwords _ (List.mem_append_right _ hword)) (endsWord_spaces_nil m) n
  | setting n m hword hrest =>
      rw [requestOf_setting, requestOf_setting]

theorem isCommandLine_respelled (h : Respelled line line') :
    IsCommandLine line ∧ IsCommandLine line' := by
  cases h with
  | command n hword hrest =>
      have hw := sameVerb_command hword
      exact ⟨isCommandLine_word hw.isWord n _, isCommandLine_word hw.isWord' n _⟩
  | bare n m hword =>
      have hw := sameVerb_setting hword
      exact ⟨isCommandLine_word hw.isWord n _, isCommandLine_word hw.isWord' n _⟩
  | setting n m hword hrest =>
      have hw := sameVerb_setting (List.mem_map_of_mem (f := Prod.fst) hword)
      exact ⟨isCommandLine_word hw.isWord n _, isCommandLine_word hw.isWord' n _⟩

/-- The tokens of a line with a command word and the word of a setting. -/
theorem splitString_setting {w b rest : Bytes} (hw : IsWord w) (hb : IsWord b)
    (hrest : EndsWord rest) (n m : ℕ) :
    splitString (spaces n ++ (w ++ (spaces (m + 1) ++ (b ++ rest)))) blanks =
      w :: b :: argTokens rest := by
  rw [splitString_word hw (endsWord_spaces m _), argTokens_spaces, splitString_word hb hrest]

/-! ### The setting without a lower case -/

/-- `SET ENFTP` counts its tokens and echoes the line. -/
theorem parseCommands_enftp (h : splitString cmd blanks = "SET".toList :: "ENFTP".toList :: r) :
    verb cmd = some .set ∧
      parseCommands E x d cmd = setEnftp E x d cmd ("SET".toList :: "ENFTP".toList :: r) := by
  have hverb : verb cmd = some .set := by
    rw [verb, h]
    exact (by decide : verbOf "SET".toList = some .set)
  have hsetting : settingOf (tok (splitString cmd blanks) 1) = some .enftp := by
    rw [h]
    exact (by decide : settingOf "ENFTP".toList = some .enftp)
  have hcall := parseCommands_set (E := E) (x := x) (d := d) hverb hsetting
  rw [h] at hcall
  exact ⟨hverb, hcall⟩

/-- In lower case it is not recognised. -/
theorem parseCommands_lower_enftp
    (h : splitString cmd blanks = lowerCase "SET".toList :: lowerCase "ENFTP".toList :: r) :
    parseCommands E x d cmd = unrecognised x d cmd := by
  have hlen : ¬ (lowerCase "SET".toList :: lowerCase "ENFTP".toList :: r).length < 2 := by simp
  have hsetting : settingOf (tok (lowerCase "SET".toList :: lowerCase "ENFTP".toList :: r) 1) =
      none := (by decide : settingOf (lowerCase "ENFTP".toList) = none)
  have hverb : verbOf (tok (lowerCase "SET".toList :: lowerCase "ENFTP".toList :: r) 0) =
      some .set := (by decide : verbOf (lowerCase "SET".toList) = some .set)
  rw [parseCommands, h, hverb]
  simp only [parseSet, if_neg hlen, hsetting, Option.getD_none]

/-- **Without an argument** both spellings are invalid. -/
theorem sameCall_enftp (h : splitString cmd blanks = ["SET".toList, "ENFTP".toList])
    (h' : splitString cmd' blanks = [lowerCase "SET".toList, lowerCase "ENFTP".toList]) :
    SameCall (parseCommands E x d cmd) (parseCommands E x d cmd') := by
  have hshort : ["SET".toList, "ENFTP".toList].length < 3 := by simp
  rw [(parseCommands_enftp h).2, parseCommands_lower_enftp h', setEnftp, if_pos hshort,
    unrecognised]
  exact sameCall_answer
    (iff_of_true (invalidCommand_text rfl) (invalidCommand_unrecognised x d cmd'))

/-- **With one** only the upper-case spelling is accepted. -/
theorem not_sameInvalid_enftp (hr : r ≠ [])
    (h : splitString cmd blanks = "SET".toList :: "ENFTP".toList :: r)
    (h' : splitString cmd' blanks = lowerCase "SET".toList :: lowerCase "ENFTP".toList :: r) :
    (parseCommands E x d cmd).notices = [] ∧ (parseCommands E x d cmd').notices = [] ∧
      ¬ SameInvalid (parseCommands E x d cmd).reply (parseCommands E x d cmd').reply := by
  obtain ⟨hverb, hcall⟩ := parseCommands_enftp (E := E) (x := x) (d := d) h
  have hlong : ¬ ("SET".toList :: "ENFTP".toList :: r).length < 3 := by
    have hpos := List.length_pos_of_ne_nil hr
    simp only [List.length_cons]
    omega
  rw [hcall, parseCommands_lower_enftp h', setEnftp, if_neg hlong]
  refine ⟨rfl, rfl, fun hsame => ?_⟩
  exact not_invalidCommand_echo hverb prompt (hsame.2 (invalidCommand_unrecognised x d cmd'))

/-! ### All lines -/

theorem not_setsFtp_of_tok_zero (h : tok (splitString line blanks) 0 ≠ "SET".toList) :
    ¬ SetsFtp line := fun hset => h hset.1

theorem not_setsFtp_of_tok_one (h : tok (splitString line blanks) 1 ≠ "ENFTP".toList) :
    ¬ SetsFtp line := fun hset => h hset.2.1

theorem tok_argTokens_spaces (w : Bytes) (m : ℕ) : tok (w :: argTokens (spaces m)) 1 = [] := by
  cases m with
  | zero => rfl
  | succ m =>
      have hnil : argTokens (spaces (m + 1)) = [[]] := by
        have hsplit := argTokens_spaces m []
        rw [splitString_spaces, List.append_nil] at hsplit
        exact hsplit
      rw [hnil]
      rfl

/-- A `SET ENFTP` in both spellings. -/
theorem respelled_enftp_iff {rest : Bytes} (hcommand : IsCommandLine line)
    (hcommand' : IsCommandLine line') (hnone : requestOf line = none)
    (hnone' : requestOf line' = none)
    (htokens : splitString line blanks = "SET".toList :: "ENFTP".toList :: argTokens rest)
    (htokens' : splitString line' blanks =
      lowerCase "SET".toList :: lowerCase "ENFTP".toList :: argTokens rest) :
    SameDispatch (dispatchLine E x { l with device := some d } id line)
        (dispatchLine E x { l with device := some d } id line') ↔ ¬ SetsFtp line := by
  cases rest with
  | nil =>
      refine iff_of_true (sameDispatch_of_call hcommand hcommand' (hnone.trans hnone'.symm)
        (sameCall_enftp htokens htokens')) fun hset => ?_
      have hlen := hset.2.2
      rw [htokens] at hlen
      exact absurd hlen (by simp [argTokens])
  | cons c args =>
      have hargs : argTokens (c :: args) ≠ [] := splitString_ne_nil args blanks
      obtain ⟨hnotices, hnotices', hdiffer⟩ :=
        not_sameInvalid_enftp (E := E) (x := x) (d := d) hargs htokens htokens'
      refine iff_of_false (fun hsame => ?_) (not_not.2 ?_)
      · have hsent := hsame.sent
        rw [sent_dispatchLine hcommand hnone, sent_dispatchLine hcommand' hnone', hnotices,
          hnotices'] at hsent
        exact hdiffer (List.forall₂_cons.1 hsent).1.2
      · have hpos := List.length_pos_of_ne_nil hargs
        rw [SetsFtp, htokens]
        refine ⟨rfl, rfl, ?_⟩
        rw [List.length_cons, List.length_cons]
        omega

/-- **Upper case and lower case are dispatched the same, exactly if** the line is not a `SET ENFTP`
with an argument. -/
theorem respelled_iff (E : Env) (x : Session) (l : ServerLayer) (d : Mps) (id : ℕ)
    {line line' : Bytes} (h : Respelled line line') :
    SameDispatch (dispatchLine E x { l with device := some d } id line)
        (dispatchLine E x { l with device := some d } id line') ↔ ¬ SetsFtp line := by
  obtain ⟨hline, hline'⟩ := isCommandLine_respelled h
  have hrequest := requestOf_respelled h
  have hcalled : SameCall (parseCommands E x d line) (parseCommands E x d line') →
      SameDispatch (dispatchLine E x { l with device := some d } id line)
        (dispatchLine E x { l with device := some d } id line') :=
    sameDispatch_of_call hline hline' hrequest
  cases h with
  | @command n word hword rest hrest =>
      have hw := sameVerb_command hword
      have htokens := splitString_word hw.isWord hrest n
      have htokens' := splitString_word hw.isWord' hrest n
      refine iff_of_true (hcalled ?_) (not_setsFtp_of_tok_zero ?_)
      · exact parseCommands_sameWords htokens htokens' hw.verbOf_eq (.refl _)
      · have hset : ∀ word ∈ commandWords, word.toList ≠ "SET".toList := by decide +kernel
        rw [htokens]
        exact hset word hword
  | @bare n m word hword =>
      have hw := sameVerb_setting hword
      have htokens := splitString_word hw.isWord (endsWord_spaces_nil m) n
      have htokens' := splitString_word hw.isWord' (endsWord_spaces_nil m) n
      refine iff_of_true (hcalled ?_) (not_setsFtp_of_tok_one ?_)
      · exact parseCommands_sameWords htokens htokens' hw.verbOf_eq (.refl _)
      · rw [htokens, tok_argTokens_spaces]
        decide
  | @setting n m word setting hword rest hrest =>
      have hw := sameVerb_setting (List.mem_map_of_mem (f := Prod.fst) hword)
      obtain ⟨hb, hb'⟩ := isWord_setting hword
      have htokens := splitString_setting hw.isWord hb hrest n m
      have htokens' := splitString_setting hw.isWord' hb' hrest n m
      by_cases henftp : setting = "ENFTP"
      · have hset : word = "SET" := by
          have hall : ∀ p ∈ settingWords, p.2 = "ENFTP" → p.1 = "SET" := by decide
          exact hall _ hword henftp
        subst henftp hset
        have hnone := requestOf_setting n m "SET".toList ("ENFTP".toList ++ rest)
        exact respelled_enftp_iff hline hline' hnone (hrequest ▸ hnone) htokens htokens'
      · refine iff_of_true (hcalled ?_) (not_setsFtp_of_tok_one ?_)
        · exact parseCommands_sameWords htokens htokens' hw.verbOf_eq
            (.some (sameSetting_of_ne hword henftp) _)
        · rw [htokens]
          exact fun heq => henftp (String.toList_inj.1 heq)

/-- A line with the words of a setting, and an argument. -/
theorem respelled_with {word setting : String} (h : (word, setting) ∈ settingWords) (arg : Bytes) :
    Respelled (word.toList ++ ' ' :: (setting.toList ++ ' ' :: arg))
      (lowerCase word.toList ++ ' ' :: (lowerCase setting.toList ++ ' ' :: arg)) :=
  Respelled.setting 0 0 h fun _ hc => (Option.some_inj.1 hc).symm

theorem respelled_iff_rate :
    Respelled ("SET".toList ++ ' ' :: ("RATE".toList ++ ' ' :: "500".toList))
        (lowerCase "SET".toList ++ ' ' :: (lowerCase "RATE".toList ++ ' ' :: "500".toList)) ∧
      SameDispatch
        (dispatchLine referenceEnv .quiet
          { attachedLayer mps4264 1 false with device := some (attachedDevice mps4264 1) } 0
          ("SET".toList ++ ' ' :: ("RATE".toList ++ ' ' :: "500".toList)))
        (dispatchLine referenceEnv .quiet
          { attachedLayer mps4264 1 false with device := some (attachedDevice mps4264 1) } 0
          (lowerCase "SET".toList ++ ' ' :: (lowerCase "RATE".toList ++ ' ' :: "500".toList))) :=
  ⟨respelled_with (by decide) _,
    (respelled_iff referenceEnv .quiet (attachedLayer mps4264 1 false) (attachedDevice mps4264 1) 0
      (respelled_with (by decide) _)).2 fun h => absurd h.2.1 (by decide +kernel)⟩

/-- `SET ENFTP 1` switches FTP on, and `set enftp 1` is an invalid command. -/
theorem lower_enftp :
    ∃ line line', line = "SET ENFTP 1".toList ∧ line' = "set enftp 1".toList ∧
      Respelled line line' ∧
      ¬ SameDispatch (dispatchLine referenceEnv .quiet (attachedLayer mps4264 1 false) 0 line)
        (dispatchLine referenceEnv .quiet (attachedLayer mps4264 1 false) 0 line') := by
  have hrespelled := respelled_with (by decide : ("SET", "ENFTP") ∈ settingWords) "1".toList
  refine ⟨_, _, by decide +kernel, by decide +kernel, hrespelled, fun hsame => ?_⟩
  have hdevice := congrArg (fun l => l.device.map (·.cfg.ftpEnabled)) hsame.layer
  revert hdevice
  decide +kernel

end MpsEmulator
