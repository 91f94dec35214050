/-
**What commands can do to the configuration.**

Only `SET` writes the configuration, one field or two after the other.  `CfgStep` says what a single
assignment can be, with all that its parser has checked; `parseCommands_cfg` that a command is a
sequence of them.  What every assignment preserves therefore holds of every configuration a device
can get to.

* `splitScan_not_mem`, `splitScan_dropLast_ne_nil` — tokens hold no delimiters, and only the last
  one can be empty;
* `CfgStep`, `parseCommands_cfg` — **the assignments of a command**;
* `CfgStep.identity` — none of them changes the device type or the serial number.
-/

import MpsEmulator.ParseCommands

set_option relaxedAutoImplicit false
set_option autoImplicit false

namespace MpsEmulator

open CNumeral Relation

/-! ### Tokens -/

/-- A piece holds no delimiters. -/
theorem splitScan_not_mem {delimiters piece s : Bytes} (hpiece : ∀ c ∈ piece, c ∉ delimiters) :
    ∀ t ∈ splitScan delimiters piece s, ∀ c ∈ t, c ∉ delimiters := by
  induction s generalizing piece with
  | nil =>
      intro t ht
      rw [List.mem_singleton.1 ht]
      exact hpiece
  | cons c s ih =>
      intro t ht
      rw [splitScan] at ht
      split at ht
      · rcases List.mem_append.1 ht with ht | ht
        · split at ht
          · exact absurd ht List.not_mem_nil
          · rw [List.mem_singleton.1 ht]
            exact hpiece
        · exact ih (by simp) t ht
      · rename_i hc
        refine ih (fun b hb => ?_) t ht
        rcases List.mem_append.1 hb with hb | hb
        · exact hpiece b hb
        · rwa [List.mem_singleton.1 hb]

/-- Every piece but the last one is nonempty. -/
theorem splitScan_dropLast_ne_nil {delimiters piece s : Bytes} :
    ∀ t ∈ (splitScan delimiters piece s).dropLast, t ≠ [] := by
  induction s generalizing piece with
  | nil => simp [splitScan]
  | cons c s ih =>
      intro t ht
      rw [splitScan] at ht
      split at ht
      · rw [List.dropLast_append_of_ne_nil (splitScan_ne_nil _ _)] at ht
        rcases List.mem_append.1 ht with ht | ht
        · split at ht
          · exact absurd ht List.not_mem_nil
          · rename_i hpiece
            rwa [List.mem_singleton.1 ht]
        · exact ih t ht
      · exact ih t ht

/-- A token that is not the last one is a word: it is nonempty, and holds no delimiter. -/
theorem tok_splitString {cmd : Bytes} {i : ℕ} (hi : i + 1 < (splitString cmd blanks).length) :
    tok (splitString cmd blanks) i ≠ [] ∧ ∀ c ∈ tok (splitString cmd blanks) i, c ∉ blanks := by
  have hi' : i < (splitString cmd blanks).dropLast.length := by
    rw [List.length_dropLast]
    omega
  have htok : tok (splitString cmd blanks) i = (splitString cmd blanks).dropLast[i] := by
    rw [tok, List.getD_eq_getElem _ _ (by omega), List.getElem_dropLast]
  have hmem : tok (splitString cmd blanks) i ∈ (splitString cmd blanks).dropLast :=
    htok ▸ List.getElem_mem hi'
  generalize tok (splitString cmd blanks) i = t at hmem
  rw [splitString_eq_scan] at hmem
  exact ⟨splitScan_dropLast_ne_nil _ hmem,
    splitScan_not_mem (by simp) _ (List.dropLast_subset _ hmem)⟩

/-! ### Assignments -/

/-- One assignment of `SET` to the configuration. -/
inductive CfgStep (E : Env) (c : MpsConfig) : MpsConfig → Prop
  | rate (t : Bytes) : CfgStep E c { c with scanRateHz := rateAfter E c t }
  | fps (z : ℤ) : CfgStep E c { c with framesPerScan := wrapUnsigned 32 z }
  | enudp (enabled : Bool) : CfgStep E c { c with udpEnabled := enabled }
  | enftp (enabled : Bool) : CfgStep E c { c with ftpEnabled := enabled }
  | ip {t : Bytes} (hne : t ≠ []) (hblank : ∀ ch ∈ t, ch ∉ blanks) :
      CfgStep E c { c with udpTargetIp := t }
  | port (z : ℤ) : CfgStep E c { c with udpTargetPort := wrapUnsigned 16 z }
  | telnetFormat {fmt : Char} {f : MpsDataFormat}
      (h : allowedFormat E ['A', 'a', 'F', 'f', 'C', 'c'] fmt = some f) :
      CfgStep E c { c with telnetFormat := f }
  | ftpUdpFormat {fmt : Char} {f : MpsDataFormat}
      (h : allowedFormat E ['A', 'a', 'B', 'b', 'C', 'c'] fmt = some f) :
      CfgStep E c { c with ftpUdpFormat := f }
  | binaryFormat {fmt : Char} {f : MpsDataFormat}
      (h : allowedFormat E ['B', 'b', 'L', 'l'] fmt = some f) :
      CfgStep E c { c with binaryFormat := f }
  | units {t : Bytes} {u : MpsUnits} (h : E.mpsUnitsFromString t = some u) :
      CfgStep E c { c with units := u }
  | sim {n : ℕ} (h : n ≤ 65535) : CfgStep E c { c with sim := n }

variable {E : Env} {x : Session} {d : Mps} {cmd : Bytes}

/-- No assignment changes what the device is. -/
theorem CfgStep.identity {c c' : MpsConfig} (h : CfgStep E c c') :
    c'.deviceId = c.deviceId ∧ c'.serialNumber = c.serialNumber := by
  cases h <;> exact ⟨rfl, rfl⟩

/-- What a single assignment preserves, a sequence of them does. -/
theorem CfgStep.preserved {P : MpsConfig → Prop} (hstep : ∀ c c', P c → CfgStep E c c' → P c')
    {c c' : MpsConfig} (hc : P c) (h : ReflTransGen (CfgStep E) c c') : P c' := by
  induction h with
  | refl => exact hc
  | tail _ hlast ih => exact hstep _ _ ih hlast

theorem setDataFormat_cfg {d' : Mps} {type fmt : Char}
    (h : setDataFormat E d type fmt = some d') : CfgStep E d.cfg d'.cfg := by
  obtain ⟨f, ⟨hf, rfl⟩ | ⟨hf, rfl⟩ | ⟨hf, rfl⟩⟩ := setDataFormat_cases h
  · exact .telnetFormat hf
  · exact .ftpUdpFormat hf
  · exact .binaryFormat hf

theorem setFormatLoop_cfg (E : Env) (d : Mps) (tokens : List Bytes) :
    ReflTransGen (CfgStep E) d.cfg (setFormatLoop E d tokens).1.cfg :=
  setFormatLoop_rule (R := fun d d' => ReflTransGen (CfgStep E) d.cfg d'.cfg) (fun _ => .refl)
    ReflTransGen.trans (fun h => .single (setDataFormat_cfg h)) d tokens

theorem setIpudp_cfg (x : Session) (d : Mps) (cmd : Bytes) :
    ReflTransGen (CfgStep E) d.cfg (setIpudp E x d cmd (splitString cmd blanks)).device.cfg := by
  rw [setIpudp]
  split
  · exact .refl
  · rename_i hlen
    obtain ⟨hne, hblank⟩ := @tok_splitString cmd 2 (by omega)
    refine .head (.ip hne hblank) ?_
    cases sscanfInt (cStr (tok (splitString cmd blanks) 3)) with
    | none => exact .refl
    | some z => exact .single (.port z)

theorem setSim_cfg (x : Session) (d : Mps) (cmd : Bytes) (tokens : List Bytes) :
    ReflTransGen (CfgStep E) d.cfg (setSim E x d cmd tokens).device.cfg := by
  rw [setSim]
  split
  · exact .refl
  · dsimp only
    split
    · exact .refl
    · split
      · exact .refl
      · split
        · exact .refl
        · rename_i hrange
          simp only [not_or, not_lt] at hrange
          exact .single (.sim hrange.2)

theorem parseSet_cfg {o : Outcome} (ho : parseSet E x d cmd (splitString cmd blanks) = some o) :
    ReflTransGen (CfgStep E) d.cfg o.device.cfg := by
  rw [parseSet] at ho
  split at ho
  · rw [← Option.some_inj.1 ho]
    exact .refl
  · cases hset : settingOf (tok (splitString cmd blanks) 1) with
    | none => simp [hset] at ho
    | some setting =>
        rw [hset] at ho
        cases setting <;> rw [← Option.some_inj.1 ho]
        case rate =>
          rw [setRate]
          split
          · exact .refl
          · exact .single (.rate _)
        case fps =>
          rw [setFps]
          split
          · exact .refl
          · cases sscanfInt (cStr (tok (splitString cmd blanks) 2)) with
            | none => exact .refl
            | some z => exact .single (.fps z)
        case enudp =>
          rw [setEnudp]
          split
          · exact .refl
          · exact .single (.enudp _)
        case enftp =>
          rw [setEnftp]
          split
          · exact .refl
          · exact .single (.enftp _)
        case ipudp => exact setIpudp_cfg x d cmd
        case format =>
          have hloop := setFormatLoop_cfg E d ((splitString cmd blanks).drop 2)
          rw [setFormat]
          split <;> rename_i heq <;> rw [heq] at hloop <;> exact hloop
        case units =>
          rw [setUnits]
          split
          · exact .refl
          · split
            · exact .refl
            · exact .single (.units ‹_›)
        case sim => exact setSim_cfg x d cmd _

/-- **A command assigns to the configuration** in these steps only. -/
theorem parseCommands_cfg (E : Env) (x : Session) (d : Mps) (cmd : Bytes) :
    ReflTransGen (CfgStep E) d.cfg (parseCommands E x d cmd).device.cfg := by
  rw [parseCommands]
  cases hverb : verbOf (tok (splitString cmd blanks) 0) with
  | none => exact .refl
  | some v =>
      cases v
      case ver | status | calz => exact .refl
      case scan => simp only [Session.answerCall, startScan_cfg]; exact .refl
      case stop => simp only [Session.answerCall, stopScan_cfg]; exact .refl
      case set =>
        cases ho : parseSet E x d cmd (splitString cmd blanks) with
        | none => simp only [Option.getD_none]; exact .refl
        | some o => simp only [Option.getD_some]; exact parseSet_cfg ho
      case get => cases parseGet E d (splitString cmd blanks) <;> exact .refl
      case list => cases parseList E d (splitString cmd blanks) <;> exact .refl

end MpsEmulator
