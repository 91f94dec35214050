/-
**What a scan latches.**

`ConfigureScanLayout` fixes the sinks and the form of the packets when a scan starts; what is sent
and what stands in a header is decided later, with the configuration then in force.

* `ScanLayout`, `Mps.layout` — the members of the device that only a scan start writes;
* `LayoutStep` — what a call can do to them;
* `step_layout` — **they change only when a scan begins, and are then those for the configuration**;
* `step_cfg` — a step assigns to the configuration only what a command does.
-/

import MpsEmulator.Configuration
import MpsEmulator.ScanThread

set_option relaxedAutoImplicit false
set_option autoImplicit false

namespace MpsEmulator

open Relation

/-! ### The layout of a scan -/

/-- The members of the device that `ConfigureScanLayout` writes and the emission of a frame
reads. -/
structure ScanLayout where
  useLabview : Bool
  useBinary : Bool
  useRaw : Bool
  packetType : MpsBinaryPacketType
  packetInfo : Option ℕ
  packetPressureChannelCount : ℕ

def Mps.layout (d : Mps) : ScanLayout where
  useLabview := d.useLabview
  useBinary := d.useBinary
  useRaw := d.useRaw
  packetType := d.packetType
  packetInfo := d.packetInfo
  packetPressureChannelCount := d.packetPressureChannelCount

/-- A scan begins with the step. -/
def Scanner.begins (s s' : Scanner) : Bool := !s.device.scanning && s'.device.scanning

/-! ### Who changes it -/

/-- A call leaves the layout as it is and starts no scan, or starts one with the layout for the
configuration, which it leaves as it is. -/
def LayoutStep (E : Env) (d d' : Mps) : Prop :=
  (d'.layout = d.layout ∧ (d'.scanning = true → d.scanning = true)) ∨
    (d.scanning = false ∧ d'.scanning = true ∧ d'.cfg = d.cfg ∧
      d'.layout = (configureScanLayout E d).layout)

variable {E : Env} {s s' : Scanner} {a : ScanAction}

/-- A step that begins a scan is a call that starts it, and leaves the thread where it is. -/
theorem isStart_of_begins (h : step E s a = some s') (hbegins : s.begins s' = true) :
    s.device.scanning = false ∧ (flagChange s a).isStart = true ∧ s'.thread = s.thread := by
  rw [Scanner.begins, Bool.and_eq_true, Bool.not_eq_true'] at hbegins
  obtain ⟨hoff, hon⟩ := hbegins
  have hstart := isStart_of_scanning h hoff hon
  refine ⟨hoff, hstart, step_thread h ?_⟩
  rintro rfl
  exact isStart_flagChange_thread hstart

theorem layoutStep_startScan (now : Clock) (d : Mps) :
    LayoutStep E d (startScan E now d).device := by
  cases h : d.scanning with
  | true => exact .inl ⟨by rw [startScan_of_scanning h], fun _ => h⟩
  | false =>
      refine .inr ⟨h, (startScan_of_not_scanning E now h).1, startScan_cfg, ?_⟩
      simp [startScan, h, Mps.layout, updateScanAverages, configureScanLayout, physicalChannels]

theorem layoutStep_stopScan (d : Mps) : LayoutStep E d (stopScan d).device := by
  refine .inl ⟨?_, by simp⟩
  cases h : d.scanning with
  | false => rw [stopScan_of_not_scanning h]
  | true => rw [stopScan_device_of_scanning h]; rfl

theorem layoutStep_calZ (d : Mps) : LayoutStep E d (calZ d).device := .inl ⟨rfl, id⟩

/-- What changes neither the layout nor whether a scan runs. -/
theorem LayoutStep.same {d d' : Mps} (hlayout : d'.layout = d.layout)
    (hscanning : d'.scanning = d.scanning) : LayoutStep E d d' :=
  .inl ⟨hlayout, fun h => hscanning ▸ h⟩

theorem layoutStep_parseCommands (x : Session) (d : Mps) (cmd : Bytes) :
    LayoutStep E d (parseCommands E x d cmd).device := by
  have heffect := parseCommands_effect E x d cmd
  generalize (parseCommands E x d cmd).device = d' at heffect
  cases heffect with
  | scan => exact layoutStep_startScan x.now d
  | stop => exact layoutStep_stopScan d
  | calz => exact layoutStep_calZ d
  | settings => exact .same rfl rfl

theorem layoutStep_thread (h : threadStep E s = some s') :
    LayoutStep E s.device s'.device := by
  have heffect := threadStep_effect h
  generalize s'.device = d' at heffect
  cases heffect with
  | calEnd => exact .same rfl rfl
  | limitStop => exact layoutStep_stopScan s.device
  | random _ _ hsame =>
      rw [hsame]
      exact .same rfl rfl

theorem layoutStep_step (h : step E s a = some s') : LayoutStep E s.device s'.device := by
  cases a with
  | startScan now => rw [← Option.some_inj.1 h]; exact layoutStep_startScan now s.device
  | stopScan => rw [← Option.some_inj.1 h]; exact layoutStep_stopScan s.device
  | calZ => rw [← Option.some_inj.1 h]; exact layoutStep_calZ s.device
  | command x cmd => rw [← Option.some_inj.1 h]; exact layoutStep_parseCommands x s.device cmd
  | thread => exact layoutStep_thread h

/-- **The layout changes only when a scan begins**, and is then the one for the configuration. -/
theorem step_layout (h : step E s a = some s') :
    s'.device.layout =
      if s.begins s' then (configureScanLayout E s.device).layout else s.device.layout := by
  rcases layoutStep_step h with ⟨hlayout, hscan⟩ | ⟨hbefore, hafter, -, hlayout⟩
  · have hbegins : s.begins s' = false := by
      cases hs : s.device.scanning <;> cases hs' : s'.device.scanning <;> simp_all [Scanner.begins]
    rw [hbegins]
    exact hlayout
  · simp [Scanner.begins, hbefore, hafter, hlayout]

/-- A step of the device assigns to the configuration only what a command does. -/
theorem step_cfg {s s' : Scanner} {a : ScanAction} (h : step E s a = some s') :
    ReflTransGen (CfgStep E) s.device.cfg s'.device.cfg := by
  cases a with
  | startScan now => rw [← Option.some_inj.1 h]; simp only [startScan_cfg]; exact .refl
  | stopScan => rw [← Option.some_inj.1 h]; simp only [stopScan_cfg]; exact .refl
  | calZ => rw [← Option.some_inj.1 h]; exact .refl
  | command x cmd => rw [← Option.some_inj.1 h]; exact parseCommands_cfg E x s.device cmd
  | thread => rw [(threadStep_settings h).1]

end MpsEmulator
