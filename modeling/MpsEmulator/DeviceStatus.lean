/-
**When `STATUS` tells the truth.**

`m_Status` is meant to say which of the two activities is going on: `SCAN` while `m_Scanning` is
set, and `READY` only while neither `m_Scanning` nor `m_Calibrating` is.  The two activities are
not kept apart, however.  `CalZ` does not look whether a scan is running, the end of a calibration
sets `READY` without looking either, and `StopScan` sets `READY` although a calibration may be
pending.

* `StatusOk` — what `m_Status` should say;
* `NoOverlap` — the step is none of these three in the wrong state;
* `DeviceStep.statusOk_iff` — from a state in which the status is right, a step keeps it right
  exactly if it does not overlap;
* `status_throughout_iff` — **the status is right throughout a run exactly if no step of it
  overlaps**;
* `ready_while_scanning` — a run in which `STATUS` says `READY` during a scan.
-/

import MpsEmulator.ScanThread

set_option relaxedAutoImplicit false
set_option autoImplicit false

namespace MpsEmulator

/-- What the status should say about the two flags. -/
def StatusOk (d : Mps) : Prop :=
  (d.status = .scan ↔ d.scanning = true) ∧
    (d.status = .ready → d.scanning = false ∧ d.calibrating = false)

instance (d : Mps) : Decidable (StatusOk d) :=
  inferInstanceAs (Decidable ((d.status = .scan ↔ d.scanning = true) ∧
    (d.status = .ready → d.scanning = false ∧ d.calibrating = false)))

/-- The change does not bring a scan and a calibration together: no `CalZ` and no end of a
calibration while scanning, and no end of a scan while `m_Calibrating` is set. -/
def FlagChange.NoOverlap (d : Mps) : FlagChange → Prop
  | .calibrate | .calibrated => d.scanning = false
  | .stop => d.scanning = true → d.calibrating = false
  | .start _ | .none => True

/-- The step does not bring a scan and a calibration together. -/
def NoOverlap (s : Scanner) (a : ScanAction) : Prop := (flagChange s a).NoOverlap s.device

variable {E : Env}

/-- From a device with the right status, a change leads to one exactly if it does not overlap. -/
theorem DeviceStep.statusOk_iff {d d' : Mps} {c : FlagChange} (hok : StatusOk d)
    (h : DeviceStep E d c d') : StatusOk d' ↔ c.NoOverlap d := by
  cases h with
  | start now =>
      refine iff_of_true ?_ trivial
      cases hs : d.scanning with
      | true => rwa [startScan_of_scanning hs]
      | false =>
          obtain ⟨hscan, hstatus, -⟩ := startScan_of_not_scanning E now hs
          rw [StatusOk, hscan, hstatus]
          simp
  | stop =>
      cases hs : d.scanning with
      | false =>
          rw [stopScan_of_not_scanning hs]
          exact iff_of_true hok (by simp [FlagChange.NoOverlap, hs])
      | true =>
          rw [stopScan_device_of_scanning hs]
          simp [StatusOk, FlagChange.NoOverlap, hs]
  | calibrate => cases hs : d.scanning <;> simp [StatusOk, FlagChange.NoOverlap, calZ, hs]
  | calibrated => cases hs : d.scanning <;> simp [StatusOk, FlagChange.NoOverlap, hs]
  | none hsame =>
      refine iff_of_true ?_ trivial
      rwa [StatusOk, hsame.status, hsame.scanning, hsame.calibrating]

/-- The status of a device that was just started is right. -/
theorem statusOk_start (cfg : MpsConfig) : StatusOk (Scanner.start cfg).device := by
  have hstatus : (Scanner.start cfg).device.status = .ready := rfl
  have hscan : (Scanner.start cfg).device.scanning = false := rfl
  have hcal : (Scanner.start cfg).device.calibrating = false := rfl
  rw [StatusOk, hstatus, hscan, hcal]
  simp

/-- In every run of a device, the status is right in all states **exactly if** no step overlaps. -/
theorem status_throughout_iff (E : Env) (cfg : MpsConfig) (as : List ScanAction) :
    Runs.Throughout (step E) (fun s => StatusOk s.device) (Scanner.start cfg) as ↔
      Runs.Along (step E) NoOverlap (Scanner.start cfg) as := by
  refine Runs.throughout_iff_along (J := fun _ => True) ?_ ?_ trivial (statusOk_start cfg)
  · intro s a s' _ _
    trivial
  · intro s a s' _ hok h
    exact (step_device h).statusOk_iff hok

/-- A client asks for a calibration, the thread begins it, a client starts a scan within the two
seconds, and the calibration ends. -/
def calibrationThenScan : List ScanAction :=
  [.calZ, .thread, .thread, .startScan { steady := 0, system := 0 }, .thread]

/-- The end of the calibration reports `READY` while the scan goes on. -/
theorem ready_while_scanning :
    (Runs.exec (step referenceEnv) (Scanner.start (attachConfig mps4264 1)) calibrationThenScan).map
        (fun s => (s.device.status, s.device.scanning)) = some (.ready, true) ∧
      ¬ Runs.Throughout (step referenceEnv) (fun s => StatusOk s.device)
        (Scanner.start (attachConfig mps4264 1)) calibrationThenScan := by
  decide +kernel

end MpsEmulator
