/-
**The emulator with its scan thread and its console.**

The model of the two servers leaves open what the scan thread makes of the device, and the model of
the scan thread leaves open who calls the device.  Here both run together, with the console: a
callback of a server, a line that is typed, or a step of the scan thread, in any order.

* `Machine`, `Machine.step` — the whole emulator;
* `LayerOutcome.calls`, `binaryCalls`, `Machine.calls` — what a step asks of the device;
* `machine_refines_scanner` — **whatever clients and the console do, the device and its thread do
  what they do for a run of calls**: what holds in all runs of the scanner holds here.
-/

import MpsEmulator.CommandBuffers
import MpsEmulator.Supersession
import MpsEmulator.ScanThread

set_option relaxedAutoImplicit false
set_option autoImplicit false

namespace MpsEmulator

/-! ### The system -/

/-- The servers with the layer and its device, and the scan thread of the device. -/
structure Machine where
  emulator : Emulator
  thread : ScanThread

/-- The emulator after `OnAttach`, with the scan thread before its first test. -/
def Machine.start (deviceId : MpsDeviceID) (serialNumber : ℕ) (enableConsole : Bool) : Machine where
  emulator := .start deviceId serialNumber enableConsole
  thread := (Scanner.start (attachConfig deviceId serialNumber)).thread

/-- A step of a server, a line from the console, or a step of the scan thread. -/
inductive MachineAction
  | server (p : Port) (x : Session) (a : ServerAction)
  | console (x : Session) (msg : Bytes)
  | scanThread

/-- One step. -/
def Machine.step (E : Env) (m : Machine) : MachineAction → Option Machine
  | .server p x a =>
      (Emulator.step E m.emulator (.server p x a)).map fun s => { m with emulator := s }
  | .console x msg =>
      let o := onConsoleInput E x m.emulator.layer msg
      some { m with
        emulator := { m.emulator with
          layer := o.layer
          requests := m.emulator.requests ++ o.requests } }
  | .scanThread =>
      match m.emulator.layer.device with
      | some d =>
          (threadStep E { device := d, thread := m.thread }).map fun s =>
            { emulator := { m.emulator with
                layer := { m.emulator.layer with device := some s.device } }
              thread := s.thread }
      | none => none

/-- The device and its thread. -/
def Machine.scanner (m : Machine) : Option Scanner :=
  m.emulator.layer.device.map fun d => { device := d, thread := m.thread }

/-! ### What is asked of the device -/

/-- The call that a callback of the control port, or a line of the console, makes. -/
def LayerOutcome.calls (x : Session) (o : LayerOutcome) : List ScanAction :=
  match o.dispatched with
  | some line => if o.requests = [] then [.command x line] else []
  | none => []

/-- The call that `OnTCPBinaryDataReceived` makes. -/
def binaryCalls (x : Session) : Bytes → List ScanAction
  | '\x01' :: _ => [.startScan x.now]
  | '\x00' :: _ => [.stopScan]
  | _ => []

/-- The calls that a data callback makes. -/
def Delivery.calls (E : Env) (l : ServerLayer) (v : Delivery) : List ScanAction :=
  match v.port with
  | .control => (onDataReceived E v.session l v.id v.seg).calls v.session
  | .binary => binaryCalls v.session v.seg

/-- What a step of the emulator is for the device and its thread. -/
def Machine.calls (E : Env) (m : Machine) : MachineAction → List ScanAction
  | .server p x a =>
      match m.emulator.delivery (.server p x a) with
      | some v => v.calls E m.emulator.layer
      | none => []
  | .console x msg => (onConsoleInput E x m.emulator.layer msg).calls x
  | .scanThread => [.thread]

variable {E : Env} {x : Session} {l : ServerLayer} {d : Mps} {t : ScanThread}

/-- A dispatched line does to the device what its calls do. -/
theorem dispatchLine_calls (hd : l.device = some d) (id : ℕ) (line : Bytes) :
    ∃ d', (dispatchLine E x l id line).layer.device = some d' ∧
      Runs.exec (step E) { device := d, thread := t } ((dispatchLine E x l id line).calls x) =
        some { device := d', thread := t } := by
  rcases dispatchLine_cases E x l id line with
    ⟨-, h⟩ | ⟨-, text, request, -, h⟩ | ⟨-, hnone, h⟩ | ⟨-, d₀, hd₀, h⟩
  · rw [h]
    exact ⟨d, hd, rfl⟩
  · rw [h]
    exact ⟨d, hd, rfl⟩
  · rw [hd] at hnone
    cases hnone
  · obtain rfl : d = d₀ := Option.some_inj.1 (hd.symm.trans hd₀)
    rw [h]
    exact ⟨_, rfl, rfl⟩

/-- So does a segment for the control port, and a command from the console. -/
theorem onCommand_calls (hd : l.device = some d) (id : ℕ) (cmd : Bytes) :
    ∃ d', (onCommand E x l id cmd).layer.device = some d' ∧
      Runs.exec (step E) { device := d, thread := t } ((onCommand E x l id cmd).calls x) =
        some { device := d', thread := t } := by
  unfold onCommand
  split
  · exact ⟨d, hd, rfl⟩
  · split
    · exact ⟨d, hd, rfl⟩
    · exact dispatchLine_calls (l := l.setCmd id []) hd id _

theorem onConsoleInput_calls (hd : l.device = some d) (msg : Bytes) :
    ∃ d', (onConsoleInput E x l msg).layer.device = some d' ∧
      Runs.exec (step E) { device := d, thread := t } ((onConsoleInput E x l msg).calls x) =
        some { device := d', thread := t } := by
  unfold onConsoleInput
  split
  · exact onCommand_calls hd 0 _
  · exact ⟨d, hd, rfl⟩

theorem onTCPBinaryDataReceived_calls (hd : l.device = some d) (cmd : Bytes) :
    ∃ d', (onTCPBinaryDataReceived E x l cmd).layer.device = some d' ∧
      Runs.exec (step E) { device := d, thread := t } (binaryCalls x cmd) =
        some { device := d', thread := t } := by
  unfold onTCPBinaryDataReceived
  rw [hd]
  split
  · next d₀ rest hsome =>
    obtain rfl := Option.some_inj.1 hsome
    exact ⟨_, rfl, rfl⟩
  · next d₀ rest hsome =>
    obtain rfl := Option.some_inj.1 hsome
    exact ⟨_, rfl, rfl⟩
  · next hstart hstop =>
    refine ⟨d, hd, ?_⟩
    unfold binaryCalls
    split
    · next rest => exact (hstart d rest rfl rfl).elim
    · next rest => exact (hstop d rest rfl rfl).elim
    · rfl

/-- Clients that come and go leave the device alone. -/
theorem disconnectCallback_device (p : Port) (l : ServerLayer) (id : ℕ) :
    (disconnectCallback p l id).device = l.device := by
  cases p with
  | control => exact (apply_ite ServerLayer.device _ _ _).trans (ite_self _)
  | binary => exact (apply_ite ServerLayer.device _ _ _).trans (ite_self _)

theorem recordClient_device (p : Port) (l : ServerLayer) (id : ℕ) (kicked : Bool) :
    (recordClient l id kicked p).device = l.device := by
  cases p with
  | control => cases kicked <;> rfl
  | binary => rfl

variable {s s' : Emulator} {p : Port} {a : ServerAction}

/-- A step of a server that runs no data callback leaves the device alone. -/
theorem Emulator.step_device_of_delivery (h : Emulator.step E s (.server p x a) = some s')
    (hv : s.delivery (.server p x a) = none) : s'.layer.device = s.layer.device := by
  obtain ⟨srv, e, hstep, rfl⟩ := Emulator.step_server h
  dsimp only
  generalize s.layer.client p = client at hstep
  cases hstep with
  | connectKick id old stage stage' hpc hnext =>
      cases stage with
      | callback => exact disconnectCallback_device p s.layer old
      | _ => rfl
  | kick n stage stage' hn hnext =>
      cases stage with
      | callback => exact disconnectCallback_device p s.layer _
      | _ => rfl
  | record id kicked hpc => exact recordClient_device p s.layer id kicked
  | loop a n started running h e hmover hold hnew horigin he =>
      obtain rfl | ⟨o, seg, rfl, hn, rfl⟩ := he
      · rfl
      · simp [Emulator.delivery, hn] at hv
  | _ => rfl

/-- **Every step of the emulator is, for the device and its thread, the calls it makes.** -/
theorem Machine.step_calls {m m' : Machine} {b : MachineAction} {sc : Scanner}
    (hm : m.scanner = some sc) (h : Machine.step E m b = some m') :
    ∃ sc', Runs.exec (MpsEmulator.step E) sc (m.calls E b) = some sc' ∧ m'.scanner = some sc' := by
  obtain ⟨d, hd, rfl⟩ := Option.map_eq_some_iff.1 hm
  have hscanner : ∀ {m' : Machine} {d'}, m'.thread = m.thread →
      m'.emulator.layer.device = some d' →
      m'.scanner = some { device := d', thread := m.thread } := by
    intro m' d' hthread hd'
    rw [Machine.scanner, hd', hthread]
    rfl
  cases b with
  | server p x a =>
      obtain ⟨s, hs, rfl⟩ := Option.map_eq_some_iff.1 h
      cases hv : m.emulator.delivery (.server p x a) with
      | none =>
          refine ⟨_, ?_, hscanner rfl ((Emulator.step_device_of_delivery hs hv).trans hd)⟩
          simp [Machine.calls, hv]
      | some v =>
          obtain ⟨hlayer, -⟩ := Emulator.step_delivery hv hs
          have hcalls : m.calls E (.server p x a) = v.calls E m.emulator.layer := by
            simp [Machine.calls, hv]
          rw [hcalls, Delivery.calls]
          cases hport : v.port with
          | control =>
              obtain ⟨d', hd', hexec⟩ :=
                onCommand_calls (E := E) (x := v.session) (t := m.thread) hd v.id v.seg
              refine ⟨_, hexec, hscanner rfl ?_⟩
              rw [hlayer, hport]
              exact hd'
          | binary =>
              obtain ⟨d', hd', hexec⟩ := onTCPBinaryDataReceived_calls (E := E) (x := v.session)
                (t := m.thread) hd v.seg
              refine ⟨_, hexec, hscanner rfl ?_⟩
              rw [hlayer, hport]
              exact hd'
  | console x msg =>
      obtain ⟨d', hd', hexec⟩ :=
        onConsoleInput_calls (E := E) (x := x) (t := m.thread) hd msg
      rw [← Option.some_inj.1 h]
      exact ⟨_, hexec, hscanner rfl hd'⟩
  | scanThread =>
      simp only [Machine.step, hd] at h
      obtain ⟨sc, hsc, rfl⟩ := Option.map_eq_some_iff.1 h
      exact ⟨sc, Runs.exec_cons_eq_some.2 ⟨sc, hsc, rfl⟩, rfl⟩

theorem Machine.scanner_start (deviceId : MpsDeviceID) (serialNumber : ℕ) (enableConsole : Bool) :
    (Machine.start deviceId serialNumber enableConsole).scanner =
      some (.start (attachConfig deviceId serialNumber)) := rfl

/-- What a run is for the device and its thread: the run of its calls. -/
theorem Machine.exec_scanner {m m' : Machine} {bs : List MachineAction} {sc : Scanner}
    (hm : m.scanner = some sc) (hrun : Runs.exec (Machine.step E) m bs = some m') :
    ∃ sc', Runs.exec (MpsEmulator.step E) sc
        (Runs.trace (Machine.step E) (Machine.calls E) m bs) = some sc' ∧
      m'.scanner = some sc' :=
  Runs.exec_trace (R := fun m sc => m.scanner = some sc)
    (fun _ _ _ _ hm h => Machine.step_calls hm h) hm hrun

/-- The calls of a run. -/
def Machine.trace (E : Env) : Machine → List MachineAction → List ScanAction :=
  Runs.trace (Machine.step E) (Machine.calls E)

/-- **The emulator refines the scanner**: in every run, with any clients on both ports and any lines
from the console, the device and its thread come to where the calls of the run bring the scanner on
its own. -/
theorem machine_refines_scanner (E : Env) (deviceId : MpsDeviceID) (serialNumber : ℕ)
    (enableConsole : Bool) (bs : List MachineAction) {m : Machine}
    (hrun : Runs.exec (Machine.step E) (.start deviceId serialNumber enableConsole) bs = some m) :
    ∃ sc, m.scanner = some sc ∧
      Runs.exec (MpsEmulator.step E) (.start (attachConfig deviceId serialNumber))
        (Machine.trace E (.start deviceId serialNumber enableConsole) bs) = some sc := by
  obtain ⟨sc, hexec, hsc⟩ := Machine.exec_scanner (Machine.scanner_start _ _ _) hrun
  exact ⟨sc, hsc, hexec⟩

/-- A client connects and sets the limit, the console sets the rate, and the scan thread goes on in
between. -/
def clientAndConsole : List MachineAction :=
  .server .control .quiet (.accept 5) :: List.replicate 4 (.server .control .quiet .acceptThread) ++
    [.server .control .quiet .start, .scanThread, .server .control .quiet (.handler 0),
      .server .control .quiet (.handler 0),
      .server .control .quiet (.recvData 0 "SET FPS 5\r\n".toList),
      .server .control .quiet (.handler 0), .scanThread, .console .quiet "/SET RATE 100".toList]

theorem machine_refines_scanner_console :
    Machine.trace referenceEnv (.start mps4216 1 true) clientAndConsole =
        [.thread, .command .quiet "SET FPS 5".toList, .thread,
          .command .quiet "SET RATE 100".toList] ∧
      ∃ m sc, Runs.exec (Machine.step referenceEnv) (.start mps4216 1 true) clientAndConsole =
          some m ∧ m.scanner = some sc ∧
        Runs.exec (MpsEmulator.step referenceEnv) (.start (attachConfig mps4216 1))
          (Machine.trace referenceEnv (.start mps4216 1 true) clientAndConsole) = some sc := by
  refine ⟨by decide +kernel, ?_⟩
  have hsome : (Runs.exec (Machine.step referenceEnv) (.start mps4216 1 true)
      clientAndConsole).isSome = true := by
    decide +kernel
  obtain ⟨m, hm⟩ := Option.isSome_iff_exists.1 hsome
  obtain ⟨sc, hsc, hexec⟩ := machine_refines_scanner referenceEnv _ _ _ _ hm
  exact ⟨m, sc, hm, hsc, hexec⟩

end MpsEmulator
