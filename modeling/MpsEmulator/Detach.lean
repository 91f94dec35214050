/-
**The three pointers that are cleared while the layer is taken down.**

`~Application` clears the pointer to itself, and `OnDetach` resets `m_Device` and `m_Server`, while
clients, the console and the scan thread still call into the layer.  Some of their paths test a
pointer before they use it, some test it once and use it later, some do not test it at all; and the
device's own destructor may call back into the layer that has just reset its pointer.

* `Path` — what a thread is still going to do with the pointers, as a tree of its tests and uses;
* `Path.onStatusChanged`, `Path.onCommand`, …, `Path.onDetach` — the paths of the source;
* `Detach`, `Detach.step` — any number of threads inside the layer, and the main thread;
* `Path.safe` — a path that uses no pointer that is null, whatever it finds;
* `Orderly` — the condition on a step;
* `no_null_dereference` — **over any run of orderly steps no null pointer is used**;
* `null_dereferences` — three runs in which one is.

An assignment of `nullptr` to a `unique_ptr` sets the pointer first and then runs the destructor of
the object.
-/

import MpsEmulator.Runs
import MpsEmulator.ServerLayer

set_option relaxedAutoImplicit false
set_option autoImplicit false

namespace MpsEmulator

open Function

/-! ### Paths -/

/-- The pointers: `s_Instance` of the application, `m_Device` and `m_Server`. -/
inductive Pointer
  | app
  | device
  | server
  deriving DecidableEq

/-- The threads that call into the layer: those of the control server, those of the binary server,
the one of the console, and the scan thread. -/
inductive Caller
  | control
  | binary
  | console
  | scan
  deriving DecidableEq

/-- What a thread is still going to do: use a pointer, test it, test something else, read or write
whether the device is scanning and whether its status is `READY`, reset a pointer, or wait for the
threads of a kind to end. -/
inductive Path
  | done
  | deref (p : Pointer) (k : Path)
  | test (p : Pointer) (yes no : Path)
  | branch (yes no : Path)
  | ifScanning (yes no : Path)
  | ifReady (yes no : Path)
  | setScanning (scanning : Bool) (k : Path)
  | setReady (ready : Bool) (k : Path)
  | reset (p : Pointer) (k : Path)
  | join (c : Caller) (k : Path)
  deriving DecidableEq

namespace Path

/-- `ServerLayer::OnStatusChanged`.  The last test is that of the active client. -/
def onStatusChanged (k : Path) : Path :=
  .deref .device <| .deref .device <|
    .ifReady (.test .server (.branch (.deref .server k) k) k) k

/-- `Mps::StartScan`. -/
def startScan (k : Path) : Path :=
  .ifScanning k (.setScanning true (.setReady false (onStatusChanged k)))

/-- `Mps::StopScan`. -/
def stopScan (k : Path) : Path :=
  .ifScanning (.setScanning false (.ifReady k (.setReady true (onStatusChanged k)))) k

/-- `Mps::CalZ`. -/
def calZ (k : Path) : Path := .setReady false (onStatusChanged k)

/-- `Mps::ParseCommands`. -/
def parseCommands (line : Bytes) (k : Path) : Path :=
  match verb line with
  | some .calz => calZ k
  | some .scan => startScan k
  | some .stop => stopScan k
  | _ => k

/-- The line makes `OnCommand` do no more than answer with a prompt. -/
def isBlank (line : Bytes) : Bool := line.headD '\x00' = '\r' ∨ line = []

/-- `OnCommand` from the first complete line on. -/
def dispatchLine (enableConsole : Bool) (line : Bytes) : Path :=
  if isBlank line then .deref .server .done
  else if isOneOf line ["shutdown", "SHUTDOWN"] then
    if enableConsole then .deref .server (.deref .app .done) else .deref .app .done
  else if isOneOf line ["restart", "RESTART", "reboot", "REBOOT"] then
    if enableConsole then .test .server (.deref .server (.deref .app .done)) (.deref .app .done)
    else .deref .app .done
  else .test .device (.deref .device (parseCommands line (.deref .server .done))) .done

/-- `OnCommand` after its permission check: no line, if the segment only edits the buffer. -/
def onLine (enableConsole : Bool) : Option Bytes → Path
  | some line => dispatchLine enableConsole line
  | none => .done

/-- `ServerLayer::OnDataReceived`, for a client that may or may not be the active one. -/
def onDataReceived (enableConsole : Bool) (line : Option Bytes) : Path :=
  .test .server (.branch (.deref .server .done) (onLine enableConsole line))
    (onLine enableConsole line)

/-- `ServerLayer::OnClientConnected`; the tests are those of the active client. -/
def onClientConnected : Path :=
  .branch .done (.branch (.deref .server (.deref .server .done)) (.deref .server .done))

/-- `ServerLayer::OnTCPBinaryDataReceived`. -/
def onTCPBinaryDataReceived (segment : Bytes) : Path :=
  .test .device
    (match segment with
      | '\x01' :: _ => .deref .device (startScan .done)
      | '\x00' :: _ => .deref .device (stopScan .done)
      | _ => .done)
    .done

/-- `ServerLayer::OnConsoleInput` for a text that is sent to the clients. -/
def onConsoleText : Path := .test .server (.deref .server .done) .done

/-- `ServerLayer::OnConsoleInput` for a command; id 0 passes the permission check. -/
def onConsoleLine (enableConsole : Bool) (line : Option Bytes) : Path :=
  .test .server (onLine enableConsole line) (onLine enableConsole line)

/-- The second half of `OnScanFrame`, and all of `OnLabviewFrame`: a client is connected, and the
format is the right one. -/
def onBinaryFrame : Path := .branch (.deref .device .done) .done

/-- `ServerLayer::OnScanFrame`. -/
def onScanFrame : Path :=
  .test .device
    (.deref .device (.branch
      (.deref .device (.branch
        (.deref .device (.deref .device (.deref .server onBinaryFrame)))
        onBinaryFrame))
      onBinaryFrame))
    onBinaryFrame

/-- `Mps::Shutdown`: the scan is stopped, and the scan thread is waited for. -/
def shutdown (k : Path) : Path := stopScan (.join .scan k)

/-- `~Application` with `ServerLayer::OnDetach`.  The destructors of the device and of the server
call `Shutdown` and `Stop` once more; the console is destroyed with the layer. -/
def onDetach : Path :=
  let afterServer := Path.reset .server (.join .control (.join .binary (.join .console .done)))
  let afterDevice := Path.reset .device (shutdown
    (.test .server (.deref .server (.join .control afterServer)) afterServer))
  .reset .app (.test .device (.deref .device (shutdown afterDevice)) afterDevice)

end Path

/-! ### Runs -/

/-- What comes in from outside. -/
inductive Source
  | connected
  | control (line : Option Bytes)
  | binary (segment : Bytes)
  | consoleLine (line : Option Bytes)
  | consoleText
  | scanFrame
  | labviewFrame
  | limit
  | calibrated
  deriving DecidableEq

def Source.caller : Source → Caller
  | .connected | .control _ => .control
  | .binary _ => .binary
  | .consoleLine _ | .consoleText => .console
  | .scanFrame | .labviewFrame | .limit | .calibrated => .scan

def Source.path (enableConsole : Bool) : Source → Path
  | .connected => .onClientConnected
  | .control line => .onDataReceived enableConsole line
  | .binary segment => .onTCPBinaryDataReceived segment
  | .consoleLine line => .onConsoleLine enableConsole line
  | .consoleText => .onConsoleText
  | .scanFrame => .onScanFrame
  | .labviewFrame => .onBinaryFrame
  | .limit => .stopScan .done
  | .calibrated => .setReady true (.onStatusChanged .done)

/-- The layer while it is taken down.  `fault` is the null pointer that was used last, if one
was. -/
structure Detach where
  /-- The pointer is not null. -/
  set : Pointer → Bool
  scanning : Bool
  /-- The status of the device is `READY`. -/
  ready : Bool
  /-- The threads of this kind have ended. -/
  joined : Caller → Bool
  main : Path
  threads : List (Caller × Path)
  fault : Option Pointer

/-- The main thread is about to run `~Application`, with the device in any state. -/
def Detach.init (scanning ready : Bool) : Detach where
  set _ := true
  scanning := scanning
  ready := ready
  joined _ := false
  main := .onDetach
  threads := []
  fault := none

/-- One step along a path; `choice` is the outcome of a test of something else. -/
def Detach.advance (s : Detach) (choice : Bool) : Path → Option (Detach × Path)
  | .done => none
  | .deref p k => if s.set p then some (s, k) else some ({ s with fault := some p }, .done)
  | .test p yes no => some (s, if s.set p then yes else no)
  | .branch yes no => some (s, if choice then yes else no)
  | .ifScanning yes no => some (s, if s.scanning then yes else no)
  | .ifReady yes no => some (s, if s.ready then yes else no)
  | .setScanning scanning k => some ({ s with scanning := scanning }, k)
  | .setReady ready k => some ({ s with ready := ready }, k)
  | .reset p k => some ({ s with set := update s.set p false }, k)
  | .join c k =>
      if ∀ t ∈ s.threads, t.1 = c → t.2 = .done then
        some ({ s with joined := update s.joined c true }, k)
      else none

/-- Something comes in, a thread inside the layer moves, or the main thread does. -/
inductive DetachAction
  | enter (source : Source)
  | run (i : ℕ) (choice : Bool)
  | main (choice : Bool)
  deriving DecidableEq

/-- One step. -/
def Detach.step (enableConsole : Bool) (s : Detach) : DetachAction → Option Detach
  | .enter source =>
      if s.joined source.caller then none
      else some { s with threads := s.threads ++ [(source.caller, source.path enableConsole)] }
  | .run i choice =>
      s.threads[i]?.bind fun t =>
        (s.advance choice t.2).map fun r => { r.1 with threads := s.threads.set i (t.1, r.2) }
  | .main choice => (s.advance choice s.main).map fun r => { r.1 with main := r.2 }

/-! ### Paths that use no null pointer -/

namespace Path

/-- With these pointers set, and whatever is found and reset by nobody else, the path of a thread
uses no null pointer, and starts no scan once the device is gone.  A scan that is running is one of
a device that is there. -/
def safe (set : Pointer → Bool) : Path → Bool
  | .done => true
  | .deref p k => set p && safe set k
  | .test p yes no => (!set p || safe set yes) && safe set no
  | .branch yes no | .ifReady yes no => safe set yes && safe set no
  | .ifScanning yes no => (!set .device || safe set yes) && safe set no
  | .setScanning scanning k => (set .device || !scanning) && safe set k
  | .setReady _ k => safe set k
  | .reset _ _ | .join _ _ => false

/-- The same for the path of the main thread, which is alone in resetting pointers: it resets the
device when the scan thread has ended, and the server last, when its threads have. -/
def tearsDown (set : Pointer → Bool) (joined : Caller → Bool) : Path → Bool
  | .done => true
  | .deref p k => set p && tearsDown set joined k
  | .test p yes no => if set p then tearsDown set joined yes else tearsDown set joined no
  | .branch yes no | .ifReady yes no => tearsDown set joined yes && tearsDown set joined no
  | .ifScanning yes no => (!set .device || tearsDown set joined yes) && tearsDown set joined no
  | .setScanning scanning k => (set .device || !scanning) && tearsDown set joined k
  | .setReady _ k => tearsDown set joined k
  | .reset .app k => tearsDown (update set .app false) joined k
  | .reset .device k => joined .scan && tearsDown (update set .device false) joined k
  | .reset .server k =>
      (joined .control && !set .device && !set .app) &&
        tearsDown (update set .server false) joined k
  | .join c k => tearsDown set (update joined c true) k

variable {set : Pointer → Bool}

@[simp] theorem safe_done : safe set .done = true := rfl

/-- The callback of the device is safe while the device is there. -/
theorem safe_onStatusChanged {k : Path} (hdevice : set .device) (hk : safe set k) :
    safe set (onStatusChanged k) := by
  simp only [onStatusChanged, safe, hdevice, hk]
  cases set .server <;> rfl

theorem safe_startScan {k : Path} (hdevice : set .device) (hk : safe set k) :
    safe set (startScan k) := by
  simp [startScan, safe, hdevice, hk, safe_onStatusChanged hdevice hk]

/-- A scan can be stopped at any time: without the device none is running. -/
theorem safe_stopScan {k : Path} (hk : safe set k) : safe set (stopScan k) := by
  by_cases hdevice : set .device
  · simp [stopScan, safe, hk, safe_onStatusChanged hdevice hk]
  · simp [stopScan, safe, hk, hdevice]

theorem safe_parseCommands {line : Bytes} {k : Path} (hdevice : set .device) (hk : safe set k) :
    safe set (parseCommands line k) := by
  unfold parseCommands
  split
  · exact safe_onStatusChanged hdevice hk
  · exact safe_startScan hdevice hk
  · exact safe_stopScan hk
  · exact hk

end Path

/-- `OnCommand` takes the line for a request to stop the application. -/
def asksForStop (line : Bytes) : Bool :=
  isOneOf line ["shutdown", "SHUTDOWN"] || isOneOf line ["restart", "RESTART", "reboot", "REBOOT"]

namespace Path

variable {set : Pointer → Bool} {enableConsole : Bool}

/-- A command is safe with the server there, and with the application there if it asks for it. -/
theorem safe_dispatchLine {line : Bytes} (hserver : set .server)
    (happ : asksForStop line → set .app) : safe set (dispatchLine enableConsole line) := by
  unfold dispatchLine
  split_ifs with hblank hshutdown hconsole hrestart hconsole
  · simp [safe, hserver]
  · simp [safe, hserver, happ (by simp [asksForStop, hshutdown])]
  · simp [safe, happ (by simp [asksForStop, hshutdown])]
  · simp [safe, hserver, happ (by simp [asksForStop, hrestart])]
  · simp [safe, happ (by simp [asksForStop, hrestart])]
  · have hk : safe set (.deref .server .done) := by simp [safe, hserver]
    by_cases hdevice : set .device
    · simp [safe, hdevice, safe_parseCommands hdevice hk]
    · simp [safe, hdevice]

/-- Without the server, and so without the device and the application, only a line that is neither
blank nor a request to stop is safe. -/
theorem safe_dispatchLine_of_not_device {line : Bytes} (hdevice : ¬ set .device)
    (hblank : ¬ isBlank line) (hstop : ¬ asksForStop line) :
    safe set (dispatchLine enableConsole line) := by
  simp only [asksForStop, Bool.or_eq_true, not_or] at hstop
  rw [dispatchLine, if_neg hblank, if_neg hstop.1, if_neg hstop.2]
  simp [safe, hdevice]

/-- A segment of a binary client tests the device before it is used. -/
theorem safe_onTCPBinaryDataReceived (segment : Bytes) :
    safe set (onTCPBinaryDataReceived segment) := by
  unfold onTCPBinaryDataReceived
  by_cases hdevice : set .device
  · have hstart : safe set (startScan .done) := safe_startScan hdevice rfl
    have hstop : safe set (stopScan .done) := safe_stopScan rfl
    simp only [safe, hdevice, Bool.not_true, Bool.false_or, Bool.and_true]
    split
    · simp [safe, hdevice, hstart]
    · simp [safe, hdevice, hstop]
    · rfl
  · simp [safe, hdevice]

end Path

/-! ### Orderly steps -/

/-- The pointer the main thread resets next. -/
def Path.resets : Path → Option Pointer
  | .reset p _ => some p
  | _ => none

/-- The line that is handed to `OnCommand`, if there is one. -/
def Source.command : Source → Option Bytes
  | .control line | .consoleLine line => line
  | _ => none

/-- A pointer is reset only when no thread is on a path that may use it untested, the device only
when no scan runs; a request to stop comes in before the application is cleared, and a blank command
before the server is. -/
def Orderly (s : Detach) : DetachAction → Prop
  | .enter source =>
      ∀ line ∈ source.command,
        (asksForStop line → s.set .app) ∧ (Path.isBlank line → s.set .server)
  | .run _ _ => True
  | .main _ =>
      ∀ p ∈ s.main.resets,
        (∀ t ∈ s.threads, t.2.safe (update s.set p false)) ∧ (p = .device → s.scanning = false)

instance (s : Detach) : ∀ a, Decidable (Orderly s a)
  | .enter source =>
      inferInstanceAs (Decidable (∀ line ∈ source.command,
        (asksForStop line → s.set .app) ∧ (Path.isBlank line → s.set .server)))
  | .run _ _ => inferInstanceAs (Decidable True)
  | .main _ =>
      inferInstanceAs (Decidable (∀ p ∈ s.main.resets,
        (∀ t ∈ s.threads, t.2.safe (update s.set p false)) ∧
          (p = .device → s.scanning = false)))

/-- What orderly steps preserve. -/
structure Detach.Sound (s : Detach) : Prop where
  fault : s.fault = none
  main : s.main.tearsDown s.set s.joined
  threads : ∀ t ∈ s.threads, t.2.safe s.set
  scanning : ¬ s.set .device → s.scanning = false
  device : ¬ s.set .device → s.joined .scan
  server : ¬ s.set .server → s.joined .control ∧ ¬ s.set .device ∧ ¬ s.set .app

/-- A thread on a safe path stays on one; it uses no null pointer, and starts no scan without the
device. -/
theorem advance_of_safe {s : Detach} {choice : Bool} {path : Path} {r : Detach × Path}
    (hpath : path.safe s.set) (hscan : ¬ s.set .device → s.scanning = false)
    (h : s.advance choice path = some r) :
    ∃ scanning ready, r.1 = { s with scanning := scanning, ready := ready } ∧
      r.2.safe s.set ∧ (¬ s.set .device → scanning = false) := by
  cases path with
  | done => cases h
  | deref p k =>
      obtain ⟨hp, hk⟩ := Bool.and_eq_true_iff.1 hpath
      simp only [Detach.advance, hp, if_true, Option.some.injEq] at h
      subst h
      exact ⟨s.scanning, s.ready, rfl, hk, hscan⟩
  | test p yes no =>
      obtain ⟨hyes, hno⟩ := Bool.and_eq_true_iff.1 hpath
      obtain rfl := Option.some_inj.1 h
      refine ⟨s.scanning, s.ready, rfl, ?_, hscan⟩
      cases hp : s.set p <;> simp_all
  | branch yes no =>
      obtain ⟨hyes, hno⟩ := Bool.and_eq_true_iff.1 hpath
      obtain rfl := Option.some_inj.1 h
      refine ⟨s.scanning, s.ready, rfl, ?_, hscan⟩
      cases choice <;> assumption
  | ifScanning yes no =>
      obtain ⟨hyes, hno⟩ := Bool.and_eq_true_iff.1 hpath
      obtain rfl := Option.some_inj.1 h
      refine ⟨s.scanning, s.ready, rfl, ?_, hscan⟩
      by_cases hdevice : s.set .device
      · cases s.scanning <;> simp_all
      · simpa [hscan hdevice] using hno
  | ifReady yes no =>
      obtain ⟨hyes, hno⟩ := Bool.and_eq_true_iff.1 hpath
      obtain rfl := Option.some_inj.1 h
      refine ⟨s.scanning, s.ready, rfl, ?_, hscan⟩
      cases s.ready <;> assumption
  | setScanning scanning k =>
      obtain ⟨hstart, hk⟩ := Bool.and_eq_true_iff.1 hpath
      obtain rfl := Option.some_inj.1 h
      refine ⟨scanning, s.ready, rfl, hk, fun hdevice => ?_⟩
      simpa [hdevice] using hstart
  | setReady ready k =>
      obtain rfl := Option.some_inj.1 h
      exact ⟨s.scanning, ready, rfl, hpath, hscan⟩
  | reset p k => cases hpath
  | join c k => cases hpath

/-- What comes in starts on a safe path. -/
theorem safe_source {s : Detach} {enableConsole : Bool} {source : Source} (hs : s.Sound)
    (horderly : Orderly s (.enter source)) (hjoined : ¬ s.joined source.caller) :
    (source.path enableConsole).safe s.set := by
  have hcontrol : source.caller = .control → s.set .server := by
    intro hc
    by_contra hserver
    exact hjoined (hc ▸ (hs.server hserver).1)
  have hscan : source.caller = .scan → s.set .device := by
    intro hc
    by_contra hdevice
    exact hjoined (hc ▸ hs.device hdevice)
  have hserver : s.set .device → s.set .server := by
    intro hdevice
    by_contra hserver
    exact (hs.server hserver).2.1 hdevice
  -- a line is safe with the server, and without it if it is neither blank nor a request to stop
  have hline : ∀ line ∈ source.command, (Path.dispatchLine enableConsole line).safe s.set := by
    intro line hmem
    by_cases hset : s.set .server
    · exact Path.safe_dispatchLine hset (horderly line hmem).1
    · obtain ⟨-, hdevice, happ⟩ := hs.server hset
      exact Path.safe_dispatchLine_of_not_device hdevice
        (fun hblank => hset ((horderly line hmem).2 hblank))
        (fun hstop => happ ((horderly line hmem).1 hstop))
  have honLine : ∀ line, source.command = line →
      (Path.onLine enableConsole line).safe s.set := by
    intro line hcommand
    cases line with
    | none => rfl
    | some line => exact hline line hcommand
  cases source with
  | connected => simp [Source.path, Path.onClientConnected, Path.safe, hcontrol rfl]
  | control line =>
      simp [Source.path, Path.onDataReceived, Path.safe, hcontrol rfl, honLine line rfl]
  | binary segment => exact Path.safe_onTCPBinaryDataReceived segment
  | consoleLine line => simp [Source.path, Path.onConsoleLine, Path.safe, honLine line rfl]
  | consoleText =>
      simp only [Source.path, Path.onConsoleText, Path.safe]
      cases s.set .server <;> rfl
  | scanFrame =>
      have hdevice := hscan rfl
      simp [Source.path, Path.onScanFrame, Path.onBinaryFrame, Path.safe, hdevice,
        hserver hdevice]
  | labviewFrame => simp [Source.path, Path.onBinaryFrame, Path.safe, hscan rfl]
  | limit => exact Path.safe_stopScan rfl
  | calibrated => exact Path.safe_onStatusChanged (hscan rfl) rfl

/-! ### No null pointer is used -/

theorem Detach.Sound.init (scanning ready : Bool) : (Detach.init scanning ready).Sound where
  fault := rfl
  main := by
    change Path.tearsDown (fun _ => true) (fun _ => false) Path.onDetach
    decide
  threads _ ht := nomatch ht
  scanning h := absurd rfl h
  device h := absurd rfl h
  server h := absurd rfl h

/-- The main thread moves on without a change of the pointers. -/
theorem Detach.Sound.moveOn {s : Detach} (hs : s.Sound) {scanning : Bool} (ready : Bool)
    {main : Path} (hmain : main.tearsDown s.set s.joined)
    (hscan : ¬ s.set .device → scanning = false) :
    ({ s with scanning := scanning, ready := ready, main := main } : Detach).Sound :=
  ⟨hs.fault, hmain, hs.threads, hscan, hs.device, hs.server⟩

/-- The main thread resets a pointer. -/
theorem Detach.Sound.reset {s : Detach} (hs : s.Sound) {p : Pointer} {k : Path}
    (hpath : (Path.reset p k).tearsDown s.set s.joined)
    (hthreads : ∀ t ∈ s.threads, t.2.safe (update s.set p false))
    (hscan : p = .device → s.scanning = false) :
    ({ s with set := update s.set p false, main := k } : Detach).Sound := by
  cases p with
  | app =>
      exact ⟨hs.fault, hpath, hthreads, hs.scanning, hs.device, fun h =>
        ⟨(hs.server h).1, (hs.server h).2.1, by simp⟩⟩
  | device =>
      obtain ⟨hjoined, hk⟩ := Bool.and_eq_true_iff.1 hpath
      exact ⟨hs.fault, hk, hthreads, fun _ => hscan rfl, fun _ => hjoined, fun h =>
        ⟨(hs.server h).1, by simp, (hs.server h).2.2⟩⟩
  | server =>
      obtain ⟨hbefore, hk⟩ := Bool.and_eq_true_iff.1 hpath
      simp only [Bool.and_eq_true, Bool.not_eq_true'] at hbefore
      obtain ⟨⟨hjoined, hdevice⟩, happ⟩ := hbefore
      exact ⟨hs.fault, hk, hthreads, hs.scanning, hs.device, fun _ =>
        ⟨hjoined, by simpa using hdevice, by simpa using happ⟩⟩

/-- The threads of one kind have ended. -/
theorem Detach.Sound.join {s : Detach} (hs : s.Sound) {c : Caller} {k : Path}
    (hk : k.tearsDown s.set (update s.joined c true)) :
    ({ s with joined := update s.joined c true, main := k } : Detach).Sound := by
  have hmono : ∀ c', s.joined c' → update s.joined c true c' := by
    intro c' hc'
    by_cases heq : c' = c
    · simp [heq]
    · simpa [update_of_ne heq] using hc'
  exact ⟨hs.fault, hk, hs.threads, hs.scanning, fun h => hmono _ (hs.device h), fun h =>
    ⟨hmono _ (hs.server h).1, (hs.server h).2⟩⟩

/-- An orderly step of the main thread. -/
theorem sound_main {s : Detach} (hs : s.Sound) {choice : Bool}
    (horderly : Orderly s (.main choice)) {r : Detach × Path}
    (h : s.advance choice s.main = some r) : ({ r.1 with main := r.2 } : Detach).Sound := by
  have hpath := hs.main
  simp only [Orderly] at horderly
  generalize hmain : s.main = path at h hpath horderly
  cases path with
  | done => cases h
  | deref p k =>
      obtain ⟨hp, hk⟩ := Bool.and_eq_true_iff.1 hpath
      simp only [Detach.advance, hp, if_true, Option.some.injEq] at h
      subst h
      exact hs.moveOn s.ready hk hs.scanning
  | test p yes no =>
      obtain rfl := Option.some_inj.1 h
      refine hs.moveOn s.ready ?_ hs.scanning
      rw [Path.tearsDown] at hpath
      split_ifs at hpath ⊢ <;> assumption
  | branch yes no =>
      obtain ⟨hyes, hno⟩ := Bool.and_eq_true_iff.1 hpath
      obtain rfl := Option.some_inj.1 h
      refine hs.moveOn s.ready ?_ hs.scanning
      cases choice <;> assumption
  | ifScanning yes no =>
      obtain ⟨hyes, hno⟩ := Bool.and_eq_true_iff.1 hpath
      obtain rfl := Option.some_inj.1 h
      refine hs.moveOn s.ready ?_ hs.scanning
      by_cases hdevice : s.set .device
      · cases s.scanning <;> simp_all
      · simpa [hs.scanning hdevice] using hno
  | ifReady yes no =>
      obtain ⟨hyes, hno⟩ := Bool.and_eq_true_iff.1 hpath
      obtain rfl := Option.some_inj.1 h
      refine hs.moveOn s.ready ?_ hs.scanning
      cases s.ready <;> assumption
  | setScanning scanning k =>
      obtain ⟨hstart, hk⟩ := Bool.and_eq_true_iff.1 hpath
      obtain rfl := Option.some_inj.1 h
      refine hs.moveOn s.ready hk fun hdevice => ?_
      simpa [hdevice] using hstart
  | setReady ready k =>
      obtain rfl := Option.some_inj.1 h
      exact hs.moveOn ready hpath hs.scanning
  | reset p k =>
      obtain rfl := Option.some_inj.1 h
      obtain ⟨hthreads, hscan⟩ := horderly p rfl
      exact hs.reset hpath hthreads hscan
  | join c k =>
      simp only [Detach.advance] at h
      split_ifs at h
      obtain rfl := Option.some_inj.1 h
      exact hs.join hpath

/-- An orderly step keeps the pointers sound. -/
theorem sound_step {enableConsole : Bool} {s s' : Detach} {a : DetachAction} (hs : s.Sound)
    (horderly : Orderly s a) (h : Detach.step enableConsole s a = some s') : s'.Sound := by
  cases a with
  | enter source =>
      simp only [Detach.step] at h
      split_ifs at h with hjoined
      have hsafe : (source.path enableConsole).safe s.set := safe_source hs horderly hjoined
      obtain rfl := Option.some_inj.1 h
      refine ⟨hs.fault, hs.main, fun t ht => ?_, hs.scanning, hs.device, hs.server⟩
      rcases List.mem_append.1 ht with ht | ht
      · exact hs.threads t ht
      · rw [List.mem_singleton.1 ht]
        exact hsafe
  | run i choice =>
      obtain ⟨t, ht, hrun⟩ := Option.bind_eq_some_iff.1 h
      obtain ⟨r, hr, rfl⟩ := Option.map_eq_some_iff.1 hrun
      have hmem := List.mem_of_getElem? ht
      obtain ⟨scanning, ready, heq, hsafe, hscan⟩ :=
        advance_of_safe (hs.threads t hmem) hs.scanning hr
      rw [heq]
      refine ⟨hs.fault, hs.main, fun t' ht' => ?_, hscan, hs.device, hs.server⟩
      rcases List.mem_or_eq_of_mem_set ht' with ht' | rfl
      · exact hs.threads t' ht'
      · exact hsafe
  | main choice =>
      obtain ⟨r, hr, rfl⟩ := Option.map_eq_some_iff.1 h
      exact sound_main hs horderly hr

/-- **No null dereference.**  From any state of the device, over any run of orderly steps of the
main thread, the clients, the console and the scan thread, no null pointer is used. -/
theorem no_null_dereference (enableConsole scanning ready : Bool) (as : List DetachAction)
    (h : Runs.Along (Detach.step enableConsole) Orderly (.init scanning ready) as) :
    Runs.Throughout (Detach.step enableConsole) (fun s => s.fault = none)
      (.init scanning ready) as :=
  (Runs.throughout_of_along (fun _ _ _ hs horderly hstep => sound_step hs horderly hstep)
    (Detach.Sound.init scanning ready) h).mono fun _ hs => hs.fault

/-- The layer is taken down during a scan, while a frame and a command are handled. -/
def orderlyTeardown : List DetachAction :=
  .enter .scanFrame :: .enter (.control (some "STATUS".toList)) ::
    (List.replicate 10 (.run 0 true) ++ List.replicate 5 (.run 1 false) ++
      List.replicate 24 (.main true))

/-- It goes to its end, and uses no null pointer. -/
theorem no_null_dereference_orderlyTeardown :
    (Runs.exec (Detach.step true) (.init true false) orderlyTeardown).map (fun s => s.main) =
        some .done ∧
      Runs.Throughout (Detach.step true) (fun s => s.fault = none) (.init true false)
        orderlyTeardown :=
  ⟨by decide +kernel, no_null_dereference true true false orderlyTeardown (by decide +kernel)⟩

/-- A client asks for a shutdown when the application has forgotten itself. -/
def lateShutdown : List DetachAction :=
  .main true :: .enter (.control (some "shutdown".toList)) :: List.replicate 3 (.run 0 false)

/-- A binary client starts the scan again between `Shutdown` and the reset of `m_Device`, so that
the destructor of the device stops it and calls back. -/
def scanRestarted : List DetachAction :=
  List.replicate 14 (.main true) ++
    .enter (.binary ['\x01']) :: (List.replicate 8 (.run 0 true) ++ List.replicate 6 (.main true))

/-- A blank command comes from the console when `m_Server` has been reset. -/
def blankFromConsole : List DetachAction :=
  List.replicate 21 (.main true) ++
    .enter (.consoleLine (some ['\r'])) :: List.replicate 2 (.run 0 true)

/-- Each of the three pointers is used while it is null. -/
theorem null_dereferences :
    (Runs.exec (Detach.step false) (.init false true) lateShutdown).bind (fun s => s.fault) =
        some .app ∧
      (Runs.exec (Detach.step true) (.init true false) scanRestarted).bind (fun s => s.fault) =
        some .device ∧
      (Runs.exec (Detach.step true) (.init true false) blankFromConsole).bind (fun s => s.fault) =
        some .server := by
  decide +kernel

end MpsEmulator
