/-
**The callbacks of the layer, as paths of the pointers.**

While the layer is taken down, all that counts of a callback is which pointers it uses, and when.
What the callback sends, asks for and leaves behind is told elsewhere, for a layer whose pointers
are set.  Here the two are joined: a path that nobody disturbs can be followed to its end in such a
way that `m_Server` is used once for every string that is sent, and the application once for every
request, and the device is left as the callback leaves it.

* `Found`, `Path.Follows` — a thread alone on a path, while no pointer has been reset;
* `Path.Calls` — so many strings are sent and so many requests are made on the way;
* `calls_parseCommands`, `calls_dispatchLine`, `calls_onDataReceived`,
  `calls_onTCPBinaryDataReceived`, `calls_onClientConnected`, `calls_onConsoleInput` — **the paths
  are those of the callbacks**;
* `calls_onScanFrame`, `calls_calibrated` — and those of the scan thread;
* `Path.Follows.run` — the steps of a thread that follows its path;
* `Visits`, `Machine.sources` — threads that come in one after the other, and those of the emulator;
* `detach_of_machine` — **every run of the emulator leads to a state from which the layer can be
  taken down**, with all threads at their ends.
-/

import MpsEmulator.Detach
import MpsEmulator.FrameSinks
import MpsEmulator.WholeEmulator

set_option relaxedAutoImplicit false
set_option autoImplicit false

namespace MpsEmulator

/-! ### Following a path -/

/-- What the tests of a path find of the device: whether it is scanning, and whether its status is
`READY`. -/
structure Found where
  scanning : Bool
  ready : Bool

/-- What they find of this device. -/
def Mps.found (d : Mps) : Found :=
  { scanning := d.scanning, ready := decide (d.status = .ready) }

/-- A thread can follow the path to its end, alone and while no pointer has been reset; it uses
these pointers, and leaves the device like this. -/
inductive Path.Follows : Path → Found → List Pointer → Found → Prop
  | done (f : Found) : Follows .done f [] f
  | deref {p : Pointer} {k : Path} {f f' : Found} {uses : List Pointer} (h : Follows k f uses f') :
      Follows (.deref p k) f (p :: uses) f'
  | test {p : Pointer} {yes no : Path} {f f' : Found} {uses : List Pointer}
      (h : Follows yes f uses f') : Follows (.test p yes no) f uses f'
  | branch (choice : Bool) {yes no : Path} {f f' : Found} {uses : List Pointer}
      (h : Follows (if choice then yes else no) f uses f') : Follows (.branch yes no) f uses f'
  | ifScanning {yes no : Path} {f f' : Found} {uses : List Pointer}
      (h : Follows (if f.scanning then yes else no) f uses f') :
      Follows (.ifScanning yes no) f uses f'
  | ifReady {yes no : Path} {f f' : Found} {uses : List Pointer}
      (h : Follows (if f.ready then yes else no) f uses f') : Follows (.ifReady yes no) f uses f'
  | setScanning {scanning : Bool} {k : Path} {f f' : Found} {uses : List Pointer}
      (h : Follows k { f with scanning := scanning } uses f') :
      Follows (.setScanning scanning k) f uses f'
  | setReady {ready : Bool} {k : Path} {f f' : Found} {uses : List Pointer}
      (h : Follows k { f with ready := ready } uses f') : Follows (.setReady ready k) f uses f'

/-- The path can be followed so that `m_Server` is used for so many strings, and the application for
so many requests. -/
def Path.Calls (path : Path) (f : Found) (sends requests : ℕ) (f' : Found) : Prop :=
  ∃ uses, path.Follows f uses f' ∧ uses.count .server = sends ∧ uses.count .app = requests

section Calls

variable {k yes no : Path} {f f' : Found} {n r : ℕ}

theorem Path.Calls.done (f : Found) : Path.Calls .done f 0 0 f := ⟨[], .done f, rfl, rfl⟩

theorem Path.Calls.server (h : k.Calls f n r f') : (Path.deref .server k).Calls f (n + 1) r f' := by
  obtain ⟨uses, hfollows, rfl, rfl⟩ := h
  exact ⟨_, .deref hfollows, by simp, by simp⟩

theorem Path.Calls.app (h : k.Calls f n r f') : (Path.deref .app k).Calls f n (r + 1) f' := by
  obtain ⟨uses, hfollows, rfl, rfl⟩ := h
  exact ⟨_, .deref hfollows, by simp, by simp⟩

theorem Path.Calls.device (h : k.Calls f n r f') : (Path.deref .device k).Calls f n r f' := by
  obtain ⟨uses, hfollows, rfl, rfl⟩ := h
  exact ⟨_, .deref hfollows, by simp, by simp⟩

theorem Path.Calls.test {p : Pointer} (h : yes.Calls f n r f') :
    (Path.test p yes no).Calls f n r f' := by
  obtain ⟨uses, hfollows, hcounts⟩ := h
  exact ⟨uses, .test hfollows, hcounts⟩

theorem Path.Calls.branch (choice : Bool)
    (h : (if choice then yes else no : Path).Calls f n r f') :
    (Path.branch yes no).Calls f n r f' := by
  obtain ⟨uses, hfollows, hcounts⟩ := h
  exact ⟨uses, .branch choice hfollows, hcounts⟩

theorem Path.Calls.ifScanning (h : (if f.scanning then yes else no : Path).Calls f n r f') :
    (Path.ifScanning yes no).Calls f n r f' := by
  obtain ⟨uses, hfollows, hcounts⟩ := h
  exact ⟨uses, .ifScanning hfollows, hcounts⟩

theorem Path.Calls.ifReady (h : (if f.ready then yes else no : Path).Calls f n r f') :
    (Path.ifReady yes no).Calls f n r f' := by
  obtain ⟨uses, hfollows, hcounts⟩ := h
  exact ⟨uses, .ifReady hfollows, hcounts⟩

theorem Path.Calls.setScanning {scanning : Bool}
    (h : k.Calls { f with scanning := scanning } n r f') :
    (Path.setScanning scanning k).Calls f n r f' := by
  obtain ⟨uses, hfollows, hcounts⟩ := h
  exact ⟨uses, .setScanning hfollows, hcounts⟩

theorem Path.Calls.setReady {ready : Bool} (h : k.Calls { f with ready := ready } n r f') :
    (Path.setReady ready k).Calls f n r f' := by
  obtain ⟨uses, hfollows, hcounts⟩ := h
  exact ⟨uses, .setReady hfollows, hcounts⟩

/-! ### The calls on the device -/

variable {E : Env} {x : Session} {now : Clock}

/-- The callback for a new status sends what `OnStatusChanged` sends. -/
theorem calls_onStatusChanged (l : ServerLayer) {d : Mps} (h : k.Calls d.found n r f') :
    (Path.onStatusChanged k).Calls d.found ((onStatusChanged l d.status).length + n) r f' := by
  refine (Path.Calls.ifReady ?_).device.device
  by_cases hready : d.status = .ready
  · have hfound : d.found.ready = true := by simp [Mps.found, hready]
    rw [if_pos hfound]
    refine Path.Calls.test (.branch (l.commandClient.connected ∧ l.commandClient.id ≠ 0) ?_)
    by_cases hclient : l.commandClient.connected = true ∧ l.commandClient.id ≠ 0
    · have hone : (onStatusChanged l d.status).length + n = n + 1 := by
        rw [onStatusChanged, if_pos ⟨hready, hclient⟩, List.length_singleton, Nat.add_comm]
      rw [if_pos (by simpa using hclient), hone]
      exact h.server
    · have hnone : (onStatusChanged l d.status).length + n = n := by
        rw [onStatusChanged, if_neg fun hall => hclient hall.2, List.length_nil, Nat.zero_add]
      rw [if_neg (by simpa using hclient), hnone]
      exact h
  · have hfound : ¬ d.found.ready = true := by simp [Mps.found, hready]
    have hnone : (onStatusChanged l d.status).length + n = n := by
      rw [onStatusChanged, if_neg fun hall => hready hall.1, List.length_nil, Nat.zero_add]
    rw [if_neg hfound, hnone]
    exact h

theorem calls_startScan (l : ServerLayer) (d : Mps)
    (h : k.Calls (startScan E now d).device.found n r f') :
    (Path.startScan k).Calls d.found
      (((startScan E now d).notices.flatMap (onStatusChanged l)).length + n) r f' := by
  refine Path.Calls.ifScanning ?_
  cases hs : d.scanning with
  | true =>
      rw [if_pos (by simpa [Mps.found] using hs)]
      simpa [startScan, hs] using h
  | false =>
      obtain ⟨hscanning, hstatus, -⟩ := startScan_of_not_scanning E now hs
      have hnotices : (startScan E now d).notices = [(startScan E now d).device.status] := by
        rw [hstatus]
        simp [startScan, hs]
      rw [if_neg (by simp [Mps.found, hs]), hnotices, List.flatMap_singleton]
      have hfound : ({ d.found with scanning := true, ready := false } : Found) =
          (startScan E now d).device.found := by
        simp [Mps.found, hscanning, hstatus]
      refine Path.Calls.setScanning (Path.Calls.setReady ?_)
      rw [hfound]
      exact calls_onStatusChanged l h

theorem calls_stopScan (l : ServerLayer) (d : Mps) (h : k.Calls (stopScan d).device.found n r f') :
    (Path.stopScan k).Calls d.found
      (((stopScan d).notices.flatMap (onStatusChanged l)).length + n) r f' := by
  refine Path.Calls.ifScanning ?_
  cases hs : d.scanning with
  | false =>
      rw [if_neg (by simp [Mps.found, hs])]
      simpa [stopScan, hs] using h
  | true =>
      rw [if_pos (by simpa [Mps.found] using hs)]
      refine Path.Calls.setScanning (Path.Calls.ifReady ?_)
      by_cases hready : d.status = .ready
      · rw [if_pos (by simpa [Mps.found] using hready)]
        simpa [stopScan, hs, hready, Mps.found] using h
      · rw [if_neg (by simpa [Mps.found] using hready)]
        have hstop : stopScan d =
            { device := { d with scanning := false, status := .ready }, notices := [.ready] } := by
          simp [stopScan, hs, hready]
        rw [hstop] at h ⊢
        rw [List.flatMap_singleton]
        exact Path.Calls.setReady
          (calls_onStatusChanged l (d := { d with scanning := false, status := .ready }) h)

theorem calls_calZ (l : ServerLayer) (d : Mps) (h : k.Calls (calZ d).device.found n r f') :
    (Path.calZ k).Calls d.found
      (((calZ d).notices.flatMap (onStatusChanged l)).length + n) r f' := by
  refine Path.Calls.setReady ?_
  have hnotices : (calZ d).notices = [(calZ d).device.status] := rfl
  rw [hnotices, List.flatMap_singleton]
  exact calls_onStatusChanged l h

/-- No setting is announced. -/
theorem parseSet_notices {d : Mps} {cmd : Bytes} {tokens : List Bytes} {o : Outcome}
    (h : parseSet E x d cmd tokens = some o) : o.notices = [] := by
  rw [parseSet] at h
  split at h
  · rw [← Option.some_inj.1 h]
    rfl
  · split at h <;> try cases h
    all_goals try (first | unfold setRate | unfold setFps | unfold setEnudp | unfold setEnftp |
      unfold setIpudp); split <;> rfl
    · unfold setFormat
      split <;> rfl
    · unfold setUnits
      split
      · rfl
      · split <;> rfl
    · unfold setSim
      split
      · rfl
      · dsimp only
        split
        · rfl
        · split_ifs <;> rfl

/-- Only `SCAN`, `STOP` and `CALZ` make a callback, or change what the tests find. -/
theorem parseCommands_settings {d : Mps} {line : Bytes} (hcalz : verb line ≠ some .calz)
    (hscan : verb line ≠ some .scan) (hstop : verb line ≠ some .stop) :
    (parseCommands E x d line).notices = [] ∧
      (parseCommands E x d line).device.found = d.found := by
  constructor
  · cases hverb : verb line with
    | none =>
        rw [verb] at hverb
        rw [parseCommands, hverb]
        rfl
    | some v =>
        rw [verb] at hverb
        rw [parseCommands, hverb]
        cases v with
        | calz => exact absurd hverb hcalz
        | scan => exact absurd hverb hscan
        | stop => exact absurd hverb hstop
        | ver | status => rfl
        | set =>
            dsimp only
            cases ho : parseSet E x d line (splitString line blanks) with
            | none => rfl
            | some o => exact parseSet_notices ho
        | get =>
            dsimp only
            cases parseGet E d (splitString line blanks) <;> rfl
        | list =>
            dsimp only
            cases parseList E d (splitString line blanks) <;> rfl
  · have heffect := parseCommands_effect E x d line
    generalize (parseCommands E x d line).device = d' at heffect
    cases heffect with
    | scan h => exact absurd h hscan
    | stop h => exact absurd h hstop
    | calz h => exact absurd h hcalz
    | settings => rfl

/-- **`ParseCommands` calls back as it says it does.** -/
theorem calls_parseCommands (l : ServerLayer) (d : Mps) (line : Bytes)
    (h : k.Calls (parseCommands E x d line).device.found n r f') :
    (Path.parseCommands line k).Calls d.found
      (((parseCommands E x d line).notices.flatMap (onStatusChanged l)).length + n) r f' := by
  unfold Path.parseCommands
  split
  · next hverb =>
    have hparse : parseCommands E x d line = x.answerCall (calZ d) [] := by
      rw [verb] at hverb
      rw [parseCommands, hverb]
    rw [hparse] at h ⊢
    exact calls_calZ l d h
  · next hverb =>
    have hparse : parseCommands E x d line =
        x.answerCall (startScan E x.now d) "Scan started ..".toList := by
      rw [verb] at hverb
      rw [parseCommands, hverb]
    rw [hparse] at h ⊢
    exact calls_startScan l d h
  · next hverb =>
    have hparse : parseCommands E x d line = x.answerCall (stopScan d) [] := by
      rw [verb] at hverb
      rw [parseCommands, hverb]
    rw [hparse] at h ⊢
    exact calls_stopScan l d h
  · next hcalz hscan hstop =>
    obtain ⟨hnotices, hfound⟩ := parseCommands_settings (E := E) (x := x) (d := d) hcalz hscan hstop
    rw [hfound] at h
    rw [hnotices]
    simpa using h

/-! ### The callbacks of the servers and the console -/

/-- **The path of `OnCommand` from the first complete line on is the one of the callback**: it sends
and asks as often, and leaves the device the same. -/
theorem calls_dispatchLine {l : ServerLayer} {d : Mps} (hd : l.device = some d) (id : ℕ)
    (line : Bytes) :
    ∃ d', (dispatchLine E x l id line).layer.device = some d' ∧
      (Path.dispatchLine l.enableConsole line).Calls d.found
        (dispatchLine E x l id line).sent.length (dispatchLine E x l id line).requests.length
        d'.found := by
  have hdone := Path.Calls.done d.found
  have hisBlank : Path.isBlank line = true ↔ line.headD '\x00' = '\r' ∨ line = [] :=
    decide_eq_true_iff
  rw [dispatchLine, Path.dispatchLine]
  by_cases hblank : line.headD '\x00' = '\r' ∨ line = []
  · rw [if_pos hblank, if_pos (hisBlank.2 hblank)]
    exact ⟨d, hd, hdone.server⟩
  rw [if_neg hblank, if_neg (mt hisBlank.1 hblank)]
  by_cases hshutdown : isOneOf line ["shutdown", "SHUTDOWN"]
  · rw [if_pos hshutdown, if_pos hshutdown]
    refine ⟨d, hd, ?_⟩
    cases l.enableConsole with
    | true => exact hdone.app.server
    | false => exact hdone.app
  rw [if_neg hshutdown, if_neg hshutdown]
  by_cases hrestart : isOneOf line ["restart", "RESTART", "reboot", "REBOOT"]
  · rw [if_pos hrestart, if_pos hrestart]
    refine ⟨d, hd, ?_⟩
    cases l.enableConsole with
    | true => exact hdone.app.server.test
    | false => exact hdone.app
  rw [if_neg hrestart, if_neg hrestart, hd]
  refine ⟨_, rfl, ?_⟩
  dsimp only
  rw [List.length_append, List.length_singleton, List.length_nil]
  exact ((calls_parseCommands l d line (Path.Calls.done _).server).device).test

/-- The line that a segment from a client makes `OnCommand` dispatch. -/
def ServerLayer.lineOf (l : ServerLayer) (id : ℕ) (cmd : Bytes) : Option Bytes :=
  match editCommand ((l.cmds id).getD []) cmd with
  | (_, false) => none
  | (clientCmd, true) => some (tok (splitString clientCmd lineEnds) 0)

/-- So is that of `OnCommand` for a client that is permitted. -/
theorem calls_onCommand {l : ServerLayer} {d : Mps} (hd : l.device = some d) {id : ℕ}
    (hpermitted : ¬ (id ≠ l.commandClient.id ∧ id ≠ 0)) (cmd : Bytes) :
    ∃ d', (onCommand E x l id cmd).layer.device = some d' ∧
      (Path.onLine l.enableConsole (l.lineOf id cmd)).Calls d.found
        (onCommand E x l id cmd).sent.length (onCommand E x l id cmd).requests.length d'.found := by
  rw [onCommand, if_neg hpermitted, ServerLayer.lineOf]
  cases editCommand ((l.cmds id).getD []) cmd with
  | mk clientCmd complete =>
      cases complete with
      | false => exact ⟨d, hd, .done _⟩
      | true => exact calls_dispatchLine (l := l.setCmd id []) hd id _

/-- So is that of the data callback of the control port. -/
theorem calls_onDataReceived {l : ServerLayer} {d : Mps} (hd : l.device = some d) (id : ℕ)
    (cmd : Bytes) :
    ∃ d', (onDataReceived E x l id cmd).layer.device = some d' ∧
      (Path.onDataReceived l.enableConsole (l.lineOf id cmd)).Calls d.found
        (onDataReceived E x l id cmd).sent.length (onDataReceived E x l id cmd).requests.length
        d'.found := by
  rw [onDataReceived]
  by_cases hrefused : id ≠ l.commandClient.id ∧ id ≠ 0
  · rw [onCommand, if_pos hrefused]
    exact ⟨d, hd, ((Path.Calls.done d.found).server.branch true).test⟩
  · obtain ⟨d', hd', hcalls⟩ := calls_onCommand (E := E) (x := x) hd hrefused cmd
    exact ⟨d', hd', (hcalls.branch false).test⟩

/-- So is that of the data callback of the binary port. -/
theorem calls_onTCPBinaryDataReceived {l : ServerLayer} {d : Mps} (hd : l.device = some d)
    (cmd : Bytes) :
    ∃ d', (onTCPBinaryDataReceived E x l cmd).layer.device = some d' ∧
      (Path.onTCPBinaryDataReceived cmd).Calls d.found
        (onTCPBinaryDataReceived E x l cmd).sent.length
        (onTCPBinaryDataReceived E x l cmd).requests.length d'.found := by
  unfold onTCPBinaryDataReceived Path.onTCPBinaryDataReceived
  rw [hd]
  split
  · next d₀ rest hsome =>
    obtain rfl := Option.some_inj.1 hsome
    exact ⟨_, rfl, (calls_startScan l d (.done _)).device.test⟩
  · next d₀ rest hsome =>
    obtain rfl := Option.some_inj.1 hsome
    exact ⟨_, rfl, (calls_stopScan l d (.done _)).device.test⟩
  · next hstart hstop =>
    refine ⟨d, hd, Path.Calls.test ?_⟩
    split
    · next rest => exact (hstart d rest rfl rfl).elim
    · next rest => exact (hstop d rest rfl rfl).elim
    · exact .done _

/-- The connect callback of the control port uses the server to kick a client and to send the
prompt. -/
theorem calls_onClientConnected (l : ServerLayer) (id : ℕ) (f : Found) :
    Path.onClientConnected.Calls f
      ((onClientConnected l id).kicked.toList.length + (onClientConnected l id).sent.length) 0
      f := by
  have hdone := Path.Calls.done f
  rw [onClientConnected, Path.onClientConnected]
  by_cases hid : id = l.commandClient.id
  · rw [if_pos hid]
    exact hdone.branch true
  rw [if_neg hid]
  by_cases hconnected : l.commandClient.connected = true
  · rw [if_pos hconnected]
    exact (hdone.server.server.branch true).branch false
  · rw [if_neg hconnected]
    exact (hdone.server.branch false).branch false

/-- What `OnConsoleInput` takes a line for. -/
def ServerLayer.consoleSource (l : ServerLayer) : Bytes → Source
  | '/' :: c :: cmd => .consoleLine (l.lineOf 0 (c :: cmd))
  | _ => .consoleText

theorem ServerLayer.consoleSource_text (l : ServerLayer) {msg : Bytes}
    (htext : ∀ c cmd, msg = '/' :: c :: cmd → False) : l.consoleSource msg = .consoleText := by
  rw [ServerLayer.consoleSource]
  exact htext

/-- The path of a line from the console. -/
theorem calls_onConsoleInput {l : ServerLayer} {d : Mps} (hd : l.device = some d) (msg : Bytes) :
    ∃ d', (onConsoleInput E x l msg).layer.device = some d' ∧
      ((l.consoleSource msg).path l.enableConsole).Calls d.found
        (onConsoleInput E x l msg).sent.length (onConsoleInput E x l msg).requests.length
        d'.found := by
  unfold onConsoleInput
  split
  · have hpermitted : ¬ (0 ≠ l.commandClient.id ∧ (0 : ℕ) ≠ 0) := fun h => h.2 rfl
    obtain ⟨d', hd', hcalls⟩ := calls_onCommand (E := E) (x := x) hd hpermitted _
    exact ⟨d', hd', hcalls.test⟩
  · next htext =>
    rw [l.consoleSource_text htext]
    exact ⟨d, hd, (Path.Calls.done d.found).server.test⟩

/-! ### The frames -/

/-- `OnLabviewFrame`, and the second half of `OnScanFrame`, do not use the control server. -/
theorem calls_onBinaryFrame (client : Bool) (f : Found) : Path.onBinaryFrame.Calls f 0 0 f := by
  cases client with
  | true => exact (Path.Calls.done f).device.branch true
  | false => exact (Path.Calls.done f).branch false

/-- `OnScanFrame` uses the control server once for every datagram. -/
theorem calls_onScanFrame (cfg : MpsConfig) (b : BinaryClients) (p : Packet) (f : Found) :
    Path.onScanFrame.Calls f ((onScanFrame cfg b p).filterMap FrameOutput.datagram?).length 0
      f := by
  have hframe := calls_onBinaryFrame b.connected f
  rw [datagrams_onScanFrame, Path.onScanFrame]
  refine (Path.Calls.branch cfg.udpEnabled ?_).device.test
  cases hudp : cfg.udpEnabled with
  | false => simpa [MpsConfig.wantsUdp, hudp] using hframe
  | true =>
      refine (Path.Calls.branch (cfg.ftpUdpFormat = .binary) ?_).device
      by_cases hformat : cfg.ftpUdpFormat = .binary
      · simpa [MpsConfig.wantsUdp, hudp, hformat] using hframe.server.device.device
      · simpa [MpsConfig.wantsUdp, hudp, hformat] using hframe

/-! ### The scan thread -/

/-- The end of a calibration. -/
theorem calls_calibrated (l : ServerLayer) (d : Mps) :
    (Path.setReady true (.onStatusChanged .done)).Calls d.found
      (onStatusChanged l .ready).length 0
      ({ d with calibrating := false, status := .ready } : Mps).found :=
  Path.Calls.setReady
    (calls_onStatusChanged l (d := { d with calibrating := false, status := .ready }) (.done _))

end Calls

/-! ### Threads that follow their paths -/

/-- The layer before it is taken down, with these threads inside it. -/
def Detach.attached (f : Found) (threads : List (Caller × Path)) : Detach :=
  { Detach.init f.scanning f.ready with threads := threads }

/-- What an action lets in. -/
def DetachAction.source? : DetachAction → Option Source
  | .enter source => some source
  | _ => none

section Threads

variable {enableConsole : Bool} {f f' : Found}

/-- A step of the last thread. -/
theorem Detach.step_attached {f₁ : Found} {path k : Path} {choice : Bool}
    (h : ∀ ts, (Detach.attached f ts).advance choice path = some (.attached f₁ ts, k))
    (ts : List (Caller × Path)) (c : Caller) :
    Detach.step enableConsole (.attached f (ts ++ [(c, path)])) (.run ts.length choice) =
      some (.attached f₁ (ts ++ [(c, k)])) := by
  have hthread : (Detach.attached f (ts ++ [(c, path)])).threads[ts.length]? = some (c, path) := by
    simp [Detach.attached]
  rw [Detach.step, hthread, Option.bind_some, h, Option.map_some]
  simp [Detach.attached]

/-- **A thread that is alone comes to the end of the path it can follow.** -/
theorem Path.Follows.run (enableConsole : Bool) {path : Path} {uses : List Pointer}
    (h : path.Follows f uses f') (ts : List (Caller × Path)) (c : Caller) :
    ∃ choices : List Bool,
      Runs.exec (Detach.step enableConsole) (.attached f (ts ++ [(c, path)]))
        (choices.map (.run ts.length)) = some (.attached f' (ts ++ [(c, .done)])) := by
  have hcons : ∀ {f f₁ f' : Found} {path k : Path} (choice : Bool),
      (∀ ts, (Detach.attached f ts).advance choice path = some (.attached f₁ ts, k)) →
      (∃ choices : List Bool,
        Runs.exec (Detach.step enableConsole) (.attached f₁ (ts ++ [(c, k)]))
          (choices.map (.run ts.length)) = some (.attached f' (ts ++ [(c, .done)]))) →
      ∃ choices : List Bool,
        Runs.exec (Detach.step enableConsole) (.attached f (ts ++ [(c, path)]))
          (choices.map (.run ts.length)) = some (.attached f' (ts ++ [(c, .done)])) := by
    intro f f₁ f' path k choice hadvance ⟨choices, hrun⟩
    exact ⟨choice :: choices,
      Runs.exec_cons_eq_some.2 ⟨_, Detach.step_attached hadvance ts c, hrun⟩⟩
  induction h with
  | done f => exact ⟨[], rfl⟩
  | deref _ ih => exact hcons true (fun _ => rfl) ih
  | test _ ih => exact hcons true (fun _ => rfl) ih
  | branch choice _ ih => exact hcons choice (fun _ => rfl) ih
  | ifScanning _ ih => exact hcons true (fun _ => rfl) ih
  | ifReady _ ih => exact hcons true (fun _ => rfl) ih
  | setScanning _ ih => exact hcons true (fun _ => rfl) ih
  | setReady _ ih => exact hcons true (fun _ => rfl) ih

/-- Threads that come in one after the other, and come to the ends of their paths. -/
inductive Visits (enableConsole : Bool) : List Source → Found → Found → Prop
  | nil (f : Found) : Visits enableConsole [] f f
  | cons {source : Source} {sources : List Source} {f f₁ f' : Found} {n r : ℕ}
      (h : (source.path enableConsole).Calls f n r f₁)
      (hrest : Visits enableConsole sources f₁ f') :
      Visits enableConsole (source :: sources) f f'

theorem Visits.single {source : Source} {n r : ℕ}
    (h : (source.path enableConsole).Calls f n r f') : Visits enableConsole [source] f f' :=
  .cons h (.nil f')

theorem Visits.append {sources sources' : List Source} {f₁ : Found}
    (h : Visits enableConsole sources f f₁) (h' : Visits enableConsole sources' f₁ f') :
    Visits enableConsole (sources ++ sources') f f' := by
  induction h with
  | nil => exact h'
  | cons hcalls _ ih => exact .cons hcalls (ih h')

/-- The steps of such threads. -/
theorem Visits.run {sources : List Source} (h : Visits enableConsole sources f f')
    (ts : List (Caller × Path)) :
    ∃ as : List DetachAction,
      Runs.exec (Detach.step enableConsole) (.attached f ts) as =
          some (.attached f' (ts ++ sources.map fun source => (source.caller, .done))) ∧
        as.filterMap DetachAction.source? = sources := by
  induction h generalizing ts with
  | nil f => exact ⟨[], by simp, rfl⟩
  | @cons source sources f f₁ f' n r hcalls _ ih =>
      obtain ⟨uses, hfollows, -⟩ := hcalls
      obtain ⟨choices, hrun⟩ := hfollows.run enableConsole ts source.caller
      obtain ⟨as, hrest, hsources⟩ := ih (ts ++ [(source.caller, .done)])
      refine ⟨.enter source :: (choices.map (.run ts.length) ++ as), ?_, ?_⟩
      · refine Runs.exec_cons_eq_some.2
          ⟨.attached f (ts ++ [(source.caller, source.path enableConsole)]), rfl, ?_⟩
        have hends := Runs.exec_append_eq_some.2 ⟨_, hrun, hrest⟩
        simpa using hends
      · have hnone : (choices.map (DetachAction.run ts.length)).filterMap DetachAction.source? =
            [] := by
          simp [DetachAction.source?]
        rw [List.filterMap_cons_some (f := DetachAction.source?) rfl, List.filterMap_append, hnone,
          hsources, List.nil_append]

end Threads

/-! ### The emulator -/

/-- The data callback that a delivery is. -/
def Delivery.source (l : ServerLayer) (v : Delivery) : Source :=
  match v.port with
  | .control => .control (l.lineOf v.id v.seg)
  | .binary => .binary v.seg

/-- What comes into the layer in a step of the emulator.  The connect callback counts at the step in
which it begins. -/
def Machine.sources (E : Env) (m : Machine) : MachineAction → List Source
  | .server p x a =>
      match m.emulator.delivery (.server p x a), p, a, (m.emulator.server p).acceptThread with
      | some v, _, _, _ => [v.source m.emulator.layer]
      | none, .control, .acceptThread, .enqueued _ => [.connected]
      | none, _, _, _ => []
  | .console _ msg => [m.emulator.layer.consoleSource msg]
  | .scanThread =>
      match m.emulator.layer.device, m.thread.pc with
      | some _, .calEnd => [.calibrated]
      | some _, .limitStop => [.limit]
      | some d, .emit =>
          ((labviewFrame E d m.thread.frameData).toList.map fun _ => .labviewFrame) ++
            ((binaryFrame E d m.thread.frameData).toList.map fun _ => .scanFrame)
      | _, _ => []

section Emulator

variable {E : Env} {x : Session} {p : Port}

/-- Whether the console is enabled is settled when the layer is attached. -/
theorem onCommand_enableConsole (l : ServerLayer) (id : ℕ) (cmd : Bytes) :
    (onCommand E x l id cmd).layer.enableConsole = l.enableConsole := by
  rw [onCommand_layer]

theorem Effect.layer_enableConsole (l : ServerLayer) (e : Effect) :
    (e.layer E x p l).enableConsole = l.enableConsole := by
  cases e with
  | disconnected id =>
      cases p with
      | control => exact (apply_ite ServerLayer.enableConsole _ _ _).trans (ite_self _)
      | binary => exact (apply_ite ServerLayer.enableConsole _ _ _).trans (ite_self _)
  | recorded id kicked =>
      cases p with
      | control => cases kicked <;> rfl
      | binary => rfl
  | received id seg =>
      cases p with
      | control => exact onCommand_enableConsole l id seg
      | binary =>
          simp only [Effect.layer, dataCallback, onTCPBinaryDataReceived]
          split <;> rfl
  | _ => rfl

/-- The frames that are handed out leave what the tests find as it is. -/
theorem visits_frames (enableConsole : Bool) (cfg : MpsConfig) (b : BinaryClients)
    (labview : Option (List ℚ)) (packet : Option Packet) (f : Found) :
    Visits enableConsole
      ((labview.toList.map fun _ => .labviewFrame) ++ (packet.toList.map fun _ => .scanFrame))
      f f := by
  have hlabview : Visits enableConsole (labview.toList.map fun _ => .labviewFrame) f f := by
    cases labview with
    | none => exact .nil f
    | some values => exact .single (calls_onBinaryFrame b.connected f)
  refine hlabview.append ?_
  cases packet with
  | none => exact .nil f
  | some p => exact .single (calls_onScanFrame cfg b p f)

/-- What a step of the scan thread lets in, whoever the clients of the binary server are. -/
theorem visits_threadStep {m : Machine} {d : Mps} {s' : Scanner} (b : BinaryClients)
    (hd : m.emulator.layer.device = some d)
    (h : threadStep E { device := d, thread := m.thread } = some s') :
    Visits m.emulator.layer.enableConsole (m.sources E .scanThread) d.found s'.device.found := by
  have heffect := threadStep_effect h
  generalize s'.device = d' at heffect
  rw [Machine.sources, hd]
  cases heffect with
  | calEnd hpc =>
      dsimp only at hpc
      rw [hpc]
      exact .single (calls_calibrated m.emulator.layer d)
  | limitStop hpc =>
      dsimp only at hpc
      rw [hpc]
      exact .single (calls_stopScan m.emulator.layer d (.done _))
  | random hcal hstop hsame =>
      have hflags := SameFlags.of_random hsame
      have hfound : d'.found = d.found := by
        rw [Mps.found, Mps.found, hflags.scanning, hflags.status]
      rw [hfound]
      split
      · next hpc => exact absurd hpc hcal
      · next hpc => exact absurd hpc hstop
      · next d₁ hsome hpc => exact visits_frames _ d₁.cfg b _ _ _
      · exact .nil _

/-- What a delivery lets in. -/
theorem visits_delivery (v : Delivery) {l : ServerLayer} {d : Mps} (hd : l.device = some d) :
    ∃ d', (dataCallback E v.session l v.port v.id v.seg).layer.device = some d' ∧
      Visits l.enableConsole [v.source l] d.found d'.found := by
  rw [Delivery.source]
  cases v.port with
  | control =>
      obtain ⟨d', hd', hcalls⟩ := calls_onDataReceived (E := E) (x := v.session) hd v.id v.seg
      exact ⟨d', hd', .single hcalls⟩
  | binary =>
      obtain ⟨d', hd', hcalls⟩ :=
        calls_onTCPBinaryDataReceived (E := E) (x := v.session) hd v.seg
      exact ⟨d', hd', .single hcalls⟩

/-- **Every step of the emulator lets in what its callbacks are**, and leaves the device as their
paths do. -/
theorem Machine.step_visits {m m' : Machine} {b : MachineAction} {d : Mps}
    (hd : m.emulator.layer.device = some d) (h : Machine.step E m b = some m') :
    ∃ d', m'.emulator.layer.device = some d' ∧
      m'.emulator.layer.enableConsole = m.emulator.layer.enableConsole ∧
      Visits m.emulator.layer.enableConsole (m.sources E b) d.found d'.found := by
  cases b with
  | server p x a =>
      obtain ⟨s, hs, rfl⟩ := Option.map_eq_some_iff.1 h
      have hconsole : s.layer.enableConsole = m.emulator.layer.enableConsole := by
        obtain ⟨srv, e, -, rfl⟩ := Emulator.step_server hs
        exact Effect.layer_enableConsole m.emulator.layer e
      rw [Machine.sources.eq_def]
      dsimp only
      cases hv : m.emulator.delivery (.server p x a) with
      | none =>
          refine ⟨d, (Emulator.step_device_of_delivery hs hv).trans hd, hconsole, ?_⟩
          split
          · next hsome => cases hsome
          · exact .single (calls_onClientConnected m.emulator.layer 0 d.found)
          · exact .nil _
      | some v =>
          obtain ⟨hlayer, -⟩ := Emulator.step_delivery hv hs
          obtain ⟨d', hd', hvisits⟩ := visits_delivery (E := E) v hd
          refine ⟨d', ?_, hconsole, hvisits⟩
          rw [hlayer]
          exact hd'
  | console x msg =>
      obtain ⟨d', hd', hcalls⟩ := calls_onConsoleInput (E := E) (x := x) hd msg
      rw [← Option.some_inj.1 h]
      refine ⟨d', hd', ?_, .single hcalls⟩
      dsimp only
      unfold onConsoleInput
      split
      · exact onCommand_enableConsole _ 0 _
      · rfl
  | scanThread =>
      simp only [Machine.step, hd] at h
      obtain ⟨sc, hsc, rfl⟩ := Option.map_eq_some_iff.1 h
      let b : BinaryClients :=
        { connections := [], connected := m.emulator.layer.binaryClient.connected
          activeId := m.emulator.layer.binaryClient.id }
      exact ⟨sc.device, rfl, rfl, visits_threadStep b hd hsc⟩

/-- So does every run. -/
theorem Machine.exec_visits {m m' : Machine} {bs : List MachineAction} {d : Mps}
    (hd : m.emulator.layer.device = some d)
    (hrun : Runs.exec (Machine.step E) m bs = some m') :
    ∃ d', m'.emulator.layer.device = some d' ∧
      Visits m.emulator.layer.enableConsole
        (Runs.trace (Machine.step E) (Machine.sources E) m bs) d.found d'.found := by
  induction bs generalizing m d with
  | nil =>
      rw [← Option.some_inj.1 hrun]
      exact ⟨d, hd, .nil _⟩
  | cons b bs ih =>
      obtain ⟨m₁, hstep, hrest⟩ := Runs.exec_cons_eq_some.1 hrun
      obtain ⟨d₁, hd₁, hconsole, hvisits⟩ := Machine.step_visits hd hstep
      obtain ⟨d', hd', hvisits'⟩ := ih hd₁ hrest
      refine ⟨d', hd', ?_⟩
      rw [Runs.trace, hstep]
      rw [hconsole] at hvisits'
      exact hvisits.append hvisits'

/-- **Every run of the emulator leads to a state from which the layer can be taken down**: the
threads that came in, in this order, are at the ends of their paths, no pointer has been reset, and
the flags are those of the device. -/
theorem detach_of_machine (E : Env) (deviceId : MpsDeviceID) (serialNumber : ℕ)
    (enableConsole : Bool) (bs : List MachineAction) {m : Machine}
    (hrun : Runs.exec (Machine.step E) (.start deviceId serialNumber enableConsole) bs = some m) :
    ∃ (d : Mps) (as : List DetachAction) (sources : List Source),
      m.emulator.layer.device = some d ∧
        sources = Runs.trace (Machine.step E) (Machine.sources E)
          (.start deviceId serialNumber enableConsole) bs ∧
        as.filterMap DetachAction.source? = sources ∧
        Runs.exec (Detach.step enableConsole) (.init false true) as =
          some (.attached d.found (sources.map fun source => (source.caller, .done))) := by
  obtain ⟨d, hd, hvisits⟩ := Machine.exec_visits (E := E)
    (d := attachedDevice deviceId serialNumber) rfl hrun
  obtain ⟨as, hexec, hsources⟩ := hvisits.run []
  exact ⟨d, as, _, hd, rfl, hsources, hexec⟩

end Emulator

end MpsEmulator
