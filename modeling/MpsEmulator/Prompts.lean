/-
**The prompt: is the client told that the device is idle?**

A client of the control port waits for `>`.  Most replies end with it; those of `SCAN`, `STOP` and
`CALZ` do not, and for them the prompt comes from the status callback, when the status becomes
`READY`.  The callback and the reply are sent one after the other, by two threads.  So the prompt of
a short scan may be sent before the reply `Scan started ..` of the command that began it; and where
a calibration has ended during a scan, the status is `READY` already when the scan is stopped, and
there is no callback at all.

* `threadNotices`, `ReadyAnnounced` — the status callbacks of the scan thread; the status does not
  become `READY` without one;
* `Prompting`, `Prompting.step` — the active client, with what was sent to it, one step of
  `OnCommand` or of the scan thread at a time; `sentTo_segment` relates it to `OnCommand` as a
  whole;
* `Prompted` — the last byte that the client of an idle device has got is `>`;
* `AnswersInTime` — `Scan started ..` is not sent while the status is `READY`;
* `prompted_of_along` — **in a run of such steps the client of an idle device is prompted**;
* `prompt_lost` — two runs that leave it waiting.
-/

import MpsEmulator.ScanThread
import MpsEmulator.ServerLayer

set_option relaxedAutoImplicit false
set_option autoImplicit false

namespace MpsEmulator

/-! ### Status callbacks -/

/-- The status callbacks of a step of the scan thread. -/
def threadNotices (s : Scanner) : List MpsStatus :=
  match s.thread.pc with
  | .calEnd => [.ready]
  | .limitStop => (stopScan s.device).notices
  | _ => []

/-- The status did not become `READY` without a callback that says so. -/
def ReadyAnnounced (d : Mps) (notices : List MpsStatus) (d' : Mps) : Prop :=
  d'.status = .ready → d.status = .ready ∨ .ready ∈ notices

theorem ReadyAnnounced.of_status {d d' : Mps} (notices : List MpsStatus)
    (h : d'.status = d.status) : ReadyAnnounced d notices d' := by
  intro hready
  rw [h] at hready
  exact Or.inl hready

/-- A scan that starts leaves the status `SCAN`. -/
theorem announced_startScan (E : Env) (now : Clock) (d : Mps) (notices : List MpsStatus) :
    ReadyAnnounced d notices (startScan E now d).device := by
  cases hs : d.scanning with
  | true => exact .of_status _ (by rw [startScan_of_scanning hs])
  | false =>
      intro hready
      rw [(startScan_of_not_scanning E now hs).2.1] at hready
      cases hready

/-- A scan that stops is announced if the status changes. -/
theorem announced_stopScan (d : Mps) :
    ReadyAnnounced d (stopScan d).notices (stopScan d).device := by
  cases hs : d.scanning with
  | false => exact .of_status _ (by rw [stopScan_of_not_scanning hs])
  | true =>
      intro _
      by_cases hready : d.status = .ready
      · exact Or.inl hready
      · right
        simp [stopScan, hs, hready]

section

variable {E : Env} {x : Session} {d : Mps} {cmd : Bytes}

theorem parseCommands_notices_stop (h : verb cmd = some .stop) :
    (parseCommands E x d cmd).notices = (stopScan d).notices := by
  rw [verb] at h
  rw [parseCommands, h]
  rfl

/-- Nor does a command make the device ready without a callback. -/
theorem announced_parseCommands (E : Env) (x : Session) (d : Mps) (cmd : Bytes) :
    ReadyAnnounced d (parseCommands E x d cmd).notices (parseCommands E x d cmd).device := by
  have heffect := parseCommands_effect E x d cmd
  generalize (parseCommands E x d cmd).device = d' at heffect
  cases heffect with
  | scan => exact announced_startScan E x.now d _
  | stop hstop =>
      rw [parseCommands_notices_stop hstop]
      exact announced_stopScan d
  | calz =>
      intro hready
      cases hready
  | settings => exact .of_status _ rfl

/-- The scan thread announces the end of a calibration, and the end of a scan at its limit. -/
theorem announced_threadStep {s s' : Scanner} (h : threadStep E s = some s') :
    ReadyAnnounced s.device (threadNotices s) s'.device := by
  have heffect := threadStep_effect h
  generalize s'.device = d' at heffect
  cases heffect with
  | calEnd hpc =>
      intro _
      right
      simp [threadNotices, hpc]
  | limitStop hpc =>
      have hnotices : threadNotices s = (stopScan s.device).notices := by simp [threadNotices, hpc]
      rw [hnotices]
      exact announced_stopScan s.device
  | random _ _ hsame => exact .of_status _ (SameFlags.of_random hsame).status

end

/-! ### The active client -/

/-- What is sent to one client, of everything that is sent. -/
def sentTo (id : ℕ) (sent : List (ℕ × Bytes)) : Bytes :=
  sent.flatMap fun m => if m.1 = id then m.2 else []

@[simp] theorem sentTo_nil (id : ℕ) : sentTo id [] = [] := rfl

theorem sentTo_append (id : ℕ) (sent sent' : List (ℕ × Bytes)) :
    sentTo id (sent ++ sent') = sentTo id sent ++ sentTo id sent' := List.flatMap_append

@[simp] theorem sentTo_self (id : ℕ) (s : Bytes) : sentTo id [(id, s)] = s := by simp [sentTo]

/-- The layer and the scan thread with the active client of the control port: the reply of the
command that is being processed, which is not sent yet, and the bytes sent to the client so far. -/
structure Prompting where
  layer : ServerLayer
  thread : ScanThread
  pending : Option Bytes
  sent : Bytes

/-- A client that has just connected, to a layer and a scan thread in any state. -/
def Prompting.connect (l : ServerLayer) (thread : ScanThread) (id : ℕ) : Prompting where
  layer := (onClientConnected l id).layer
  thread := thread
  pending := none
  sent := sentTo id (onClientConnected l id).sent

/-- A segment from the active client, processed up to the reply; sending the reply; or a step of the
scan thread. -/
inductive PromptAction
  | segment (x : Session) (seg : Bytes)
  | reply
  | thread
  deriving DecidableEq

/-- The active client with `OnCommand` and the scan thread.  The last string that a command sends is
its reply; what it sends before are the prompts of the status callbacks.  A segment that asks for a
shutdown or a restart is no step. -/
def Prompting.step (E : Env) (s : Prompting) : PromptAction → Option Prompting
  | .segment x seg =>
      let id := s.layer.commandClient.id
      let o := onDataReceived E x s.layer id seg
      if s.pending = none ∧ o.requests = [] then
        some { s with
          layer := o.layer
          pending := o.sent.getLast?.map Prod.snd
          sent := s.sent ++ sentTo id o.sent.dropLast }
      else none
  | .reply =>
      s.pending.map fun reply => { s with pending := none, sent := s.sent ++ reply }
  | .thread =>
      s.layer.device.bind fun d =>
        let before : Scanner := { device := d, thread := s.thread }
        (threadStep E before).map fun after =>
          { s with
            layer := { s.layer with device := some after.device }
            thread := after.thread
            sent := s.sent ++ sentTo s.layer.commandClient.id
              ((threadNotices before).flatMap (onStatusChanged s.layer)) }

/-- If the device is idle and no command is being processed, the last byte the client has got is
`>`. -/
def Prompted (s : Prompting) : Prop :=
  ∀ d ∈ s.layer.device, d.status = .ready → d.scanning = false → d.calibrating = false →
    s.pending = none → s.sent.getLast? = some '>'

instance (s : Prompting) : Decidable (Prompted s) :=
  inferInstanceAs (Decidable (∀ d ∈ s.layer.device, d.status = .ready → d.scanning = false →
    d.calibrating = false → s.pending = none → s.sent.getLast? = some '>'))

/-- `Scan started ..` is not sent while the status is `READY`. -/
def AnswersInTime (s : Prompting) (a : PromptAction) : Prop :=
  a = .reply → s.pending = some "Scan started ..".toList → ∀ d ∈ s.layer.device, d.status ≠ .ready

instance (s : Prompting) (a : PromptAction) : Decidable (AnswersInTime s a) :=
  inferInstanceAs (Decidable (a = .reply → s.pending = some "Scan started ..".toList →
    ∀ d ∈ s.layer.device, d.status ≠ .ready))

/-! ### What `OnCommand` sends -/

/-- The prompts of a list of callbacks are none at all, or end with `>`. -/
theorem prompts_cases {l : ServerLayer} (hconnected : l.commandClient.connected = true)
    (hid : l.commandClient.id ≠ 0) (notices : List MpsStatus) :
    let prompts := sentTo l.commandClient.id (notices.flatMap (onStatusChanged l))
    (.ready ∉ notices ∧ prompts = []) ∨ (.ready ∈ notices ∧ prompts.getLast? = some '>') := by
  induction notices with
  | nil => exact Or.inl ⟨List.not_mem_nil, rfl⟩
  | cons status notices ih =>
      dsimp only at ih ⊢
      rw [List.flatMap_cons, sentTo_append]
      by_cases hready : status = .ready
      · subst hready
        have hprompt : onStatusChanged l .ready = [(l.commandClient.id, "\r\n>".toList)] :=
          if_pos ⟨rfl, hconnected, hid⟩
        rw [hprompt, sentTo_self]
        right
        refine ⟨List.mem_cons_self, ?_⟩
        rw [List.getLast?_append]
        rcases ih with ⟨-, hnone⟩ | ⟨-, hlast⟩
        · rw [hnone]
          rfl
        · rw [hlast]
          rfl
      · have hsilent : onStatusChanged l status = [] := if_neg fun h => hready h.1
        rw [hsilent, sentTo_nil, List.nil_append]
        rcases ih with ⟨hmem, hnone⟩ | ⟨hmem, hlast⟩
        · left
          refine ⟨?_, hnone⟩
          rintro (_ | ⟨_, hmem'⟩)
          · exact hready rfl
          · exact hmem hmem'
        · exact Or.inr ⟨List.mem_cons_of_mem _ hmem, hlast⟩

section

variable {E : Env} {x : Session} {l : ServerLayer} {seg : Bytes}

/-- A command that asks for nothing of the application is without effect on the device and answered
with a prompt at most, or it is run by `ParseCommands`. -/
theorem onDataReceived_cases
    (hrequests : (onDataReceived E x l l.commandClient.id seg).requests = []) :
    let o := onDataReceived E x l l.commandClient.id seg
    (o.layer.device = l.device ∧
        (o.sent = [] ∨ o.sent = [(l.commandClient.id, "\r>".toList)])) ∨
      ∃ d line, l.device = some d ∧
        o.layer.device = some (parseCommands E x d line).device ∧
        o.sent = (parseCommands E x d line).notices.flatMap (onStatusChanged l) ++
          [(l.commandClient.id, (parseCommands E x d line).reply)] := by
  rw [onDataReceived, onCommand, if_neg fun h => h.1 rfl] at hrequests ⊢
  cases hedit : editCommand ((l.cmds l.commandClient.id).getD []) seg with
  | mk clientCmd complete =>
      rw [hedit] at hrequests
      cases complete with
      | false => exact Or.inl ⟨rfl, Or.inl rfl⟩
      | true =>
          dsimp only at hrequests ⊢
          rcases dispatchLine_cases E x (l.setCmd l.commandClient.id []) l.commandClient.id
              (tok (splitString clientCmd lineEnds) 0) with
            ⟨-, h⟩ | ⟨-, text, request, -, h⟩ | ⟨-, -, h⟩ | ⟨-, d, hd, h⟩
          · rw [h]
            exact Or.inl ⟨rfl, Or.inr rfl⟩
          · rw [h] at hrequests
            cases hrequests
          · rw [h]
            exact Or.inl ⟨rfl, Or.inl rfl⟩
          · rw [h]
            exact Or.inr ⟨d, tok (splitString clientCmd lineEnds) 0, hd, rfl, rfl⟩

/-- Processing a segment and sending the reply sends what `OnCommand` sends. -/
theorem sentTo_segment
    (hrequests : (onDataReceived E x l l.commandClient.id seg).requests = []) :
    let o := onDataReceived E x l l.commandClient.id seg
    sentTo l.commandClient.id o.sent =
      sentTo l.commandClient.id o.sent.dropLast ++ (o.sent.getLast?.map Prod.snd).getD [] := by
  dsimp only
  rcases onDataReceived_cases hrequests with ⟨-, hsent | hsent⟩ | ⟨d, line, -, -, hsent⟩
  · simp [hsent]
  · simp [hsent]
  · rw [hsent, List.dropLast_concat, List.getLast?_concat, sentTo_append, sentTo_self]
    rfl

end

/-! ### The invariant -/

/-- The client is connected, the reply that is waiting is one of `ParseCommands`, and the last byte
sent is `>` whenever the status is `READY`. -/
structure PromptInvariant (s : Prompting) : Prop where
  connected : s.layer.commandClient.connected = true
  client : s.layer.commandClient.id ≠ 0
  reply : ∀ reply, s.pending = some reply → IsReply reply
  ready : ∀ d ∈ s.layer.device, d.status = .ready → s.sent.getLast? = some '>'

section

variable {E : Env} {s s' : Prompting}

/-- Callbacks that announce what the device does keep the last byte a prompt. -/
theorem getLast?_prompts (hI : PromptInvariant s) {d d' : Mps} (hd : d ∈ s.layer.device)
    {notices : List MpsStatus} (hannounced : ReadyAnnounced d notices d')
    (hready : d'.status = .ready) : (s.sent ++ sentTo s.layer.commandClient.id
      (notices.flatMap (onStatusChanged s.layer))).getLast? = some '>' := by
  rw [List.getLast?_append]
  rcases prompts_cases hI.connected hI.client notices with ⟨hmem, hnone⟩ | ⟨-, hlast⟩
  · -- nothing was sent, so the status was `READY` before
    rcases hannounced hready with hbefore | hmem'
    · rw [hnone, hI.ready d hd hbefore]
      rfl
    · exact absurd hmem' hmem
  · rw [hlast]
    rfl

theorem PromptInvariant.segment (hI : PromptInvariant s) {x : Session} {seg : Bytes}
    (h : s.step E (.segment x seg) = some s') : PromptInvariant s' := by
  obtain ⟨⟨-, hrequests⟩, h⟩ := Option.ite_none_right_eq_some.1 h
  obtain rfl := Option.some_inj.1 h
  have hclient : (onDataReceived E x s.layer s.layer.commandClient.id seg).layer.commandClient =
      s.layer.commandClient := by
    rw [onDataReceived, onCommand_layer]
  refine ⟨?_, ?_, ?_, ?_⟩
  · exact (congrArg ActiveClient.connected hclient).trans hI.connected
  · intro hid
    exact hI.client ((congrArg ActiveClient.id hclient).symm.trans hid)
  · intro reply hreply
    dsimp only at hreply
    rcases onDataReceived_cases hrequests with ⟨-, hsent | hsent⟩ | ⟨d, line, -, -, hsent⟩
    · simp [hsent] at hreply
    · rw [hsent] at hreply
      rw [← Option.some_inj.1 hreply]
      exact isReply_text rfl
    · rw [hsent, List.getLast?_concat] at hreply
      rw [← Option.some_inj.1 hreply]
      exact parseCommands_isReply E x d line
  · intro d' hd' hready
    dsimp only at hd' ⊢
    rcases onDataReceived_cases hrequests with
      ⟨hdevice, hsent | hsent⟩ | ⟨d, line, hd, hdevice, hsent⟩
    · rw [hdevice] at hd'
      rw [hsent, List.dropLast_nil, sentTo_nil, List.append_nil]
      exact hI.ready d' hd' hready
    · rw [hdevice] at hd'
      rw [hsent, List.dropLast_singleton, sentTo_nil, List.append_nil]
      exact hI.ready d' hd' hready
    · rw [hdevice] at hd'
      obtain rfl := Option.some_inj.1 hd'
      rw [hsent, List.dropLast_concat]
      exact getLast?_prompts hI hd (announced_parseCommands E x d line) hready

theorem PromptInvariant.answer (hI : PromptInvariant s) (htime : AnswersInTime s .reply)
    (h : s.step E .reply = some s') : PromptInvariant s' := by
  obtain ⟨reply, hpending, h⟩ := Option.map_eq_some_iff.1 h
  obtain rfl := h
  refine ⟨hI.connected, hI.client, fun _ hnone => absurd hnone (by simp), ?_⟩
  intro d hd hready
  change (s.sent ++ reply).getLast? = some '>'
  rcases hI.reply reply hpending with rfl | rfl | hlast
  · -- the reply is empty
    rw [List.append_nil]
    exact hI.ready d hd hready
  · exact absurd hready (htime rfl hpending d hd)
  · rw [List.getLast?_append, hlast]
    rfl

theorem PromptInvariant.scanThread (hI : PromptInvariant s) (h : s.step E .thread = some s') :
    PromptInvariant s' := by
  obtain ⟨d, hd, h⟩ := Option.bind_eq_some_iff.1 h
  obtain ⟨after, hafter, rfl⟩ := Option.map_eq_some_iff.1 h
  refine ⟨hI.connected, hI.client, hI.reply, ?_⟩
  intro d' hd' hready
  obtain rfl := Option.some_inj.1 hd'
  exact getLast?_prompts hI hd (announced_threadStep hafter) hready

/-- **Step lemma**: every step that answers in time keeps the invariant. -/
theorem PromptInvariant.step {a : PromptAction} (hI : PromptInvariant s) (htime : AnswersInTime s a)
    (h : s.step E a = some s') : PromptInvariant s' := by
  cases a with
  | segment x seg => exact hI.segment h
  | reply => exact hI.answer htime h
  | thread => exact hI.scanThread h

/-- A client that has connected is prompted at once. -/
theorem promptInvariant_connect {l : ServerLayer} (thread : ScanThread) {id : ℕ} (hid : id ≠ 0)
    (hnew : id ≠ l.commandClient.id) : PromptInvariant (.connect l thread id) := by
  have hsent : (onClientConnected l id).sent = [(id, "\r\n>".toList)] := by
    rw [onClientConnected, if_neg hnew]
    split <;> rfl
  have hclient : (onClientConnected l id).layer.commandClient =
      { id := id, connected := true } := by
    rw [onClientConnected, if_neg hnew]
    split <;> rfl
  refine ⟨congrArg ActiveClient.connected hclient, ?_, ?_, ?_⟩
  · intro hzero
    exact hid ((congrArg ActiveClient.id hclient).symm.trans hzero)
  · intro reply hnone
    cases hnone
  · intro d _ _
    rw [Prompting.connect, hsent, sentTo_self]
    rfl

end

/-! ### Runs -/

/-- For a client that connects to a layer and a scan thread in any state: in every run in which
`Scan started ..` is never sent while the status is `READY`, **the client is prompted whenever the
device is idle**. -/
theorem prompted_of_along (E : Env) (l : ServerLayer) (thread : ScanThread) (id : ℕ) (hid : id ≠ 0)
    (hnew : id ≠ l.commandClient.id) (as : List PromptAction)
    (htime : Runs.Along (Prompting.step E) AnswersInTime (.connect l thread id) as) :
    Runs.Throughout (Prompting.step E) Prompted (.connect l thread id) as := by
  have hthroughout : Runs.Throughout (Prompting.step E) PromptInvariant (.connect l thread id) as :=
    Runs.throughout_of_along (fun _ _ _ hI hC h => hI.step hC h)
      (promptInvariant_connect thread hid hnew) htime
  exact hthroughout.mono fun _ hI d hd hready _ _ _ => hI.ready d hd hready

/-- A command that is processed and answered at once. -/
def typed (cmd : String) : List PromptAction := [.segment .quiet cmd.toList, .reply]

/-- A calibration ends, and then a scan at its frame limit. -/
def calibrateAndScan : List PromptAction :=
  typed "CALZ" ++ List.replicate 4 .thread ++ typed "SET RATE 500" ++ typed "SET FPS 1" ++
    typed "SCAN" ++ List.replicate 9 .thread

/-- Where the scan thread has ended the scan, the device is idle and the client is prompted. -/
theorem prompted_of_along_limit :
    ((Runs.exec (Prompting.step referenceEnv)
        (.connect (attachedLayer mps4264 1 false) (Scanner.start (attachConfig mps4264 1)).thread 5)
        calibrateAndScan).map fun s =>
      (s.layer.device.map fun d => (d.status, d.scanning, d.calibrating), s.pending,
        s.sent.getLast?)) =
      some (some (.ready, false, false), none, some '>') ∧
      Runs.Throughout (Prompting.step referenceEnv) Prompted
        (.connect (attachedLayer mps4264 1 false) (Scanner.start (attachConfig mps4264 1)).thread 5)
        calibrateAndScan :=
  ⟨by decide +kernel,
    prompted_of_along referenceEnv _ _ 5 (by decide) (by decide) _ (by decide +kernel)⟩

/-- A scan of one frame ends before the reply of its command is sent. -/
def shortScan : List PromptAction :=
  typed "SET RATE 500" ++ typed "SET FPS 1" ++ .segment .quiet "SCAN".toList ::
    (List.replicate 11 .thread ++ [.reply])

/-- A calibration ends during a scan; then the client sends `SCAN` once more, and `STOP`. -/
def calibratedScan : List PromptAction :=
  typed "CALZ" ++ [.thread, .thread] ++ typed "SCAN" ++ [.thread] ++ typed "SCAN" ++ typed "STOP"

/-- Both leave the device idle and the client without a prompt. -/
theorem prompt_lost :
    (¬ Runs.Throughout (Prompting.step referenceEnv) Prompted
      (.connect (attachedLayer mps4264 1 false) (Scanner.start (attachConfig mps4264 1)).thread 5)
      shortScan) ∧
    ¬ Runs.Throughout (Prompting.step referenceEnv) Prompted
      (.connect (attachedLayer mps4264 1 false) (Scanner.start (attachConfig mps4264 1)).thread 5)
      calibratedScan := by
  decide +kernel

end MpsEmulator
