/-
**The console commands the device as a client does.**

A line that is typed at the console and begins with `/` is a command of id 0, which nobody has to
give permission; what is typed behind the slash goes through the same buffer and the same parser as
the segments of a client.  Its replies go to id 0, which is everybody.

* `SessionStep`, `session` — what a client sends or the console types, and what the scan thread
  makes of the device in between;
* `SameSession` — the two layers differ in whose buffer the command is in;
* `dispatchLine_sameSession`, `onCommand_sameSession` — a step of the console and one of the client;
* `console_as_client` — **a session at the console does to the device, asks for and answers what the
  same session of the active client does**.
-/

import MpsEmulator.CommandBuffers

set_option relaxedAutoImplicit false
set_option autoImplicit false

namespace MpsEmulator

/-! ### Sessions -/

/-- A segment, or a typed line without its slash; or a change of the device by the scan thread. -/
inductive SessionStep
  | command (x : Session) (seg : Bytes)
  | scanThread (change : Mps → Mps)

/-- The layer behind a session, what it has sent, and what it has asked of the application. -/
structure SessionResult where
  layer : ServerLayer
  sent : List (ℕ × Bytes)
  requests : List AppRequest

/-- A session through a callback. -/
def session (callback : Session → ServerLayer → Bytes → LayerOutcome) :
    ServerLayer → List SessionStep → SessionResult
  | l, [] => { layer := l, sent := [], requests := [] }
  | l, .command x seg :: rest =>
      let o := callback x l seg
      let r := session callback o.layer rest
      { r with sent := o.sent ++ r.sent, requests := o.requests ++ r.requests }
  | l, .scanThread change :: rest =>
      session callback { l with device := l.device.map change } rest

/-- The lines of a session at the console. -/
def consoleSession (E : Env) : ServerLayer → List SessionStep → SessionResult :=
  session fun x l seg => onConsoleInput E x l ('/' :: seg)

/-- The segments of a client. -/
def clientSession (E : Env) (id : ℕ) : ServerLayer → List SessionStep → SessionResult :=
  session fun x l seg => onDataReceived E x l id seg

/-! ### The two sessions -/

/-- The layers of the session at the console and of that of the active client. -/
structure SameSession (id : ℕ) (l l' : ServerLayer) : Prop where
  device : l.device = l'.device
  enableConsole : l.enableConsole = l'.enableConsole
  client : l.commandClient = l'.commandClient
  active : l.commandClient.id = id
  buffer : (l.cmds 0).getD [] = (l'.cmds id).getD []

/-- What is sent to everybody instead of the client. -/
def relabel (id : ℕ) (m : ℕ × Bytes) : ℕ × Bytes := (if m.1 = 0 then id else m.1, m.2)

variable {E : Env} {x : Session} {id : ℕ} {l l' : ServerLayer}

theorem relabel_zero (id : ℕ) (text : Bytes) : relabel id (0, text) = (id, text) := by
  simp [relabel]

/-- The active client is told about the status by its id, which is not that of the console. -/
theorem relabel_onStatusChanged (id : ℕ) (l : ServerLayer) (notices : List MpsStatus) :
    (notices.flatMap (onStatusChanged l)).map (relabel id) =
      notices.flatMap (onStatusChanged l) := by
  induction notices with
  | nil => rfl
  | cons status rest ih =>
      rw [List.flatMap_cons, List.map_append, ih]
      congr 1
      unfold onStatusChanged
      split
      · next h => simp [relabel, h.2.2]
      · rfl

/-- What `OnStatusChanged` sends depends on the active client only. -/
theorem onStatusChanged_congr (h : l.commandClient = l'.commandClient) :
    onStatusChanged l = onStatusChanged l' := by
  funext status
  unfold onStatusChanged
  rw [h]

/-- The outcomes of a step of the console and of one of the client. -/
structure SameOutcome (id : ℕ) (o o' : LayerOutcome) : Prop where
  layer : SameSession id o.layer o'.layer
  sent : o.sent.map (relabel id) = o'.sent
  requests : o.requests = o'.requests

/-- A line from the console is answered with the texts with which the client is. -/
theorem dispatchLine_sameSession (h : SameSession id l l') (line : Bytes) :
    SameOutcome id (dispatchLine E x l 0 line) (dispatchLine E x l' id line) := by
  have htext : ∀ text : Bytes, [((0 : ℕ), text)].map (relabel id) = [(id, text)] := fun text =>
    congrArg (fun m => [m]) (relabel_zero id text)
  rw [dispatchLine, dispatchLine, ← h.enableConsole]
  by_cases hblank : line.headD '\x00' = '\r' ∨ line = []
  · rw [if_pos hblank, if_pos hblank]
    exact ⟨h, htext _, rfl⟩
  rw [if_neg hblank, if_neg hblank]
  by_cases hshutdown : isOneOf line ["shutdown", "SHUTDOWN"] = true
  · rw [if_pos hshutdown, if_pos hshutdown]
    refine ⟨h, ?_, rfl⟩
    cases l.enableConsole with
    | true => exact htext _
    | false => rfl
  rw [if_neg hshutdown, if_neg hshutdown]
  by_cases hrestart : isOneOf line ["restart", "RESTART", "reboot", "REBOOT"] = true
  · rw [if_pos hrestart, if_pos hrestart]
    refine ⟨h, ?_, rfl⟩
    cases l.enableConsole with
    | true => exact htext _
    | false => rfl
  rw [if_neg hrestart, if_neg hrestart]
  cases hdevice : l.device with
  | none =>
      rw [← h.device, hdevice]
      exact ⟨h, rfl, rfl⟩
  | some d =>
      rw [← h.device, hdevice]
      refine ⟨⟨rfl, rfl, h.client, h.active, h.buffer⟩, ?_, rfl⟩
      dsimp only
      rw [List.map_append, relabel_onStatusChanged, htext, onStatusChanged_congr h.client]

/-- **A step of the console does what a step of the active client does.** -/
theorem onCommand_sameSession (h : SameSession id l l') (cmd : Bytes) :
    SameOutcome id (onCommand E x l 0 cmd) (onCommand E x l' id cmd) := by
  have hset : ∀ clientCmd : Bytes,
      SameSession id (l.setCmd 0 clientCmd) (l'.setCmd id clientCmd) := fun clientCmd =>
    ⟨h.device, h.enableConsole, h.client, h.active, by simp [ServerLayer.setCmd]⟩
  have hid : id = l'.commandClient.id := by rw [← h.client, h.active]
  rw [onCommand, if_neg fun hno => hno.2 rfl, onCommand, if_neg fun hno => hno.1 hid, h.buffer]
  cases hedit : editCommand ((l'.cmds id).getD []) cmd with
  | mk clientCmd complete =>
      cases complete with
      | false => exact ⟨hset clientCmd, rfl, rfl⟩
      | true => exact dispatchLine_sameSession (hset []) _

/-! ### Whole sessions -/

/-- The results of the two sessions. -/
structure SameResult (id : ℕ) (r r' : SessionResult) : Prop where
  layer : SameSession id r.layer r'.layer
  sent : r.sent.map (relabel id) = r'.sent
  requests : r.requests = r'.requests

/-- The client sends something, and something is typed behind the slash. -/
def SessionStep.Nonempty : SessionStep → Prop
  | .command _ seg => seg ≠ []
  | .scanThread _ => True

/-- What stands behind a slash is a command of the console. -/
theorem onConsoleInput_slash (E : Env) (x : Session) (l : ServerLayer) {seg : Bytes}
    (hseg : seg ≠ []) : onConsoleInput E x l ('/' :: seg) = onCommand E x l 0 seg := by
  cases seg with
  | nil => exact absurd rfl hseg
  | cons c cmd => rfl

/-- The sessions stay the same, step by step. -/
theorem session_same {steps : List SessionStep} :
    ∀ {l l' : ServerLayer}, SameSession id l l' → (∀ a ∈ steps, a.Nonempty) →
      SameResult id (consoleSession E l steps) (clientSession E id l' steps) := by
  induction steps with
  | nil => exact fun h _ => ⟨h, rfl, rfl⟩
  | cons a rest ih =>
      intro l l' h hsteps
      have hrest : ∀ b ∈ rest, b.Nonempty := fun b hb => hsteps b (List.mem_cons_of_mem a hb)
      cases a with
      | command x seg =>
          have hseg : seg ≠ [] := hsteps _ List.mem_cons_self
          have hstep := onCommand_sameSession (E := E) (x := x) h seg
          obtain ⟨hlayer, hsent, hrequests⟩ := ih hstep.layer hrest
          simp only [consoleSession, clientSession, session, onDataReceived,
            onConsoleInput_slash E x l hseg]
          refine ⟨hlayer, ?_, ?_⟩
          · dsimp only
            rw [List.map_append, hstep.sent]
            exact congrArg _ hsent
          · dsimp only
            rw [hstep.requests]
            exact congrArg _ hrequests
      | scanThread change =>
          refine ih ⟨?_, h.enableConsole, h.client, h.active, h.buffer⟩ hrest
          exact congrArg (Option.map change) h.device

/-- **A session at the console is one of the active client.**  If the console has typed as much of a
command as the client has, the lines `/seg` of the console do to the device what the segments `seg`
of the client do, ask the application for the same, and are answered with the same texts, which go
to everybody instead of to the client. -/
theorem console_as_client (E : Env) (l : ServerLayer) (steps : List SessionStep)
    (hbuffer : (l.cmds 0).getD [] = (l.cmds l.commandClient.id).getD [])
    (hsteps : ∀ a ∈ steps, a.Nonempty) :
    let console := consoleSession E l steps
    let client := clientSession E l.commandClient.id l steps
    console.layer.device = client.layer.device ∧
      console.requests = client.requests ∧
      console.sent.map (relabel l.commandClient.id) = client.sent := by
  have hsame := session_same (E := E) ⟨rfl, rfl, rfl, rfl, hbuffer⟩ hsteps
  exact ⟨hsame.layer.device, hsame.requests, hsame.sent⟩

/-- A rate that is set, what the scan thread makes of it, and a request to restart. -/
def rateAndRestart : List SessionStep :=
  [.command .quiet "SET RATE 100\r\n".toList, .scanThread fun d => { d with status := .ready },
    .command .quiet "reboot\r\n".toList]

/-- The session at the console of a device with a client, and what the client would have seen. -/
theorem console_as_client_restart :
    let l : ServerLayer :=
      { attachedLayer mps4216 1 true with commandClient := { id := 7, connected := true } }
    let console := consoleSession referenceEnv l rateAndRestart
    let client := clientSession referenceEnv 7 l rateAndRestart
    (console.layer.device = client.layer.device ∧ console.requests = client.requests ∧
        console.sent.map (relabel 7) = client.sent) ∧
      console.requests = [.restart] ∧ console.sent.map Prod.fst = [0, 0] := by
  refine ⟨console_as_client referenceEnv _ rateAndRestart rfl ?_, ?_, ?_⟩
  · simp [rateAndRestart, SessionStep.Nonempty]
  · decide +kernel
  · decide +kernel

end MpsEmulator
