/-
**`ServerLayer`: the callbacks between the two servers and the device.**

The layer keeps one active client on each port, a command buffer for every client of the control
port, and the device.  A callback is a function from the layer before it to the layer after it and
what it asks others to do: strings to send, lines to print, and requests to the application.

* `ActiveClient`, `ServerLayer`, `attachedLayer` — the members;
* `LayerOutcome` — what a callback leaves;
* `onStatusChanged` — the prompt that is sent when the device becomes ready;
* `editCommand`, `onCommand`, `onDataReceived` — the control port, with `onCommand_layer`, which
  says what a command leaves alone;
* `onTCPBinaryDataReceived` — the binary port;
* `onClientConnected`, …, `onTCPBinaryClientDisconnected` — clients that come and go.

The pointer to the server is set before the first callback can run and is left out.
-/

import MpsEmulator.ParseCommands

set_option relaxedAutoImplicit false
set_option autoImplicit false

namespace MpsEmulator

/-! ### The state -/

/-- The pair of members for a port: the id of its active client, and whether there is one. -/
structure ActiveClient where
  id : ℕ
  connected : Bool
  deriving DecidableEq

/-- No client yet, or no longer one. -/
def ActiveClient.none : ActiveClient := { id := 0, connected := false }

/-- The members of `ServerLayer`.  The map `m_Cmds` has an entry for a client from its first segment
on. -/
structure ServerLayer where
  device : Option Mps
  enableConsole : Bool
  commandClient : ActiveClient
  binaryClient : ActiveClient
  cmds : ℕ → Option Bytes

/-- The layer after `OnAttach`. -/
def attachedLayer (deviceId : MpsDeviceID) (serialNumber : ℕ) (enableConsole : Bool) :
    ServerLayer where
  device := some (attachedDevice deviceId serialNumber)
  enableConsole := enableConsole
  commandClient := .none
  binaryClient := .none
  cmds := fun _ => .none

/-- The requests of the layer to the application. -/
inductive AppRequest
  | shutdown
  | restart
  deriving DecidableEq

/-- What a callback leaves: the layer, the strings sent and to which id, the lines printed on the
console, the requests to the application, `errno`, and the command line it has dispatched. -/
structure LayerOutcome where
  layer : ServerLayer
  sent : List (ℕ × Bytes)
  printed : List Bytes
  requests : List AppRequest
  errnoRange : Bool
  dispatched : Option Bytes

/-- A callback that does no more than change the layer and send strings. -/
def Session.reply (x : Session) (l : ServerLayer) (sent : List (ℕ × Bytes)) : LayerOutcome :=
  { layer := l, sent := sent, printed := [], requests := [], errnoRange := x.errnoRange
    dispatched := none }

/-- The string that `OnStatusChanged` sends for a status of the device. -/
def onStatusChanged (l : ServerLayer) (status : MpsStatus) : List (ℕ × Bytes) :=
  if status = .ready ∧ l.commandClient.connected ∧ l.commandClient.id ≠ 0 then
    [(l.commandClient.id, "\r\n>".toList)]
  else []

/-! ### The control port -/

/-- What a segment makes of the command buffer, and whether the command is then complete.  A segment
of one byte is a key; any other one takes the place of the buffer. -/
def editCommand (clientCmd : Bytes) (cmd : Bytes) : Bytes × Bool :=
  match cmd with
  | [c] =>
      if c = '\r' then (clientCmd, true)
      else if c = '\x08' then (clientCmd.dropLast, false)
      else if c = '\x1b' then (['\x1b'], true)
      else (clientCmd ++ [c], false)
  | _ => (cmd, true)

/-- The delimiters between command lines. -/
def lineEnds : Bytes := "\r\n".toList

/-- Setting the command buffer of a client. -/
def ServerLayer.setCmd (l : ServerLayer) (id : ℕ) (clientCmd : Bytes) : ServerLayer :=
  { l with cmds := Function.update l.cmds id (some clientCmd) }

/-- Erasing the command buffer of a client. -/
def ServerLayer.eraseCmd (l : ServerLayer) (id : ℕ) : ServerLayer :=
  { l with cmds := Function.update l.cmds id none }

/-- What `OnCommand` does with the first line of a complete command. -/
def dispatchLine (E : Env) (x : Session) (l : ServerLayer) (id : ℕ) (line : Bytes) :
    LayerOutcome :=
  if line.headD '\x00' = '\r' ∨ line = [] then x.reply l [(id, "\r>".toList)]
  else if isOneOf line ["shutdown", "SHUTDOWN"] then
    { x.reply l
        (if l.enableConsole then
          [(id, ("Shuting down server: Requires manually stopping " ++
            "from the server console\r\n").toList)]
        else []) with
      requests := [.shutdown]
      dispatched := some line }
  else if isOneOf line ["restart", "RESTART", "reboot", "REBOOT"] then
    { x.reply l
        (if l.enableConsole then
          [(id, ("Retarting down server: Requires manually stopping " ++
            "from the server console\r\n").toList)]
        else []) with
      requests := [.restart]
      dispatched := some line }
  else
    match l.device with
    | none => x.reply l []
    | some d =>
        let o := parseCommands E x d line
        { layer := { l with device := some o.device }
          sent := o.notices.flatMap (onStatusChanged l) ++ [(id, o.reply)]
          printed := if id = 0 then [o.reply ++ "\n".toList] else []
          requests := []
          errnoRange := o.errnoRange
          dispatched := some line }

/-- `ServerLayer::OnCommand`. -/
def onCommand (E : Env) (x : Session) (l : ServerLayer) (id : ℕ) (cmd : Bytes) : LayerOutcome :=
  if id ≠ l.commandClient.id ∧ id ≠ 0 then
    x.reply l
      [(id, "[Error] you do not have permission to control this device\r\n".toList)]
  else
    match editCommand ((l.cmds id).getD []) cmd with
    | (clientCmd, false) => x.reply (l.setCmd id clientCmd) []
    | (clientCmd, true) =>
        dispatchLine E x (l.setCmd id []) id (tok (splitString clientCmd lineEnds) 0)

/-- A line is answered with a prompt, passed on as a request with a text that begins with its
letter, dropped because there is no device, or run by `ParseCommands`. -/
theorem dispatchLine_cases (E : Env) (x : Session) (l : ServerLayer) (id : ℕ) (line : Bytes) :
    ((line.headD '\x00' = '\r' ∨ line = []) ∧
      dispatchLine E x l id line = x.reply l [(id, "\r>".toList)]) ∨
    (line ≠ [] ∧ ∃ (text : Bytes) (request : AppRequest),
      (text.head? = some 'S' ∨ text.head? = some 'R') ∧
      dispatchLine E x l id line =
        { x.reply l (if l.enableConsole then [(id, text)] else []) with
          requests := [request]
          dispatched := some line }) ∨
    (line ≠ [] ∧ l.device = none ∧ dispatchLine E x l id line = x.reply l []) ∨
    (line ≠ [] ∧ ∃ d, l.device = some d ∧
      dispatchLine E x l id line =
        { layer := { l with device := some (parseCommands E x d line).device }
          sent := (parseCommands E x d line).notices.flatMap (onStatusChanged l) ++
            [(id, (parseCommands E x d line).reply)]
          printed := if id = 0 then [(parseCommands E x d line).reply ++ "\n".toList] else []
          requests := []
          errnoRange := (parseCommands E x d line).errnoRange
          dispatched := some line }) := by
  by_cases hblank : line.headD '\x00' = '\r' ∨ line = []
  · exact Or.inl ⟨hblank, if_pos hblank⟩
  have hne : line ≠ [] := fun h => hblank (Or.inr h)
  right
  rw [dispatchLine, if_neg hblank]
  by_cases hshutdown : isOneOf line ["shutdown", "SHUTDOWN"]
  · left
    rw [if_pos hshutdown]
    refine ⟨hne, _, _, Or.inl ?_, rfl⟩
    decide
  rw [if_neg hshutdown]
  by_cases hrestart : isOneOf line ["restart", "RESTART", "reboot", "REBOOT"]
  · left
    rw [if_pos hrestart]
    refine ⟨hne, _, _, Or.inr ?_, rfl⟩
    decide
  rw [if_neg hrestart]
  right
  cases hdevice : l.device with
  | none => exact Or.inl ⟨hne, rfl, rfl⟩
  | some d => exact Or.inr ⟨hne, d, rfl, rfl⟩

/-- A dispatched line changes nothing in the layer but the device. -/
theorem dispatchLine_layer (E : Env) (x : Session) (l : ServerLayer) (id : ℕ) (line : Bytes) :
    (dispatchLine E x l id line).layer =
      { l with device := (dispatchLine E x l id line).layer.device } := by
  rcases dispatchLine_cases E x l id line with
    ⟨-, h⟩ | ⟨-, text, request, -, h⟩ | ⟨-, -, h⟩ | ⟨-, d, -, h⟩
  · rw [h]
    rfl
  · rw [h]
    rfl
  · rw [h]
    rfl
  · rw [h]

/-- A command changes nothing in the layer but the device and the buffer of the id it is for. -/
theorem onCommand_layer (E : Env) (x : Session) (l : ServerLayer) (id : ℕ) (cmd : Bytes) :
    (onCommand E x l id cmd).layer =
      { l with
        device := (onCommand E x l id cmd).layer.device
        cmds := Function.update l.cmds id ((onCommand E x l id cmd).layer.cmds id) } := by
  rw [onCommand]
  split
  · simp [Session.reply]
  · cases hedit : editCommand ((l.cmds id).getD []) cmd with
    | mk clientCmd complete =>
        cases complete with
        | false => simp [Session.reply, ServerLayer.setCmd]
        | true =>
            dsimp only
            rw [dispatchLine_layer]
            simp [ServerLayer.setCmd]

/-- `ServerLayer::OnDataReceived`; `IsValidMsg` accepts everything. -/
def onDataReceived (E : Env) (x : Session) (l : ServerLayer) (id : ℕ) (cmd : Bytes) :
    LayerOutcome := onCommand E x l id cmd

/-! ### The binary port -/

/-- `ServerLayer::OnTCPBinaryDataReceived`: the first byte starts or stops the scan, whoever sent
it. -/
def onTCPBinaryDataReceived (E : Env) (x : Session) (l : ServerLayer) (cmd : Bytes) :
    LayerOutcome :=
  match l.device, cmd with
  | some d, '\x01' :: _ =>
      let c := startScan E x.now d
      x.reply { l with device := some c.device } (c.notices.flatMap (onStatusChanged l))
  | some d, '\x00' :: _ =>
      let c := stopScan d
      x.reply { l with device := some c.device } (c.notices.flatMap (onStatusChanged l))
  | _, _ => x.reply l []

/-! ### Clients that come and go -/

/-- `ServerLayer::OnClientDisconnected`. -/
def onClientDisconnected (l : ServerLayer) (id : ℕ) : ServerLayer :=
  if id = l.commandClient.id then { l.eraseCmd id with commandClient := .none } else l

/-- `ServerLayer::OnTCPBinaryClientDisconnected`. -/
def onTCPBinaryClientDisconnected (l : ServerLayer) (id : ℕ) : ServerLayer :=
  if id = l.binaryClient.id then { l with binaryClient := .none } else l

/-- What a connect callback leaves: the layer, the client it has kicked, and the strings sent. -/
structure ConnectOutcome where
  layer : ServerLayer
  kicked : Option ℕ
  sent : List (ℕ × Bytes)

/-- `ServerLayer::OnClientConnected`.  The kick runs the disconnect callback, so the buffer that is
erased behind it is that of id 0. -/
def onClientConnected (l : ServerLayer) (id : ℕ) : ConnectOutcome :=
  if id = l.commandClient.id then { layer := l, kicked := none, sent := [] }
  else if l.commandClient.connected then
    let l' := onClientDisconnected l l.commandClient.id
    { layer :=
        { l'.eraseCmd l'.commandClient.id with commandClient := { id := id, connected := true } }
      kicked := some l.commandClient.id
      sent := [(id, "\r\n>".toList)] }
  else
    { layer := { l with commandClient := { id := id, connected := true } }
      kicked := none
      sent := [(id, "\r\n>".toList)] }

/-- `ServerLayer::OnTCPBinaryClientConnected`. -/
def onTCPBinaryClientConnected (l : ServerLayer) (id : ℕ) : ConnectOutcome :=
  if id = l.binaryClient.id then { layer := l, kicked := none, sent := [] }
  else if l.binaryClient.connected then
    { layer :=
        { onTCPBinaryClientDisconnected l l.binaryClient.id with
          binaryClient := { id := id, connected := true } }
      kicked := some l.binaryClient.id
      sent := [] }
  else
    { layer := { l with binaryClient := { id := id, connected := true } }
      kicked := none
      sent := [] }

end MpsEmulator
