/-
**Whose command buffer a callback touches.**

`m_Cmds` holds the command typed so far for every client of the control port, and for the console,
which has id 0.  `OnClientConnected` kicks the active client and then erases the buffer of
`m_ActiveTCPCommandClientId`.  The kick runs `OnClientDisconnected`, which has erased that buffer
already and set the id to 0, so what is erased in the end is the buffer of the console.

* `onConsoleInput` — lines from the console;
* `ControlPort`, `LayerAction`, `ControlPort.step` — the layer, the clients of the control server,
  and the callbacks, each as one step;
* `LayerAction.concerns`, `LayerAction.drops` — the ids an action is about, and those it takes leave
  of;
* `BufferInvariant` — the entries in `m_Cmds` are those of the active client and of the console;
* `private_iff` — a step leaves the buffers of the others alone exactly if it is no kick while the
  console has an entry;
* `buffers_private_iff` — **so the buffers are private in a run exactly if no kick meets the
  console**;
* `console_command_lost` — one that does.
-/

import MpsEmulator.Runs
import MpsEmulator.ServerLayer

set_option relaxedAutoImplicit false
set_option autoImplicit false

namespace MpsEmulator

/-! ### The callbacks of the control port -/

/-- `ServerLayer::OnConsoleInput`.  A command is served as id 0, and anything else goes to all the
clients, which is what sending to id 0 does. -/
def onConsoleInput (E : Env) (x : Session) (l : ServerLayer) (msg : Bytes) : LayerOutcome :=
  match msg with
  | '/' :: c :: cmd => onCommand E x l 0 (c :: cmd)
  | _ => x.reply l [(0, msg ++ "\r\n>".toList)]

/-- The layer, and the ids in `m_Connections` of the control server. -/
structure ControlPort where
  layer : ServerLayer
  clients : ℕ → Bool

/-- The layer after `OnAttach`, without clients. -/
def ControlPort.start (deviceId : MpsDeviceID) (serialNumber : ℕ) (enableConsole : Bool) :
    ControlPort where
  layer := attachedLayer deviceId serialNumber enableConsole
  clients := fun _ => false

/-- The callbacks of the layer, and what the scan thread leaves of the device. -/
inductive LayerAction
  /-- a client of the control port has been accepted -/
  | connected (id : ℕ)
  /-- a client of the control port is gone -/
  | disconnected (id : ℕ)
  | data (x : Session) (id : ℕ) (seg : Bytes)
  | console (x : Session) (msg : Bytes)
  | binaryConnected (id : ℕ)
  | binaryDisconnected (id : ℕ)
  | binaryData (x : Session) (seg : Bytes)
  | scanThread (d : Mps)

/-- One callback.  A client that is accepted has a handle that no client has, and not that of the
console; a client that is kicked is one no longer. -/
def ControlPort.step (E : Env) (s : ControlPort) : LayerAction → Option ControlPort
  | .connected id =>
      if id ≠ 0 ∧ s.clients id = false then
        let o := onClientConnected s.layer id
        some
          { layer := o.layer
            clients := fun j => if o.kicked = some j then false else j = id || s.clients j }
      else none
  | .disconnected id =>
      if s.clients id then
        some
          { layer := onClientDisconnected s.layer id
            clients := Function.update s.clients id false }
      else none
  | .data x id seg =>
      if s.clients id then some { s with layer := (onDataReceived E x s.layer id seg).layer }
      else none
  | .console x msg => some { s with layer := (onConsoleInput E x s.layer msg).layer }
  | .binaryConnected id => some { s with layer := (onTCPBinaryClientConnected s.layer id).layer }
  | .binaryDisconnected id => some { s with layer := onTCPBinaryClientDisconnected s.layer id }
  | .binaryData x seg => some { s with layer := (onTCPBinaryDataReceived E x s.layer seg).layer }
  | .scanThread d => some { s with layer := { s.layer with device := some d } }

/-! ### What a step may touch -/

/-- The id is being connected, kicked, disconnected or served. -/
def LayerAction.concerns (l : ServerLayer) : LayerAction → ℕ → Prop
  | .connected id, j => j = id ∨ (onClientConnected l id).kicked = some j
  | .disconnected id, j => j = id
  | .data _ id _, j => j = id
  | .console _ _, j => j = 0
  | _, _ => False

/-- The id is that of an active client that is kicked or disconnected. -/
def LayerAction.drops (l : ServerLayer) : LayerAction → ℕ → Prop
  | .connected id, j => (onClientConnected l id).kicked = some j
  | .disconnected id, j => j = id ∧ id = l.commandClient.id
  | _, _ => False

/-- The step leaves the entries of all the ids it is not about as they are; the entry of an active
client that leaves is gone; and a client that becomes active has none. -/
structure PrivateStep (l : ServerLayer) (a : LayerAction) (l' : ServerLayer) : Prop where
  frame : ∀ j, ¬ a.concerns l j → l'.cmds j = l.cmds j
  dropped : ∀ j, a.drops l j → l'.cmds j = none
  fresh : ∀ id, a = .connected id → l'.commandClient.id = id ∧ l'.cmds id = none

/-- The buffers are private in the step. -/
def Private (E : Env) (s : ControlPort) (a : LayerAction) : Prop :=
  ∀ s' ∈ s.step E a, PrivateStep s.layer a s'.layer

/-- If the step kicks a client, the console has no entry. -/
def KicksQuietly (s : ControlPort) (a : LayerAction) : Prop :=
  ∀ id, a = .connected id → s.layer.commandClient.connected = true → s.layer.cmds 0 = none

/-- Only the active client and the console have entries, and the active client is a client. -/
structure BufferInvariant (s : ControlPort) : Prop where
  owner : ∀ j, s.layer.cmds j ≠ none → j = 0 ∨ j = s.layer.commandClient.id
  active : s.layer.commandClient.id ≠ 0 → s.clients s.layer.commandClient.id = true
  connected : s.layer.commandClient.connected = true ↔ s.layer.commandClient.id ≠ 0

variable {E : Env} {s s' : ControlPort} {a : LayerAction}

theorem bufferInvariant_start (deviceId : MpsDeviceID) (serialNumber : ℕ) (enableConsole : Bool) :
    BufferInvariant (.start deviceId serialNumber enableConsole) where
  owner := fun _ h => absurd rfl h
  active := fun h => absurd rfl h
  connected := iff_of_false Bool.false_ne_true fun h => h rfl

/-! ### Each callback -/

/-- What a new client does to the layer: it takes the place of the active one, if there is one,
whose buffer goes with that of the console. -/
theorem onClientConnected_spec {l : ServerLayer} {id : ℕ} (hid : id ≠ l.commandClient.id) :
    (onClientConnected l id).layer.commandClient = { id := id, connected := true } ∧
      (onClientConnected l id).kicked =
        (if l.commandClient.connected then some l.commandClient.id else none) ∧
      ∀ j, (onClientConnected l id).layer.cmds j =
        if l.commandClient.connected = true ∧ (j = 0 ∨ j = l.commandClient.id) then none
        else l.cmds j := by
  rw [onClientConnected, if_neg hid]
  cases hcon : l.commandClient.connected with
  | true =>
      rw [if_pos rfl]
      refine ⟨rfl, rfl, fun j => ?_⟩
      have hleft : onClientDisconnected l l.commandClient.id =
          { l.eraseCmd l.commandClient.id with commandClient := .none } := if_pos rfl
      dsimp only
      rw [hleft]
      -- the active client is forgotten by then, so that the buffer erased is the console's
      simp only [ServerLayer.eraseCmd, ActiveClient.none, Function.update_apply, true_and]
      by_cases hzero : j = 0
      · rw [if_pos hzero, if_pos (Or.inl hzero)]
      · rw [if_neg hzero]
        simp [hzero]
  | false =>
      refine ⟨rfl, rfl, fun j => ?_⟩
      simp

/-- A new client is not the active one, and nobody has typed anything for it. -/
theorem BufferInvariant.new {id : ℕ} (hJ : BufferInvariant s) (hzero : id ≠ 0)
    (hnew : s.clients id = false) : id ≠ s.layer.commandClient.id ∧ s.layer.cmds id = none := by
  have hid : id ≠ s.layer.commandClient.id := by
    rintro rfl
    rw [hJ.active hzero] at hnew
    exact absurd hnew (by simp)
  refine ⟨hid, ?_⟩
  by_contra hentry
  rcases hJ.owner id hentry with h0 | hactive
  · exact hzero h0
  · exact hid hactive

/-- The new client takes the place of the old one among the owners. -/
theorem BufferInvariant.connected_keeps {id : ℕ} (hJ : BufferInvariant s) (hzero : id ≠ 0)
    (hid : id ≠ s.layer.commandClient.id) :
    BufferInvariant
      { layer := (onClientConnected s.layer id).layer
        clients := fun j =>
          if (onClientConnected s.layer id).kicked = some j then false
          else j = id || s.clients j } := by
  obtain ⟨hclient, hkicked, hcmds⟩ := onClientConnected_spec hid
  refine ⟨?_, ?_, ?_⟩
  · intro j hj
    dsimp only at hj ⊢
    rw [hcmds] at hj
    obtain ⟨hkept, hj⟩ := (ite_ne_left_iff (a := (none : Option Bytes))).1 hj
    left
    rcases hJ.owner j (Ne.symm hj) with hconsole | hold
    · exact hconsole
    · -- the old client was kicked, or there was none
      by_cases hcon : s.layer.commandClient.connected = true
      · exact absurd ⟨hcon, Or.inr hold⟩ hkept
      · exact hold.trans (not_not.1 (mt hJ.connected.2 hcon))
  · intro _
    have hstays : (onClientConnected s.layer id).kicked ≠ some id := by
      rw [hkicked]
      split
      · intro hsame
        exact hid (Option.some_inj.1 hsame).symm
      · simp
    dsimp only
    rw [hclient, if_neg hstays]
    simp
  · dsimp only
    rw [hclient]
    exact iff_of_true rfl hzero

/-- The connect callback touches the buffer of the console when it kicks. -/
theorem BufferInvariant.connected_private_iff {id : ℕ} (hJ : BufferInvariant s) (hzero : id ≠ 0)
    (hid : id ≠ s.layer.commandClient.id) (hnone : s.layer.cmds id = none) :
    PrivateStep s.layer (.connected id) (onClientConnected s.layer id).layer ↔
      (s.layer.commandClient.connected = true → s.layer.cmds 0 = none) := by
  obtain ⟨hclient, hkicked, hcmds⟩ := onClientConnected_spec hid
  constructor
  · intro hprivate hcon
    have hother : ¬ (LayerAction.connected id).concerns s.layer 0 := by
      rintro (h | h)
      · exact hzero h.symm
      · rw [hkicked, if_pos hcon] at h
        exact hJ.connected.1 hcon (Option.some_inj.1 h)
    rw [← hprivate.frame 0 hother]
    exact (hcmds 0).trans (if_pos ⟨hcon, Or.inl rfl⟩)
  · intro hconsole
    refine ⟨?_, ?_, ?_⟩
    · intro j hj
      rw [hcmds]
      split
      · next herased =>
        obtain ⟨hcon, rfl | rfl⟩ := herased
        · exact (hconsole hcon).symm
        · exact absurd (Or.inr (hkicked.trans (if_pos hcon))) hj
      · rfl
    · intro j hj
      have hold := hkicked.symm.trans hj
      by_cases hcon : s.layer.commandClient.connected = true
      · rw [if_pos hcon] at hold
        exact (hcmds j).trans (if_pos ⟨hcon, Or.inr (Option.some_inj.1 hold).symm⟩)
      · rw [if_neg hcon] at hold
        cases hold
    · intro id' hid'
      obtain rfl : id = id' := by injection hid'
      refine ⟨congrArg ActiveClient.id hclient, ?_⟩
      rw [hcmds]
      split
      · rfl
      · exact hnone

theorem BufferInvariant.connect {id : ℕ} (hJ : BufferInvariant s)
    (h : s.step E (.connected id) = some s') :
    BufferInvariant s' ∧ (PrivateStep s.layer (.connected id) s'.layer ↔
      (s.layer.commandClient.connected = true → s.layer.cmds 0 = none)) := by
  obtain ⟨⟨hzero, hnew⟩, h⟩ := Option.ite_none_right_eq_some.1 h
  obtain rfl := Option.some_inj.1 h
  obtain ⟨hid, hnone⟩ := hJ.new hzero hnew
  exact ⟨hJ.connected_keeps hzero hid, hJ.connected_private_iff hzero hid hnone⟩

/-- The disconnect callback touches the buffer of the client that leaves. -/
theorem BufferInvariant.disconnect {id : ℕ} (hJ : BufferInvariant s)
    (h : s.step E (.disconnected id) = some s') :
    BufferInvariant s' ∧ PrivateStep s.layer (.disconnected id) s'.layer := by
  obtain ⟨-, h⟩ := Option.ite_none_right_eq_some.1 h
  obtain rfl := Option.some_inj.1 h
  by_cases hid : id = s.layer.commandClient.id
  · have hlayer : onClientDisconnected s.layer id =
        { s.layer.eraseCmd id with commandClient := .none } := if_pos hid
    have hcmds : ∀ j, (onClientDisconnected s.layer id).cmds j =
        if j = id then none else s.layer.cmds j := by
      intro j
      rw [hlayer]
      exact Function.update_apply ..
    refine ⟨⟨fun j hj => ?_, fun hne => ?_, ?_⟩, ⟨fun j hj => ?_, fun j hj => ?_, fun _ h => ?_⟩⟩
    · dsimp only at hj ⊢
      rw [hcmds] at hj
      obtain ⟨hother, hj⟩ := (ite_ne_left_iff (a := (none : Option Bytes))).1 hj
      rcases hJ.owner j (Ne.symm hj) with hj | hj
      · exact Or.inl hj
      · exact absurd (hj.trans hid.symm) hother
    · dsimp only at hne
      rw [hlayer] at hne
      exact absurd rfl hne
    · dsimp only
      rw [hlayer]
      exact iff_of_false Bool.false_ne_true fun h => h rfl
    · exact (hcmds j).trans (if_neg hj)
    · exact (hcmds j).trans (if_pos hj.1)
    · exact absurd h (by simp)
  · have hlayer : onClientDisconnected s.layer id = s.layer := if_neg hid
    rw [hlayer]
    refine ⟨⟨hJ.owner, fun hne => ?_, hJ.connected⟩,
      ⟨fun _ _ => rfl, fun j hj => absurd hj.2 hid, fun _ h => absurd h (by simp)⟩⟩
    exact (Function.update_of_ne (Ne.symm hid) _ _).trans (hJ.active hne)

/-- A command touches the buffer of the id it is for. -/
theorem BufferInvariant.serve {id : ℕ} (hJ : BufferInvariant s) (x : Session) (cmd : Bytes) :
    BufferInvariant { s with layer := (onCommand E x s.layer id cmd).layer } ∧
      ∀ j, j ≠ id → (onCommand E x s.layer id cmd).layer.cmds j = s.layer.cmds j := by
  have hlayer := onCommand_layer E x s.layer id cmd
  have hcmds : ∀ j, j ≠ id →
      (onCommand E x s.layer id cmd).layer.cmds j = s.layer.cmds j := by
    intro j hj
    rw [hlayer]
    exact Function.update_of_ne hj _ _
  have hclient : (onCommand E x s.layer id cmd).layer.commandClient = s.layer.commandClient := by
    rw [hlayer]
  refine ⟨⟨fun j hj => ?_, ?_, ?_⟩, hcmds⟩
  · dsimp only at hj ⊢
    rw [hclient]
    by_cases hid : j = id
    · subst hid
      by_cases hserved : j ≠ s.layer.commandClient.id ∧ j ≠ 0
      · -- the permission check lets nobody else get to the buffers
        rw [onCommand, if_pos hserved] at hj
        exact hJ.owner j hj
      · rcases not_and_or.1 hserved with h | h
        · exact Or.inr (not_not.1 h)
        · exact Or.inl (not_not.1 h)
    · rw [hcmds j hid] at hj
      exact hJ.owner j hj
  · rw [hclient]
    exact hJ.active
  · rw [hclient]
    exact hJ.connected

/-- The buffers and the active client are the same. -/
def SameControl (l l' : ServerLayer) : Prop :=
  l'.cmds = l.cmds ∧ l'.commandClient = l.commandClient

theorem sameControl_binaryDisconnected (l : ServerLayer) (id : ℕ) :
    SameControl l (onTCPBinaryClientDisconnected l id) := by
  rw [onTCPBinaryClientDisconnected]
  split <;> exact ⟨rfl, rfl⟩

theorem sameControl_binaryConnected (l : ServerLayer) (id : ℕ) :
    SameControl l (onTCPBinaryClientConnected l id).layer := by
  have hkick := sameControl_binaryDisconnected l l.binaryClient.id
  rw [onTCPBinaryClientConnected]
  split
  · exact ⟨rfl, rfl⟩
  · split
    · exact hkick
    · exact ⟨rfl, rfl⟩

theorem sameControl_binaryData (E : Env) (x : Session) (l : ServerLayer) (seg : Bytes) :
    SameControl l (onTCPBinaryDataReceived E x l seg).layer := by
  rw [onTCPBinaryDataReceived.eq_def]
  split <;> exact ⟨rfl, rfl⟩

/-- A callback that leaves the buffers and the active client alone is private. -/
theorem BufferInvariant.same {l : ServerLayer} (hJ : BufferInvariant s)
    (hsame : SameControl s.layer l) (ha : ∀ id, a ≠ .connected id)
    (hdrops : ∀ j, ¬ a.drops s.layer j) :
    BufferInvariant { s with layer := l } ∧ PrivateStep s.layer a l := by
  obtain ⟨hcmds, hclient⟩ := hsame
  refine ⟨⟨?_, ?_, ?_⟩, ⟨fun j _ => by rw [hcmds], fun j hj => absurd hj (hdrops j),
    fun id h => absurd h (ha id)⟩⟩
  · rw [hcmds, hclient]
    exact hJ.owner
  · rw [hclient]
    exact hJ.active
  · rw [hclient]
    exact hJ.connected

/-! ### Every callback -/

/-- A step that connects no client is private, and keeps the invariant. -/
theorem BufferInvariant.step (hJ : BufferInvariant s) (ha : ∀ id, a ≠ .connected id)
    (h : s.step E a = some s') : BufferInvariant s' ∧ PrivateStep s.layer a s'.layer := by
  cases a with
  | connected id => exact absurd rfl (ha id)
  | disconnected id => exact hJ.disconnect h
  | data x id seg =>
      obtain ⟨-, h⟩ := Option.ite_none_right_eq_some.1 h
      obtain rfl := Option.some_inj.1 h
      obtain ⟨hJ', hcmds⟩ := @BufferInvariant.serve E _ id hJ x seg
      exact ⟨hJ', hcmds, fun _ => False.elim, fun id h => absurd h (ha id)⟩
  | console x msg =>
      obtain rfl := Option.some_inj.1 h
      dsimp only
      rw [onConsoleInput.eq_def]
      split
      · next c cmd =>
        obtain ⟨hJ', hcmds⟩ := @BufferInvariant.serve E _ 0 hJ x (c :: cmd)
        exact ⟨hJ', hcmds, fun _ => False.elim, fun id h => absurd h (ha id)⟩
      · exact hJ.same ⟨rfl, rfl⟩ ha fun _ h => h
  | binaryConnected id =>
      obtain rfl := Option.some_inj.1 h
      exact hJ.same (sameControl_binaryConnected s.layer id) ha fun _ h => h
  | binaryDisconnected id =>
      obtain rfl := Option.some_inj.1 h
      exact hJ.same (sameControl_binaryDisconnected s.layer id) ha fun _ h => h
  | binaryData x seg =>
      obtain rfl := Option.some_inj.1 h
      exact hJ.same (sameControl_binaryData E x s.layer seg) ha fun _ h => h
  | scanThread d =>
      obtain rfl := Option.some_inj.1 h
      exact hJ.same ⟨rfl, rfl⟩ ha fun _ h => h

/-- A step from a state with the invariant keeps it, and is private **exactly if** it kicks nobody
while the console has an entry. -/
theorem private_iff (hJ : BufferInvariant s) (h : s.step E a = some s') :
    BufferInvariant s' ∧ (PrivateStep s.layer a s'.layer ↔ KicksQuietly s a) := by
  by_cases ha : ∃ id, a = .connected id
  · obtain ⟨id, rfl⟩ := ha
    obtain ⟨hJ', hiff⟩ := hJ.connect h
    exact ⟨hJ', hiff.trans ⟨fun hconsole _ _ => hconsole, fun hkick => hkick id rfl⟩⟩
  · have hother : ∀ id, a ≠ .connected id := fun id h => ha ⟨id, h⟩
    obtain ⟨hJ', hprivate⟩ := hJ.step hother h
    exact ⟨hJ', iff_of_true hprivate fun id h => absurd h (hother id)⟩

/-- In every run of the callbacks, the buffers are private in all steps **exactly if** no client is
kicked while the console has an entry. -/
theorem buffers_private_iff (E : Env) (deviceId : MpsDeviceID) (serialNumber : ℕ)
    (enableConsole : Bool) (as : List LayerAction) :
    Runs.Along (ControlPort.step E) (Private E) (.start deviceId serialNumber enableConsole) as ↔
      Runs.Along (ControlPort.step E) KicksQuietly (.start deviceId serialNumber enableConsole)
        as := by
  have hJ : ∀ s a s', BufferInvariant s → ControlPort.step E s a = some s' → BufferInvariant s' :=
    fun s a s' hs h => (private_iff hs h).1
  have hstart := bufferInvariant_start deviceId serialNumber enableConsole
  constructor
  · exact Runs.along_of_along hJ (fun s a s' hs h hp => (private_iff hs h).2.1 (hp s' h)) hstart
  · refine Runs.along_of_along hJ (fun s a s' hs h hq s'' h'' => ?_) hstart
    exact (private_iff hs h'').2.2 hq

/-- Somebody types the first key of a command on the console while a client is active, and then
another client connects. -/
def consoleAndKick : List LayerAction :=
  [.connected 5, .console .quiet "/S".toList, .connected 6]

/-- The key on the console is lost to the kick of client 5. -/
theorem console_command_lost :
    ((Runs.exec (ControlPort.step referenceEnv) (.start mps4264 1 true)
        (consoleAndKick.take 2)).map fun s => s.layer.cmds 0) = some (some "S".toList) ∧
      ((Runs.exec (ControlPort.step referenceEnv) (.start mps4264 1 true)
        consoleAndKick).map fun s => s.layer.cmds 0) = some none ∧
      ¬ Runs.Along (ControlPort.step referenceEnv) (Private referenceEnv) (.start mps4264 1 true)
        consoleAndKick := by
  refine ⟨rfl, rfl, fun h => ?_⟩
  obtain ⟨-, h⟩ := h _ rfl
  obtain ⟨-, h⟩ := h _ rfl
  obtain ⟨hkick, -⟩ := h _ rfl
  have hframe := (hkick _ rfl).frame 0 (by rintro (h | h) <;> cases h)
  exact absurd hframe (by decide)

end MpsEmulator
