/-
**Commands typed key by key.**

A client in character mode sends every key as a segment of its own.  `OnCommand` then edits the
command buffer of the client, and dispatches it when `CR` comes.  A client in line mode sends the
whole line with its `CR` and `LF`, and the line takes the place of the buffer.

The line that keys leave is described by a stack: a backspace takes away the latest byte that is
still there.  The buffer holds the same bytes in the order they were typed, behind an `LF` that an
earlier line may have left, which a surplus backspace takes away as well.

* `cancelled` — the line that keys leave;
* `typeKeys` — the calls of `OnCommand` for the keys;
* `typeKeys_buffer` — what they make of the buffer, and that they do nothing else;
* `typed_eq_sent` — **typing a line and `CR` is the same as sending it with `CR` and `LF`**.
-/

import MpsEmulator.ServerLayer

set_option relaxedAutoImplicit false
set_option autoImplicit false

namespace MpsEmulator

/-! ### Keys -/

/-- A key on the stack of the bytes that are not cancelled, the latest one in front. -/
def pushKey (stack : Bytes) (key : Char) : Bytes :=
  if key = '\x08' then stack.tail else key :: stack

/-- The line that is left when every backspace has cancelled the latest byte before it that was not
cancelled. -/
def cancelled (keys : Bytes) : Bytes := (keys.foldl pushKey []).reverse

/-- A key that ends no command. -/
def IsEditKey (key : Char) : Prop := key ≠ '\r' ∧ key ≠ '\n' ∧ key ≠ '\x1b'

instance : DecidablePred IsEditKey := fun key =>
  inferInstanceAs (Decidable (key ≠ '\r' ∧ key ≠ '\n' ∧ key ≠ '\x1b'))

/-- The calls of `OnCommand` for keys, each with its own surroundings: what they leave, one after
the other, and the layer after the last one. -/
def typeKeys (E : Env) (id : ℕ) :
    ServerLayer → List (Session × Char) → List LayerOutcome × ServerLayer
  | l, [] => ([], l)
  | l, (x, key) :: keys =>
      let o := onCommand E x l id [key]
      (o :: (typeKeys E id o.layer keys).1, (typeKeys E id o.layer keys).2)

/-- A call that sends and dispatches nothing, and leaves the device and `errno` alone. -/
structure IsSilent (x : Session) (d : Option Mps) (o : LayerOutcome) : Prop where
  sent : o.sent = []
  printed : o.printed = []
  requests : o.requests = []
  dispatched : o.dispatched = none
  device : o.layer.device = d
  errnoRange : o.errnoRange = x.errnoRange

/-! ### First lines -/

section Lines

variable {delimiters : Bytes}

/-- Characters that are no delimiters are the first token, whatever delimiters stand around them. -/
theorem firstToken_of_free {lead w rest : Bytes} (hlead : ∀ c ∈ lead, c ∈ delimiters)
    (hw : ∀ c ∈ w, c ∉ delimiters) (hrest : ∀ c ∈ rest, c ∈ delimiters) :
    firstToken delimiters (lead ++ (w ++ rest)) = w := by
  rw [firstToken_append_left hlead]
  cases w with
  | nil => exact firstToken_eq_nil.2 hrest
  | cons c w =>
      have hw' : ∀ a ∈ w, decide (a ∉ delimiters) = true :=
        fun a ha => decide_eq_true (hw a (List.mem_cons_of_mem _ ha))
      have hstop : rest.takeWhile (· ∉ delimiters) = [] := by
        cases rest with
        | nil => rfl
        | cons a rest => simp [hrest a List.mem_cons_self]
      rw [List.cons_append, firstToken_cons_of_not_mem (hw c List.mem_cons_self),
        List.takeWhile_append_of_pos hw', hstop, List.append_nil]

end Lines

/-! ### The buffer -/

variable {E : Env} {l : ServerLayer} {id : ℕ}

theorem setCmd_setCmd (l : ServerLayer) (id : ℕ) (buffer buffer' : Bytes) :
    (l.setCmd id buffer).setCmd id buffer' = l.setCmd id buffer' := by
  simp [ServerLayer.setCmd]

/-- What may stand before the keys in a buffer: nothing, or the `LF` of the line before. -/
def IsLead (lead : Bytes) : Prop := lead = [] ∨ lead = ['\n']

/-- A key that ends no command changes the buffer as it changes the stack. -/
theorem onCommand_key (x : Session) (hactive : id = l.commandClient.id) {key : Char}
    (hkey : IsEditKey key) {lead stack : Bytes} (hlead : IsLead lead)
    (hbuffer : (l.cmds id).getD [] = lead ++ stack.reverse) :
    ∃ lead', IsLead lead' ∧ onCommand E x l id [key] =
      x.reply (l.setCmd id (lead' ++ (pushKey stack key).reverse)) [] := by
  rw [onCommand, if_neg fun h => h.1 hactive, hbuffer, editCommand, if_neg hkey.1, pushKey]
  by_cases hback : key = '\x08'
  · rw [if_pos hback, if_pos hback]
    cases stack with
    | nil =>
        -- nothing is left to cancel but the `LF`
        refine ⟨[], Or.inl rfl, ?_⟩
        rcases hlead with rfl | rfl <;> rfl
    | cons c stack =>
        refine ⟨lead, hlead, ?_⟩
        rw [List.reverse_cons, ← List.append_assoc, List.dropLast_concat]
        rfl
  · rw [if_neg hback, if_neg hback, if_neg hkey.2.2]
    refine ⟨lead, hlead, ?_⟩
    rw [List.reverse_cons, List.append_assoc]

/-- Keys leave the line in the buffer, perhaps behind an `LF`, and do nothing else. -/
theorem typeKeys_buffer (hactive : id = l.commandClient.id) (keys : List (Session × Char))
    (hkeys : ∀ k ∈ keys, IsEditKey k.2) {lead stack : Bytes} (hlead : IsLead lead)
    (hbuffer : (l.cmds id).getD [] = lead ++ stack.reverse) :
    let l' := (typeKeys E id l keys).2
    (∃ lead', IsLead lead' ∧
        (l'.cmds id).getD [] = lead' ++ ((keys.map Prod.snd).foldl pushKey stack).reverse) ∧
      l'.setCmd id [] = l.setCmd id [] ∧ l'.commandClient = l.commandClient ∧
      List.Forall₂ (fun k o => IsSilent k.1 l.device o) keys (typeKeys E id l keys).1 := by
  induction keys generalizing l lead stack with
  | nil => exact ⟨⟨lead, hlead, hbuffer⟩, rfl, rfl, .nil⟩
  | cons k keys ih =>
      obtain ⟨x, key⟩ := k
      obtain ⟨lead', hlead', hkey⟩ :=
        onCommand_key (E := E) x hactive (hkeys _ List.mem_cons_self) hlead hbuffer
      have hbufferKey : ((onCommand E x l id [key]).layer.cmds id).getD [] =
          lead' ++ (pushKey stack key).reverse := by
        rw [hkey]
        simp [Session.reply, ServerLayer.setCmd]
      obtain ⟨hbuffer', hlayer, hclient, hsilent⟩ :=
        ih (l := (onCommand E x l id [key]).layer) (by rw [hkey]; exact hactive)
          (fun k hk => hkeys k (List.mem_cons_of_mem _ hk)) hlead' hbufferKey
      refine ⟨hbuffer', hlayer.trans ?_, hclient.trans ?_, .cons ?_ ?_⟩
      · rw [hkey]
        exact setCmd_setCmd l id _ []
      · rw [hkey]
        rfl
      · rw [hkey]
        exact ⟨rfl, rfl, rfl, rfl, rfl, rfl⟩
      · rw [hkey] at hsilent ⊢
        exact hsilent

/-- The line that keys leave holds no line end. -/
theorem cancelled_not_mem {keys : Bytes} (hkeys : ∀ key ∈ keys, IsEditKey key) :
    ∀ c ∈ cancelled keys, c ∉ lineEnds := by
  have hstack : ∀ stack : Bytes, (∀ c ∈ stack, c ∉ lineEnds) →
      ∀ c ∈ keys.foldl pushKey stack, c ∉ lineEnds := by
    induction keys with
    | nil => exact fun stack h => h
    | cons key keys ih =>
        intro stack h
        refine ih (fun k hk => hkeys k (List.mem_cons_of_mem _ hk)) _ fun c hc => ?_
        rw [pushKey] at hc
        split at hc
        · exact h c (List.mem_of_mem_tail hc)
        · rcases List.mem_cons.1 hc with rfl | hc
          · obtain ⟨hcr, hlf, -⟩ := hkeys _ List.mem_cons_self
            simp [lineEnds, hcr, hlf]
          · exact h c hc
  intro c hc
  exact hstack [] (by simp) c (List.mem_reverse.1 hc)

/-! ### Typing and sending -/

/-- Keys typed by the active client into a buffer that holds at most an `LF` do nothing until `CR`
comes.  Then the line they leave is dispatched, **with the same effect as if it had come with its
`CR` and `LF` in one segment**, and the buffer is empty. -/
theorem typed_eq_sent (E : Env) (l : ServerLayer) (id : ℕ) (hactive : id = l.commandClient.id)
    (hbuffer : IsLead ((l.cmds id).getD [])) (keys : List (Session × Char))
    (hkeys : ∀ k ∈ keys, IsEditKey k.2) (x : Session) :
    let l' := (typeKeys E id l keys).2
    let line := cancelled (keys.map Prod.snd)
    List.Forall₂ (fun k o => IsSilent k.1 l.device o) keys (typeKeys E id l keys).1 ∧
      onCommand E x l' id ['\r'] = dispatchLine E x (l.setCmd id []) id line ∧
      onCommand E x l id (line ++ "\r\n".toList) = onCommand E x l' id ['\r'] ∧
      (onCommand E x l' id ['\r']).layer.cmds id = some [] := by
  have hempty : (l.cmds id).getD [] = (l.cmds id).getD [] ++ ([] : Bytes).reverse := by simp
  obtain ⟨⟨lead, hlead, hbuffer'⟩, hlayer, hclient, hsilent⟩ :=
    typeKeys_buffer (E := E) hactive keys hkeys hbuffer hempty
  have hfree : ∀ c ∈ cancelled (keys.map Prod.snd), c ∉ lineEnds := by
    refine cancelled_not_mem fun key hkey => ?_
    obtain ⟨k, hk, rfl⟩ := List.mem_map.1 hkey
    exact hkeys k hk
  have hleadEnds : ∀ c ∈ lead, c ∈ lineEnds := by
    rcases hlead with rfl | rfl <;> simp [lineEnds]
  have hnone : ∀ c ∈ ([] : Bytes), c ∈ lineEnds := fun c hc => absurd hc List.not_mem_nil
  have hends : ∀ c ∈ "\r\n".toList, c ∈ lineEnds := fun c hc => hc
  dsimp only
  generalize (typeKeys E id l keys).2 = l' at *
  change (l'.cmds id).getD [] = lead ++ cancelled (keys.map Prod.snd) at hbuffer'
  generalize cancelled (keys.map Prod.snd) = line at *
  have hcr : onCommand E x l' id ['\r'] = dispatchLine E x (l.setCmd id []) id line := by
    have htoken := firstToken_of_free hleadEnds hfree hnone
    rw [List.append_nil] at htoken
    rw [onCommand, if_neg fun h => h.1 (by rw [hclient]; exact hactive), hbuffer', editCommand,
      if_pos rfl, hlayer]
    dsimp only
    rw [tok_zero, headD_splitString, htoken]
  have hsent : onCommand E x l id (line ++ "\r\n".toList) =
      dispatchLine E x (l.setCmd id []) id line := by
    have htoken := firstToken_of_free hnone hfree hends
    rw [List.nil_append] at htoken
    have hedit : editCommand ((l.cmds id).getD []) (line ++ "\r\n".toList) =
        (line ++ "\r\n".toList, true) := by
      rcases line with _ | ⟨a, _ | ⟨b, line⟩⟩ <;> rfl
    rw [onCommand, if_neg fun h => h.1 hactive, hedit]
    dsimp only
    rw [tok_zero, headD_splitString, htoken]
  refine ⟨hsilent, hcr, hsent.trans hcr.symm, ?_⟩
  rw [hcr, dispatchLine_layer]
  simp [ServerLayer.setCmd]

/-- A mistyped `STATUS`, corrected, behind the `LF` of the line before. -/
theorem typed_eq_sent_status :
    let l : ServerLayer :=
      { attachedLayer mps4264 1 false with
        commandClient := { id := 1, connected := true }
        cmds := fun _ => some "\n".toList }
    let keys := "STATIS\x08\x08US".toList.map fun key => (Session.quiet, key)
    let l' := (typeKeys referenceEnv 1 l keys).2
    let line := cancelled (keys.map Prod.snd)
    List.Forall₂ (fun k o => IsSilent k.1 l.device o) keys (typeKeys referenceEnv 1 l keys).1 ∧
      onCommand referenceEnv .quiet l' 1 ['\r'] =
        dispatchLine referenceEnv .quiet (l.setCmd 1 []) 1 line ∧
      onCommand referenceEnv .quiet l 1 (line ++ "\r\n".toList) =
        onCommand referenceEnv .quiet l' 1 ['\r'] ∧
      (onCommand referenceEnv .quiet l' 1 ['\r']).layer.cmds 1 = some [] :=
  typed_eq_sent referenceEnv _ 1 rfl (Or.inr rfl)
    ("STATIS\x08\x08US".toList.map fun key => (Session.quiet, key)) (by decide) .quiet

example : cancelled "\x08STATIS\x08\x08US".toList = "STATUS".toList := by decide

end MpsEmulator
