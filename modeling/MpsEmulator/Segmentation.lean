/-
**Command lines and the segments they arrive in.**

TCP delivers a stream of bytes, cut wherever it likes.  `OnCommand` sees the segments: one byte is a
key that edits the command buffer, and two or more bytes are a whole command that takes the place of
the buffer; of that command only the first line is executed.

* `feedSegment`, `feed` — the command buffer and the lines dispatched, segment by segment;
* `serve` — the same in the layer, and `serve_eq_feed`, which says that it is the same;
* `IsCut` — a cut of a stream into segments that fit the receive buffer;
* `SafeStream` — the streams of at most one byte, and those of line ends and isolated `ESC` bytes,
  perhaps with one character before a final `CR`;
* `feed_of_safe` — every cut of a safe stream dispatches the same lines;
* `segmentation_iff` — **the cut does not matter exactly for the safe streams**.
-/

import MpsEmulator.ServerLayer

set_option relaxedAutoImplicit false
set_option autoImplicit false

namespace MpsEmulator

/-! ### Feeding segments -/

/-- The line that a complete command dispatches: its first one, if it has one. -/
def firstLine (clientCmd : Bytes) : List Bytes :=
  if firstToken lineEnds clientCmd = [] then [] else [firstToken lineEnds clientCmd]

/-- One segment: the command buffer behind it, and the line it dispatches, if any. -/
def feedSegment (buffer seg : Bytes) : Bytes × List Bytes :=
  match editCommand buffer seg with
  | (buffer', false) => (buffer', [])
  | (buffer', true) => ([], firstLine buffer')

/-- Segments one after the other. -/
def feed : Bytes → List Bytes → Bytes × List Bytes
  | buffer, [] => (buffer, [])
  | buffer, seg :: segs =>
      let (buffer', lines) := feedSegment buffer seg
      ((feed buffer' segs).1, lines ++ (feed buffer' segs).2)

@[simp] theorem feed_nil (buffer : Bytes) : feed buffer [] = (buffer, []) := rfl

theorem feed_cons (buffer seg : Bytes) (segs : List Bytes) :
    feed buffer (seg :: segs) =
      ((feed (feedSegment buffer seg).1 segs).1,
        (feedSegment buffer seg).2 ++ (feed (feedSegment buffer seg).1 segs).2) := rfl

theorem feed_append (buffer : Bytes) (segs segs' : List Bytes) :
    feed buffer (segs ++ segs') =
      ((feed (feed buffer segs).1 segs').1,
        (feed buffer segs).2 ++ (feed (feed buffer segs).1 segs').2) := by
  induction segs generalizing buffer with
  | nil => rfl
  | cons seg segs ih => simp only [List.cons_append, feed_cons, ih, List.append_assoc]

/-- A key that is neither `CR`, backspace nor `ESC` is added to the buffer. -/
theorem feedSegment_key {c : Char} (hcr : c ≠ '\r') (hbs : c ≠ '\x08') (hesc : c ≠ '\x1b')
    (buffer : Bytes) : feedSegment buffer [c] = (buffer ++ [c], []) := by
  simp [feedSegment, editCommand, hcr, hbs, hesc]

/-- `CR` dispatches the buffer. -/
theorem feedSegment_cr (buffer : Bytes) : feedSegment buffer ['\r'] = ([], firstLine buffer) := rfl

/-- `ESC` dispatches itself, whatever was typed before. -/
theorem feedSegment_esc (buffer : Bytes) :
    feedSegment buffer ['\x1b'] = ([], [['\x1b']]) := rfl

/-- A segment of two or more bytes dispatches its own first line. -/
theorem feedSegment_block (buffer : Bytes) {seg : Bytes} (hlen : 2 ≤ seg.length) :
    feedSegment buffer seg = ([], firstLine seg) := by
  match seg, hlen with
  | _ :: _ :: _, _ => rfl

theorem feed_block (buffer : Bytes) {seg : Bytes} (hlen : 2 ≤ seg.length) :
    feed buffer [seg] = ([], firstLine seg) := by
  rw [feed_cons, feedSegment_block buffer hlen]
  simp [feed]

/-! ### First lines -/

theorem firstLine_eq_nil {s : Bytes} (h : ∀ c ∈ s, c ∈ lineEnds) : firstLine s = [] :=
  if_pos (firstToken_eq_nil.2 h)

theorem firstLine_cons_of_mem {c : Char} (hc : c ∈ lineEnds) (s : Bytes) :
    firstLine (c :: s) = firstLine s := by
  rw [firstLine, firstToken_cons_of_mem hc, firstLine]

theorem firstLine_cons_of_not_mem {c : Char} (hc : c ∉ lineEnds) (s : Bytes) :
    firstLine (c :: s) = [c :: s.takeWhile (· ∉ lineEnds)] := by
  rw [firstLine, firstToken_cons_of_not_mem hc, if_neg (by simp)]

theorem firstLine_append_left {lead : Bytes} (hlead : ∀ c ∈ lead, c ∈ lineEnds) (s : Bytes) :
    firstLine (lead ++ s) = firstLine s := by
  rw [firstLine, firstToken_append_left hlead, firstLine]

/-- A command with one byte besides line ends dispatches that byte. -/
theorem firstLine_of_filter_eq_singleton {s : Bytes} {c : Char}
    (h : s.filter (· ∉ lineEnds) = [c]) : firstLine s = [[c]] := by
  induction s with
  | nil => simp at h
  | cons a s ih =>
      by_cases ha : a ∈ lineEnds
      · rw [firstLine_cons_of_mem ha]
        exact ih (by simpa [List.filter_cons, ha] using h)
      · rw [List.filter_cons_of_pos (by simpa using ha)] at h
        obtain ⟨rfl, hs⟩ := List.cons_eq_cons.1 h
        rw [firstLine_cons_of_not_mem ha]
        cases s with
        | nil => rfl
        | cons b s =>
            have hb : b ∈ lineEnds := by
              by_contra hb
              simp [hb] at hs
            simp [hb]

/-! ### The layer -/

/-- The segments of a client: the layer behind them, and the lines dispatched. -/
def serve (E : Env) (id : ℕ) : ServerLayer → List (Session × Bytes) → ServerLayer × List Bytes
  | l, [] => (l, [])
  | l, (x, seg) :: segs =>
      let o := onDataReceived E x l id seg
      ((serve E id o.layer segs).1, o.dispatched.toList ++ (serve E id o.layer segs).2)

variable {E : Env} {l : ServerLayer} {id : ℕ}

/-- With a device, every line but the empty one is dispatched, and nothing but the device
changes. -/
theorem dispatchLine_spec (E : Env) (x : Session) (l : ServerLayer) (id : ℕ)
    (hdevice : l.device.isSome) {line : Bytes} (hline : line.headD '\x00' ≠ '\r') :
    (dispatchLine E x l id line).dispatched.toList = (if line = [] then [] else [line]) ∧
      (dispatchLine E x l id line).layer.cmds = l.cmds ∧
      (dispatchLine E x l id line).layer.commandClient = l.commandClient ∧
      (dispatchLine E x l id line).layer.device.isSome := by
  rcases dispatchLine_cases E x l id line with
    ⟨hblank, h⟩ | ⟨hne, text, request, -, h⟩ | ⟨-, hnone, -⟩ | ⟨hne, d, -, h⟩
  · rw [h, if_pos (hblank.resolve_left hline)]
    exact ⟨rfl, rfl, rfl, hdevice⟩
  · rw [h, if_neg hne]
    exact ⟨rfl, rfl, rfl, hdevice⟩
  · rw [hnone] at hdevice
    cases hdevice
  · rw [h, if_neg hne]
    exact ⟨rfl, rfl, rfl, rfl⟩

/-- The first line of a command does not begin with `CR`. -/
theorem headD_firstToken_ne (s : Bytes) : (firstToken lineEnds s).headD '\x00' ≠ '\r' := by
  cases h : firstToken lineEnds s with
  | nil => decide
  | cons c rest =>
      have hc : c ∉ lineEnds := not_mem_of_mem_firstToken (by rw [h]; exact List.mem_cons_self ..)
      rintro rfl
      exact hc (by decide)

/-- A segment of the active client does to its buffer what `feedSegment` says. -/
theorem onCommand_eq_feedSegment (x : Session) (hactive : id = l.commandClient.id)
    (hdevice : l.device.isSome) (seg : Bytes) :
    (onCommand E x l id seg).dispatched.toList = (feedSegment ((l.cmds id).getD []) seg).2 ∧
      (onCommand E x l id seg).layer.cmds id =
        some (feedSegment ((l.cmds id).getD []) seg).1 ∧
      (onCommand E x l id seg).layer.commandClient = l.commandClient ∧
      (onCommand E x l id seg).layer.device.isSome := by
  rw [onCommand, if_neg fun h => h.1 hactive, feedSegment]
  cases hedit : editCommand ((l.cmds id).getD []) seg with
  | mk buffer complete =>
      cases complete with
      | false => exact ⟨rfl, by simp [ServerLayer.setCmd, Session.reply], rfl, hdevice⟩
      | true =>
          simp only [tok_zero, headD_splitString]
          obtain ⟨hlines, hcmds, hclient, hsome⟩ :=
            dispatchLine_spec E x (l.setCmd id []) id hdevice (headD_firstToken_ne buffer)
          exact ⟨hlines, by rw [hcmds]; simp [ServerLayer.setCmd], hclient, hsome⟩

/-- The segments of the active client are fed to its command buffer. -/
theorem serve_eq_feed (hactive : id = l.commandClient.id) (hdevice : l.device.isSome)
    (segs : List (Session × Bytes)) :
    (serve E id l segs).2 = (feed ((l.cmds id).getD []) (segs.map Prod.snd)).2 ∧
      (segs ≠ [] → (serve E id l segs).1.cmds id =
        some (feed ((l.cmds id).getD []) (segs.map Prod.snd)).1) := by
  induction segs generalizing l with
  | nil => exact ⟨rfl, fun h => absurd rfl h⟩
  | cons p segs ih =>
      obtain ⟨x, seg⟩ := p
      obtain ⟨hlines, hcmds, hclient, hsome⟩ :=
        onCommand_eq_feedSegment (E := E) x hactive hdevice seg
      obtain ⟨ihlines, ihcmds⟩ := ih (l := (onCommand E x l id seg).layer)
        (by rw [hclient]; exact hactive) hsome
      rw [hcmds, Option.getD_some] at ihlines ihcmds
      refine ⟨?_, fun _ => ?_⟩
      · rw [serve, List.map_cons, feed_cons]
        simp only [onDataReceived, hlines, ihlines]
      · rw [serve, List.map_cons, feed_cons]
        cases segs with
        | nil => simpa [serve, onDataReceived, feed] using hcmds
        | cons q segs => simpa [onDataReceived] using ihcmds (by simp)

/-! ### Cuts and safe streams -/

/-- The size of the receive buffer of both servers. -/
def recvBufferSize : ℕ := 1024

/-- The segments are a cut of the stream: none is empty, and each fits the receive buffer. -/
def IsCut (s : Bytes) (segs : List Bytes) : Prop :=
  segs.flatten = s ∧ ∀ seg ∈ segs, seg ≠ [] ∧ seg.length ≤ recvBufferSize

instance (s : Bytes) (segs : List Bytes) : Decidable (IsCut s segs) :=
  inferInstanceAs (Decidable (segs.flatten = s ∧
    ∀ seg ∈ segs, seg ≠ [] ∧ seg.length ≤ recvBufferSize))

/-- The streams whose cut does not matter: at most one byte; or no `LF` at the end, no byte besides
the line ends but `ESC` and perhaps one key before the last byte, and between two such bytes so many
line ends that no segment holds both. -/
structure SafeStream (s : Bytes) : Prop where
  last : s.getLast? ≠ some '\n'
  keys : ∀ p c q, s = p ++ c :: q → c ∉ lineEnds → c = '\x1b' ∨ (c ≠ '\x08' ∧ q.length = 1)
  apart : ∀ p c m c' q, s = p ++ c :: (m ++ c' :: q) → c ∉ lineEnds → c' ∉ lineEnds →
    recvBufferSize ≤ m.length + 1

/-! ### Safe streams -/

/-- The bytes of a stream that are no line ends, each as a line. -/
def keyLines (s : Bytes) : List Bytes := (s.filter (· ∉ lineEnds)).map fun c => [c]

theorem keyLines_append (s s' : Bytes) : keyLines (s ++ s') = keyLines s ++ keyLines s' := by
  simp [keyLines]

theorem SafeStream.of_append {p s : Bytes} (h : SafeStream (p ++ s)) : SafeStream s := by
  refine ⟨?_, fun p' c q hs => ?_, fun p' c m c' q hs => ?_⟩
  · intro hlast
    exact h.last (by rw [List.getLast?_append, hlast]; rfl)
  · exact h.keys (p ++ p') c q (by rw [hs, List.append_assoc])
  · exact h.apart (p ++ p') c m c' q (by rw [hs, List.append_assoc])

/-- A segment of a safe stream that fits the buffer has at most one byte besides line ends. -/
theorem SafeStream.filter_seg {seg s : Bytes} (h : SafeStream (seg ++ s))
    (hlen : seg.length ≤ recvBufferSize) :
    seg.filter (· ∉ lineEnds) = [] ∨ ∃ c, seg.filter (· ∉ lineEnds) = [c] := by
  cases hfilter : seg.filter (· ∉ lineEnds) with
  | nil => exact Or.inl rfl
  | cons c rest =>
      cases rest with
      | nil => exact Or.inr ⟨c, rfl⟩
      | cons c' rest =>
          exfalso
          obtain ⟨p, r, rfl, -, hc, hr⟩ := List.filter_eq_cons_iff.1 hfilter
          obtain ⟨m, q, rfl, -, hc', -⟩ := List.filter_eq_cons_iff.1 hr
          have hapart := h.apart p c m c' (q ++ s) (by simp) (by simpa using hc)
            (by simpa using hc')
          simp only [List.length_append, List.length_cons] at hlen
          omega

/-- What a segment of a safe stream does: its keys become lines at once, and the buffer is left with
line ends only, or the segment is the key before the final `CR`. -/
theorem SafeStream.feedSegment {seg s buffer : Bytes} (h : SafeStream (seg ++ s)) (hne : seg ≠ [])
    (hlen : seg.length ≤ recvBufferSize) (hbuffer : ∀ c ∈ buffer, c ∈ lineEnds) :
    (∃ buffer', MpsEmulator.feedSegment buffer seg = (buffer', keyLines seg) ∧
      (∀ c ∈ buffer', c ∈ lineEnds) ∧ (s = [] → buffer' = [])) ∨
    (∃ c, c ∉ lineEnds ∧ seg = [c] ∧ s = ['\r'] ∧
      MpsEmulator.feedSegment buffer seg = (buffer ++ [c], [])) := by
  match seg, hne with
  | [c], _ =>
      by_cases hcr : c = '\r'
      · refine Or.inl ⟨[], ?_, by simp, fun _ => rfl⟩
        rw [hcr, feedSegment_cr, firstLine_eq_nil hbuffer]
        rfl
      · by_cases hlf : c = '\n'
        · refine Or.inl ⟨buffer ++ ['\n'], ?_, ?_, ?_⟩
          · rw [hlf, feedSegment_key (by decide) (by decide) (by decide)]
            rfl
          · intro a ha
            rcases List.mem_append.1 ha with ha | ha
            · exact hbuffer a ha
            · rw [List.mem_singleton.1 ha]
              decide
          · intro hs
            exact absurd (by rw [hs, hlf]; rfl) h.last
        · have hc : c ∉ lineEnds := by simp [lineEnds, hcr, hlf]
          rcases h.keys [] c s rfl hc with hesc | ⟨hbs, hone⟩
          · refine Or.inl ⟨[], ?_, by simp, fun _ => rfl⟩
            rw [hesc, feedSegment_esc]
            rfl
          · by_cases hesc : c = '\x1b'
            · refine Or.inl ⟨[], ?_, by simp, fun _ => rfl⟩
              rw [hesc, feedSegment_esc]
              rfl
            · refine Or.inr ⟨c, hc, rfl, ?_, feedSegment_key hcr hbs hesc buffer⟩
              obtain ⟨z, rfl⟩ := List.length_eq_one_iff.1 hone
              have hz : z ∈ lineEnds := by
                by_contra hz
                have hapart := h.apart [] c [] z [] rfl hc hz
                simp [recvBufferSize] at hapart
              have hzlf : z ≠ '\n' := by
                rintro rfl
                exact h.last rfl
              simpa [lineEnds, hzlf] using hz
  | a :: b :: rest, _ =>
      refine Or.inl ⟨[], ?_, by simp, fun _ => rfl⟩
      rw [feedSegment_block buffer (by simp)]
      rcases h.filter_seg hlen with hnil | ⟨c, hc⟩
      · rw [firstLine_eq_nil (by simpa using hnil), keyLines, hnil]
        rfl
      · rw [firstLine_of_filter_eq_singleton hc, keyLines, hc]
        rfl

theorem IsCut.cons {s seg : Bytes} {segs : List Bytes} (h : IsCut s (seg :: segs)) :
    s = seg ++ segs.flatten ∧ IsCut segs.flatten segs := by
  refine ⟨by rw [← h.1, List.flatten_cons], rfl, fun seg' hseg' => ?_⟩
  exact h.2 seg' (List.mem_cons_of_mem _ hseg')

/-- A single byte can be cut in one way only. -/
theorem IsCut.eq_singleton {c : Char} {segs : List Bytes} (h : IsCut [c] segs) : segs = [[c]] := by
  cases segs with
  | nil => exact absurd h.1 (by simp)
  | cons seg segs =>
      obtain ⟨hs, hrest⟩ := h.cons
      have hne := (h.2 seg (List.mem_cons_self ..)).1
      obtain ⟨rfl, hflat⟩ : seg = [c] ∧ segs.flatten = [] := by
        cases seg with
        | nil => exact absurd rfl hne
        | cons a seg =>
            obtain ⟨rfl, htail⟩ := List.cons_eq_cons.1 hs
            obtain ⟨rfl, hflat⟩ := List.append_eq_nil_iff.1 htail.symm
            exact ⟨rfl, hflat⟩
      cases segs with
      | nil => rfl
      | cons seg segs =>
          have hne := (hrest.2 seg (List.mem_cons_self ..)).1
          exact absurd (List.append_eq_nil_iff.1 hflat).1 hne

/-- Every cut of a safe stream **dispatches its keys**, and leaves the buffer empty. -/
theorem feed_of_safe {s buffer : Bytes} {segs : List Bytes} (hcut : IsCut s segs)
    (hsafe : SafeStream s) (hne : segs ≠ []) (hbuffer : ∀ c ∈ buffer, c ∈ lineEnds) :
    feed buffer segs = ([], keyLines s) := by
  induction segs generalizing s buffer with
  | nil => exact absurd rfl hne
  | cons seg segs ih =>
      obtain ⟨rfl, hrest⟩ := hcut.cons
      obtain ⟨hsegne, hlen⟩ := hcut.2 seg (List.mem_cons_self ..)
      rcases hsafe.feedSegment hsegne hlen hbuffer with
        ⟨buffer', hfeed, hbuffer', hend⟩ | ⟨c, hc, rfl, hcr, hfeed⟩
      · rw [feed_cons, hfeed, keyLines_append]
        cases segs with
        | nil => rw [hend rfl]; simp [feed, keyLines]
        | cons seg' segs => rw [ih hrest hsafe.of_append (by simp) hbuffer']
      · -- the key before the final CR: it is dispatched by the CR, with nothing in front of it
        rw [hcr] at hrest
        rw [hcr, hrest.eq_singleton, feed_cons, hfeed, feed_cons, feedSegment_cr,
          firstLine_append_left hbuffer, firstLine_cons_of_not_mem hc]
        simp [feed, keyLines, hc]
        decide

/-! ### Streams whose cut does not matter are safe -/

/-- Every cut of the stream does the same to an empty buffer. -/
def Uniform (s : Bytes) : Prop :=
  ∀ segs segs', IsCut s segs → IsCut s segs' → feed [] segs = feed [] segs'

/-- One segment for each byte. -/
def singles (s : Bytes) : List Bytes := s.map fun c => [c]

theorem singles_cons (c : Char) (s : Bytes) : singles (c :: s) = [c] :: singles s := rfl

theorem isCut_singles (s : Bytes) : IsCut s (singles s) := by
  refine ⟨by simp [singles, ← List.flatMap_def], fun seg hseg => ?_⟩
  obtain ⟨c, -, rfl⟩ := List.mem_map.1 hseg
  exact ⟨by simp, by simp [recvBufferSize]⟩

theorem isCut_one {s : Bytes} (hne : s ≠ []) (hlen : s.length ≤ recvBufferSize) : IsCut s [s] := by
  refine ⟨by simp, fun seg hseg => ?_⟩
  rw [List.mem_singleton.1 hseg]
  exact ⟨hne, hlen⟩

theorem IsCut.append {s s' : Bytes} {segs segs' : List Bytes} (h : IsCut s segs)
    (h' : IsCut s' segs') : IsCut (s ++ s') (segs ++ segs') := by
  refine ⟨by rw [List.flatten_append, h.1, h'.1], fun seg hseg => ?_⟩
  rcases List.mem_append.1 hseg with hseg | hseg
  · exact h.2 seg hseg
  · exact h'.2 seg hseg

variable {p m q : Bytes} {segs segs' : List Bytes}

/-- Two cuts of the middle of the stream, with single bytes around it, do the same. -/
theorem Uniform.feed_eq (h : Uniform (p ++ m ++ q)) (hcut : IsCut m segs)
    (hcut' : IsCut m segs') :
    ∃ buffer,
      (feed (feed buffer segs).1 (singles q)).1 = (feed (feed buffer segs').1 (singles q)).1 ∧
      (feed buffer segs).2 ++ (feed (feed buffer segs).1 (singles q)).2 =
        (feed buffer segs').2 ++ (feed (feed buffer segs').1 (singles q)).2 := by
  have hsame := h _ _ (((isCut_singles p).append hcut).append (isCut_singles q))
    (((isCut_singles p).append hcut').append (isCut_singles q))
  refine ⟨(feed [] (singles p)).1, ?_⟩
  simp only [feed_append, Prod.mk.injEq, List.append_assoc, List.append_cancel_left_eq] at hsame
  exact hsame

/-- If both cuts leave the buffer empty, they dispatch the same lines. -/
theorem Uniform.lines_eq (h : Uniform (p ++ m ++ q)) (hcut : IsCut m segs)
    (hcut' : IsCut m segs') (hempty : ∀ buffer, (feed buffer segs).1 = [])
    (hempty' : ∀ buffer, (feed buffer segs').1 = []) :
    ∃ buffer, (feed buffer segs).2 = (feed buffer segs').2 := by
  obtain ⟨buffer, -, hlines⟩ := h.feed_eq hcut hcut'
  rw [hempty, hempty'] at hlines
  exact ⟨buffer, List.append_cancel_right hlines⟩

/-- The last of two bytes is one of the keys that leave no character in the buffer. -/
theorem Uniform.last {a z : Char} (h : Uniform (p ++ [a, z])) :
    z = '\r' ∨ z = '\x08' ∨ z = '\x1b' := by
  rw [← List.append_nil (p ++ [a, z])] at h
  obtain ⟨buffer, hbuffer, -⟩ := h.feed_eq (isCut_singles [a, z])
    (isCut_one (by simp) (by simp [recvBufferSize]))
  by_contra hz
  push Not at hz
  obtain ⟨hcr, hbs, hesc⟩ := hz
  have hkey : (feed buffer (singles [a, z])).1 = (feedSegment buffer [a]).1 ++ [z] := by
    rw [singles_cons, singles_cons, feed_cons, feed_cons, feedSegment_key hcr hbs hesc]
    rfl
  have hblock : (feed buffer [[a, z]]).1 = [] := rfl
  rw [hkey, hblock] at hbuffer
  exact absurd hbuffer (by simp [singles])

/-- Single bytes never dispatch a backspace. -/
theorem backspace_not_mem_feed_singles (s : Bytes) {buffer : Bytes} (hbuffer : '\x08' ∉ buffer) :
    ∀ line ∈ (feed buffer (singles s)).2, '\x08' ∉ line := by
  induction s generalizing buffer with
  | nil => simp [singles]
  | cons c s ih =>
      intro line hline
      rw [singles_cons, feed_cons] at hline
      by_cases hcr : c = '\r'
      · rw [hcr, feedSegment_cr] at hline
        rcases List.mem_append.1 hline with hline | hline
        · rw [firstLine] at hline
          split at hline
          · exact absurd hline List.not_mem_nil
          · rw [List.mem_singleton.1 hline]
            exact fun hbs => hbuffer (mem_of_mem_firstToken hbs)
        · exact ih (by simp) line hline
      · by_cases hesc : c = '\x1b'
        · rw [hesc, feedSegment_esc] at hline
          rcases List.mem_append.1 hline with hline | hline
          · rw [List.mem_singleton.1 hline]
            decide
          · exact ih (by simp) line hline
        · by_cases hbs : c = '\x08'
          · have hdrop : '\x08' ∉ buffer.dropLast := fun h => hbuffer (List.mem_of_mem_dropLast h)
            exact ih hdrop line (by simpa [hbs, feedSegment, editCommand] using hline)
          · rw [feedSegment_key hcr hbs hesc] at hline
            have hadd : '\x08' ∉ buffer ++ [c] := by simp [hbuffer, Ne.symm hbs]
            exact ih hadd line hline

/-- A stream of two or more bytes whose cut does not matter has no backspace. -/
theorem Uniform.backspace_not_mem {a b : Char} (h : Uniform (p ++ [a, b] ++ q)) :
    a ≠ '\x08' ∧ b ≠ '\x08' := by
  have hpair : IsCut [a, b] [[a, b]] := isCut_one (by simp) (by simp [recvBufferSize])
  have hsame := h _ _ (isCut_singles _)
    (((isCut_singles p).append hpair).append (isCut_singles q))
  have hline : ∀ line ∈ (feed [] (singles p ++ [[a, b]] ++ singles q)).2, '\x08' ∉ line := by
    rw [← hsame]
    exact backspace_not_mem_feed_singles _ (by simp)
  have hfirst : ∀ line ∈ firstLine [a, b], '\x08' ∉ line := by
    intro line hmem
    refine hline line ?_
    simp only [feed_append, feed_block _ (show 2 ≤ [a, b].length by simp), List.mem_append]
    exact Or.inl (Or.inr hmem)
  constructor
  · rintro rfl
    rw [firstLine_cons_of_not_mem (by decide)] at hfirst
    exact hfirst _ (List.mem_singleton_self _) (List.mem_cons_self ..)
  · rintro rfl
    by_cases ha : a ∈ lineEnds
    · rw [firstLine_cons_of_mem ha] at hfirst
      exact hfirst ['\x08'] (List.mem_singleton_self _) (List.mem_cons_self ..)
    · rw [firstLine_cons_of_not_mem ha] at hfirst
      exact hfirst _ (List.mem_singleton_self _) (by simp [lineEnds])

/-- The keys that are added to the buffer and sent by a `CR`. -/
def IsTyped (c : Char) : Prop := c ∉ lineEnds ∧ c ≠ '\x08' ∧ c ≠ '\x1b'

theorem feedSegment_typed {c : Char} (hc : IsTyped c) (buffer : Bytes) :
    feedSegment buffer [c] = (buffer ++ [c], []) := by
  refine feedSegment_key ?_ hc.2.1 hc.2.2 buffer
  rintro rfl
  exact hc.1 (by decide)

/-- Behind a typed character come a line end and the same character again: else it would matter
whether the three arrive together or the last two without the first. -/
theorem Uniform.typed_next {x y e : Char} (h : Uniform (p ++ [x, y, e] ++ q)) (hx : IsTyped x) :
    y ∈ lineEnds ∧ e = x := by
  have hcut : IsCut [x, y, e] [[x], [y, e]] :=
    (isCut_singles [x]).append (isCut_one (by simp) (by simp [recvBufferSize]))
  have hcut' : IsCut [x, y, e] [[x, y, e]] := isCut_one (by simp) (by simp [recvBufferSize])
  obtain ⟨buffer, hlines⟩ := h.lines_eq hcut hcut' (fun buffer => rfl) (fun buffer => rfl)
  rw [feed_cons, feedSegment_typed hx, feed_block _ (by simp), feed_block _ (by simp),
    firstLine_cons_of_not_mem hx.1, List.nil_append] at hlines
  by_cases hy : y ∈ lineEnds
  · refine ⟨hy, ?_⟩
    rw [firstLine_cons_of_mem hy] at hlines
    by_cases he : e ∈ lineEnds
    · rw [firstLine_eq_nil (by simpa using he)] at hlines
      exact absurd hlines (by simp)
    · rw [firstLine_cons_of_not_mem he] at hlines
      simpa [hy] using hlines
  · rw [firstLine_cons_of_not_mem hy] at hlines
    have hlen := congrArg (fun ls : List Bytes => (ls.headD []).length) hlines
    simp [hy] at hlen

/-- A typed character comes right before a final `CR`. -/
theorem Uniform.eq_cr_of_typed {x : Char} (hlen : 2 ≤ (p ++ x :: q).length)
    (h : Uniform (p ++ x :: q)) (hx : IsTyped x) : q = ['\r'] := by
  -- going on by two bytes at a time as long as there are two, to the end of the stream
  induction hn : q.length using Nat.strong_induction_on generalizing p q with
  | _ n ih =>
      match q with
      | [] =>
          obtain ⟨a, p', rfl⟩ : ∃ a p', p = p' ++ [a] := by
            rcases List.eq_nil_or_concat p with rfl | ⟨p', a, rfl⟩
            · simp at hlen
            · exact ⟨a, p', by simp⟩
          rw [List.append_assoc] at h
          rcases h.last with rfl | rfl | rfl
          · exact absurd hx.1 (by decide)
          · exact absurd rfl hx.2.1
          · exact absurd rfl hx.2.2
      | [z] =>
          rcases h.last with rfl | rfl | rfl
          · rfl
          · rw [← List.append_nil (p ++ [x, '\x08'])] at h
            exact absurd rfl h.backspace_not_mem.2
          · -- typed and then escaped, or both at once
            rw [← List.append_nil (p ++ [x, '\x1b'])] at h
            obtain ⟨buffer, hlines⟩ := h.lines_eq (isCut_singles [x, '\x1b'])
              (isCut_one (by simp) (by simp [recvBufferSize])) (fun buffer => rfl)
              (fun buffer => rfl)
            rw [singles_cons, feed_cons, feedSegment_typed hx, feed_block _ (by simp),
              firstLine_cons_of_not_mem hx.1] at hlines
            simp [singles, feed, feedSegment_esc, lineEnds] at hlines
      | y :: e :: q' =>
          have hnext : Uniform (p ++ [x, y, e] ++ q') := by simpa using h
          obtain ⟨hy, rfl⟩ := hnext.typed_next hx
          have hend : q' = ['\r'] := by
            have hshorter : q'.length < n := by
              simp only [List.length_cons] at hn
              omega
            have h' : Uniform ((p ++ [e, y]) ++ e :: q') := by simpa using h
            exact ih q'.length hshorter (by simp; omega) h' rfl
          -- the character before the last may come with the line end behind it, and the last one
          -- with the line end in front of it
          exfalso
          subst hend
          have hall : Uniform (p ++ [e, y, e, '\r'] ++ []) := by simpa using h
          have hcut : IsCut [e, y, e, '\r'] [[e, y], [e], ['\r']] :=
            (isCut_one (s := [e, y]) (by simp) (by simp [recvBufferSize])).append
              (isCut_singles [e, '\r'])
          have hcut' : IsCut [e, y, e, '\r'] [[e], [y, e], ['\r']] :=
            ((isCut_singles [e]).append
              (isCut_one (s := [y, e]) (by simp) (by simp [recvBufferSize]))).append
              (isCut_singles ['\r'])
          obtain ⟨buffer, hlines⟩ := hall.lines_eq hcut hcut' (fun buffer => rfl) fun buffer => rfl
          rw [feed_cons, feedSegment_block _ (by simp), feed_cons, feedSegment_typed hx, feed_cons,
            feedSegment_cr, feed_cons, feedSegment_typed hx, feed_cons,
            feedSegment_block _ (by simp), feed_cons, feedSegment_cr, firstLine_cons_of_mem hy,
            List.nil_append, firstLine_cons_of_not_mem hx.1,
            firstLine_cons_of_not_mem hx.1] at hlines
          simp [feed, firstLine_eq_nil] at hlines

/-- Line ends, one by one, dispatch nothing and leave line ends in the buffer. -/
theorem feed_singles_of_lineEnds {m : Bytes} (hm : ∀ c ∈ m, c ∈ lineEnds) {buffer : Bytes}
    (hbuffer : ∀ c ∈ buffer, c ∈ lineEnds) :
    ∃ buffer', (∀ c ∈ buffer', c ∈ lineEnds) ∧ feed buffer (singles m) = (buffer', []) := by
  induction m generalizing buffer with
  | nil => exact ⟨buffer, hbuffer, rfl⟩
  | cons c m ih =>
      have hm' : ∀ c ∈ m, c ∈ lineEnds := fun b hb => hm b (List.mem_cons_of_mem _ hb)
      rw [singles_cons, feed_cons]
      by_cases hcr : c = '\r'
      · obtain ⟨buffer', hbuffer', hfeed⟩ := ih hm' (List.forall_mem_nil _)
        refine ⟨buffer', hbuffer', ?_⟩
        rw [hcr, feedSegment_cr, hfeed, firstLine_eq_nil hbuffer]
        rfl
      · have hc : c = '\n' := by
          have := hm c (List.mem_cons_self ..)
          simpa [lineEnds, hcr] using this
        have hadd : ∀ b ∈ buffer ++ [c], b ∈ lineEnds := by
          intro b hb
          rcases List.mem_append.1 hb with hb | hb
          · exact hbuffer b hb
          · rw [List.mem_singleton.1 hb]
            exact hm c (List.mem_cons_self ..)
        obtain ⟨buffer', hbuffer', hfeed⟩ := ih hm' hadd
        refine ⟨buffer', hbuffer', ?_⟩
        rw [feedSegment_key hcr (by rw [hc]; decide) (by rw [hc]; decide), hfeed]
        rfl

theorem singles_append (s s' : Bytes) : singles (s ++ s') = singles s ++ singles s' :=
  List.map_append

/-- A byte besides line ends is `ESC`, or typed right before a final `CR`. -/
theorem Uniform.eq_esc_or_typed {c : Char} (hlen : 2 ≤ (p ++ c :: q).length)
    (h : Uniform (p ++ c :: q)) (hc : c ∉ lineEnds) : c = '\x1b' ∨ (IsTyped c ∧ q = ['\r']) := by
  have hbs : c ≠ '\x08' := by
    rintro rfl
    cases q with
    | nil =>
        rcases List.eq_nil_or_concat p with rfl | ⟨p', a, rfl⟩
        · simp at hlen
        · have hlast : Uniform (p' ++ [a, '\x08'] ++ []) := by simpa using h
          exact hlast.backspace_not_mem.2 rfl
    | cons b q =>
        have hfirst : Uniform (p ++ ['\x08', b] ++ q) := by simpa using h
        exact hfirst.backspace_not_mem.1 rfl
  by_cases hesc : c = '\x1b'
  · exact Or.inl hesc
  · exact Or.inr ⟨⟨hc, hbs, hesc⟩, h.eq_cr_of_typed hlen ⟨hc, hbs, hesc⟩⟩

/-- Two bytes besides line ends are so far apart that no segment holds both. -/
theorem Uniform.apart {c c' : Char} (h : Uniform (p ++ c :: (m ++ c' :: q))) (hc : c ∉ lineEnds)
    (hc' : c' ∉ lineEnds) : recvBufferSize ≤ m.length + 1 := by
  induction hn : m.length using Nat.strong_induction_on generalizing m c' q with
  | _ n ih =>
      subst hn
      by_contra hclose
      by_cases hm : ∀ b ∈ m, b ∈ lineEnds
      · have hblock : 2 ≤ (c :: (m ++ [c'])).length := by simp
        have hcutBlock : IsCut (c :: (m ++ [c'])) [c :: (m ++ [c'])] :=
          isCut_one (by simp) (by simp; omega)
        have hcesc : c = '\x1b' := by
          rcases h.eq_esc_or_typed (by simp; omega) hc with hesc | ⟨-, hcr⟩
          · exact hesc
          · have hmem : c' ∈ ['\r'] := by rw [← hcr]; simp
            exact absurd (by rw [List.mem_singleton.1 hmem]; decide) hc'
        have hline : firstLine (c :: (m ++ [c'])) = [c :: (m ++ [c']).takeWhile (· ∉ lineEnds)] :=
          firstLine_cons_of_not_mem hc _
        obtain ⟨buffer', hbuffer', hfeed⟩ :=
          feed_singles_of_lineEnds hm (List.forall_mem_nil _)
        have htail : Uniform ((p ++ c :: m) ++ c' :: q) := by simpa using h
        rcases htail.eq_esc_or_typed (by simp; omega) hc' with hesc | ⟨htyped, rfl⟩
        · -- two `ESC`, one by one or in one segment
          have hsingles : ∀ buffer, feed buffer (singles (c :: (m ++ [c']))) =
              ([], [['\x1b'], ['\x1b']]) := by
            intro buffer
            rw [singles_cons, hcesc, feed_cons, feedSegment_esc, singles_append, feed_append, hfeed,
              hesc]
            rfl
          have hall : Uniform (p ++ (c :: (m ++ [c'])) ++ q) := by simpa using h
          obtain ⟨buffer, hlines⟩ := hall.lines_eq (isCut_singles _) hcutBlock
            (fun buffer => by rw [hsingles]) (fun buffer => by rw [feed_block _ hblock])
          rw [hsingles, feed_block _ hblock, hline] at hlines
          exact absurd hlines (by simp)
        · -- `ESC` and the character before the final `CR`
          have hsingles : ∀ buffer, feed buffer (singles (c :: (m ++ [c']) ++ ['\r'])) =
              ([], [['\x1b'], [c']]) := by
            intro buffer
            rw [List.cons_append, singles_cons, hcesc, feed_cons, feedSegment_esc, singles_append,
              singles_append, feed_append, feed_append, hfeed]
            simp only [singles, List.map_cons, List.map_nil, feed_cons, feedSegment_typed htyped,
              feedSegment_cr, feed_nil, List.append_nil, List.nil_append,
              firstLine_append_left hbuffer', firstLine_cons_of_not_mem hc']
            rfl
          have hkeys : ∀ buffer, feed buffer ([c :: (m ++ [c'])] ++ singles ['\r']) =
              ([], firstLine (c :: (m ++ [c']))) := by
            intro buffer
            rw [feed_append, feed_block _ hblock, singles_cons, feed_cons, feedSegment_cr]
            simp [singles, firstLine_eq_nil]
          have hall : Uniform (p ++ (c :: (m ++ [c']) ++ ['\r']) ++ []) := by simpa using h
          obtain ⟨buffer, hlines⟩ := hall.lines_eq (isCut_singles _)
            (hcutBlock.append (isCut_singles ['\r'])) (fun buffer => by rw [hsingles])
            (fun buffer => by rw [hkeys])
          rw [hsingles, hkeys, hline] at hlines
          exact absurd hlines (by simp)
      · -- a nearer byte besides line ends
        push Not at hm
        obtain ⟨b, hb, hbend⟩ := hm
        obtain ⟨m₁, m₂, rfl⟩ := List.append_of_mem hb
        have hnear : Uniform (p ++ c :: (m₁ ++ b :: (m₂ ++ c' :: q))) := by simpa using h
        have hfar := ih m₁.length (by simp) hnear hbend rfl
        simp only [List.length_append, List.length_cons] at hclose
        omega

/-- A stream of two or more bytes whose cut does not matter is safe. -/
theorem Uniform.safe {s : Bytes} (hlen : 2 ≤ s.length) (h : Uniform s) : SafeStream s := by
  refine ⟨?_, fun p c q hs hc => ?_, fun p c m c' q hs hc hc' => ?_⟩
  · intro hlast
    obtain ⟨p, rfl⟩ := List.getLast?_eq_some_iff.1 hlast
    rcases List.eq_nil_or_concat p with rfl | ⟨p, a, rfl⟩
    · simp at hlen
    · have hend : Uniform (p ++ [a, '\n']) := by simpa using h
      rcases hend.last with h | h | h <;> exact absurd h (by decide)
  · rw [hs] at h hlen
    rcases h.eq_esc_or_typed hlen hc with hesc | ⟨htyped, hq⟩
    · exact Or.inl hesc
    · exact Or.inr ⟨htyped.2.1, by rw [hq]; rfl⟩
  · rw [hs] at h
    exact h.apart hc hc'

/-! ### The layer again -/

/-- Whichever way the stream of the active client is cut, `OnCommand` dispatches the same lines and
leaves the same buffer, **exactly if** the stream has at most one byte or is safe. -/
theorem segmentation_iff (s : Bytes) (hactive : id = l.commandClient.id)
    (hdevice : l.device.isSome) (hempty : (l.cmds id).getD [] = []) :
    (∀ segs segs' : List (Session × Bytes),
        IsCut s (segs.map Prod.snd) → IsCut s (segs'.map Prod.snd) →
          (serve E id l segs).2 = (serve E id l segs').2 ∧
            (serve E id l segs).1.cmds id = (serve E id l segs').1.cmds id) ↔
      s.length ≤ 1 ∨ SafeStream s := by
  have hserve := fun segs => serve_eq_feed (E := E) hactive hdevice segs
  rw [hempty] at hserve
  constructor
  · intro hall
    rcases Nat.lt_or_ge s.length 2 with hshort | hlen
    · exact Or.inl (by omega)
    · refine Or.inr (Uniform.safe hlen fun cut cut' hcut hcut' => ?_)
      have hsnd (cut : List Bytes) : (cut.map (Prod.mk Session.quiet)).map Prod.snd = cut := by simp
      have hne {cut : List Bytes} (h : IsCut s cut) : cut.map (Prod.mk Session.quiet) ≠ [] := by
        rintro hnil
        rw [List.map_eq_nil_iff.1 hnil] at h
        rw [← h.1] at hlen
        exact absurd hlen (by simp)
      obtain ⟨hlines, hbuffer⟩ := hall (cut.map (Prod.mk .quiet))
        (cut'.map (Prod.mk .quiet)) (by rwa [hsnd]) (by rwa [hsnd])
      rw [(hserve _).1, (hserve _).1, hsnd, hsnd] at hlines
      rw [(hserve _).2 (hne hcut), (hserve _).2 (hne hcut'), hsnd, hsnd] at hbuffer
      exact Prod.ext (Option.some_inj.1 hbuffer) hlines
  · intro hsafe segs segs' hcut hcut'
    cases s with
    | nil =>
        have hnil {cut : List Bytes} (h : IsCut [] cut) : cut = [] := by
          cases cut with
          | nil => rfl
          | cons seg cut =>
              have hne := (h.2 seg (List.mem_cons_self ..)).1
              exact absurd (List.append_eq_nil_iff.1 h.1).1 hne
        rw [List.map_eq_nil_iff.1 (hnil hcut), List.map_eq_nil_iff.1 (hnil hcut')]
        exact ⟨rfl, rfl⟩
    | cons c s =>
        have hne {segs : List (Session × Bytes)} (h : IsCut (c :: s) (segs.map Prod.snd)) :
            segs ≠ [] := by
          rintro rfl
          exact absurd h.1 (by simp)
        have hfeed : feed [] (segs.map Prod.snd) = feed [] (segs'.map Prod.snd) := by
          rcases hsafe with hshort | hsafe
          · obtain rfl : s = [] := by
              rw [List.length_cons] at hshort
              exact List.length_eq_zero_iff.1 (by omega)
            rw [hcut.eq_singleton, hcut'.eq_singleton]
          · rw [feed_of_safe hcut hsafe (by simpa using hne hcut) (List.forall_mem_nil _),
              feed_of_safe hcut' hsafe (by simpa using hne hcut') (List.forall_mem_nil _)]
        rw [(hserve segs).1, (hserve segs').1, (hserve segs).2 (hne hcut),
          (hserve segs').2 (hne hcut'), hfeed]
        exact ⟨rfl, rfl⟩

/-- A typed character and `CR` are a safe stream. -/
theorem safeStream_key {c : Char} (hc : c ∉ lineEnds ∧ c ≠ '\x08') : SafeStream [c, '\r'] := by
  refine ⟨by simp, fun p a q hs ha => ?_, fun p a m b q hs ha hb => ?_⟩
  · rcases p with _ | ⟨_, _ | ⟨_, _⟩⟩
    · obtain ⟨rfl, rfl⟩ := List.cons_eq_cons.1 hs
      exact Or.inr ⟨hc.2, rfl⟩
    · obtain ⟨-, hs⟩ := List.cons_eq_cons.1 hs
      rw [← (List.cons_eq_cons.1 hs).1] at ha
      exact absurd (by decide) ha
    · simp at hs
  · have hlen := congrArg List.length hs
    simp only [List.length_append, List.length_cons, List.length_nil] at hlen
    obtain rfl : p = [] := List.length_eq_zero_iff.1 (by omega)
    obtain rfl : m = [] := List.length_eq_zero_iff.1 (by omega)
    obtain ⟨-, hs⟩ := List.cons_eq_cons.1 hs
    rw [← (List.cons_eq_cons.1 hs).1] at hb
    exact absurd (by decide) hb

/-- A layer with a client on the control port that has sent nothing yet. -/
def connectedLayer : ServerLayer := (onClientConnected (attachedLayer mps4264 1 true) 5).layer

/-- A character and `CR` are the same command in one segment and in two. -/
theorem segmentation_iff_key :
    (serve referenceEnv 5 connectedLayer [(.quiet, "A\r".toList)]).2 =
        (serve referenceEnv 5 connectedLayer [(.quiet, "A".toList), (.quiet, "\r".toList)]).2 ∧
      (serve referenceEnv 5 connectedLayer [(.quiet, "A\r".toList)]).1.cmds 5 =
        (serve referenceEnv 5 connectedLayer
          [(.quiet, "A".toList), (.quiet, "\r".toList)]).1.cmds 5 := by
  have hactive : 5 = connectedLayer.commandClient.id := rfl
  have hsafe : SafeStream "A\r".toList := safeStream_key (by decide)
  exact (segmentation_iff "A\r".toList hactive rfl rfl).2 (Or.inr hsafe) _ _ (by decide)
    (by decide)

/-- Of two commands in one segment, the second is dropped. -/
theorem second_command_dropped :
    IsCut "VER\r\nSTATUS\r\n".toList ["VER\r\nSTATUS\r\n".toList] ∧
      IsCut "VER\r\nSTATUS\r\n".toList ["VER\r\n".toList, "STATUS\r\n".toList] ∧
      (serve referenceEnv 5 connectedLayer
        [(.quiet, "VER\r\nSTATUS\r\n".toList)]).2 = ["VER".toList] ∧
      (serve referenceEnv 5 connectedLayer
        [(.quiet, "VER\r\n".toList), (.quiet, "STATUS\r\n".toList)]).2 =
          ["VER".toList, "STATUS".toList] := by
  decide +kernel

end MpsEmulator
