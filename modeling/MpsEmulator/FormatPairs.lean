/-
**The pairs of `SET FORMAT`, as the project's files write them.**

The words of a command are separated by blanks only.  `LIST S` prints a comma and a blank between
the pairs, and the comma becomes the end of a word whose first character is still the format.  The
file `scan.cfg` has the comma without the blank, so that the type behind it is not the first
character of any word, and the formats are paired among themselves.

* `PairSyntax`, `formatCommand` — the three ways to write a list of pairs;
* `wordsBehind`, `formatCommand_eq`, `isLine_wordsBehind` — the words of the command;
* `PairSyntax.letters`, `heads_pairWords` — their first characters, which are all that is looked at;
* `readPairs`, `readPairs_iff` — what these characters are paired to;
* `applies_iff_read` — the command does what was written if what was read is as good;
* `formatPairs_iff` — **with a blank between the pairs it always does, and in the way of `scan.cfg`
  exactly if what is read there is as good**;
* `scanCfg_even` — there, an even number of pairs is rejected;
* `shifted_pairs` — a file's own line, carried out wrongly.
-/

import MpsEmulator.ListOutput
import MpsEmulator.RejectedCommands

set_option relaxedAutoImplicit false
set_option autoImplicit false

namespace MpsEmulator

/-! ### Writing pairs -/

/-- The ways the pairs are written: with blanks only, as `LIST S` prints them, and as in
`scan.cfg`. -/
inductive PairSyntax
  | spaced
  | listed
  | scanCfg
  deriving DecidableEq

/-- What stands between two pairs. -/
def PairSyntax.separator : PairSyntax → Bytes
  | .spaced => [' ']
  | .listed => [',', ' ']
  | .scanCfg => [',']

/-- A pair of a type letter and a format letter. -/
def pairText (p : Char × Char) : Bytes := [p.1, ' ', p.2]

/-- The pairs, one after the other. -/
def pairsText (syn : PairSyntax) (pairs : List (Char × Char)) : Bytes :=
  syn.separator.intercalate (pairs.map pairText)

/-- The command with these pairs. -/
def formatCommand (syn : PairSyntax) (pairs : List (Char × Char)) : Bytes :=
  "SET FORMAT ".toList ++ pairsText syn pairs

/-- The letters of the formats, in either case, are read as these formats. -/
def ReadsFormats (E : Env) : Prop :=
  ∀ c f, referenceFormat c = some f → E.mpsFormatFromChar c = some f

/-- The channel and the format a pair of letters stands for, if `SetDataFormat` allows it. -/
def namedPair (p : Char × Char) : Option (FormatChannel × MpsDataFormat) :=
  acceptedPair referenceEnv p.1 p.2

/-- The command succeeds, and every format is that of the last pair for its channel, or the old one
if there is none.  Nothing else changes. -/
structure AppliesPairs (d : Mps) (pairs : List (Char × Char)) (o : Outcome) : Prop where
  succeeds : ¬ invalidCommand <+: o.reply
  format : ∀ ch, o.device.cfg.format ch =
    (lastFormat (pairs.filterMap namedPair) ch).getD (d.cfg.format ch)
  onlyFormats : o.device = { d with
    cfg := { d.cfg with
      telnetFormat := o.device.cfg.telnetFormat
      ftpUdpFormat := o.device.cfg.ftpUdpFormat
      binaryFormat := o.device.cfg.binaryFormat } }

variable {E : Env} {x : Session} {d : Mps}

theorem allowedFormat_reference (hE : ReadsFormats E) (allowed : List Char)
    (hallowed : allowed.all (fun c => (referenceFormat c).isSome) = true) (fmt : Char) :
    allowedFormat E allowed fmt = allowedFormat referenceEnv allowed fmt := by
  by_cases hmem : fmt ∈ allowed
  · obtain ⟨f, hf⟩ := Option.isSome_iff_exists.1 (List.all_eq_true.1 hallowed fmt hmem)
    have href : referenceEnv.mpsFormatFromChar fmt = some f := hf
    rw [allowedFormat, allowedFormat, if_pos hmem, if_pos hmem, hE fmt f hf, href]
  · rw [allowedFormat, allowedFormat, if_neg hmem, if_neg hmem]

/-- What `SetDataFormat` makes of two letters is what they stand for. -/
theorem acceptedPair_eq (hE : ReadsFormats E) (type fmt : Char) :
    acceptedPair E type fmt = namedPair (type, fmt) := by
  have htelnet := allowedFormat_reference hE ['A', 'a', 'F', 'f', 'C', 'c'] (by decide) fmt
  have hftp := allowedFormat_reference hE ['A', 'a', 'B', 'b', 'C', 'c'] (by decide) fmt
  have hbinary := allowedFormat_reference hE ['B', 'b', 'L', 'l'] (by decide) fmt
  rw [namedPair, acceptedPair, acceptedPair, htelnet, hftp, hbinary]

theorem ne_blank_of_namedPair {p : Char × Char} (h : (namedPair p).isSome) :
    p.1 ∉ blanks ∧ p.2 ∉ blanks := by
  obtain ⟨q, hq⟩ := Option.isSome_iff_exists.1 h
  have htype : ∀ {upper lower : Char}, upper ∉ blanks → lower ∉ blanks →
      p.1 = upper ∨ p.1 = lower → p.1 ∉ blanks := by
    rintro upper lower hupper hlower (h | h)
    · rwa [h]
    · rwa [h]
  have hfmt : ∀ {allowed : List Char} {ch : FormatChannel},
      allowed.all (· ∉ blanks) = true →
      (allowedFormat referenceEnv allowed p.2).map (Prod.mk ch) = some q → p.2 ∉ blanks := by
    intro allowed ch hall hmap
    obtain ⟨f, hf, -⟩ := Option.map_eq_some_iff.1 hmap
    exact ne_blank_of_allowedFormat hall hf
  rw [namedPair, acceptedPair] at hq
  split_ifs at hq with ht hf hb
  · exact ⟨htype (by decide) (by decide) ht, hfmt (by decide) hq⟩
  · exact ⟨htype (by decide) (by decide) hf, hfmt (by decide) hq⟩
  · exact ⟨htype (by decide) (by decide) hb, hfmt (by decide) hq⟩

/-! ### The words of the command -/

/-- The words behind the first type letter: the first pair has this format, and more pairs
follow. -/
def wordsBehind (syn : PairSyntax) (fmt : Char) : List (Char × Char) → List Bytes
  | [] => [[fmt]]
  | q :: pairs =>
      match syn with
      | .spaced => [fmt] :: [q.1] :: wordsBehind syn q.2 pairs
      | .listed => [fmt, ','] :: [q.1] :: wordsBehind syn q.2 pairs
      -- without a blank the next type is in the same word
      | .scanCfg => [fmt, ',', q.1] :: wordsBehind syn q.2 pairs

/-- The words behind `SET FORMAT`. -/
def pairWords (syn : PairSyntax) : List (Char × Char) → List Bytes
  | [] => []
  | p :: pairs => [p.1] :: wordsBehind syn p.2 pairs

theorem wordsBehind_ne_nil (syn : PairSyntax) (fmt : Char) (pairs : List (Char × Char)) :
    wordsBehind syn fmt pairs ≠ [] := by
  cases pairs with
  | nil => exact List.cons_ne_nil _ _
  | cons q pairs => cases syn <;> exact List.cons_ne_nil _ _

/-- The pairs are written as words. -/
theorem pairsText_eq (syn : PairSyntax) (type fmt : Char) (pairs : List (Char × Char)) :
    pairsText syn ((type, fmt) :: pairs) = unwords ([type] :: wordsBehind syn fmt pairs) := by
  induction pairs generalizing type fmt with
  | nil => rfl
  | cons q pairs ih =>
      have hnext : pairsText syn ((type, fmt) :: q :: pairs) =
          [type, ' ', fmt] ++ syn.separator ++ pairsText syn (q :: pairs) :=
        List.intercalate_cons_cons
      have hrest := wordsBehind_ne_nil syn q.2 pairs
      rw [hnext, ih q.1 q.2, unwords_cons hrest]
      cases syn with
      | spaced =>
          rw [wordsBehind, unwords_cons (List.cons_ne_nil _ _), unwords_cons (List.cons_ne_nil _ _),
            unwords_cons hrest]
          rfl
      | listed =>
          rw [wordsBehind, unwords_cons (List.cons_ne_nil _ _), unwords_cons (List.cons_ne_nil _ _),
            unwords_cons hrest]
          rfl
      | scanCfg =>
          rw [wordsBehind, unwords_cons (List.cons_ne_nil _ _), unwords_cons hrest]
          rfl

theorem isLine_wordsBehind (syn : PairSyntax) {fmt : Char} {pairs : List (Char × Char)}
    (hfmt : fmt ∉ blanks) (h : ∀ q ∈ pairs, q.1 ∉ blanks ∧ q.2 ∉ blanks) :
    IsLine (wordsBehind syn fmt pairs) := by
  have hcomma : ',' ∉ blanks := by decide
  induction pairs generalizing fmt with
  | nil => exact List.forall_mem_singleton.2 hfmt
  | cons q pairs ih =>
      obtain ⟨⟨htype, hnext⟩, hrest⟩ := List.forall_mem_cons.1 h
      have hline := ih hnext hrest
      have hword : IsBlankFree [q.1] := List.forall_mem_singleton.2 htype
      cases syn with
      | spaced =>
          exact isLine_cons (by simp) (List.forall_mem_singleton.2 hfmt)
            (isLine_cons (by simp) hword hline)
      | listed =>
          exact isLine_cons (by simp)
            (List.forall_mem_cons.2 ⟨hfmt, List.forall_mem_singleton.2 hcomma⟩)
            (isLine_cons (by simp) hword hline)
      | scanCfg =>
          exact isLine_cons (by simp)
            (List.forall_mem_cons.2 ⟨hfmt, List.forall_mem_cons.2 ⟨hcomma, hword⟩⟩) hline

theorem isLine_pairWords (syn : PairSyntax) {pairs : List (Char × Char)} (hne : pairs ≠ [])
    (h : ∀ p ∈ pairs, (namedPair p).isSome) : IsLine (pairWords syn pairs) := by
  cases pairs with
  | nil => exact absurd rfl hne
  | cons p pairs =>
      obtain ⟨hp, hrest⟩ := List.forall_mem_cons.1 h
      obtain ⟨htype, hfmt⟩ := ne_blank_of_namedPair hp
      exact isLine_cons (by simp) (List.forall_mem_singleton.2 htype)
        (isLine_wordsBehind syn hfmt fun q hq => ne_blank_of_namedPair (hrest q hq))

theorem unwords_setLine {args : List Bytes} (h : args ≠ []) :
    unwords (setLine "FORMAT" args) = "SET FORMAT ".toList ++ unwords args := by
  rw [setLine, unwords, unwords_cons h]
  generalize unwords args = text
  rfl

/-- **The command is a line of words.** -/
theorem formatCommand_eq (syn : PairSyntax) {pairs : List (Char × Char)} (hne : pairs ≠ []) :
    formatCommand syn pairs = unwords (setLine "FORMAT" (pairWords syn pairs)) := by
  obtain ⟨p, pairs, rfl⟩ := List.exists_cons_of_ne_nil hne
  have htext : pairsText syn (p :: pairs) = unwords (pairWords syn (p :: pairs)) :=
    pairsText_eq syn p.1 p.2 pairs
  have hwords : pairWords syn (p :: pairs) ≠ [] := List.cons_ne_nil _ _
  rw [unwords_setLine hwords, ← htext]
  rfl

/-! ### What is read -/

/-- The first characters of the words behind the first pair. -/
def PairSyntax.lettersBehind : PairSyntax → List (Char × Char) → List Char
  | .scanCfg, pairs => pairs.map Prod.snd
  | _, pairs => pairs.flatMap fun p => [p.1, p.2]

/-- The first characters of the words. -/
def PairSyntax.letters (syn : PairSyntax) : List (Char × Char) → List Char
  | [] => []
  | p :: pairs => p.1 :: p.2 :: syn.lettersBehind pairs

/-- The characters taken two by two, if there is none left and each two stand for something. -/
def readPairs : List Char → Option (List (FormatChannel × MpsDataFormat))
  | type :: fmt :: rest =>
      match namedPair (type, fmt), readPairs rest with
      | some p, some pairs => some (p :: pairs)
      | _, _ => none
  | [_] => none
  | [] => some []

theorem heads_wordsBehind (syn : PairSyntax) (fmt : Char) (pairs : List (Char × Char)) :
    (wordsBehind syn fmt pairs).map (·.headD '\x00') = fmt :: syn.lettersBehind pairs := by
  induction pairs generalizing fmt with
  | nil => cases syn <;> rfl
  | cons q pairs ih =>
      cases syn with
      | spaced =>
          rw [wordsBehind, List.map_cons, List.map_cons, ih]
          rfl
      | listed =>
          rw [wordsBehind, List.map_cons, List.map_cons, ih]
          rfl
      | scanCfg =>
          rw [wordsBehind, List.map_cons, ih]
          rfl

theorem heads_pairWords (syn : PairSyntax) (pairs : List (Char × Char)) :
    (pairWords syn pairs).map (·.headD '\x00') = syn.letters pairs := by
  cases pairs with
  | nil => rfl
  | cons p pairs =>
      rw [pairWords, List.map_cons, heads_wordsBehind]
      rfl

/-- The loop gets to the end exactly if all characters can be paired, and has then applied what they
stand for. -/
theorem readPairs_iff (hE : ReadsFormats E) (tokens : List Bytes)
    (read : List (FormatChannel × MpsDataFormat)) :
    readPairs (tokens.map (·.headD '\x00')) = some read ↔
      acceptedPairs E tokens = read ∧ tokens.length = 2 * read.length := by
  induction tokens using acceptedPairs.induct E generalizing read with
  | case1 type fmt rest p hp ih =>
      rw [acceptedPair_eq hE] at hp
      rw [List.map_cons, List.map_cons, readPairs, acceptedPairs, acceptedPair_eq hE, hp]
      cases hrest : readPairs (rest.map (·.headD '\x00')) with
      | none =>
          refine iff_of_false (by simp) ?_
          rintro ⟨rfl, hlen⟩
          have hshort : rest.length = 2 * (acceptedPairs E rest).length := by
            simp only [List.length_cons] at hlen
            omega
          have hread := (ih _).2 ⟨rfl, hshort⟩
          rw [hrest] at hread
          cases hread
      | some read' =>
          obtain ⟨haccepted, hlen⟩ := (ih read').1 hrest
          rw [haccepted]
          refine ⟨fun h => ⟨Option.some_inj.1 h, ?_⟩, fun h => congrArg some h.1⟩
          rw [← Option.some_inj.1 h, List.length_cons, List.length_cons, List.length_cons, hlen]
          omega
  | case2 type fmt rest hp =>
      rw [acceptedPair_eq hE] at hp
      rw [List.map_cons, List.map_cons, readPairs, acceptedPairs, acceptedPair_eq hE, hp]
      refine iff_of_false (by simp) ?_
      rintro ⟨rfl, hlen⟩
      exact absurd hlen (by simp)
  | case3 tokens hshort =>
      cases tokens with
      | nil => exact ⟨fun h => by cases h; exact ⟨rfl, rfl⟩, fun h => congrArg some h.1⟩
      | cons t tokens =>
          cases tokens with
          | nil =>
              refine iff_of_false (by simp [readPairs]) ?_
              rintro ⟨-, hlen⟩
              rw [List.length_singleton] at hlen
              omega
          | cons t' tokens => exact absurd rfl (hshort t t' tokens)

/-- With a blank between the pairs, they are read as they were written. -/
theorem readPairs_letters {syn : PairSyntax} (hsyn : syn ≠ .scanCfg) {pairs : List (Char × Char)}
    (h : ∀ p ∈ pairs, (namedPair p).isSome) :
    readPairs (syn.letters pairs) = some (pairs.filterMap namedPair) := by
  have hcons : ∀ p pairs, syn.letters (p :: pairs) = p.1 :: p.2 :: syn.letters pairs := by
    intro p pairs
    cases syn with
    | spaced => cases pairs <;> rfl
    | listed => cases pairs <;> rfl
    | scanCfg => exact absurd rfl hsyn
  induction pairs with
  | nil => rfl
  | cons p pairs ih =>
      obtain ⟨hp, hrest⟩ := List.forall_mem_cons.1 h
      obtain ⟨q, hq⟩ := Option.isSome_iff_exists.1 hp
      rw [hcons, readPairs, hq, ih hrest, List.filterMap_cons, hq]

theorem length_readPairs {letters : List Char} {read : List (FormatChannel × MpsDataFormat)}
    (h : readPairs letters = some read) : letters.length = 2 * read.length := by
  induction letters using readPairs.induct generalizing read with
  | case1 type fmt rest p pairs hrest hp ih =>
      rw [readPairs, hp, hrest] at h
      cases h
      have hlen := ih hrest
      simp only [List.length_cons]
      omega
  | case2 type fmt rest hnone =>
      rw [readPairs] at h
      split at h
      · next p pairs hp hrest => exact absurd hrest (hnone p pairs hp)
      · cases h
  | case3 c => cases h
  | case4 =>
      cases h
      rfl

/-! ### What is applied -/

/-- The command is carried out with its words. -/
theorem parseCommands_formatCommand (syn : PairSyntax) {pairs : List (Char × Char)}
    (hne : pairs ≠ []) (h : ∀ p ∈ pairs, (namedPair p).isSome) :
    parseCommands E x d (formatCommand syn pairs) =
      setFormat E x d (setLine "FORMAT" (pairWords syn pairs)) := by
  have hline : IsLine (setLine "FORMAT" (pairWords syn pairs)) :=
    isLine_setLine (by decide) (by decide) (isLine_pairWords syn hne h)
  rw [formatCommand_eq syn hne]
  exact parseCommands_setLine hline (by decide : settingOf "FORMAT".toList = some .format)

/-- The pairs that are in force after the command **are as good as** the pairs that were written. -/
def AsGood (d : Mps) (read written : List (FormatChannel × MpsDataFormat)) : Prop :=
  ∀ ch, (lastFormat read ch).getD (d.cfg.format ch) = (lastFormat written ch).getD (d.cfg.format ch)

/-- The command does what was written **exactly if** what was read is as good. -/
theorem applies_iff_read (hE : ReadsFormats E) (syn : PairSyntax) {pairs : List (Char × Char)}
    (hne : pairs ≠ []) (h : ∀ p ∈ pairs, (namedPair p).isSome) :
    AppliesPairs d pairs (parseCommands E x d (formatCommand syn pairs)) ↔
      ∃ read, readPairs (syn.letters pairs) = some read ∧
        AsGood d read (pairs.filterMap namedPair) := by
  have hread := fun read => readPairs_iff hE (pairWords syn pairs) read
  obtain ⟨hdevice, hend⟩ := setFormatLoop_eq E d (pairWords syn pairs)
  have hdrop : (setLine "FORMAT" (pairWords syn pairs)).drop 2 = pairWords syn pairs := rfl
  rw [parseCommands_formatCommand syn hne h, setFormat, hdrop]
  simp only [heads_pairWords] at hread
  cases hloop : setFormatLoop E d (pairWords syn pairs) with
  | mk d' error =>
      rw [hloop] at hdevice hend
      dsimp only at hdevice
      cases error with
      | none =>
          have hall := (hread _).2 ⟨rfl, hend.1 rfl⟩
          have hformat : ∀ ch, d'.cfg.format ch =
              (lastFormat (acceptedPairs E (pairWords syn pairs)) ch).getD (d.cfg.format ch) := by
            intro ch
            rw [hdevice, MpsConfig.format_withFormats]
          constructor
          · intro happlied
            exact ⟨_, hall, fun ch => (hformat ch).symm.trans (happlied.format ch)⟩
          · rintro ⟨read, hsome, hgood⟩
            obtain rfl := Option.some_inj.1 (hall.symm.trans hsome)
            refine ⟨?_, fun ch => (hformat ch).trans (hgood ch), ?_⟩
            · rintro ⟨tail, htail⟩
              exact absurd (List.cons_eq_cons.1 htail).1 (by decide)
            · show d' = _
              rw [hdevice]
              exact congrArg (fun cfg => { d with cfg := cfg }) (MpsConfig.withFormats_eq _ _)
      | some error =>
          have hinvalid := setFormatLoop_error (congrArg Prod.snd hloop)
          refine iff_of_false (fun happlied => happlied.succeeds hinvalid) ?_
          rintro ⟨read, hsome, -⟩
          obtain ⟨rfl, hlen⟩ := (hread read).1 hsome
          exact absurd (hend.2 hlen) (by simp)

/-- **Pairs with a blank between them are applied, and pairs written as in `scan.cfg` exactly if**
the first type and the formats, taken two by two, are pairs that come to the same. -/
theorem formatPairs_iff (hE : ReadsFormats E) (x : Session) (d : Mps) (syn : PairSyntax)
    {pairs : List (Char × Char)} (hne : pairs ≠ []) (h : ∀ p ∈ pairs, (namedPair p).isSome) :
    AppliesPairs d pairs (parseCommands E x d (formatCommand syn pairs)) ↔
      (syn = .scanCfg → ∃ read, readPairs (syn.letters pairs) = some read ∧
        AsGood d read (pairs.filterMap namedPair)) := by
  rw [applies_iff_read hE syn hne h]
  by_cases hsyn : syn = .scanCfg
  · exact ⟨fun hread _ => hread, fun hread => hread hsyn⟩
  · exact iff_of_true ⟨_, readPairs_letters hsyn h, fun ch => rfl⟩ fun hcfg => absurd hcfg hsyn

/-- The pairs of the line in `scan.cfg`. -/
def scanCfgPairs : List (Char × Char) := [('T', 'F'), ('F', 'B'), ('B', 'B')]

/-- On a device as it is attached, the line of `scan.cfg` is as good as it looks: `B` is the FTP and
UDP format there already. -/
theorem formatPairs_scanCfg :
    ReadsFormats referenceEnv ∧ scanCfgPairs ≠ [] ∧ (∀ p ∈ scanCfgPairs, (namedPair p).isSome) ∧
      AppliesPairs (attachedDevice mps4264 1) scanCfgPairs
        (parseCommands referenceEnv .quiet (attachedDevice mps4264 1)
          (formatCommand .scanCfg scanCfgPairs)) :=
  ⟨fun c f h => h, by decide, by decide,
    (formatPairs_iff (fun c f h => h) .quiet (attachedDevice mps4264 1) .scanCfg (by decide)
      (by decide)).2 fun _ => ⟨_, rfl, fun ch => by cases ch <;> decide⟩⟩

/-- After `SET FORMAT F A`, the line of `scan.cfg` succeeds and leaves the format `A`: what was read
is `T F` and `B B`. -/
theorem shifted_pairs :
    ∃ d, d = (parseCommands referenceEnv .quiet (attachedDevice mps4264 1)
        "SET FORMAT F A".toList).device ∧
      formatCommand .scanCfg scanCfgPairs = "SET FORMAT T F,F B,B B".toList ∧
      scanCfgPairs ≠ [] ∧ (∀ p ∈ scanCfgPairs, (namedPair p).isSome) ∧
      ¬ AppliesPairs d scanCfgPairs
        (parseCommands referenceEnv .quiet d (formatCommand .scanCfg scanCfgPairs)) := by
  refine ⟨_, rfl, by decide +kernel, by decide, by decide, fun happlied => ?_⟩
  have hformat := happlied.format .ftpUdp
  revert hformat
  decide +kernel

/-- Written as in `scan.cfg`, an even number of pairs is rejected: a character is left. -/
theorem scanCfg_even (hE : ReadsFormats E) {pairs : List (Char × Char)} (hne : pairs ≠ [])
    (h : ∀ p ∈ pairs, (namedPair p).isSome) (heven : Even pairs.length) :
    ¬ AppliesPairs d pairs (parseCommands E x d (formatCommand .scanCfg pairs)) := by
  rw [applies_iff_read hE .scanCfg hne h]
  rintro ⟨read, hread, -⟩
  -- one character more than there are pairs
  obtain ⟨n, hn⟩ := heven
  have hlen := length_readPairs hread
  cases pairs with
  | nil => exact hne rfl
  | cons p pairs =>
      simp only [PairSyntax.letters, PairSyntax.lettersBehind, List.length_cons,
        List.length_map] at hlen hn
      omega

end MpsEmulator
