/-
**Ordered maps with iterators that can become invalid.**

A map from ordered keys, as a balanced tree keeps it, and the loop that walks it from its first
element to its last.  The loop holds an iterator to an element between two of its turns, so a body
that erases an element may take the iterator's own away: using such an iterator has no meaning, and
the walk then ends in a result of its own.

* `OrderedMap` — entries whose keys ascend, which is a field;
* `OrderedMap.insert`, `OrderedMap.erase`, `MapChange` — what changes a map;
* `OrderedMap.first`, `OrderedMap.next` — where a walk begins, and the element behind one;
* `Walk`, `walkFrom`, `rangeFor` — the loop over the elements of a map, with any body;
* `find?_insert`, `find?_erase` — inserting and erasing, as they show in lookups;
* `rangeFor_of_unchanged` — **a body that leaves the map alone runs once for every key, in order**;
* `walkFrom_of_erased` — **a body that erases the element at hand runs once, and the walk breaks**.

Nothing is inserted while a walk is under way, so an element is known by its key.
-/

import Mathlib

set_option relaxedAutoImplicit false
set_option autoImplicit false

namespace MpsEmulator

/-! ### The map -/

/-- A map from ordered keys: its entries in the order of their keys, each key once. -/
structure OrderedMap (κ α : Type) [LinearOrder κ] where
  entries : List (κ × α)
  ascending : (entries.map Prod.fst).Pairwise (· < ·)

namespace OrderedMap

variable {κ α : Type} [LinearOrder κ]

/-- The map without an entry. -/
def empty : OrderedMap κ α := { entries := [], ascending := List.Pairwise.nil }

/-- The map with one entry. -/
def single (k : κ) (v : α) : OrderedMap κ α :=
  { entries := [(k, v)], ascending := List.pairwise_singleton _ _ }

/-- The keys, in order. -/
def keys (m : OrderedMap κ α) : List κ := m.entries.map Prod.fst

/-- The value of a key. -/
def find? (m : OrderedMap κ α) (k : κ) : Option α :=
  (m.entries.find? fun e => e.1 = k).map Prod.snd

/-- The map without the entry of a key. -/
def erase (m : OrderedMap κ α) (k : κ) : OrderedMap κ α where
  entries := m.entries.filter fun e => e.1 ≠ k
  ascending := m.ascending.sublist (List.filter_sublist.map _)

/-- The map with this value for a key, `map[k] = v`. -/
def insert (m : OrderedMap κ α) (k : κ) (v : α) : OrderedMap κ α where
  entries := (m.entries.filter fun e => e.1 < k) ++ (k, v) :: m.entries.filter fun e => k < e.1
  ascending := by
    have hpart : ∀ p : κ × α → Bool, ((m.entries.filter p).map Prod.fst).Pairwise (· < ·) :=
      fun p => m.ascending.sublist (List.filter_sublist.map _)
    have hlow : ∀ k' ∈ (m.entries.filter fun e => e.1 < k).map Prod.fst, k' < k := by
      intro k' hk'
      obtain ⟨e, he, rfl⟩ := List.mem_map.1 hk'
      simpa using (List.mem_filter.1 he).2
    have hhigh : ∀ k' ∈ (m.entries.filter fun e => k < e.1).map Prod.fst, k < k' := by
      intro k' hk'
      obtain ⟨e, he, rfl⟩ := List.mem_map.1 hk'
      simpa using (List.mem_filter.1 he).2
    rw [List.map_append, List.map_cons, List.pairwise_append, List.pairwise_cons]
    refine ⟨hpart _, ⟨hhigh, hpart _⟩, ?_⟩
    intro k₁ hk₁ k₂ hk₂
    rcases List.mem_cons.1 hk₂ with rfl | hk₂
    · exact hlow k₁ hk₁
    · exact (hlow k₁ hk₁).trans (hhigh k₂ hk₂)

@[simp] theorem keys_empty : (empty : OrderedMap κ α).keys = [] := rfl

theorem keys_pairwise (m : OrderedMap κ α) : m.keys.Pairwise (· < ·) := m.ascending

/-- A map without an entry is the empty one. -/
theorem entries_eq_nil {m : OrderedMap κ α} : m.entries = [] ↔ m = empty := by
  obtain ⟨entries, hascending⟩ := m
  constructor
  · intro h
    have hentries : entries = [] := h
    subst hentries
    rfl
  · intro h
    rw [h]
    rfl

/-- Looking up the key of an entry finds the entry, since no other one has this key. -/
theorem find?_of_mem {m : OrderedMap κ α} {e : κ × α} (h : e ∈ m.entries) :
    m.find? e.1 = some e.2 := by
  obtain ⟨before, behind, hentries⟩ := List.append_of_mem h
  have hsorted := m.ascending
  rw [hentries, List.map_append, List.pairwise_append] at hsorted
  have hfind : (m.entries.find? fun e' => e'.1 = e.1) = some e := by
    rw [List.find?_eq_some_iff_append]
    refine ⟨by simp, before, behind, hentries, ?_⟩
    -- the keys in front of it are smaller
    intro e' he'
    have hlt : e'.1 < e.1 :=
      hsorted.2.2 e'.1 (List.mem_map_of_mem he') e.1 (by simp)
    simpa using ne_of_lt hlt
  rw [find?, hfind, Option.map_some]

/-- **Erasing a key is setting its lookup to nothing.** -/
theorem find?_erase (m : OrderedMap κ α) (k : κ) :
    (m.erase k).find? = Function.update m.find? k none := by
  funext k'
  simp only [find?, erase, List.find?_filter]
  by_cases hk : k' = k
  · subst hk
    rw [Function.update_self, Option.map_eq_none_iff, List.find?_eq_none]
    intro e _
    simp
  · rw [Function.update_of_ne hk]
    congr 2
    funext e
    -- an entry with the other key is not the erased one
    by_cases he : e.1 = k'
    · simp [he, hk]
    · simp [he]

/-- In a part of the entries that is chosen by their keys, a key is found if it is chosen. -/
theorem find?_filter_key (entries : List (κ × α)) (p : κ → Bool) (k : κ) :
    (entries.filter fun e => p e.1).find? (fun e => e.1 = k) =
      if p k = true then entries.find? (fun e => e.1 = k) else none := by
  rw [List.find?_filter]
  split
  · next hp =>
    congr 1
    funext e
    by_cases he : e.1 = k
    · simp [he, hp]
    · simp [he]
  · next hp =>
    rw [List.find?_eq_none]
    intro e _ he
    simp only [decide_eq_true_eq] at he
    exact hp (he.2 ▸ he.1)

/-- **Inserting a key is setting its lookup.** -/
theorem find?_insert (m : OrderedMap κ α) (k : κ) (v : α) :
    (m.insert k v).find? = Function.update m.find? k (some v) := by
  funext k'
  have hfront := find?_filter_key m.entries (fun e => decide (e < k)) k'
  have hbehind := find?_filter_key m.entries (fun e => decide (k < e)) k'
  rw [find?, insert]
  dsimp only
  rw [List.find?_append, hfront, List.find?_cons, hbehind]
  rcases lt_trichotomy k' k with hlt | rfl | hlt
  · simp [find?, hlt, hlt.ne, hlt.ne', hlt.not_gt]
  · simp
  · simp [find?, hlt, hlt.ne, hlt.ne', hlt.not_gt]

/-! ### Iterators -/

/-- `begin`: the key of the first element, if there is one. -/
def first (m : OrderedMap κ α) : Option κ := m.keys.head?

/-- The element behind the one with this key, if there is one. -/
def next (m : OrderedMap κ α) (k : κ) : Option κ := m.keys.find? fun k' => k < k'

/-- A map that is not empty has a first element. -/
theorem exists_first {m : OrderedMap κ α} (h : m ≠ empty) :
    ∃ e ∈ m.entries, m.first = some e.1 := by
  cases hentries : m.entries with
  | nil => exact absurd (entries_eq_nil.1 hentries) h
  | cons e behind => exact ⟨e, List.mem_cons_self, by simp [first, keys, hentries]⟩

/-- The element behind one is the next in the list of keys. -/
theorem next_eq_head? {m : OrderedMap κ α} {before behind : List κ} {k : κ}
    (h : m.keys = before ++ k :: behind) : m.next k = behind.head? := by
  have hsorted := m.keys_pairwise
  rw [h, List.pairwise_append] at hsorted
  obtain ⟨-, hk, hbefore⟩ := hsorted
  -- no key up to this one is greater
  have hskip : (before ++ [k]).find? (fun k' => k < k') = none := by
    rw [List.find?_eq_none]
    intro k' hmem
    rcases List.mem_append.1 hmem with hmem | hmem
    · simpa using le_of_lt (hbefore k' hmem k List.mem_cons_self)
    · simpa using le_of_eq (List.mem_singleton.1 hmem)
  have hsplit : m.keys = (before ++ [k]) ++ behind := by simp [h]
  rw [next, hsplit, List.find?_append, hskip, Option.none_or]
  cases behind with
  | nil => rfl
  | cons k' ks =>
      have hlt : k < k' := (List.pairwise_cons.1 hk).1 k' List.mem_cons_self
      simp [hlt]

end OrderedMap

/-- A change of a map. -/
inductive MapChange (κ α : Type)
  | insert (k : κ) (v : α)
  | erase (k : κ)

/-- The map behind a change. -/
def OrderedMap.change {κ α : Type} [LinearOrder κ] (m : OrderedMap κ α) :
    MapChange κ α → OrderedMap κ α
  | .insert k v => m.insert k v
  | .erase k => m.erase k

/-! ### Walking a map -/

/-- Where a walk is: at its end, at an element, or beyond meaning because the element that it was to
read or to advance from has been erased. -/
inductive Walk (σ κ : Type)
  | finished (s : σ)
  | at (k : κ) (s : σ)
  | undefined (s : σ)
  deriving DecidableEq

section Walk

variable {σ κ α : Type} [LinearOrder κ]

/-- The walk at an iterator. -/
def Walk.atIterator (s : σ) : Option κ → Walk σ κ
  | none => .finished s
  | some k => .at k s

/-- One turn of `for (auto& [key, value] : map) body(key, value)`: the element is read, the body
runs, and the iterator advances. -/
def turn (map : σ → OrderedMap κ α) (body : σ → κ → α → σ) (k : κ) (s : σ) : Walk σ κ :=
  match (map s).find? k with
  | none => .undefined s
  | some v =>
      let s' := body s k v
      if ((map s').find? k).isSome then .atIterator s' ((map s').next k) else .undefined s'

/-- Any number of turns. -/
def walkFrom (map : σ → OrderedMap κ α) (body : σ → κ → α → σ) : ℕ → Walk σ κ → Walk σ κ
  | turns + 1, .at k s => walkFrom map body turns (turn map body k s)
  | _, w => w

/-- The first turns of `for (auto& [key, value] : map) body(key, value)`. -/
def rangeFor (map : σ → OrderedMap κ α) (body : σ → κ → α → σ) (turns : ℕ) (s : σ) : Walk σ κ :=
  walkFrom map body turns (.atIterator s (map s).first)

variable {map : σ → OrderedMap κ α} {body : σ → κ → α → σ}

@[simp] theorem walkFrom_zero (w : Walk σ κ) : walkFrom map body 0 w = w := by
  cases w <;> rfl

@[simp] theorem walkFrom_finished (turns : ℕ) (s : σ) :
    walkFrom map body turns (.finished s) = .finished s := by
  cases turns <;> rfl

@[simp] theorem walkFrom_undefined (turns : ℕ) (s : σ) :
    walkFrom map body turns (.undefined s) = .undefined s := by
  cases turns <;> rfl

@[simp] theorem walkFrom_at (turns : ℕ) (k : κ) (s : σ) :
    walkFrom map body (turns + 1) (.at k s) = walkFrom map body turns (turn map body k s) := rfl

/-- A turn whose body leaves the map alone goes on to the next element. -/
theorem turn_of_unchanged {before behind : List (κ × α)} {e : κ × α} {s : σ}
    (hentries : (map s).entries = before ++ e :: behind)
    (hbody : map (body s e.1 e.2) = map s) :
    turn map body e.1 s = .atIterator (body s e.1 e.2) (behind.head?.map Prod.fst) := by
  have hfind : (map s).find? e.1 = some e.2 :=
    OrderedMap.find?_of_mem (by simp [hentries])
  have hkeys : (map s).keys = before.map Prod.fst ++ e.1 :: behind.map Prod.fst := by
    simp [OrderedMap.keys, hentries]
  rw [turn, hfind]
  dsimp only
  rw [hbody, hfind, Option.isSome_some, if_pos rfl, OrderedMap.next_eq_head? hkeys,
    List.head?_map]

theorem walkFrom_of_unchanged (hbody : ∀ s k v, map (body s k v) = map s) :
    ∀ (behind before : List (κ × α)) (s : σ), (map s).entries = before ++ behind →
      walkFrom map body behind.length (.atIterator s (behind.head?.map Prod.fst)) =
        .finished (behind.foldl (fun s e => body s e.1 e.2) s) := by
  intro behind
  induction behind with
  | nil => intro before s _; rfl
  | cons e behind ih =>
      intro before s hentries
      have hturn := turn_of_unchanged hentries (hbody s e.1 e.2)
      have hrest : (map (body s e.1 e.2)).entries = (before ++ [e]) ++ behind := by
        rw [hbody, hentries, List.append_assoc, List.singleton_append]
      simp only [List.length_cons, List.head?_cons, Option.map_some, Walk.atIterator,
        walkFrom_at, List.foldl_cons]
      rw [hturn]
      exact ih (before ++ [e]) (body s e.1 e.2) hrest

/-- **A body that leaves the map alone runs once for every element, in order.** -/
theorem rangeFor_of_unchanged (hbody : ∀ s k v, map (body s k v) = map s) (s : σ) :
    rangeFor map body (map s).entries.length s =
      .finished ((map s).entries.foldl (fun s e => body s e.1 e.2) s) := by
  rw [rangeFor, OrderedMap.first, OrderedMap.keys, List.head?_map]
  exact walkFrom_of_unchanged hbody (map s).entries [] s rfl

/-- **A body that erases the element at hand runs once, and the walk breaks.** -/
theorem walkFrom_of_erased {k : κ} {v : α} {s : σ} (hfind : (map s).find? k = some v)
    (herased : (map (body s k v)).find? k = none) (turns : ℕ) :
    walkFrom map body (turns + 1) (.at k s) = .undefined (body s k v) := by
  rw [walkFrom_at, turn, hfind]
  dsimp only
  rw [herased, Option.isSome_none, if_neg Bool.false_ne_true, walkFrom_undefined]

/-- A walk over an empty map is at its end. -/
theorem rangeFor_of_empty {s : σ} (h : map s = .empty) (turns : ℕ) :
    rangeFor map body turns s = .finished s := by
  simp [rangeFor, OrderedMap.first, h, Walk.atIterator]

end Walk

end MpsEmulator
