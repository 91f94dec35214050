/-
**Owning allocations.**

What somebody owns of a memory is a multiset of cells, each an address with the bytes of its
allocation.  Cells that are added up and found in a memory are different allocations, so that who
owns a cell may write to it or give it back without touching what anybody else owns.

* `Cells`, `Owns` — the cells are exactly the live allocations, each of them once, and there was no
  fault;
* `Owns.new`, `Owns.delete` — allocating adds a cell, and giving back takes one away;
* `Owns.load`, `Owns.store` — access to a cell, beside any others;
* `Owns.isSome_block_iff` — what is owned is what is live;
* `Owns.part`, `Owns.load_whole` — what is owned can be looked at by itself.
-/

import MpsEmulator.BlockMemory

set_option relaxedAutoImplicit false
set_option autoImplicit false

namespace BlockMemory

/-- Allocations with their bytes. -/
abbrev Cells := Multiset (ℕ × List UInt8)

/-- The cells are the live allocations, each once, and nothing undefined was done. -/
structure Owns (v : Cells) (m : BlockMemory) : Prop where
  inBounds : m.fault = false
  nodup : (v.map Prod.fst).Nodup
  live : ∀ a bytes, m.block a = some bytes ↔ (a, bytes) ∈ v

/-- Nothing is owned of a memory in which nothing is allocated. -/
theorem owns_zero {m : BlockMemory} (hempty : ∀ a, m.block a = none) (hm : m.fault = false) :
    Owns 0 m := ⟨hm, by simp, by simp [hempty]⟩

variable {v : Cells} {m : BlockMemory} {a n : ℕ} {bytes old : List UInt8} {fresh : Allocation}

/-- An address in a cell is in no other one. -/
theorem Owns.not_mem (h : Owns ((a, old) ::ₘ v) m) : (a, bytes) ∉ v := by
  intro hmem
  have hnodup := h.nodup
  rw [Multiset.map_cons, Multiset.nodup_cons] at hnodup
  exact hnodup.1 (Multiset.mem_map.2 ⟨(a, bytes), hmem, rfl⟩)

theorem Owns.block (h : Owns ((a, bytes) ::ₘ v) m) : m.block a = some bytes :=
  (h.live a bytes).2 (Multiset.mem_cons_self ..)

/-- What is owned is what is live. -/
theorem Owns.isSome_block_iff (h : Owns v m) (a : ℕ) :
    (m.block a).isSome ↔ ∃ bytes, (a, bytes) ∈ v := by
  rw [Option.isSome_iff_exists]
  exact exists_congr (h.live a)

/-! ### Allocating and giving back -/

theorem Owns.new (h : Owns v m) (hfresh : m.MayAllocate n fresh) :
    Owns ((fresh.address, fresh.contents) ::ₘ v) (m.new fresh) := by
  obtain ⟨hfree, -⟩ := hfresh
  refine ⟨h.inBounds, ?_, fun b bytes => ?_⟩
  · rw [Multiset.map_cons, Multiset.nodup_cons]
    refine ⟨fun hmem => ?_, h.nodup⟩
    obtain ⟨⟨b, bytes⟩, hcell, hb⟩ := Multiset.mem_map.1 hmem
    have hlive := (h.live b bytes).2 hcell
    rw [show b = fresh.address from hb, hfree] at hlive
    cases hlive
  · rw [Multiset.mem_cons, Prod.mk.injEq]
    by_cases hb : b = fresh.address
    · subst hb
      have hnone : ∀ bytes, (fresh.address, bytes) ∉ v := fun bytes hmem => by
        have hlive := (h.live _ bytes).2 hmem
        rw [hfree] at hlive
        cases hlive
      simp [hnone, eq_comm]
    · rw [block_new_of_ne hb, h.live]
      simp [hb]

theorem Owns.delete (h : Owns ((a, bytes) ::ₘ v) m) : Owns v (m.delete (some a)) := by
  rw [delete_some h.block]
  refine ⟨h.inBounds, ?_, fun b bytes' => ?_⟩
  · have hnodup := h.nodup
    rw [Multiset.map_cons, Multiset.nodup_cons] at hnodup
    exact hnodup.2
  · by_cases hb : b = a
    · subst hb
      simp [h.not_mem]
    · show Function.update m.block a none b = some bytes' ↔ _
      rw [Function.update_of_ne hb, h.live, Multiset.mem_cons, Prod.mk.injEq]
      simp [hb]

/-! ### Access -/

/-- A cell gets other bytes. -/
theorem Owns.replace (h : Owns ((a, old) ::ₘ v) m) :
    Owns ((a, bytes) ::ₘ v) (m.new { address := a, contents := bytes }) := by
  refine ⟨h.inBounds, ?_, fun b bytes' => ?_⟩
  · have hnodup := h.nodup
    rw [Multiset.map_cons] at hnodup ⊢
    exact hnodup
  · rw [Multiset.mem_cons, Prod.mk.injEq]
    by_cases hb : b = a
    · subst hb
      have hself : (m.new { address := b, contents := bytes }).block b = some bytes :=
        block_new_self
      rw [hself]
      simp [h.not_mem, eq_comm]
    · rw [block_new_of_ne hb, h.live, Multiset.mem_cons, Prod.mk.injEq]
      simp [hb]

/-- The first bytes of a cell. -/
theorem Owns.load (h : Owns ((a, bytes) ::ₘ v) m) (hn : n ≤ bytes.length) :
    m.load (some a) n = some (bytes.take n) := by
  rw [BlockMemory.load]
  split
  · next hzero => rw [hzero, List.take_zero]
  · rw [Option.bind_some, h.block, Option.bind_some, if_pos hn]

/-- Writing to the first bytes of a cell. -/
theorem Owns.store (h : Owns ((a, old) ::ₘ v) m) (hlen : bytes.length ≤ old.length) :
    Owns ((a, bytes ++ old.drop bytes.length) ::ₘ v) (m.store (some a) bytes) := by
  rw [BlockMemory.store]
  split
  · next hnil =>
    subst hnil
    exact h
  · simp only [h.block, if_pos hlen]
    exact h.replace

/-! ### Parts of a memory -/

/-- The part of a memory that is owned is a memory of its own. -/
theorem Owns.part {r : Cells} (h : Owns (v + r) m) : ∃ part, Owns v part := by
  refine ⟨{ block := fun a => if a ∈ v.map Prod.fst then m.block a else none, fault := false },
    rfl, ?_, fun a bytes => ?_⟩
  · have hnodup := h.nodup
    rw [Multiset.map_add] at hnodup
    exact Multiset.nodup_of_le (Multiset.le_add_right _ _) hnodup
  · dsimp only
    constructor
    · intro hblock
      obtain ⟨hmem, hblock⟩ := Option.ite_none_right_eq_some.1 hblock
      obtain ⟨⟨b, bytes'⟩, hcell, rfl⟩ := Multiset.mem_map.1 hmem
      have hlive := (h.live b bytes').2 (Multiset.mem_add.2 (.inl hcell))
      obtain rfl : bytes = bytes' := Option.some_inj.1 (hblock.symm.trans hlive)
      exact hcell
    · intro hcell
      rw [if_pos (Multiset.mem_map.2 ⟨(a, bytes), hcell, rfl⟩)]
      exact (h.live a bytes).2 (Multiset.mem_add.2 (.inl hcell))

/-- What can be read in a part is read in the whole as well. -/
theorem Owns.load_whole {r : Cells} {part : BlockMemory} {p : Option ℕ} (hpart : Owns v part)
    (h : Owns (v + r) m) (hload : part.load p n = some bytes) : m.load p n = some bytes := by
  rw [BlockMemory.load] at hload ⊢
  split at hload
  · next hn => rwa [if_pos hn]
  · next hn =>
    rw [if_neg hn]
    obtain ⟨b, hb, hbytes⟩ := Option.bind_eq_some_iff.1 hload
    obtain ⟨a, rfl, ha⟩ := Option.bind_eq_some_iff.1 hb
    have hcell := (hpart.live a b).1 ha
    rw [Option.bind_some, (h.live a b).2 (Multiset.mem_add.2 (.inl hcell)), Option.bind_some]
    exact hbytes

end BlockMemory
