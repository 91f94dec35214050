/-
**Memory as a set of live allocations.**

An address stands for one allocation, and the memory maps the addresses of the live ones to their
bytes; two allocations never overlap, and an address may be handed out again once its allocation is
gone.  A pointer is an address or null.

* `BlockMemory` — the live allocations, and whether something was done that C++ leaves undefined;
* `BlockMemory.new`, `BlockMemory.delete` — `new uint8_t[n]` and `delete[]`;
* `BlockMemory.load`, `BlockMemory.store` — access to the first bytes of an allocation, which is a
  fault when there are fewer;
* `BlockMemory.memset`, `BlockMemory.memcpy` — the two library functions.

An access that stays inside a live allocation is described by `store_eq_new`: the allocation has
other bytes, as if it was made with them, and `block_new_of_ne`, `block_delete_of_ne` say that the
other allocations are not touched.
-/

import Mathlib

set_option relaxedAutoImplicit false
set_option autoImplicit false

/-- The live allocations with their bytes, and whether there was a fault. -/
structure BlockMemory where
  block : ℕ → Option (List UInt8)
  fault : Bool

namespace BlockMemory

/-- The memory after something undefined. -/
def faulted (m : BlockMemory) : BlockMemory := { m with fault := true }

/-! ### Allocations -/

/-- What the allocator answers: an address, and what happens to be there. -/
structure Allocation where
  address : ℕ
  contents : List UInt8

/-- The allocator may answer a request for `n` bytes so. -/
def MayAllocate (m : BlockMemory) (n : ℕ) (fresh : Allocation) : Prop :=
  m.block fresh.address = none ∧ fresh.contents.length = n

instance (m : BlockMemory) (n : ℕ) (fresh : Allocation) : Decidable (m.MayAllocate n fresh) :=
  inferInstanceAs (Decidable (m.block fresh.address = none ∧ fresh.contents.length = n))

/-- `new uint8_t[n]`. -/
def new (m : BlockMemory) (fresh : Allocation) : BlockMemory :=
  { m with block := Function.update m.block fresh.address (some fresh.contents) }

/-- `delete[]`, which does nothing with a null pointer. -/
def delete (m : BlockMemory) : Option ℕ → BlockMemory
  | none => m
  | some a =>
      if (m.block a).isSome then { m with block := Function.update m.block a none }
      else m.faulted

section Allocations

variable {m : BlockMemory} {fresh : Allocation} {a b : ℕ} {bytes : List UInt8} {p : Option ℕ}

@[simp] theorem fault_new : (m.new fresh).fault = m.fault := rfl

@[simp] theorem block_new_self : (m.new fresh).block fresh.address = some fresh.contents :=
  Function.update_self ..

theorem block_new_of_ne (h : a ≠ fresh.address) : (m.new fresh).block a = m.block a :=
  Function.update_of_ne h ..

theorem delete_some (h : m.block a = some bytes) :
    m.delete (some a) = { m with block := Function.update m.block a none } := by
  rw [delete, h]
  rfl

theorem block_delete_of_ne (h : p ≠ some b) : (m.delete p).block b = m.block b := by
  cases p with
  | none => rfl
  | some a =>
      have hne : b ≠ a := fun hba => h (congrArg some hba.symm)
      cases hblock : m.block a with
      | none => simp [delete, hblock, faulted]
      | some bytes =>
          rw [delete_some hblock]
          exact Function.update_of_ne hne ..

/-- Giving back a null pointer or a live allocation is no fault. -/
theorem fault_delete (h : ∀ a ∈ p, ∃ bytes, m.block a = some bytes) :
    (m.delete p).fault = m.fault := by
  cases p with
  | none => rfl
  | some a =>
      obtain ⟨bytes, hblock⟩ := h a rfl
      rw [delete_some hblock]

end Allocations

/-! ### Access to the bytes -/

/-- The first `n` bytes at a pointer, if there are so many. -/
def load (m : BlockMemory) (p : Option ℕ) (n : ℕ) : Option (List UInt8) :=
  if n = 0 then some []
  else (p.bind m.block).bind fun bytes => if n ≤ bytes.length then some (bytes.take n) else none

/-- Writing bytes to where a pointer points. -/
def store (m : BlockMemory) (p : Option ℕ) (bytes : List UInt8) : BlockMemory :=
  if bytes = [] then m
  else
    match p with
    | none => m.faulted
    | some a =>
        match m.block a with
        | none => m.faulted
        | some old =>
            if bytes.length ≤ old.length then
              m.new { address := a, contents := bytes ++ old.drop bytes.length }
            else m.faulted

/-- `memset`. -/
def memset (m : BlockMemory) (p : Option ℕ) (value : UInt8) (n : ℕ) : BlockMemory :=
  m.store p (List.replicate n value)

/-- `memcpy`. -/
def memcpy (m : BlockMemory) (dest src : Option ℕ) (n : ℕ) : BlockMemory :=
  match m.load src n with
  | some bytes => m.store dest bytes
  | none => m.faulted

section Access

variable {m : BlockMemory} {a n : ℕ} {bytes old : List UInt8} {p dest src : Option ℕ}

@[simp] theorem load_zero : m.load p 0 = some [] := rfl

@[simp] theorem store_nil : m.store p [] = m := rfl

/-- All bytes of an allocation can be read. -/
theorem load_eq (h : m.block a = some bytes) : m.load (some a) bytes.length = some bytes := by
  rw [load]
  split
  · next hlen => rw [List.length_eq_zero_iff.1 hlen]
  · rw [Option.bind_some, h, Option.bind_some, if_pos le_rfl, List.take_length]

/-- Writing as many bytes as an allocation has takes the place of what it had. -/
theorem store_eq_new (h : m.block a = some old) (hlen : bytes.length = old.length) :
    m.store (some a) bytes = m.new { address := a, contents := bytes } := by
  rw [store]
  split
  · next hnil =>
    -- no bytes are written to an allocation without bytes
    subst hnil
    have hold : old = [] := List.length_eq_zero_iff.1 hlen.symm
    subst hold
    have hsame : Function.update m.block a (some []) = m.block := by
      rw [← h, Function.update_eq_self]
    rw [new, hsame]
  · simp only [h, hlen, le_refl, if_true, List.drop_length, List.append_nil]

theorem memcpy_of_load (h : m.load src n = some bytes) :
    m.memcpy dest src n = m.store dest bytes := by
  rw [memcpy, h]

end Access

end BlockMemory
