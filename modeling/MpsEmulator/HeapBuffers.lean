/-
**`aero::Buffer`: a pointer and a size that must go together.**

A buffer does not own its bytes: nothing but the calls below keeps the pointer and the size in step,
and `Zero` and `Copy` rely on them when they access memory.  `Allocate` returns early for a size of
zero, behind the assignment of the pointer and before that of the size.

* `Buffer`, `Buffer.allocate`, …, `Buffer.copyData` — the code;
* `Op`, `step` — any number of buffers, and one call after the other on them, with every answer the
  allocator may give;
* `Represents`, `Represented` — the pointer is null exactly if the size is zero, otherwise it points
  to an allocation of that size, and no access has gone beyond an allocation;
* `KeepsSize` — the step is no `Allocate(0)` on a buffer that holds data;
* `represented_iff` — **all buffers of a run are represented throughout exactly if all its steps are
  such**;
* `contents`, `Op.spec`, `buffers_hold_strings` — what buffers are for: each stands for a string of
  bytes;
* `allocate_zero_keeps_size` — a run that ends with a copy from a null pointer.

`new` is taken never to throw.  Nothing in the program catches `std::bad_alloc`, so where it does,
no later call is made on any buffer.
-/

import MpsEmulator.BlockMemory
import MpsEmulator.Runs

set_option relaxedAutoImplicit false
set_option autoImplicit false

namespace Aero

/-! ### The code -/

/-- `aero::Buffer`. -/
structure Buffer where
  data : Option ℕ
  size : UInt64
  deriving DecidableEq

/-- The default constructor. -/
def Buffer.init : Buffer := { data := none, size := 0 }

/-- `Buffer::Allocate`.  The early return is behind the assignment of the pointer only. -/
def Buffer.allocate (m : BlockMemory) (buff : Buffer) (size : UInt64)
    (fresh : BlockMemory.Allocation) : BlockMemory × Buffer :=
  let m := m.delete buff.data
  if size = 0 then (m, { buff with data := none })
  else (m.new fresh, { data := some fresh.address, size := size })

/-- `Buffer::Release`. -/
def Buffer.release (m : BlockMemory) (buff : Buffer) : BlockMemory × Buffer :=
  (m.delete buff.data, { data := none, size := 0 })

/-- `Buffer::Zero`. -/
def Buffer.zero (m : BlockMemory) (buff : Buffer) : BlockMemory :=
  if buff.data.isSome then m.memset buff.data 0 buff.size.toNat else m

/-- `Buffer::Copy` of another buffer. -/
def Buffer.copy (m : BlockMemory) (other : Buffer) (fresh : BlockMemory.Allocation) :
    BlockMemory × Buffer :=
  let (m, buff) := Buffer.init.allocate m other.size fresh
  (m.memcpy buff.data other.data other.size.toNat, buff)

/-- `Buffer::Copy` of the `size` bytes that the caller points at. -/
def Buffer.copyData (m : BlockMemory) (bytes : List UInt8) (size : UInt64)
    (fresh : BlockMemory.Allocation) : BlockMemory × Buffer :=
  let (m, buff) := Buffer.init.allocate m size fresh
  (m.store buff.data bytes, buff)

/-! ### Sequences of calls -/

/-- A call on one of the buffers `ι`; the result of a copy is assigned to one.  Where a call
allocates, it comes with the answer of the allocator. -/
inductive Op (ι : Type*)
  | allocate (i : ι) (size : UInt64) (fresh : BlockMemory.Allocation)
  | release (i : ι)
  | zero (i : ι)
  | copy (i j : ι) (fresh : BlockMemory.Allocation)
  | copyData (i : ι) (bytes : List UInt8) (fresh : BlockMemory.Allocation)

/-- The memory and the buffers. -/
structure World (ι : Type*) where
  memory : BlockMemory
  buffers : ι → Buffer

variable {ι : Type*}

/-- Default-constructed buffers in a memory that may hold other things. -/
def World.start (m : BlockMemory) : World ι := { memory := m, buffers := fun _ => .init }

/-- The buffer gets a value, and the memory changes with it. -/
def World.set [DecidableEq ι] (w : World ι) (i : ι) (r : BlockMemory × Buffer) : World ι :=
  { memory := r.1, buffers := Function.update w.buffers i r.2 }

/-- A request for `size` bytes is made only for a size that is not zero. -/
def Answers (m : BlockMemory) (size : UInt64) (fresh : BlockMemory.Allocation) : Prop :=
  size ≠ 0 → m.MayAllocate size.toNat fresh

instance (m : BlockMemory) (size : UInt64) (fresh : BlockMemory.Allocation) :
    Decidable (Answers m size fresh) :=
  inferInstanceAs (Decidable (size ≠ 0 → m.MayAllocate size.toNat fresh))

/-- One call. -/
def step [DecidableEq ι] (w : World ι) : Op ι → Option (World ι)
  | .allocate i size fresh =>
      if Answers (w.memory.delete (w.buffers i).data) size fresh then
        some (w.set i ((w.buffers i).allocate w.memory size fresh))
      else none
  | .release i => some (w.set i ((w.buffers i).release w.memory))
  | .zero i => some { w with memory := (w.buffers i).zero w.memory }
  | .copy i j fresh =>
      if Answers w.memory (w.buffers j).size fresh then
        some (w.set i ((w.buffers j).copy w.memory fresh))
      else none
  | .copyData i bytes fresh =>
      if bytes.length < 2 ^ 64 ∧ Answers w.memory (.ofNat bytes.length) fresh then
        some (w.set i (Buffer.copyData w.memory bytes (.ofNat bytes.length) fresh))
      else none

/-! ### The invariant -/

/-- The pointer is null exactly if the size is zero, and otherwise points to an allocation of
exactly that size. -/
structure Represents (m : BlockMemory) (buff : Buffer) : Prop where
  null : buff.data = none ↔ buff.size = 0
  sized : ∀ a ∈ buff.data, ∃ bytes, m.block a = some bytes ∧ bytes.length = buff.size.toNat

/-- Every buffer is represented, and no call has accessed more than is allocated. -/
structure Represented (w : World ι) : Prop where
  buffers : ∀ i, Represents w.memory (w.buffers i)
  inBounds : w.memory.fault = false

/-- Besides, no two buffers point to one allocation. -/
structure Separate (w : World ι) : Prop extends Represented w where
  owner : ∀ i j a, (w.buffers i).data = some a → (w.buffers j).data = some a → i = j

/-- The call is not an `Allocate(0)` on a buffer that holds data. -/
def KeepsSize (w : World ι) : Op ι → Prop
  | .allocate i size _ => size = 0 → (w.buffers i).data = none
  | _ => True

instance (w : World ι) : ∀ op, Decidable (KeepsSize w op)
  | .allocate i size _ => inferInstanceAs (Decidable (size = 0 → (w.buffers i).data = none))
  | .release _ | .zero _ | .copy .. | .copyData .. => inferInstanceAs (Decidable True)

/-- A pointer that is not null has an allocation. -/
theorem Represents.live {m : BlockMemory} {buff : Buffer} (h : Represents m buff) :
    ∀ a ∈ buff.data, ∃ bytes, m.block a = some bytes := by
  intro a ha
  obtain ⟨bytes, hblock, -⟩ := h.sized a ha
  exact ⟨bytes, hblock⟩

theorem represents_init (m : BlockMemory) : Represents m .init :=
  ⟨by simp [Buffer.init], by simp [Buffer.init]⟩

/-- What is represented stays so while its allocation does. -/
theorem Represents.of_block {m m' : BlockMemory} {buff : Buffer} (h : Represents m buff)
    (hblock : ∀ a ∈ buff.data, m'.block a = m.block a) : Represents m' buff := by
  refine ⟨h.null, fun a ha => ?_⟩
  rw [hblock a ha]
  exact h.sized a ha

/-! ### What buffers are for -/

/-- The bytes a buffer stands for. -/
def contents (m : BlockMemory) (buff : Buffer) : List UInt8 := (buff.data.bind m.block).getD []

/-- The bytes every buffer stands for. -/
def World.contents (w : World ι) (i : ι) : List UInt8 := Aero.contents w.memory (w.buffers i)

/-- What a call does to strings of bytes, with no pointer in sight. -/
def Op.spec [DecidableEq ι] (c : ι → List UInt8) : Op ι → ι → List UInt8
  | .allocate i size fresh => Function.update c i (if size = 0 then [] else fresh.contents)
  | .release i => Function.update c i []
  | .zero i => Function.update c i (List.replicate (c i).length 0)
  | .copy i j _ => Function.update c i (c j)
  | .copyData i bytes _ => Function.update c i bytes

section Buffers

variable {m m' : BlockMemory} {buff : Buffer} {size : UInt64} {fresh : BlockMemory.Allocation}
  {bytes : List UInt8} {a : ℕ}

/-- A buffer that is represented has as many bytes as its size says. -/
theorem Represents.length_contents (h : Represents m buff) :
    (contents m buff).length = buff.size.toNat := by
  cases hdata : buff.data with
  | none =>
      rw [contents, hdata, h.null.1 hdata]
      rfl
  | some a =>
      obtain ⟨bytes, hblock, hlen⟩ := h.sized a hdata
      rw [contents, hdata, Option.bind_some, hblock]
      exact hlen

/-- The allocation of a buffer that is represented has the bytes the buffer stands for. -/
theorem Represents.block (h : Represents m buff) (ha : buff.data = some a) :
    m.block a = some (contents m buff) := by
  obtain ⟨bytes, hblock, -⟩ := h.sized a ha
  rw [contents, ha, Option.bind_some, hblock]
  rfl

theorem contents_of_block (hblock : ∀ a ∈ buff.data, m'.block a = m.block a) :
    contents m' buff = contents m buff := by
  cases hdata : buff.data with
  | none => rw [contents, contents, hdata]; rfl
  | some a => rw [contents, contents, hdata, Option.bind_some, Option.bind_some, hblock a hdata]

/-- What a call leaves that makes a buffer of some bytes: nothing is allocated for none. -/
def made (m : BlockMemory) (size : UInt64) (a : ℕ) (bytes : List UInt8) : BlockMemory × Buffer :=
  if size = 0 then (m, .init)
  else (m.new { address := a, contents := bytes }, { data := some a, size := size })

theorem represents_made (hlen : bytes.length = size.toNat) :
    Represents (made m size a bytes).1 (made m size a bytes).2 := by
  rw [made]
  split
  · exact represents_init m
  · next hsize =>
    refine ⟨by simpa using hsize, fun b hb => ⟨bytes, ?_, hlen⟩⟩
    rw [← Option.some_inj.1 hb]
    exact BlockMemory.block_new_self

theorem contents_made (hlen : bytes.length = size.toNat) :
    contents (made m size a bytes).1 (made m size a bytes).2 = bytes := by
  rw [made]
  split
  · next hsize =>
    rw [hsize] at hlen
    exact (List.length_eq_zero_iff.1 hlen).symm
  · rw [contents, Option.bind_some, BlockMemory.block_new_self]
    rfl

/-! ### The calls -/

/-- `Allocate` makes a buffer of whatever the allocation holds, unless it leaves a size behind. -/
theorem allocate_eq (h : Represents m buff) (hkeeps : size = 0 → buff.data = none) :
    buff.allocate m size fresh = made (m.delete buff.data) size fresh.address fresh.contents := by
  rw [Buffer.allocate, made]
  by_cases hsize : size = 0
  · have hdata := hkeeps hsize
    have hbuff : buff = .init := by
      cases buff
      exact congrArg₂ Buffer.mk hdata (h.null.1 hdata)
    rw [if_pos hsize, if_pos hsize, hbuff]
    rfl
  · rw [if_neg hsize, if_neg hsize]

/-- Filling a buffer that was just allocated. -/
theorem new_store (hlen : bytes.length = fresh.contents.length) :
    (m.new fresh).store (some fresh.address) bytes =
      m.new { address := fresh.address, contents := bytes } := by
  rw [BlockMemory.store_eq_new BlockMemory.block_new_self hlen]
  simp only [BlockMemory.new, Function.update_idem]

/-- `Copy` makes a buffer of the bytes of the other one, and reads no more than it has. -/
theorem copy_eq (h : Represents m buff) (hfresh : Answers m buff.size fresh) :
    buff.copy m fresh = made m buff.size fresh.address (contents m buff) := by
  rw [Buffer.copy, Buffer.allocate, made]
  by_cases hsize : buff.size = 0
  · rw [if_pos hsize, if_pos hsize, hsize]
    rfl
  · obtain ⟨hfree, hlen⟩ := hfresh hsize
    obtain ⟨a, ha⟩ := Option.ne_none_iff_exists'.1 (mt h.null.1 hsize)
    have hblock := h.block ha
    have hne : a ≠ fresh.address := by
      rintro rfl
      rw [hfree] at hblock
      cases hblock
    have hload : (m.new fresh).load buff.data buff.size.toNat = some (contents m buff) := by
      rw [ha, ← h.length_contents]
      exact BlockMemory.load_eq ((BlockMemory.block_new_of_ne hne).trans hblock)
    rw [if_neg hsize, if_neg hsize]
    simp only [Buffer.init, BlockMemory.delete]
    rw [BlockMemory.memcpy_of_load hload, new_store (h.length_contents.trans hlen.symm)]

/-- `Copy` of bytes makes a buffer of them. -/
theorem copyData_eq (hsize : bytes.length = size.toNat) (hfresh : Answers m size fresh) :
    Buffer.copyData m bytes size fresh = made m size fresh.address bytes := by
  rw [Buffer.copyData, Buffer.allocate, made]
  by_cases hzero : size = 0
  · rw [if_pos hzero, if_pos hzero]
    rw [hzero] at hsize
    rw [List.length_eq_zero_iff.1 hsize]
    rfl
  · obtain ⟨-, hlen⟩ := hfresh hzero
    rw [if_neg hzero, if_neg hzero]
    simp only [Buffer.init, BlockMemory.delete]
    rw [new_store (hsize.trans hlen.symm)]

/-- `Zero` writes exactly the bytes of the buffer. -/
theorem zero_eq (h : Represents m buff) (ha : buff.data = some a) :
    buff.zero m =
      m.new { address := a, contents := List.replicate (contents m buff).length 0 } := by
  have hsome : (some a).isSome = true := rfl
  rw [Buffer.zero, ha, if_pos hsome, BlockMemory.memset, ← h.length_contents]
  exact BlockMemory.store_eq_new (h.block ha) (List.length_replicate ..)

/-- `Zero` touches nothing else, is no fault, and leaves the buffer with zeros. -/
theorem zero_spec (h : Represents m buff) :
    (∀ b, buff.data ≠ some b → (buff.zero m).block b = m.block b) ∧
      (buff.zero m).fault = m.fault ∧ Represents (buff.zero m) buff ∧
      contents (buff.zero m) buff = List.replicate (contents m buff).length 0 := by
  cases hdata : buff.data with
  | none =>
      have hzero : buff.zero m = m := by
        rw [Buffer.zero, hdata]
        rfl
      have hempty : contents m buff = [] := by
        rw [contents, hdata]
        rfl
      rw [hzero, hempty]
      exact ⟨fun _ _ => rfl, rfl, h, rfl⟩
  | some a =>
      rw [zero_eq h hdata]
      refine ⟨fun b hb => ?_, rfl, ⟨h.null, fun b hb => ?_⟩, ?_⟩
      · exact BlockMemory.block_new_of_ne fun hba => hb (congrArg some hba.symm)
      · obtain rfl : a = b := Option.some_inj.1 (hdata.symm.trans hb)
        refine ⟨_, BlockMemory.block_new_self, ?_⟩
        rw [List.length_replicate, h.length_contents]
      · rw [contents, hdata, Option.bind_some, BlockMemory.block_new_self]
        rfl

end Buffers

/-! ### The invariant is kept -/

/-- The memory has the allocations of all buffers but one as they were. -/
def KeepsOthers (w : World ι) (i : ι) (m : BlockMemory) : Prop :=
  ∀ k ≠ i, ∀ a ∈ (w.buffers k).data, m.block a = w.memory.block a

theorem keepsOthers_self (w : World ι) (i : ι) : KeepsOthers w i w.memory := fun _ _ _ _ => rfl

/-- Giving back the allocation of one buffer takes nothing from the others. -/
theorem Separate.delete {w : World ι} (h : Separate w) (i : ι) :
    KeepsOthers w i (w.memory.delete (w.buffers i).data) ∧
      (w.memory.delete (w.buffers i).data).fault = false := by
  refine ⟨fun k hk a ha => ?_, ?_⟩
  · refine BlockMemory.block_delete_of_ne fun hi => ?_
    exact hk (h.owner k i a ha hi)
  · rw [BlockMemory.fault_delete (h.buffers i).live]
    exact h.inBounds

/-- In default-constructed buffers nothing is allocated, and all of them are empty. -/
theorem separate_start {m : BlockMemory} (hm : m.fault = false) :
    Separate (World.start m : World ι) :=
  ⟨⟨fun _ => represents_init m, hm⟩, fun _ _ _ hi => nomatch hi⟩

variable [DecidableEq ι] {w w' : World ι} {op : Op ι} {m : BlockMemory} {i : ι} {size : UInt64}
  {fresh : BlockMemory.Allocation} {bytes : List UInt8} {a : ℕ}

@[simp] theorem World.buffers_set_self (r : BlockMemory × Buffer) :
    (w.set i r).buffers i = r.2 := Function.update_self ..

theorem World.buffers_set_of_ne {k : ι} (r : BlockMemory × Buffer) (hk : k ≠ i) :
    (w.set i r).buffers k = w.buffers k := Function.update_of_ne hk ..

/-- A call that gives one buffer a represented value and keeps the allocations of the others keeps
the invariant, and changes the bytes of that buffer only. -/
theorem Separate.set (h : Separate w) {r : BlockMemory × Buffer} (hkeep : KeepsOthers w i r.1)
    (hfault : r.1.fault = false) (hnew : Represents r.1 r.2)
    (hown : ∀ k ≠ i, ∀ a ∈ (w.buffers k).data, r.2.data ≠ some a) :
    Separate (w.set i r) ∧
      (w.set i r).contents = Function.update w.contents i (Aero.contents r.1 r.2) := by
  refine ⟨⟨⟨fun k => ?_, hfault⟩, fun k l a hk hl => ?_⟩, ?_⟩
  · by_cases hki : k = i
    · rw [hki, World.buffers_set_self]
      exact hnew
    · rw [World.buffers_set_of_ne r hki]
      exact (h.buffers k).of_block (hkeep k hki)
  · by_cases hki : k = i <;> by_cases hli : l = i
    · rw [hki, hli]
    · rw [hki, World.buffers_set_self] at hk
      rw [World.buffers_set_of_ne r hli] at hl
      exact absurd hk (hown l hli a hl)
    · rw [World.buffers_set_of_ne r hki] at hk
      rw [hli, World.buffers_set_self] at hl
      exact absurd hl (hown k hki a hk)
    · rw [World.buffers_set_of_ne r hki] at hk
      rw [World.buffers_set_of_ne r hli] at hl
      exact h.owner k l a hk hl
  · funext k
    by_cases hki : k = i
    · rw [hki, Function.update_self, World.contents, World.buffers_set_self]
      rfl
    · rw [Function.update_of_ne hki, World.contents, World.buffers_set_of_ne r hki]
      exact contents_of_block (hkeep k hki)

/-- A buffer that is made anew gets an allocation of its own. -/
theorem Separate.setMade (h : Separate w) (hkeep : KeepsOthers w i m) (hfault : m.fault = false)
    (hfresh : Answers m size fresh) (hlen : bytes.length = size.toNat) :
    Separate (w.set i (made m size fresh.address bytes)) ∧
      (w.set i (Aero.made m size fresh.address bytes)).contents =
        Function.update w.contents i bytes := by
  -- an address the allocator hands out is nobody's
  have hfree : size ≠ 0 → ∀ k ≠ i, ∀ a ∈ (w.buffers k).data, a ≠ fresh.address := by
    rintro hsize k hk a ha rfl
    obtain ⟨bytes, hblock⟩ := (h.buffers k).live _ ha
    rw [← hkeep k hk _ ha, (hfresh hsize).1] at hblock
    cases hblock
  have hset := h.set (r := Aero.made m size fresh.address bytes) (i := i) ?_ ?_
    (represents_made hlen) ?_
  · rwa [contents_made hlen] at hset
  · intro k hk a ha
    rw [Aero.made]
    split
    · exact hkeep k hk a ha
    · next hsize =>
      have hne : a ≠ fresh.address := hfree hsize k hk a ha
      have hnew : (m.new ⟨fresh.address, bytes⟩).block a = m.block a :=
        BlockMemory.block_new_of_ne hne
      exact hnew.trans (hkeep k hk a ha)
  · rw [Aero.made]
    split <;> exact hfault
  · intro k hk a ha
    rw [Aero.made]
    split
    · simp [Buffer.init]
    · next hsize => exact fun heq => hfree hsize k hk a ha (Option.some_inj.1 heq).symm

/-- A step that leaves no size behind keeps the invariant, and does to the bytes what the call is
for. -/
theorem Separate.step (h : Separate w) (hkeeps : KeepsSize w op) (hstep : step w op = some w') :
    Separate w' ∧ w'.contents = op.spec w.contents := by
  cases op with
  | allocate i size fresh =>
      obtain ⟨hfresh, hstep⟩ := Option.ite_none_right_eq_some.1 hstep
      obtain ⟨hkeep, hfault⟩ := h.delete i
      rw [← Option.some_inj.1 hstep, allocate_eq (h.buffers i) hkeeps]
      rw [Op.spec]
      by_cases hsize : size = 0
      · rw [if_pos hsize]
        have hnil : ([] : List UInt8).length = size.toNat := by
          rw [hsize]
          rfl
        have hmade := h.setMade hkeep hfault hfresh hnil
        rwa [made, if_pos hsize] at hmade ⊢
      · rw [if_neg hsize]
        exact h.setMade hkeep hfault hfresh (hfresh hsize).2
  | release i =>
      obtain ⟨hkeep, hfault⟩ := h.delete i
      rw [← Option.some_inj.1 hstep]
      exact h.set hkeep hfault (represents_init _) (by simp [Buffer.release])
  | zero i =>
      rw [← Option.some_inj.1 hstep, Op.spec]
      have hbuffers : ({ w with memory := (w.buffers i).zero w.memory } : World ι) =
          w.set i ((w.buffers i).zero w.memory, w.buffers i) := by
        rw [World.set, Function.update_eq_self]
      rw [hbuffers]
      obtain ⟨hothers, hfault, hrep, hzeros⟩ := zero_spec (h.buffers i)
      have howner : ∀ k ≠ i, ∀ a ∈ (w.buffers k).data, (w.buffers i).data ≠ some a :=
        fun k hk a ha hi => hk (h.owner k i a ha hi)
      have hset := h.set (i := i) (r := ((w.buffers i).zero w.memory, w.buffers i))
        (fun k hk a ha => hothers a (howner k hk a ha)) (hfault.trans h.inBounds) hrep howner
      rwa [hzeros] at hset
  | copy i j fresh =>
      obtain ⟨hfresh, hstep⟩ := Option.ite_none_right_eq_some.1 hstep
      rw [← Option.some_inj.1 hstep, copy_eq (h.buffers j) hfresh]
      exact h.setMade (keepsOthers_self w i) h.inBounds hfresh (h.buffers j).length_contents
  | copyData i bytes fresh =>
      obtain ⟨⟨hlen, hfresh⟩, hstep⟩ := Option.ite_none_right_eq_some.1 hstep
      have hsize : bytes.length = (UInt64.ofNat bytes.length).toNat :=
        (UInt64.toNat_ofNat_of_lt' hlen).symm
      rw [← Option.some_inj.1 hstep, copyData_eq hsize hfresh]
      exact h.setMade (keepsOthers_self w i) h.inBounds hfresh hsize

/-! ### Runs -/

/-- An `Allocate(0)` on a buffer that holds data leaves the size behind. -/
theorem keepsSize_of_represented (h : Represented w) (hstep : step w op = some w')
    (h' : Represented w') : KeepsSize w op := by
  cases op with
  | allocate i size fresh =>
      obtain ⟨-, hstep⟩ := Option.ite_none_right_eq_some.1 hstep
      intro hsize
      have hbuff : w'.buffers i = { w.buffers i with data := none } := by
        rw [← Option.some_inj.1 hstep, World.buffers_set_self, Buffer.allocate, if_pos hsize]
      have hzero : (w'.buffers i).size = 0 := (h'.buffers i).null.1 (by rw [hbuff])
      rw [hbuff] at hzero
      exact (h.buffers i).null.2 hzero
  | release i => trivial
  | zero i => trivial
  | copy i j fresh => trivial
  | copyData i bytes fresh => trivial

/-- In a run from default-constructed buffers, and whatever the allocator answers, **every buffer is
represented in every state and no call goes beyond an allocation exactly if** no step is an
`Allocate(0)` on a buffer that holds data. -/
theorem represented_iff (hm : m.fault = false) (ops : List (Op ι)) :
    Runs.Throughout step Represented (World.start m) ops ↔
      Runs.Along step KeepsSize (World.start m) ops :=
  Runs.throughout_iff_along_of_inv (fun _ h => h.toRepresented)
    (fun _ _ _ h hstep h' => keepsSize_of_represented h.toRepresented hstep h')
    (fun _ _ _ h hstep hkeeps => (h.step hkeeps hstep).1) (separate_start hm)

/-- In such a run the buffers hold **the bytes that the calls are for**. -/
theorem contents_exec {ops : List (Op ι)} (h : Separate w)
    (hkeeps : Runs.Along step KeepsSize w ops) (hrun : Runs.exec step w ops = some w') :
    w'.contents = ops.foldl Op.spec w.contents := by
  induction ops generalizing w with
  | nil => rw [← Option.some_inj.1 hrun]; rfl
  | cons op ops ih =>
      obtain ⟨w₁, hstep, hrun⟩ := Runs.exec_cons_eq_some.1 hrun
      obtain ⟨hop, hrest⟩ := hkeeps w₁ hstep
      obtain ⟨hinv, hcontents⟩ := h.step hop hstep
      rw [ih hinv hrest hrun, hcontents, List.foldl_cons]

/-- **The calls on buffers are calls on strings of bytes**: in a run from default-constructed
buffers without an `Allocate(0)` on one that holds data, and whatever addresses the allocator
answers, each buffer holds what the calls make of its string. -/
theorem buffers_hold_strings (hm : m.fault = false) (ops : List (Op ι))
    (hkeeps : Runs.Along step KeepsSize (World.start m) ops)
    (hrun : Runs.exec step (World.start m) ops = some w') :
    w'.contents = ops.foldl Op.spec fun _ => [] :=
  contents_exec (separate_start hm) hkeeps hrun

/-! ### Two runs -/

/-- Memory with nothing in it. -/
def noMemory : BlockMemory := { block := fun _ => none, fault := false }

/-- An allocation with so many bytes. -/
def allocation (address n : ℕ) : BlockMemory.Allocation :=
  { address := address, contents := List.replicate n 1 }

/-- A buffer of four bytes is cleared and copied, then allocated anew with another size and copied
again, for which the allocator is asked for so many bytes. -/
def reallocate (size : UInt64) (asked : ℕ) : List (Op ℕ) :=
  [.allocate 0 4 (allocation 7 4), .zero 0, .copy 1 0 (allocation 8 4),
    .allocate 0 size (allocation 7 size.toNat), .copy 1 0 (allocation 9 asked)]

/-- With two bytes instead of four all goes well. -/
theorem represented_iff_reallocate :
    (Runs.exec step (World.start noMemory) (reallocate 2 2)).isSome ∧
      Runs.Throughout step Represented (World.start noMemory) (reallocate 2 2) :=
  ⟨by decide, (represented_iff rfl (reallocate 2 2)).2 (by decide)⟩

/-- The second buffer ends as a copy of what the first one was allocated with. -/
theorem buffers_hold_strings_reallocate :
    ∃ w, Runs.exec step (World.start noMemory) (reallocate 2 2) = some w ∧
      w.contents = (reallocate 2 2).foldl Op.spec (fun _ => []) ∧ w.contents 1 = [1, 1] := by
  have hrun : ((Runs.exec step (World.start noMemory) (reallocate 2 2)).map
      fun w => w.contents 1) = some [1, 1] := by
    decide
  obtain ⟨w, hw, hlast⟩ := Option.map_eq_some_iff.1 hrun
  exact ⟨w, hw, buffers_hold_strings rfl (reallocate 2 2) (by decide) hw, hlast⟩

/-- With none the buffer keeps its size of four bytes beside a null pointer, and the copy reads four
bytes from there. -/
theorem allocate_zero_keeps_size :
    (Runs.exec step (World.start noMemory) (reallocate 0 4)).map
        (fun w => (w.buffers 0, w.memory.fault)) = some ({ data := none, size := 4 }, true) ∧
      ¬ Runs.Throughout step Represented (World.start noMemory) (reallocate 0 4) := by
  have hrun : (Runs.exec step (World.start noMemory) (reallocate 0 4)).map
      (fun w => (w.buffers 0, w.memory.fault)) = some ({ data := none, size := 4 }, true) := by
    decide
  refine ⟨hrun, fun h => ?_⟩
  obtain ⟨w, hw, hlast⟩ := Option.map_eq_some_iff.1 hrun
  have hfault : w.memory.fault = true := congrArg Prod.snd hlast
  rw [(h.final hw).inBounds] at hfault
  cases hfault

end Aero
