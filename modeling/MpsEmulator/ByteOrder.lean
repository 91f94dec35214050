/-
**Words and bytes: the two byte orders.**

A 32-bit word has four bytes, and memory has a byte at every address.  A little-endian host keeps
the bytes of a word from the least significant one upwards; the network sends them from the most
significant one downwards.  Turning a word around where it stands takes the one order to the other.

* `byteOf`, `wordOf` — the bytes of a word, by significance, and the word of four bytes;
* `htonl` — the word with its bytes turned around;
* `wordAt`, `setWord` — words in memory, little-endian;
* `swapWords`, `swapWords_apply` — turning the first words of memory around, one after the other;
* `bigEndianWords` — bytes, read as consecutive big-endian words;
* `bigEndianWords_swapWords` — **words that were turned around are read back from the network**.
-/

import Mathlib

set_option relaxedAutoImplicit false
set_option autoImplicit false

namespace MpsEmulator

/-! ### Words -/

/-- The byte of significance `j` of a word. -/
def byteOf (w : BitVec 32) (j : ℕ) : BitVec 8 := w.extractLsb' (8 * j) 8

/-- The word with these bytes, by significance. -/
def wordOf (b : ℕ → BitVec 8) : BitVec 32 := b 3 ++ b 2 ++ b 1 ++ b 0

/-- The word with its bytes turned around: what `htonl` does on a little-endian host. -/
def htonl (w : BitVec 32) : BitVec 32 := wordOf fun j => byteOf w (3 - j)

/-- A word depends on its four bytes only. -/
theorem wordOf_congr {b b' : ℕ → BitVec 8} (h : ∀ j < 4, b j = b' j) : wordOf b = wordOf b' := by
  rw [wordOf, wordOf, h 0 (by omega), h 1 (by omega), h 2 (by omega), h 3 (by omega)]

/-- The bytes of a word make up the word. -/
theorem wordOf_byteOf (w : BitVec 32) : wordOf (byteOf w) = w := by
  ext i hi
  simp only [wordOf, byteOf]
  grind

/-- A word that is made of bytes has these bytes. -/
theorem byteOf_wordOf (b : ℕ → BitVec 8) {j : ℕ} (hj : j < 4) : byteOf (wordOf b) j = b j := by
  have hcases : j = 0 ∨ j = 1 ∨ j = 2 ∨ j = 3 := by omega
  rcases hcases with rfl | rfl | rfl | rfl <;>
  · ext i hi
    simp only [wordOf, byteOf, BitVec.getElem_extractLsb', BitVec.getLsbD_append]
    grind

theorem byteOf_htonl (w : BitVec 32) {j : ℕ} (hj : j < 4) :
    byteOf (htonl w) j = byteOf w (3 - j) := byteOf_wordOf _ hj

/-! ### Memory -/

/-- The word with index `i`. -/
def wordAt (mem : ℕ → BitVec 8) (i : ℕ) : BitVec 32 := wordOf fun j => mem (4 * i + j)

/-- Storing a word. -/
def setWord (mem : ℕ → BitVec 8) (i : ℕ) (w : BitVec 32) : ℕ → BitVec 8 := fun k =>
  if k / 4 = i then byteOf w (k % 4) else mem k

/-- The loop that turns the first words around, `words[i] = htonl(words[i])`. -/
def swapWords (mem : ℕ → BitVec 8) (count : ℕ) : ℕ → BitVec 8 :=
  (List.range count).foldl (fun mem i => setWord mem i (htonl (wordAt mem i))) mem

variable {mem : ℕ → BitVec 8}

/-- A word that is stored turned around: its bytes are those of the word before, the last one
first. -/
theorem setWord_htonl (i k : ℕ) :
    setWord mem i (htonl (wordAt mem i)) k =
      if k / 4 = i then mem (4 * i + (3 - k % 4)) else mem k := by
  rw [setWord]
  split
  · rw [byteOf_htonl _ (Nat.mod_lt k (by omega)), wordAt, byteOf_wordOf _ (by omega)]
  · rfl

/-- **After the loop**, the bytes of the first words are turned around, each word in its place, and
all the others are what they were. -/
theorem swapWords_apply (count k : ℕ) :
    swapWords mem count k = if k / 4 < count then mem (4 * (k / 4) + (3 - k % 4)) else mem k := by
  induction count generalizing k with
  | zero => simp [swapWords]
  | succ count ih =>
      have hstep : swapWords mem (count + 1) =
          setWord (swapWords mem count) count (htonl (wordAt (swapWords mem count) count)) := by
        rw [swapWords, swapWords, List.range_succ, List.foldl_append]
        rfl
      rw [hstep, setWord_htonl]
      by_cases hk : k / 4 = count
      · -- the word at hand was not touched yet
        have hlast : ¬ (4 * count + (3 - k % 4)) / 4 < count := by omega
        rw [if_pos hk, ih, if_neg hlast, if_pos (by omega), hk]
      · rw [if_neg hk, ih]
        by_cases hlt : k / 4 < count
        · rw [if_pos hlt, if_pos (by omega)]
        · rw [if_neg hlt, if_neg (by omega)]

/-! ### Reading from the network -/

/-- Bytes, read as consecutive big-endian words. -/
def bigEndianWords (bytes : List (BitVec 8)) : List (BitVec 32) :=
  (List.range (bytes.length / 4)).map fun i => wordOf fun j => bytes.getD (4 * i + (3 - j)) 0

/-- **Words that were turned around are read back as they were.** -/
theorem bigEndianWords_swapWords (mem : ℕ → BitVec 8) (count : ℕ) :
    bigEndianWords ((List.range (4 * count)).map (swapWords mem count)) =
      (List.range count).map (wordAt mem) := by
  have hlength : ((List.range (4 * count)).map (swapWords mem count)).length / 4 = count := by
    rw [List.length_map, List.length_range]
    omega
  rw [bigEndianWords, hlength]
  refine List.map_congr_left fun i hi => ?_
  rw [List.mem_range] at hi
  rw [wordAt]
  refine wordOf_congr fun j hj => ?_
  have hindex : 4 * i + (3 - j) < ((List.range (4 * count)).map (swapWords mem count)).length := by
    rw [List.length_map, List.length_range]
    omega
  have hword : (4 * i + (3 - j)) / 4 = i := by omega
  have hbyte : 3 - (4 * i + (3 - j)) % 4 = j := by omega
  rw [List.getD_eq_getElem _ _ hindex, List.getElem_map, List.getElem_range, swapWords_apply,
    hword, hbyte, if_pos hi]

end MpsEmulator
