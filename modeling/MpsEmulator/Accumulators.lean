/-
**The averages in machine integers.**

`ScanThreadFn` adds `int32_t` samples to `int64_t` accumulators, divides each by
`m_nSubFrameAverages` as an `int64_t`, clamps the quotient and casts it to `int32_t`.  A signed sum
that does not fit is undefined, so an addition here has a result only when it fits.

* `addSample`, `accumulateSubFrame`, `accumulateFrame` — the additions, in the order of the loops;
* `averageInt64`, `clampInt64`, `countsInt32` — what is done with an accumulator;
* `IsSample` — a value `RandomSampleCounts` can return;
* `accumulateFrame_eq` — fewer than `2^32` sub-frames keep every partial sum within `2^55`;
* `averaging_exact` — **no addition overflows, the quotient is the exact mean, the clamp is the
  identity and the cast keeps the value**;
* `machine_frame` — the exact arithmetic of the scan thread is the one of these machine integers.
-/

import MpsEmulator.Averages
import MpsEmulator.RateArithmetic

set_option relaxedAutoImplicit false
set_option autoImplicit false

namespace MpsEmulator

/-! ### The code -/

/-- `counts_accumulator[j] += sample`, where the sum fits. -/
def addSample (acc : Int64) (sample : Int32) : Option Int64 :=
  if -2 ^ 63 ≤ acc.toInt + sample.toInt ∧ acc.toInt + sample.toInt < 2 ^ 63 then
    some (acc + sample.toInt64)
  else none

/-- The loop over the channels of a sub-frame, from the channel `j` on. -/
def accumulateSubFrame : ℕ → (ℕ → Int64) → List Int32 → Option (ℕ → Int64)
  | _, acc, [] => some acc
  | j, acc, sample :: samples =>
      (addSample (acc j) sample).bind fun sum =>
        accumulateSubFrame (j + 1) (Function.update acc j sum) samples

/-- The loop over the sub-frames of a frame. -/
def accumulateFrame : (ℕ → Int64) → List (List Int32) → Option (ℕ → Int64)
  | acc, [] => some acc
  | acc, samples :: frame =>
      (accumulateSubFrame 0 acc samples).bind fun acc' => accumulateFrame acc' frame

/-- `counts_accumulator[i] / static_cast<int64_t>(m_nSubFrameAverages)`. -/
def averageInt64 (n : ℕ) (acc : Int64) : Int64 := acc / Int64.ofNat n

/-- `std::clamp`. -/
def clampInt64 (avg lo hi : Int64) : Int64 := if avg < lo then lo else if hi < avg then hi else avg

/-- The average between the limits of the converter. -/
def clampedAverage (E : Env) (n : ℕ) (acc : Int64) : Int64 :=
  clampInt64 (averageInt64 n acc) (.ofInt E.mpsMinSignedAdcCounts) (.ofInt E.mpsMaxSignedAdcCounts)

/-- `counts[i]`. -/
def countsInt32 (E : Env) (n : ℕ) (acc : Int64) : Int32 := (clampedAverage E n acc).toInt32

/-- The samples of a frame as the `int32_t` values they are. -/
def int32Samples (samples : List (List ℤ)) : List (List Int32) :=
  samples.map fun xs => xs.map Int32.ofInt

/-! ### Partial sums -/

/-- A number of a signed 24-bit converter. -/
def Fits24 (x : ℤ) : Prop := -2 ^ 23 ≤ x ∧ x ≤ 2 ^ 23

theorem fits24_of_mem {E : Env} {x : ℤ}
    (hx : E.mpsMinSignedAdcCounts ≤ x ∧ x ≤ E.mpsMaxSignedAdcCounts) : Fits24 x :=
  ⟨E.minSigned_ge.trans hx.1, hx.2.trans E.maxSigned_le⟩

theorem toInt_ofInt_of_fits24 {x : ℤ} (hx : Fits24 x) : (Int32.ofInt x).toInt = x := by
  obtain ⟨hlow, hhigh⟩ := hx
  exact Int32.toInt_ofInt_of_le (by omega) (by omega)

/-- An addition whose sum fits has that sum. -/
theorem addSample_eq (acc : Int64) (sample : Int32) (hlow : -2 ^ 63 ≤ acc.toInt + sample.toInt)
    (hhigh : acc.toInt + sample.toInt < 2 ^ 63) :
    ∃ sum, addSample acc sample = some sum ∧ sum.toInt = acc.toInt + sample.toInt := by
  refine ⟨acc + sample.toInt64, if_pos ⟨hlow, hhigh⟩, ?_⟩
  rw [Int64.toInt_add, Int32.toInt_toInt64]
  exact Int.bmod_eq_of_le (by omega) (by omega)

/-- A sub-frame adds its samples to accumulators that leave room for one more. -/
theorem accumulateSubFrame_eq (bound : ℤ) (hbound : bound + 2 ^ 23 < 2 ^ 63) (samples : List ℤ)
    (hsamples : ∀ x ∈ samples, Fits24 x) (j : ℕ) (acc : ℕ → Int64)
    (hacc : ∀ i, j ≤ i → -bound ≤ (acc i).toInt ∧ (acc i).toInt ≤ bound) :
    ∃ acc', accumulateSubFrame j acc (samples.map Int32.ofInt) = some acc' ∧
      (∀ i < j, acc' i = acc i) ∧
      ∀ i, (acc' (j + i)).toInt = (acc (j + i)).toInt + samples.getD i 0 := by
  induction samples generalizing j acc with
  | nil => exact ⟨acc, rfl, fun _ _ => rfl, fun i => by simp⟩
  | cons x samples ih =>
      have hx := hsamples x List.mem_cons_self
      have hj := hacc j le_rfl
      have hxval := toInt_ofInt_of_fits24 hx
      obtain ⟨hxlow, hxhigh⟩ := hx
      obtain ⟨sum, hsum, hval⟩ := addSample_eq (acc j) (Int32.ofInt x) (by omega) (by omega)
      have hbehindj : ∀ i, j + 1 ≤ i → -bound ≤ (Function.update acc j sum i).toInt ∧
          (Function.update acc j sum i).toInt ≤ bound := by
        -- the channels behind `j` are as they were
        intro i hi
        rw [Function.update_of_ne (by omega)]
        exact hacc i (by omega)
      obtain ⟨acc', hrest, hbefore, hbehind⟩ := ih
        (fun y hy => hsamples y (List.mem_cons_of_mem _ hy)) (j + 1) _ hbehindj
      refine ⟨acc', ?_, fun i hi => ?_, fun i => ?_⟩
      · rw [List.map_cons, accumulateSubFrame, hsum]
        exact hrest
      · rw [hbefore i (by omega), Function.update_of_ne (by omega)]
      · cases i with
        | zero =>
            rw [Nat.add_zero, hbefore j (by omega), Function.update_self, hval, hxval,
              List.getD_cons_zero]
        | succ i =>
            have hindex : j + (i + 1) = j + 1 + i := by omega
            have hstep := hbehind i
            rw [Function.update_of_ne (by omega)] at hstep
            rw [hindex, List.getD_cons_succ, hstep]

/-- After `k` sub-frames an accumulator is at most `k` times a sample, so that up to `2^32` of them
stay far below the limits of an `int64_t`. -/
theorem accumulateFrame_eq (samples : List (List ℤ)) (k : ℕ) (hk : k + samples.length < 2 ^ 32)
    (hsamples : ∀ xs ∈ samples, ∀ x ∈ xs, Fits24 x) (acc : ℕ → Int64)
    (hacc : ∀ i, -(k * 2 ^ 23 : ℤ) ≤ (acc i).toInt ∧ (acc i).toInt ≤ k * 2 ^ 23) :
    ∃ acc', accumulateFrame acc (int32Samples samples) = some acc' ∧
      ∀ i, (acc' i).toInt = (acc i).toInt + channelSum samples i := by
  induction samples generalizing k acc with
  | nil => exact ⟨acc, rfl, fun i => by simp [channelSum]⟩
  | cons xs samples ih =>
      have hxs := hsamples xs List.mem_cons_self
      rw [List.length_cons] at hk
      obtain ⟨acc₁, hsub, -, hsum⟩ := accumulateSubFrame_eq (k * 2 ^ 23) (by omega) xs hxs 0 acc
        fun i _ => hacc i
      simp only [Nat.zero_add] at hsum
      have hacc₁ : ∀ i, -((k + 1 : ℕ) * 2 ^ 23 : ℤ) ≤ (acc₁ i).toInt ∧
          (acc₁ i).toInt ≤ (k + 1 : ℕ) * 2 ^ 23 := by
        intro i
        have hold := hacc i
        have hsample : Fits24 (xs.getD i 0) := by
          rw [List.getD_eq_getElem?_getD]
          cases hget : xs[i]? with
          | none => exact ⟨by norm_num, by norm_num⟩
          | some x => exact hxs x (List.mem_of_getElem? hget)
        obtain ⟨hlow, hhigh⟩ := hsample
        rw [hsum i]
        push_cast
        omega
      obtain ⟨acc', hframe, htotal⟩ := ih (k + 1) (by omega)
        (fun ys hys => hsamples ys (List.mem_cons_of_mem _ hys)) acc₁ hacc₁
      refine ⟨acc', ?_, fun i => ?_⟩
      · rw [int32Samples, List.map_cons, accumulateFrame, hsub]
        exact hframe
      · rw [htotal i, hsum i, channelSum, channelSum, List.map_cons, List.sum_cons, add_assoc]

/-! ### The mean -/

/-- The quotient by the number of averages is the truncated one. -/
theorem toInt_averageInt64 {n : ℕ} (hn : n < 2 ^ 32) (acc : Int64) :
    (averageInt64 n acc).toInt = acc.toInt.tdiv n := by
  have hval : (Int64.ofNat n).toInt = n := Int64.toInt_ofNat_of_lt (by omega)
  have hne : Int64.ofNat n ≠ -1 := by
    intro h
    rw [h] at hval
    have hneg : (-1 : Int64).toInt = -1 := by decide
    omega
  rw [averageInt64, Int64.toInt_div_of_ne_right _ _ hne, hval]

/-- A number between the limits is not clamped. -/
theorem clampInt64_of_mem {avg lo hi : Int64} (hlow : lo.toInt ≤ avg.toInt)
    (hhigh : avg.toInt ≤ hi.toInt) : clampInt64 avg lo hi = avg := by
  have hnlow : ¬ avg < lo := by
    rw [Int64.lt_iff_toInt_lt]
    omega
  have hnhigh : ¬ hi < avg := by
    rw [Int64.lt_iff_toInt_lt]
    omega
  rw [clampInt64, if_neg hnlow, if_neg hnhigh]

/-- The limits of the converter fit an `int64_t`. -/
theorem toInt_limits (E : Env) :
    (Int64.ofInt E.mpsMinSignedAdcCounts).toInt = E.mpsMinSignedAdcCounts ∧
      (Int64.ofInt E.mpsMaxSignedAdcCounts).toInt = E.mpsMaxSignedAdcCounts := by
  have hlow := E.minSigned_ge
  have hneg := E.minSigned_neg
  have hpos := E.maxSigned_pos
  have hhigh := E.maxSigned_le
  exact ⟨Int64.toInt_ofInt_of_le (by omega) (by omega),
    Int64.toInt_ofInt_of_le (by omega) (by omega)⟩

/-- How a frame is averaged: the accumulator is the exact sum, the quotient is the exact mean and
within the limits, the clamp leaves it alone, and so does the cast. -/
structure ExactAverage (E : Env) (samples : List (List ℤ)) (i : ℕ) (acc : Int64) : Prop where
  sum : acc.toInt = channelSum samples i
  mean : (averageInt64 samples.length acc).toInt = (channelSum samples i).tdiv samples.length
  within : E.mpsMinSignedAdcCounts ≤ (averageInt64 samples.length acc).toInt ∧
    (averageInt64 samples.length acc).toInt ≤ E.mpsMaxSignedAdcCounts
  clamp : clampedAverage E samples.length acc = averageInt64 samples.length acc
  cast : (countsInt32 E samples.length acc).toInt = (averageInt64 samples.length acc).toInt

/-- An accumulator with the exact sum is averaged exactly. -/
theorem exactAverage_of_sum {E : Env} {samples : List (List ℤ)} {i : ℕ} {acc : Int64}
    (hwithin : WithinLimits E samples) (hne : samples ≠ []) (hlen : samples.length < 2 ^ 32)
    (hsum : acc.toInt = channelSum samples i) : ExactAverage E samples i acc := by
  obtain ⟨hlo, hhi⟩ := toInt_limits E
  have hmean : (averageInt64 samples.length acc).toInt =
      (channelSum samples i).tdiv samples.length := by
    rw [toInt_averageInt64 hlen, hsum]
  have hmem := channelMean_mem hwithin hne i
  rw [← hmean] at hmem
  have hclamp : clampedAverage E samples.length acc = averageInt64 samples.length acc := by
    refine clampInt64_of_mem ?_ ?_
    · rw [hlo]
      exact hmem.1
    · rw [hhi]
      exact hmem.2
  refine ⟨hsum, hmean, hmem, hclamp, ?_⟩
  obtain ⟨hlow, hhigh⟩ := fits24_of_mem hmem
  rw [countsInt32, hclamp, Int64.toInt_toInt32]
  exact Int.bmod_eq_of_le (by omega) (by omega)

/-! ### Every frame -/

/-- A value that `RandomSampleCounts` returns from some state of the device. -/
def IsSample (E : Env) (x : ℤ) : Prop := ∃ d, (randomSampleCounts E d).1 = x

theorem withinLimits_of_isSample {E : Env} {samples : List (List ℤ)}
    (hsamples : ∀ xs ∈ samples, ∀ x ∈ xs, IsSample E x) : WithinLimits E samples := by
  intro xs hxs x hx
  obtain ⟨d, rfl⟩ := hsamples xs hxs x hx
  exact randomSampleCounts_mem E d

/-- Samples within the limits are accumulated without overflow. -/
theorem accumulateFrame_start {E : Env} {samples : List (List ℤ)}
    (hwithin : WithinLimits E samples) (hlen : samples.length < 2 ^ 32) :
    ∃ acc, accumulateFrame (fun _ => 0) (int32Samples samples) = some acc ∧
      ∀ i, (acc i).toInt = channelSum samples i := by
  obtain ⟨acc, hframe, hsum⟩ := accumulateFrame_eq samples 0 (by omega)
    (fun xs hxs x hx => fits24_of_mem (hwithin xs hxs x hx)) (fun _ => 0)
    (fun _ => ⟨by simp, by simp⟩)
  refine ⟨acc, hframe, fun i => ?_⟩
  rw [hsum i]
  simp

/-- Whatever `RandomSampleCounts` returns in the `n` sub-frames of a frame, **no partial sum
overflows and every channel gets its exact mean**, which neither the clamp nor the cast changes. -/
theorem averaging_exact (E : Env) (n : ℕ) (hpos : 1 ≤ n) (hn : n ≤ 2 ^ 32 - 1)
    (samples : List (List ℤ)) (hlen : samples.length = n)
    (hsamples : ∀ xs ∈ samples, ∀ x ∈ xs, IsSample E x) :
    ∃ acc, accumulateFrame (fun _ => 0) (int32Samples samples) = some acc ∧
      ∀ i, ExactAverage E samples i (acc i) := by
  have hwithin := withinLimits_of_isSample hsamples
  have hne : samples ≠ [] := by
    rintro rfl
    rw [List.length_nil] at hlen
    omega
  obtain ⟨acc, hframe, hsum⟩ := accumulateFrame_start hwithin (by omega)
  exact ⟨acc, hframe, fun i => exactAverage_of_sum hwithin hne (by omega) (hsum i)⟩

/-- A device that is about to return a sample beyond both limits. -/
def beyondLimits (value : ℚ) : Mps :=
  { attachedDevice mps4216 1 with normalSaved := some value }

/-- Samples at the two limits. -/
theorem averaging_exact_limits :
    ∃ acc, accumulateFrame (fun _ => 0) (int32Samples [[2 ^ 23 - 1], [-2 ^ 23], [-2 ^ 23]]) =
        some acc ∧
      ∀ i, ExactAverage referenceEnv [[2 ^ 23 - 1], [-2 ^ 23], [-2 ^ 23]] i (acc i) := by
  have hhigh : IsSample referenceEnv (2 ^ 23 - 1) := ⟨beyondLimits (10 ^ 9), by decide +kernel⟩
  have hlow : IsSample referenceEnv (-2 ^ 23) := ⟨beyondLimits (-10 ^ 9), by decide +kernel⟩
  refine averaging_exact referenceEnv 3 (by decide) (by decide) _ rfl fun xs hxs x hx => ?_
  simp only [List.mem_cons, List.not_mem_nil, or_false] at hxs
  rcases hxs with rfl | rfl | rfl <;> rw [List.mem_singleton.1 hx]
  · exact hhigh
  · exact hlow
  · exact hlow

/-! ### The frames of a run -/

theorem averagesFor_lt (E : Env) (rate : CFloat) : averagesFor E rate < 2 ^ 32 := by
  rw [averagesFor]
  split
  · norm_num
  · cases (rate.divInto 500).ceil with
    | fin q =>
        rw [CFloat.toUInt32]
        split
        · omega
        · exact Nat.mod_lt _ (by norm_num)
    | inf negative => exact Nat.mod_lt _ (by norm_num)
    | nan => exact Nat.mod_lt _ (by norm_num)

/-- The number of averages stays a `uint32_t`. -/
theorem step_averages_lt {E : Env} {s s' : Scanner} {a : ScanAction}
    (hn : s.device.nSubFrameAverages < 2 ^ 32) (h : step E s a = some s') :
    s'.device.nSubFrameAverages < 2 ^ 32 := by
  by_cases ha : a = .thread
  · rw [ha] at h
    rwa [(threadStep_settings h).2]
  · rw [step_averages h ha]
    cases hinstalled : installedAverages E s a with
    | none => exact hn
    | some n =>
        rw [Option.getD_some, installedAverages_eq hinstalled h]
        exact averagesFor_lt E _

/-- In a run whose steps keep the samples, behind the loop over the sub-frames of any frame: the
machine integers **have gone through the loop without overflow, have the sums of the scan thread**,
and give the counts it computes. -/
theorem machine_frame {E : Env} {cfg : MpsConfig} {as : List ScanAction}
    {σ : Scanner × List Event}
    (hkeeps : Runs.Along (observed E) (fun σ a => KeepsSamples E σ.1 a) (Scanner.start cfg, []) as)
    (hrun : Runs.exec (observed E) (Scanner.start cfg, []) as = some σ)
    (hpc : σ.1.thread.pc = .average) (hpos : σ.1.device.nSubFrameAverages ≠ 0) :
    ∃ acc, accumulateFrame (fun _ => 0) (int32Samples (frameSamples σ.2)) = some acc ∧
      (∀ i, (acc i).toInt = σ.1.thread.countsAccumulator i) ∧
      ∀ i < σ.1.device.physicalPressureChannelCount,
        (countsInt32 E σ.1.device.nSubFrameAverages (acc i)).toInt =
          averageCounts E σ.1.device σ.1.thread.countsAccumulator i := by
  have hinv : AveragesInv E σ :=
    (Runs.throughout_of_along (fun σ a σ' hinv hC h => AveragesInv.step hinv hC h)
      (averagesInv_start E cfg) hkeeps).final hrun
  have hinit : (Scanner.start cfg).device.nSubFrameAverages = 1 := rfl
  have hlt : σ.1.device.nSubFrameAverages < 2 ^ 32 := by
    refine Runs.invariant (P := fun σ : Scanner × List Event =>
      σ.1.device.nSubFrameAverages < 2 ^ 32) (fun σ a σ' hn h => ?_) ?_ hrun
    · exact step_averages_lt hn (Runs.record_eq_some.1 h).1
    · dsimp only
      omega
  have hsampling := hinv.sampling
  rw [Sampling, hpc] at hsampling
  obtain ⟨hsums, -, hcount⟩ := hsampling
  have hne : frameSamples σ.2 ≠ [] := by
    intro hnil
    rw [hnil, List.length_nil] at hcount
    exact hpos hcount
  obtain ⟨acc, hframe, hacc⟩ := accumulateFrame_start hinv.within (hcount ▸ hlt)
  refine ⟨acc, hframe, fun i => ?_, fun i hi => ?_⟩
  · rw [hacc i, hsums]
  · have hexact := exactAverage_of_sum hinv.within hne (hcount ▸ hlt) (hacc i)
    rw [averageCounts_eq hinv.within hsums hcount hne hi, hcount, hexact.cast, hexact.mean]

end MpsEmulator
