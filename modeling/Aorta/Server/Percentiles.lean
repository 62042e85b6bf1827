import Mathlib.Algebra.Order.Floor.Div
import Mathlib.GroupTheory.GroupAction.Ring
import Aorta.Server.LatencyMetrics

/-!
# The percentiles

Each percentile is the bound of the bucket that holds the sample of the nearest rank,
although its target is rounded in its own way: the scan of the buckets finds the bucket
without the samples.
-/

namespace Aorta.Server.LatencyMetrics

open Aorta.Library.Histogram Aorta.Library.Run

set_option autoImplicit false

/-- The bound of the bucket that holds the sample of rank `quantile` percent, rounded up. -/
def NearestRank (samples : List UInt64) (quantile : Nat) (bound : UInt64) : Prop :=
  ∃ sample bucket, ranked samples (quantile * samples.length ⌈/⌉ 100) = some sample ∧
    Holds bucket sample ∧ bound = latencyBucketsUs bucket

/-- The scan for a target meets the bucket of a sample. -/
def Finds (metrics : LatencyMetrics) (target : UInt64 → UInt64) (bucket : Fin latencyBucketCount) :
    Prop :=
  metrics.scan (target metrics.latencyCount) 0 (List.finRange latencyBucketCount) = some bucket

section Targets

variable {samples : List UInt64} (few : samples.length < 2 ^ 57)

include few

theorem count_exact : (UInt64.ofNat samples.length).toNat = samples.length := by
  apply UInt64.toNat_ofNat_of_lt'
  change samples.length < 2 ^ 64
  omega

theorem sum_exact : (UInt64.ofNat samples.length + 1).toNat = samples.length + 1 := by
  rw [UInt64.toNat_add, count_exact few]
  change (samples.length + 1) % 2 ^ 64 = _
  omega

theorem product_exact {factor : UInt64} (small : factor.toNat < 100) :
    (UInt64.ofNat samples.length * factor).toNat = samples.length * factor.toNat ∧
      (UInt64.ofNat samples.length * factor + 99).toNat =
        samples.length * factor.toNat + 99 := by
  have bounded : samples.length * factor.toNat ≤ 2 ^ 57 * 99 :=
    Nat.mul_le_mul few.le (Nat.le_of_lt_succ small)
  have product : (UInt64.ofNat samples.length * factor).toNat =
      samples.length * factor.toNat := by
    rw [UInt64.toNat_mul, count_exact few, Nat.mod_eq_of_lt (by omega)]
  constructor
  · exact product
  · rw [UInt64.toNat_add, product]
    change (samples.length * factor.toNat + 99) % 2 ^ 64 = _
    omega

theorem target_p50_rank :
    (targetP50 (UInt64.ofNat samples.length)).toNat = 50 * samples.length ⌈/⌉ 100 := by
  unfold targetP50
  rw [UInt64.toNat_div, sum_exact few, Nat.ceilDiv_eq_add_pred_div]
  change (samples.length + 1) / 2 = _
  omega

theorem target_p95_rank :
    (targetP95 (UInt64.ofNat samples.length)).toNat = 95 * samples.length ⌈/⌉ 100 := by
  unfold targetP95
  rw [UInt64.toNat_div, (product_exact few (by decide)).2, Nat.ceilDiv_eq_add_pred_div]
  change (samples.length * 95 + 99) / 100 = _
  omega

theorem target_p99_rank :
    (targetP99 (UInt64.ofNat samples.length)).toNat = 99 * samples.length ⌈/⌉ 100 := by
  unfold targetP99
  rw [UInt64.toNat_div, (product_exact few (by decide)).2, Nat.ceilDiv_eq_add_pred_div]
  change (samples.length * 99 + 99) / 100 = _
  omega

theorem scan_ranked {metrics : LatencyMetrics} (recorded : Recorded metrics samples)
    {target : UInt64} {sample : UInt64} (positive : 0 < target.toNat)
    (isRanked : ranked samples target.toNat = some sample) :
    metrics.scan target 0 (List.finRange latencyBucketCount) = some (bucketOf sample) := by
  have reaches : ∀ i, target ≤ UInt64.ofNat (upTo samples i) ↔
      target.toNat ≤ upTo samples i := by
    intro i
    have fewer : upTo samples i ≤ samples.length := List.countP_le_length
    rw [UInt64.le_iff_toNat_le, UInt64.toNat_ofNat_of_lt']
    change upTo samples i < 2 ^ 64
    omega
  change metrics.scan target (summed samples []) _ = _
  rw [scan_find recorded target (List.nil_append _)]
  simp only [reaches]
  exact find_rank bucket_of_monotone positive isRanked indices_ascend (List.mem_finRange _)

theorem percentile_ranked {metrics : LatencyMetrics} (recorded : Recorded metrics samples)
    (some : samples ≠ []) {target : UInt64 → UInt64} {quantile : Nat}
    (part : 0 < quantile ∧ quantile ≤ 100)
    (reaches : (target (UInt64.ofNat samples.length)).toNat =
      quantile * samples.length ⌈/⌉ 100) :
    ∃ sample, ranked samples (quantile * samples.length ⌈/⌉ 100) = .some sample ∧
      metrics.Finds target (bucketOf sample) ∧
      metrics.percentile target = latencyBucketsUs (bucketOf sample) := by
  have filled : 0 < samples.length := List.length_pos_iff.mpr some
  have positive : 0 < quantile * samples.length := Nat.mul_pos part.1 filled
  have within : quantile * samples.length ≤ 100 * samples.length :=
    Nat.mul_le_mul_right _ part.2
  have rank : 0 < quantile * samples.length ⌈/⌉ 100 ∧
      quantile * samples.length ⌈/⌉ 100 ≤ samples.length := by
    rw [Nat.ceilDiv_eq_add_pred_div]
    omega
  obtain ⟨sample, -, isRanked⟩ := ranked_exists rank.1 rank.2
  have finds : metrics.Finds target (bucketOf sample) := by
    unfold Finds
    rw [recorded.count]
    apply scan_ranked few recorded
    · rw [reaches]
      exact rank.1
    · rw [reaches]
      exact isRanked
  have counted : metrics.latencyCount ≠ 0 := by
    rw [recorded.count]
    intro zero
    have none := count_exact few
    rw [zero] at none
    exact absurd none.symm (Nat.ne_of_gt filled)
  refine ⟨sample, isRanked, finds, ?_⟩
  unfold percentile
  rw [if_neg counted, finds]

end Targets

theorem percentile_le {metrics : LatencyMetrics} {lower upper : UInt64 → UInt64}
    {small large : UInt64} (isLower : metrics.percentile lower = latencyBucketsUs (bucketOf small))
    (isUpper : metrics.percentile upper = latencyBucketsUs (bucketOf large))
    (order : small ≤ large) : metrics.percentile lower ≤ metrics.percentile upper := by
  rw [isLower, isUpper]
  exact bounds_increase.monotone (bucket_of_monotone order)

/-- For every run of fewer than `2 ^ 57` calls each percentile is that of the nearest rank.
They are in order, no product or sum wraps, and each scan ends inside its loop. -/
theorem percentiles_are_nearest_rank (samples : List UInt64) (some : samples ≠ [])
    (few : samples.length < 2 ^ 57) :
    let metrics := run recordLatency {} samples
    (NearestRank samples 50 metrics.getP50LatencyUs ∧
      NearestRank samples 95 metrics.getP95LatencyUs ∧
      NearestRank samples 99 metrics.getP99LatencyUs) ∧
    (metrics.getP50LatencyUs ≤ metrics.getP95LatencyUs ∧
      metrics.getP95LatencyUs ≤ metrics.getP99LatencyUs) ∧
    ((metrics.latencyCount + 1).toNat = samples.length + 1 ∧
      (metrics.latencyCount * 95).toNat = samples.length * 95 ∧
      (metrics.latencyCount * 95 + 99).toNat = samples.length * 95 + 99 ∧
      (metrics.latencyCount * 99).toNat = samples.length * 99 ∧
      (metrics.latencyCount * 99 + 99).toNat = samples.length * 99 + 99) ∧
    (∃ bucket, metrics.Finds targetP50 bucket) ∧ (∃ bucket, metrics.Finds targetP95 bucket) ∧
      ∃ bucket, metrics.Finds targetP99 bucket := by
  intro metrics
  have recorded : Recorded metrics samples := recorded_run samples
  obtain ⟨median, median50, finds50, is50⟩ :=
    percentile_ranked few recorded some (by decide) (target_p50_rank few)
  obtain ⟨upper, upper95, finds95, is95⟩ :=
    percentile_ranked few recorded some (by decide) (target_p95_rank few)
  obtain ⟨top, top99, finds99, is99⟩ :=
    percentile_ranked few recorded some (by decide) (target_p99_rank few)
  have filled : 0 < samples.length := List.length_pos_iff.mpr some
  have firstRank : 0 < 50 * samples.length ⌈/⌉ 100 := by
    rw [Nat.ceilDiv_eq_add_pred_div]
    omega
  have ranks : 50 * samples.length ⌈/⌉ 100 ≤ 95 * samples.length ⌈/⌉ 100 ∧
      95 * samples.length ⌈/⌉ 100 ≤ 99 * samples.length ⌈/⌉ 100 := by
    simp only [Nat.ceilDiv_eq_add_pred_div]
    omega
  have lower : median ≤ upper := ranked_le firstRank ranks.1 median50 upper95
  have higher : upper ≤ top :=
    ranked_le (Nat.lt_of_lt_of_le firstRank ranks.1) ranks.2 upper95 top99
  have factor95 : (95 : UInt64).toNat < 100 := by decide
  have factor99 : (99 : UInt64).toNat < 100 := by decide
  have products95 := product_exact few factor95
  have products99 := product_exact few factor99
  rw [← recorded.count] at products95 products99
  refine ⟨⟨⟨median, _, median50, bucket_of_holds median, is50⟩,
    ⟨upper, _, upper95, bucket_of_holds upper, is95⟩,
    ⟨top, _, top99, bucket_of_holds top, is99⟩⟩,
    ⟨percentile_le is50 is95 lower, percentile_le is95 is99 higher⟩,
    ⟨?_, products95.1, products95.2, products99.1, products99.2⟩,
    ⟨_, finds50⟩, ⟨_, finds95⟩, ⟨_, finds99⟩⟩
  rw [recorded.count]
  exact sum_exact few

/-- Twenty samples of which one is beyond all bounds. -/
theorem percentiles_of_twenty :
    NearestRank (6000000 :: List.replicate 19 250) 95
      (run recordLatency {} (6000000 :: List.replicate 19 250)).getP95LatencyUs :=
  (percentiles_are_nearest_rank (6000000 :: List.replicate 19 250) (by decide)
    (by decide)).1.2.1

end Aorta.Server.LatencyMetrics
