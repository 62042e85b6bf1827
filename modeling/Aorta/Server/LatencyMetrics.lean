import Mathlib.Data.Fin.VecNotation
import Mathlib.Order.Fin.Basic
import Aorta.Library.Decimal
import Aorta.Library.Histogram
import Aorta.Library.Run

/-!
# The latencies of `Metrics`

The counters of `Metrics` that `recordLatency` writes, one call after the other, with
what is computed from the buckets: the three percentiles and the bucket lines of
`serialize`. Its other lines print plain counters, or floating-point numbers.
-/

namespace Aorta.Server

open Aorta.Library.Ascii Aorta.Library.Decimal Aorta.Library.Histogram Aorta.Library.Run

set_option autoImplicit false

abbrev latencyBucketCount : Nat := 14

/-- `std::uint64_t` is ordered like its values. -/
instance linearOrderUInt64 : LinearOrder UInt64 where
  le_refl _ := UInt64.le_refl _
  le_trans _ _ _ := UInt64.le_trans
  le_antisymm _ _ := UInt64.le_antisymm
  le_total := UInt64.le_total
  lt_iff_le_not_ge a b := by
    simp only [UInt64.lt_iff_toNat_lt, UInt64.le_iff_toNat_le]
    omega
  toDecidableLE := inferInstance

def latencyBucketsUs : Fin latencyBucketCount → UInt64 :=
  ![100, 250, 500, 1000, 2000, 5000, 10000, 25000, 50000, 100000, 250000, 500000, 1000000,
    5000000]

def lastBucket : Fin latencyBucketCount := 13

structure LatencyMetrics where
  latencyCount : UInt64 := 0
  latencyTotalUs : UInt64 := 0
  latencyMaxUs : UInt64 := 0
  latencyBuckets : Fin latencyBucketCount → UInt64 := fun _ => 0

namespace LatencyMetrics

/-- The loop of `recordLatency`: the first bucket with a bound that is not exceeded, and the
last one if there is none. -/
def bucketLoop (microseconds : UInt64) : List (Fin latencyBucketCount) → Fin latencyBucketCount
  | [] => lastBucket
  | i :: rest => if microseconds ≤ latencyBucketsUs i then i else bucketLoop microseconds rest

def bucketOf (microseconds : UInt64) : Fin latencyBucketCount :=
  bucketLoop microseconds (List.finRange latencyBucketCount)

def recordLatency (metrics : LatencyMetrics) (microseconds : UInt64) : LatencyMetrics where
  latencyCount := metrics.latencyCount + 1
  latencyTotalUs := metrics.latencyTotalUs + microseconds
  latencyMaxUs :=
    if metrics.latencyMaxUs < microseconds then microseconds else metrics.latencyMaxUs
  latencyBuckets := Function.update metrics.latencyBuckets (bucketOf microseconds)
    (metrics.latencyBuckets (bucketOf microseconds) + 1)

/-- The loop of the percentiles: the bucket at which the sum reaches the target. -/
def scan (metrics : LatencyMetrics) (target : UInt64) :
    UInt64 → List (Fin latencyBucketCount) → Option (Fin latencyBucketCount)
  | _, [] => none
  | cumulative, i :: rest =>
      let cumulative := cumulative + metrics.latencyBuckets i
      if cumulative ≥ target then some i else scan metrics target cumulative rest

/-- What the three percentiles share; they differ in their target. -/
def percentile (metrics : LatencyMetrics) (target : UInt64 → UInt64) : UInt64 :=
  if metrics.latencyCount = 0 then 0
  else
    match metrics.scan (target metrics.latencyCount) 0 (List.finRange latencyBucketCount) with
    | some i => latencyBucketsUs i
    | none => latencyBucketsUs lastBucket

def targetP50 (count : UInt64) : UInt64 := (count + 1) / 2
def targetP95 (count : UInt64) : UInt64 := (count * 95 + 99) / 100
def targetP99 (count : UInt64) : UInt64 := (count * 99 + 99) / 100

def getP50LatencyUs (metrics : LatencyMetrics) : UInt64 := metrics.percentile targetP50
def getP95LatencyUs (metrics : LatencyMetrics) : UInt64 := metrics.percentile targetP95
def getP99LatencyUs (metrics : LatencyMetrics) : UInt64 := metrics.percentile targetP99

/-- The last loop of `serialize`: each bound with the number printed behind it. -/
def bucketTotals (metrics : LatencyMetrics) :
    UInt64 → List (Fin latencyBucketCount) → List (UInt64 × UInt64)
  | _, [] => []
  | cumulative, i :: rest =>
      let cumulative := cumulative + metrics.latencyBuckets i
      (latencyBucketsUs i, cumulative) :: bucketTotals metrics cumulative rest

def bucketLine (bound number : Nat) : Bytes :=
  ascii "aorta_latency_bucket\x7ble=\"" ++ decimal bound ++ ascii "us\"\x7d " ++
    decimal number ++ ascii "\n"

/-- The bucket lines of `serialize`. -/
def serializeBuckets (metrics : LatencyMetrics) : Bytes :=
  (metrics.bucketTotals 0 (List.finRange latencyBucketCount)).flatMap fun line =>
    bucketLine line.1.toNat line.2.toNat

/-! ### Placing a sample -/

/-- The bucket that holds a sample: the first with a bound that is not exceeded, where the
last one takes what exceeds all bounds. -/
structure Holds (bucket : Fin latencyBucketCount) (microseconds : UInt64) : Prop where
  above : ∀ earlier < bucket, latencyBucketsUs earlier < microseconds
  within : microseconds ≤ latencyBucketsUs bucket ∨ bucket = lastBucket

theorem bounds_increase : StrictMono latencyBucketsUs := by
  have increase : ∀ i j, i < j → latencyBucketsUs i < latencyBucketsUs j := by decide
  intro i j order
  exact increase i j order

theorem le_last (i : Fin latencyBucketCount) : i ≤ lastBucket := Fin.le_last i

theorem indices_ascend : (List.finRange latencyBucketCount).Pairwise (· < ·) :=
  List.pairwise_lt_finRange latencyBucketCount

theorem bucket_loop_holds {microseconds : UInt64} {front rest : List (Fin latencyBucketCount)}
    (split : front ++ rest = List.finRange latencyBucketCount)
    (above : ∀ i ∈ front, latencyBucketsUs i < microseconds) :
    Holds (bucketLoop microseconds rest) microseconds := by
  induction rest generalizing front with
  | nil =>
      rw [List.append_nil] at split
      constructor
      · intro earlier _
        apply above
        rw [split]
        exact List.mem_finRange earlier
      · exact .inr rfl
  | cons i rest ih =>
      unfold bucketLoop
      split_ifs with within
      · constructor
        · intro earlier order
          apply above
          apply mem_front_of_lt (split ▸ indices_ascend) _ order
          rw [split]
          exact List.mem_finRange earlier
        · exact .inl within
      · apply ih (List.append_cons front i rest ▸ split)
        intro j member
        rcases List.mem_append.mp member with inFront | isNext
        · exact above j inFront
        · rw [List.mem_singleton.mp isNext]
          exact lt_of_not_ge within

theorem bucket_of_holds (microseconds : UInt64) : Holds (bucketOf microseconds) microseconds :=
  bucket_loop_holds (List.nil_append _) nofun

theorem bucket_of_le_iff (microseconds : UInt64) (i : Fin latencyBucketCount) :
    bucketOf microseconds ≤ i ↔ microseconds ≤ latencyBucketsUs i ∨ i = lastBucket := by
  have holds := bucket_of_holds microseconds
  constructor
  · intro order
    rcases holds.within with within | last
    · exact .inl (within.trans (bounds_increase.monotone order))
    · exact .inr ((le_last i).antisymm (last ▸ order))
  · intro reaches
    rcases reaches with within | last
    · by_contra later
      exact absurd within (not_le_of_gt (holds.above i (lt_of_not_ge later)))
    · rw [last]
      exact le_last _

theorem bucket_of_monotone : Monotone bucketOf := by
  intro small large order
  rw [bucket_of_le_iff]
  rcases (bucket_of_holds large).within with within | last
  · exact .inl (order.trans within)
  · exact .inr last

/-! ### What the buckets hold after a run -/

/-- The counters are those of the samples, modulo `2 ^ 64`. -/
structure Recorded (metrics : LatencyMetrics) (samples : List UInt64) : Prop where
  count : metrics.latencyCount = UInt64.ofNat samples.length
  buckets : ∀ i, metrics.latencyBuckets i =
    UInt64.ofNat (samples.countP fun sample => bucketOf sample = i)

theorem record_recorded {metrics : LatencyMetrics} {samples : List UInt64}
    (recorded : Recorded metrics samples) (microseconds : UInt64) :
    Recorded (metrics.recordLatency microseconds) (samples ++ [microseconds]) := by
  constructor
  · simp only [recordLatency, recorded.count, List.length_append, List.length_singleton,
      UInt64.ofNat_add]
    rfl
  · intro i
    simp only [recordLatency, List.countP_append, List.countP_singleton, UInt64.ofNat_add,
      decide_eq_true_eq]
    by_cases same : bucketOf microseconds = i
    · rw [← same, Function.update_self, recorded.buckets, if_pos rfl]
      rfl
    · rw [Function.update_of_ne (Ne.symm same), recorded.buckets, if_neg same]
      exact (UInt64.add_zero _).symm

theorem run_recorded {metrics : LatencyMetrics} {earlier : List UInt64}
    (recorded : Recorded metrics earlier) (samples : List UInt64) :
    Recorded (run recordLatency metrics samples) (earlier ++ samples) := by
  induction samples generalizing metrics earlier with
  | nil =>
      rw [List.append_nil]
      exact recorded
  | cons sample samples ih =>
      rw [run_cons, List.append_cons]
      exact ih (record_recorded recorded sample)

theorem recorded_run (samples : List UInt64) :
    Recorded (run recordLatency {} samples) samples := by
  have start : Recorded {} [] := ⟨rfl, fun _ => rfl⟩
  exact run_recorded start samples

/-- How many samples lie in the buckets up to one. -/
def upTo (samples : List UInt64) (i : Fin latencyBucketCount) : Nat :=
  samples.countP fun sample => bucketOf sample ≤ i

def summed (samples : List UInt64) (front : List (Fin latencyBucketCount)) : UInt64 :=
  UInt64.ofNat (front.map fun i => samples.countP fun sample => bucketOf sample = i).sum

section Loops

variable {metrics : LatencyMetrics} {samples : List UInt64}
  {front rest : List (Fin latencyBucketCount)}

theorem summed_next (recorded : Recorded metrics samples) (i : Fin latencyBucketCount) :
    summed samples front + metrics.latencyBuckets i = summed samples (front ++ [i]) := by
  rw [recorded.buckets]
  unfold summed
  rw [List.map_append, List.sum_append, UInt64.ofNat_add]
  rfl

theorem summed_up_to {i : Fin latencyBucketCount}
    (split : front ++ i :: rest = List.finRange latencyBucketCount) :
    summed samples (front ++ [i]) = UInt64.ofNat (upTo samples i) := by
  unfold summed upTo
  rw [count_le_eq_sum (split ▸ indices_ascend)]
  intro sample _
  rw [split]
  exact List.mem_finRange _

theorem scan_find (recorded : Recorded metrics samples) (target : UInt64)
    (split : front ++ rest = List.finRange latencyBucketCount) :
    metrics.scan target (summed samples front) rest =
      rest.find? fun i => target ≤ UInt64.ofNat (upTo samples i) := by
  induction rest generalizing front with
  | nil => rfl
  | cons i rest ih =>
      unfold scan
      simp only [summed_next recorded, summed_up_to split, ge_iff_le]
      split_ifs with reached
      · rw [List.find?_cons_of_pos (by simpa using reached)]
      · rw [List.find?_cons_of_neg (by simpa using reached), ← summed_up_to split]
        exact ih (List.append_cons front i rest ▸ split)

theorem bucket_totals_map (recorded : Recorded metrics samples)
    (split : front ++ rest = List.finRange latencyBucketCount) :
    metrics.bucketTotals (summed samples front) rest =
      rest.map fun i => (latencyBucketsUs i, UInt64.ofNat (upTo samples i)) := by
  induction rest generalizing front with
  | nil => rfl
  | cons i rest ih =>
      unfold bucketTotals
      simp only [summed_next recorded, List.map_cons, ih (List.append_cons front i rest ▸ split)]
      rw [summed_up_to split]

end Loops

/-! ### The exported lines -/

theorem digits_before_line_end (number : Nat) (rest : Bytes) :
    (decimal number ++ (ascii "\n" ++ rest)).takeWhile isDigit = decimal number ∧
      (decimal number ++ (ascii "\n" ++ rest)).dropWhile isDigit = ascii "\n" ++ rest := by
  have digits := decimal_digits number
  constructor
  · rw [List.takeWhile_append_of_pos digits]
    exact List.append_nil _
  · rw [List.dropWhile_append_of_pos digits]
    rfl

theorem bucket_lines_eq_iff {Index : Type*} (bound first second : Index → Nat)
    (indices : List Index) :
    (indices.flatMap fun i => bucketLine (bound i) (first i)) =
        (indices.flatMap fun i => bucketLine (bound i) (second i)) ↔
      ∀ i ∈ indices, first i = second i := by
  induction indices with
  | nil => simp
  | cons i rest ih =>
      rw [List.forall_mem_cons, ← ih, List.flatMap_cons, List.flatMap_cons]
      constructor
      · intro same
        simp only [bucketLine, List.append_assoc, List.append_cancel_left_eq] at same
        have left := digits_before_line_end (first i)
          (rest.flatMap fun i => bucketLine (bound i) (first i))
        have right := digits_before_line_end (second i)
          (rest.flatMap fun i => bucketLine (bound i) (second i))
        simp only [bucketLine, List.append_assoc] at left right
        rw [same] at left
        have number : decimal (first i) = decimal (second i) := left.1.symm.trans right.1
        have others := left.2.symm.trans right.2
        rw [List.append_cancel_left_eq] at others
        constructor
        · exact decimal_injective number
        · simpa only [bucketLine, List.append_assoc] using others
      · intro parts
        rw [parts.1, parts.2]

theorem serialize_buckets_eq (samples : List UInt64) :
    (run recordLatency {} samples).serializeBuckets =
      (List.finRange latencyBucketCount).flatMap fun i =>
        bucketLine (latencyBucketsUs i).toNat (upTo samples i % 2 ^ 64) := by
  have totals := bucket_totals_map (recorded_run samples)
    (List.nil_append (List.finRange latencyBucketCount))
  change (bucketTotals _ (summed samples []) _).flatMap _ = _
  rw [totals, List.flatMap_map]
  rfl

theorem up_to_bound {i : Fin latencyBucketCount} (inner : i ≠ lastBucket)
    (samples : List UInt64) :
    upTo samples i = samples.countP fun sample => sample ≤ latencyBucketsUs i := by
  unfold upTo
  simp only [bucket_of_le_iff, inner, or_false]

theorem up_to_last (samples : List UInt64) : upTo samples lastBucket = samples.length := by
  unfold upTo
  simp [bucket_of_le_iff]

/-- Every line counts the samples up to its bound if and only if none lies above the last
bound and no counter has wrapped; or, to the letter, if those above it are so many that they
wrap the last counter to where it was. -/
theorem bucket_lines_count_samples_iff (samples : List UInt64) :
    (run recordLatency {} samples).serializeBuckets =
        ((List.finRange latencyBucketCount).flatMap fun i =>
          bucketLine (latencyBucketsUs i).toNat
            (samples.countP fun sample => sample ≤ latencyBucketsUs i)) ↔
      samples.countP (fun sample => sample ≤ 5000000) < 2 ^ 64 ∧
        2 ^ 64 ∣ samples.countP fun sample => sample > 5000000 := by
  have whole : samples.length = samples.countP (fun sample => sample ≤ 5000000) +
      samples.countP (fun sample => sample > 5000000) := by
    rw [List.length_eq_countP_add_countP (fun sample => decide (sample ≤ 5000000))]
    simp only [decide_eq_true_eq, not_le]
  have last : latencyBucketsUs lastBucket = 5000000 := rfl
  rw [serialize_buckets_eq, bucket_lines_eq_iff]
  constructor
  · intro exact'
    have lastLine := exact' lastBucket (List.mem_finRange _)
    rw [up_to_last, last] at lastLine
    constructor
    · rw [← lastLine]
      exact Nat.mod_lt _ (by decide)
    · rw [Nat.dvd_iff_mod_eq_zero]
      omega
  · intro fits i _
    by_cases inner : i = lastBucket
    · rw [inner, up_to_last, last, whole, Nat.add_mod, Nat.mod_eq_zero_of_dvd fits.2, add_zero,
        Nat.mod_mod, Nat.mod_eq_of_lt fits.1]
    · have fewer : samples.countP (fun sample => sample ≤ latencyBucketsUs i) ≤
          samples.countP fun sample => sample ≤ 5000000 := by
        apply List.countP_mono_left
        intro sample _ within
        have below := bounds_increase.monotone (le_last i)
        exact decide_eq_true ((of_decide_eq_true within).trans (last ▸ below))
      rw [up_to_bound inner, Nat.mod_eq_of_lt (Nat.lt_of_le_of_lt fewer fits.1)]

/-- One sample above the last bound is printed as one that is not. -/
theorem sample_above_last_bound_is_counted :
    ¬ ∀ samples : List UInt64, (run recordLatency {} samples).serializeBuckets =
      ((List.finRange latencyBucketCount).flatMap fun i =>
        bucketLine (latencyBucketsUs i).toNat
          (samples.countP fun sample => sample ≤ latencyBucketsUs i)) := by
  intro exact'
  have lines := exact' [5000001]
  rw [serialize_buckets_eq, bucket_lines_eq_iff] at lines
  have last := lines lastBucket (List.mem_finRange _)
  revert last
  decide

example : bucketOf 100 = 0 := by decide
example : bucketOf 6000000 = lastBucket := by decide

end LatencyMetrics

end Aorta.Server
