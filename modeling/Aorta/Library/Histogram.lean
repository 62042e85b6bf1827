import Mathlib.Algebra.GroupWithZero.Nat
import Mathlib.Algebra.BigOperators.Group.List.Basic
import Mathlib.Data.List.Sort
import Mathlib.Order.Monotone.Defs

/-!
# Samples in buckets

Samples are placed into ordered buckets by a monotone function. How many samples lie
in the buckets up to one is the sum of what these buckets hold, and the first bucket up
to which there are `rank` samples is the bucket of the sample of that rank in ascending
order.
-/

namespace Aorta.Library.Histogram

set_option autoImplicit false

variable {Sample Bucket : Type*}

section Sums

variable [DecidableEq Bucket] (place : Sample → Bucket) (samples : List Sample)

theorem count_cons_bucket {bucket : Bucket} {buckets : List Bucket} (other : bucket ∉ buckets) :
    samples.countP (fun sample => place sample ∈ bucket :: buckets) =
      samples.countP (fun sample => place sample = bucket) +
        samples.countP (fun sample => place sample ∈ buckets) := by
  induction samples with
  | nil => rfl
  | cons sample samples ih =>
      simp only [List.mem_cons] at ih
      simp only [List.countP_cons, decide_eq_true_eq, List.mem_cons, ih]
      by_cases same : place sample = bucket
      · rw [same, if_pos (.inl rfl), if_pos rfl, if_neg other]
        omega
      · simp only [same, false_or, if_false]
        omega

theorem count_mem_eq_sum {buckets : List Bucket} (distinct : buckets.Nodup) :
    samples.countP (fun sample => place sample ∈ buckets) =
      (buckets.map fun bucket => samples.countP fun sample => place sample = bucket).sum := by
  induction buckets with
  | nil => simp
  | cons bucket buckets ih =>
      obtain ⟨other, rest⟩ := List.nodup_cons.mp distinct
      rw [count_cons_bucket place samples other, ih rest, List.map_cons, List.sum_cons]

end Sums

section Ranks

variable [LinearOrder Sample]

/-- The sample of a rank, counted from 1, in ascending order. -/
def ranked (samples : List Sample) (rank : Nat) : Option Sample :=
  (samples.mergeSort (· ≤ ·))[rank - 1]?

theorem sorted_count {sorted : List Sample} (ascending : sorted.Pairwise (· ≤ ·))
    {test : Sample → Bool} (down : ∀ small large, small ≤ large → test large → test small)
    {position : Nat} {sample : Sample} (isAt : sorted[position]? = some sample) :
    test sample ↔ position < sorted.countP test := by
  induction sorted generalizing position with
  | nil => cases isAt
  | cons first rest ih =>
      obtain ⟨least, others⟩ := List.pairwise_cons.mp ascending
      cases passes : test first with
      | true =>
          rw [List.countP_cons_of_pos passes]
          cases position with
          | zero =>
              cases isAt
              simp [passes]
          | succ position =>
              rw [ih others isAt]
              omega
      | false =>
          have none : rest.countP test = 0 := by
            apply List.countP_eq_zero.mpr
            intro other member passesToo
            have passesFirst := down first other (least other member) passesToo
            rw [passes] at passesFirst
            cases passesFirst
          rw [List.countP_cons_of_neg (by simp [passes]), none]
          simp only [Nat.not_lt_zero, iff_false]
          cases position with
          | zero =>
              cases isAt
              simp [passes]
          | succ position =>
              rw [ih others isAt, none]
              exact Nat.not_lt_zero _

theorem ranked_exists {samples : List Sample} {rank : Nat} (positive : 0 < rank)
    (within : rank ≤ samples.length) : ∃ sample ∈ samples, ranked samples rank = some sample := by
  have inside : rank - 1 < (samples.mergeSort (· ≤ ·)).length := by
    rw [List.length_mergeSort]
    omega
  refine ⟨_, ?_, List.getElem?_eq_getElem inside⟩
  exact List.mem_mergeSort.mp (List.getElem_mem inside)

theorem ranked_test_iff {samples : List Sample} {rank : Nat} {sample : Sample}
    (positive : 0 < rank) (isRanked : ranked samples rank = some sample) {test : Sample → Bool}
    (down : ∀ small large, small ≤ large → test large → test small) :
    test sample ↔ rank ≤ samples.countP test := by
  have sorted := sorted_count (List.pairwise_mergeSort' (· ≤ ·) samples) down isRanked
  rw [sorted, (List.mergeSort_perm samples _).countP_eq]
  omega

theorem ranked_le {samples : List Sample} {first second : Nat} {small large : Sample}
    (positive : 0 < first) (order : first ≤ second) (isFirst : ranked samples first = some small)
    (isSecond : ranked samples second = some large) : small ≤ large := by
  have down : ∀ lower upper : Sample, lower ≤ upper → decide (upper ≤ large) →
      decide (lower ≤ large) := by
    intro lower upper below within
    exact decide_eq_true (below.trans (of_decide_eq_true within))
  have reaches := (ranked_test_iff (by omega) isSecond down).mp (decide_eq_true le_rfl)
  exact of_decide_eq_true ((ranked_test_iff positive isFirst down).mpr (order.trans reaches))

variable [LinearOrder Bucket] {place : Sample → Bucket}

theorem ranked_place_le_iff (monotone : Monotone place) {samples : List Sample} {rank : Nat}
    {sample : Sample} (positive : 0 < rank) (isRanked : ranked samples rank = some sample)
    (bucket : Bucket) :
    place sample ≤ bucket ↔ rank ≤ samples.countP fun sample => place sample ≤ bucket := by
  have down : ∀ small large, small ≤ large → decide (place large ≤ bucket) →
      decide (place small ≤ bucket) := by
    intro small large order within
    exact decide_eq_true ((monotone order).trans (of_decide_eq_true within))
  have ranks := ranked_test_iff positive isRanked down
  rwa [decide_eq_true_eq] at ranks

theorem find_least {buckets : List Bucket} (ascending : buckets.Pairwise (· < ·))
    {bucket : Bucket} (member : bucket ∈ buckets) :
    buckets.find? (fun other => bucket ≤ other) = some bucket := by
  induction buckets with
  | nil => cases member
  | cons first rest ih =>
      obtain ⟨least, others⟩ := List.pairwise_cons.mp ascending
      rcases List.mem_cons.mp member with rfl | inRest
      · exact List.find?_cons_of_pos (decide_eq_true le_rfl)
      · rw [List.find?_cons_of_neg (by simpa using least bucket inRest)]
        exact ih others inRest

theorem find_rank (monotone : Monotone place) {samples : List Sample} {rank : Nat}
    {sample : Sample} (positive : 0 < rank) (isRanked : ranked samples rank = some sample)
    {buckets : List Bucket} (ascending : buckets.Pairwise (· < ·))
    (member : place sample ∈ buckets) :
    buckets.find? (fun bucket => rank ≤ samples.countP fun sample => place sample ≤ bucket) =
      some (place sample) := by
  simp only [← ranked_place_le_iff monotone positive isRanked]
  exact find_least ascending member

end Ranks

/-- What is below a member of an ascending list stands in front of it. -/
theorem mem_front_of_lt [LinearOrder Bucket] {front rest : List Bucket} {bucket other : Bucket}
    (ascending : (front ++ bucket :: rest).Pairwise (· < ·))
    (member : other ∈ front ++ bucket :: rest) (below : other < bucket) : other ∈ front := by
  obtain ⟨_, behind, _⟩ := List.pairwise_append.mp ascending
  have least := (List.pairwise_cons.mp behind).1
  rcases List.mem_append.mp member with inFront | inRest
  · exact inFront
  · rcases List.mem_cons.mp inRest with same | further
    · exact absurd below (same ▸ lt_irrefl _)
    · exact absurd below (least _ further).asymm

/-- Where all samples are placed into a list of buckets in ascending order, those up to a
bucket are the sum over the buckets in front of it and itself. -/
theorem count_le_eq_sum [LinearOrder Bucket] {place : Sample → Bucket} {samples : List Sample}
    {front rest : List Bucket} {bucket : Bucket}
    (ascending : (front ++ bucket :: rest).Pairwise (· < ·))
    (placed : ∀ sample ∈ samples, place sample ∈ front ++ bucket :: rest) :
    samples.countP (fun sample => place sample ≤ bucket) =
      ((front ++ [bucket]).map fun bucket =>
        samples.countP fun sample => place sample = bucket).sum := by
  obtain ⟨_, _, across⟩ := List.pairwise_append.mp ascending
  have distinct : (front ++ [bucket]).Nodup := by
    have all : (front ++ bucket :: rest).Nodup := ascending.imp ne_of_lt
    apply List.Nodup.sublist _ all
    exact (List.Sublist.refl front).append (List.singleton_sublist.mpr List.mem_cons_self)
  rw [← count_mem_eq_sum place samples distinct]
  apply List.countP_congr
  intro sample member
  simp only [decide_eq_true_eq, List.mem_append, List.mem_singleton]
  constructor
  · intro within
    rcases lt_or_eq_of_le within with below | same
    · exact .inl (mem_front_of_lt ascending (placed sample member) below)
    · exact .inr same
  · intro inside
    rcases inside with inFront | same
    · exact (across _ inFront _ List.mem_cons_self).le
    · exact same.le

end Aorta.Library.Histogram
