import ControlChannel.Metric.Duration

/-!
# Buckets of handling times

The buckets are cumulative: a sample is counted from the first bucket whose bound it does not exceed
up to the last one, which has no bound. Only handling times have buckets, and a recorder that was
installed keeps them, since no other one takes its place.
-/

namespace ControlChannel

namespace Bucket

variable {a b : Bucket} {buckets : List Bucket}

/-- The bucket counts the sample. -/
def covers (bucket : Bucket) (sample : Nat) : Bool :=
  bucket.bound.all (sample ≤ ·)

/-- The bound of the first bucket does not exceed that of the other one. -/
def atMost (a b : Bucket) : Bool :=
  b.bound.all fun bound => a.bound.any (· ≤ bound)

theorem covers_of_atMost {sample : Nat} (atMost : a.atMost b = true)
    (covers : a.covers sample = true) : b.covers sample = true := by
  unfold Bucket.covers Bucket.atMost at *
  rw [Option.all_eq_true] at *
  intro bound found
  obtain ⟨least, there, le⟩ := (Option.any_eq_true ..).1 (atMost bound found)
  have within := of_decide_eq_true (covers least there)
  exact decide_eq_true (Nat.le_trans within (of_decide_eq_true le))

theorem count_eq (bucket : Bucket) (samples : List Nat) :
    bucket.count samples = samples.countP bucket.covers := by
  unfold count covers
  cases bucket.bound with
  | none => exact (List.countP_eq_length.2 fun _ _ => rfl).symm
  | some bound => exact List.countP_eq_length_filter.symm

theorem count_concat (bucket : Bucket) (samples : List Nat) (sample : Nat) :
    bucket.count (samples ++ [sample]) =
      bucket.count samples + if bucket.covers sample = true then 1 else 0 := by
  rw [count_eq, count_eq, List.countP_append, List.countP_singleton]

theorem count_le_count (atMost : a.atMost b = true) (samples : List Nat) :
    a.count samples ≤ b.count samples := by
  rw [count_eq, count_eq]
  exact List.countP_mono_left fun _ _ => covers_of_atMost atMost

/-- A sample falls in some place among buckets by increasing bound. The induction is on the buckets:
    from the first one that covers the sample, all the others do. -/
theorem exists_split (ascending : buckets.Pairwise fun a b => a.atMost b = true) (sample : Nat) :
    ∃ narrow wide, buckets = narrow ++ wide ∧ (∀ bucket ∈ narrow, bucket.covers sample = false) ∧
      ∀ bucket ∈ wide, bucket.covers sample = true := by
  induction ascending with
  | nil => exact ⟨[], [], rfl, List.forall_mem_nil _, List.forall_mem_nil _⟩
  | @cons bucket rest first _ ih =>
    cases covers : bucket.covers sample with
    | true =>
      refine ⟨[], bucket :: rest, rfl, List.forall_mem_nil _, List.forall_mem_cons.2 ⟨covers, ?_⟩⟩
      exact fun other mem => covers_of_atMost (first other mem) covers
    | false =>
      obtain ⟨narrow, wide, rfl, below, above⟩ := ih
      exact ⟨bucket :: narrow, wide, rfl, List.forall_mem_cons.2 ⟨covers, below⟩, above⟩

theorem ascending_all : all.Pairwise fun a b => a.atMost b = true := by
  decide

end Bucket

namespace Recorder

/-! ## Installation -/

/-- Where a recorder is installed, no attempt succeeds. -/
theorem attempts_of_some (installed : Recorder) (n : Nat) :
    attempts (some installed) n = List.replicate n (.error recorderInstalledMessage) := by
  induction n with
  | zero => rfl
  | succ n ih => exact congrArg (_ :: ·) ih

/-- Of all attempts to install a recorder in a process, the first one succeeds, and the others are
    told that there is one. -/
theorem attempts_of_none (n : Nat) : attempts none (n + 1) =
    .ok standard :: List.replicate n (.error recorderInstalledMessage) :=
  congrArg (_ :: ·) (attempts_of_some standard n)

/-! ## Histograms -/

/-- Handling times have buckets, and no other metric has. -/
theorem bucketsOf_series (metric : Metric) : standard.bucketsOf metric.series =
    match metric with
    | .handled _ => Bucket.all
    | _ => [] := by
  unfold bucketsOf standard
  cases metric <;> simp [Metric.series, Series.sent, Series.received, Series.dropped,
    Series.unhandled, Series.routed, Series.handled]

/-- What the buckets count does not fall from one to the next, and the last one counts all samples,
    whatever the kind of the message. One sample more adds one to the buckets whose bounds it
    does not exceed, which are the last ones, and nothing to the others. -/
theorem histogram_handled (kind : Kind) (samples : List Nat) :
    let counted := standard.histogram (Metric.handled kind).series
    (counted samples).Pairwise (·.2 ≤ ·.2) ∧
    (counted samples).getLast? = some ("+Inf", samples.length) ∧
    ∀ sample, ∃ narrow wide, Bucket.all = narrow ++ wide ∧
      (∀ bucket ∈ narrow, bucket.covers sample = false) ∧
      (∀ bucket ∈ wide, bucket.covers sample = true) ∧
      counted (samples ++ [sample]) =
        narrow.map (fun bucket => (bucket.text, bucket.count samples)) ++
          wide.map fun bucket => (bucket.text, bucket.count samples + 1) := by
  intro counted
  have whole (samples : List Nat) : counted samples =
      Bucket.all.map fun bucket => (bucket.text, bucket.count samples) := by
    unfold counted histogram
    rw [bucketsOf_series]
  refine ⟨?_, ?_, fun sample => ?_⟩
  · rw [whole]
    exact Bucket.ascending_all.map _ fun a b atMost => Bucket.count_le_count atMost samples
  · rw [whole]
    rfl
  · obtain ⟨narrow, wide, split, below, above⟩ :=
      Bucket.exists_split Bucket.ascending_all sample
    refine ⟨narrow, wide, split, below, above, ?_⟩
    rw [whole, split, List.map_append]
    congr 1
    · refine List.map_congr_left fun bucket mem => ?_
      rw [Bucket.count_concat, below bucket mem]
      rfl
    · refine List.map_congr_left fun bucket mem => ?_
      rw [Bucket.count_concat, above bucket mem]
      rfl

end Recorder

end ControlChannel
