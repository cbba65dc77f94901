import ControlChannel.Metric.Basic

/-!
# Handling times

Samples of handling times are counted in buckets. A bucket counts every sample up to its bound; the
last one counts them all. Times are in nanoseconds, so the bounds are whole numbers. The recorder of
metrics is told of the buckets when it is installed, which a process does once.
-/

namespace ControlChannel

/-- A bucket: its bound as it is written, in seconds, and in nanoseconds. -/
structure Bucket where
  text : String
  bound : Option Nat
  deriving DecidableEq, Repr

namespace Bucket

/-- The buckets by increasing bound. -/
def all : List Bucket :=
  [⟨"0.0001", some 100000⟩, ⟨"0.0005", some 500000⟩, ⟨"0.001", some 1000000⟩,
    ⟨"0.005", some 5000000⟩, ⟨"0.01", some 10000000⟩, ⟨"0.025", some 25000000⟩,
    ⟨"0.05", some 50000000⟩, ⟨"0.1", some 100000000⟩, ⟨"0.25", some 250000000⟩,
    ⟨"+Inf", none⟩]

/-- The number of samples that the bucket counts. -/
def count (bucket : Bucket) (samples : List Nat) : Nat :=
  match bucket.bound with
  | some bound => (samples.filter (· ≤ bound)).length
  | none => samples.length

end Bucket

/-- Why the recorder of metrics cannot be installed: there is one already, and it stays. -/
def recorderInstalledMessage : String :=
  "Failed to install Prometheus metrics recorder: " ++
    "failed to install exporter as global recorder: " ++
    "attempted to set a recorder after the metrics system was already initialized"

/-- A recorder of metrics, by what it is told when it is installed: how the names of the metrics start
    that have samples, and the buckets for these. -/
structure Recorder where
  start : String
  buckets : List Bucket
  deriving DecidableEq, Repr

namespace Recorder

/-- The recorder that transports use. -/
def standard : Recorder where
  start := "bridge_inbound"
  buckets := Bucket.all

/-- Installs the recorder in a process that has this one, if any. -/
def install : Option Recorder → Except String Recorder
  | none => .ok standard
  | some _ => .error recorderInstalledMessage

/-- What a number of attempts to install the recorder answer, one after the other. -/
def attempts (installed : Option Recorder) : Nat → List (Except String Recorder)
  | 0 => []
  | n + 1 =>
      let answer := install installed
      answer :: attempts (answer.toOption.or installed) n

/-- The buckets for the samples of a series. -/
def bucketsOf (r : Recorder) (s : Series) : List Bucket :=
  if r.start.toList.isPrefixOf s.name.toList then r.buckets else []

/-- What the buckets for a series count of its samples, with their bounds as they are written. -/
def histogram (r : Recorder) (s : Series) (samples : List Nat) : List (String × Nat) :=
  (r.bucketsOf s).map fun bucket => (bucket.text, bucket.count samples)

end Recorder

end ControlChannel
