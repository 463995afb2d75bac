import RunningBalance.Decimal.Shortest
import RunningBalance.Metrics.Basic

/-!
# The exposition of metrics

The text format in which monitoring systems collect metrics: the families in the order of their
names, each with its help, its type and its samples. Counts are shown with the precision of a
floating-point number.
-/

set_option autoImplicit false
set_option relaxedAutoImplicit false

namespace RunningBalance.Metrics

/-- The value of a sample. -/
inductive Value
  | count (n : UInt64)
  | measure (x : Float)

def Value.write : Value → String
  | .count n => String.ofList (Decimal.ofRoundedNat n.toNat)
  | .measure x => String.ofList (Decimal.ofFloat x)

/-- Metrics of one name. A sample has what follows the name in its line, and its value. -/
structure Family where
  name : String
  help : String
  type : String
  samples : List (String × Value)

def Family.lines (family : Family) : List String :=
  ("# HELP " ++ family.name ++ " " ++ family.help) ::
    ("# TYPE " ++ family.name ++ " " ++ family.type) ::
    family.samples.map fun (suffix, value) ↦ family.name ++ suffix ++ " " ++ value.write

def counter (name help : String) (value : UInt64) : Family where
  name
  help
  type := "counter"
  samples := [("", .count value)]

/-- The label of a bucket by its upper bound. -/
def bucketSuffix (bound : String) : String :=
  "_bucket\x7ble=\"" ++ bound ++ "\"\x7d"

/-- A histogram's buckets, which include all lower ones, and then its sum and its count. -/
def histogramFamily (name help : String) (histogram : Histogram) : Family where
  name
  help
  type := "histogram"
  samples :=
    Histogram.bounds.zipWith
        (fun bound count ↦ (bucketSuffix (Value.measure bound).write, .count count))
        (Histogram.cumulative 0 histogram.counts) ++
      [(bucketSuffix "+Inf", .count histogram.observations), ("_sum", .measure histogram.sum),
        ("_count", .count histogram.observations)]

def families (metrics : Metrics) : List Family :=
  [counter "balance_entries_dropped_total"
      "Chain transfers dropped for preceding the first transfer-in" metrics.dropped,
    histogramFamily "balance_reconcile_duration_seconds" "Histogram of reconciliation latencies"
      metrics.durations,
    counter "balance_reconciliation_failures_total"
      "Total number of reconciliation passes aborted by malformed input" metrics.failures,
    counter "balance_reconciliations_total" "Total number of successful reconciliation passes"
      metrics.reconciliations]

def lines (metrics : Metrics) : List String :=
  metrics.families.flatMap Family.lines

/-- The lines of the exposition, each with its end. -/
def exposition (metrics : Metrics) : String :=
  String.join (metrics.lines.map (· ++ "\n"))

/-- The counters in one line. -/
def brief (metrics : Metrics) : String :=
  "Metrics \x7b reconciliations_total: " ++ toString metrics.reconciliations.toNat ++
    ", failures_total: " ++ toString metrics.failures.toNat ++ ", entries_dropped: " ++
    toString metrics.dropped.toNat ++ ", .. \x7d"

end RunningBalance.Metrics
