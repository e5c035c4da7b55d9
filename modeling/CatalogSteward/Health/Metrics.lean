import CatalogSteward.Decimal.Shortest

/-!
# Metrics

Reconciliations, those among them that failed, and how long they took, counted
for each resource. The text of the metrics lists the families that have
series, with the counts of a histogram adding up over its buckets.
-/

set_option autoImplicit false

namespace CatalogSteward

structure SeriesLabels where
  kind : String
  inNamespace : String
  name : String
  deriving DecidableEq, Repr

abbrev Series (α : Type) := List (SeriesLabels × α)

namespace Series

def find? {α : Type} (labels : SeriesLabels) : Series α → Option α
  | [] => none
  | (key, value) :: rest => if key = labels then some value else find? labels rest

def update {α : Type} (labels : SeriesLabels) (start : α) (change : α → α) :
    Series α → Series α
  | [] => [(labels, change start)]
  | (key, value) :: rest =>
      if key = labels then (key, change value) :: rest
      else (key, value) :: update labels start change rest

/-- One more is counted. A counter has 64 bits where it is kept, but no process lives to make
`2 ^ 64` passes, so that it never wraps around and is a number without a bound here. -/
def increment (labels : SeriesLabels) (series : Series Nat) : Series Nat :=
  update labels 0 (· + 1) series

def count (labels : SeriesLabels) (series : Series Nat) : Nat :=
  (find? labels series).getD 0

end Series

/-- The upper bounds of the buckets, in seconds, each twice the one before. -/
def bucketBounds (bound : Float) : Nat → List Float
  | 0 => []
  | count + 1 => bound :: bucketBounds (bound * 2.0) count

def durationBounds : List Float :=
  bucketBounds 0.001 15

/-- How many observations there were, how many of them in each bucket, and their sum. -/
structure Histogram where
  buckets : List Nat
  count : Nat
  sum : Float

namespace Histogram

def empty : Histogram :=
  ⟨durationBounds.map fun _ => 0, 0, 0.0⟩

/-- The buckets with one more counted in the first that reaches the value. -/
def countIn (value : Float) : List Float → List Nat → List Nat
  | bound :: bounds, count :: counts =>
      if value ≤ bound then (count + 1) :: counts else count :: countIn value bounds counts
  | _, counts => counts

def observe (value : Float) (histogram : Histogram) : Histogram :=
  ⟨countIn value durationBounds histogram.buckets, histogram.count + 1, histogram.sum + value⟩

def cumulative (sum : Nat) : List Nat → List Nat
  | [] => []
  | count :: rest => (sum + count) :: cumulative (sum + count) rest

end Histogram

structure Metrics where
  reconciliations : Series Nat
  errors : Series Nat
  durations : Series Histogram

namespace Metrics

def empty : Metrics :=
  ⟨[], [], []⟩

def recordReconcile (labels : SeriesLabels) (seconds : Float) (metrics : Metrics) : Metrics :=
  { metrics with
    reconciliations := metrics.reconciliations.increment labels
    durations := Series.update labels .empty (Histogram.observe seconds) metrics.durations }

def recordError (labels : SeriesLabels) (metrics : Metrics) : Metrics :=
  { metrics with errors := metrics.errors.increment labels }

def record (labels : SeriesLabels) (seconds : Float) (failed : Bool) (metrics : Metrics) :
    Metrics :=
  let recorded := metrics.recordReconcile labels seconds
  if failed then recorded.recordError labels else recorded

end Metrics

/-! ## Text -/

/-- Numbers in metrics have a point, and a power of ten only far from it. -/
def metricLayout : Decimal.Layout :=
  ⟨-6, 21, "inf", "NaN"⟩

def labelText (name value : String) : String :=
  name ++ "=\"" ++ value ++ "\""

def SeriesLabels.texts (labels : SeriesLabels) : List String :=
  [labelText "kind" labels.kind, labelText "namespace" labels.inNamespace,
    labelText "name" labels.name]

def sampleLine (name : String) (labels : List String) (value : String) : String :=
  name ++ "\x7b" ++ ",".intercalate labels ++ "\x7d " ++ value

/-- The lines of a family, none where it has no series. -/
def familyLines (name help kind : String) (samples : List String) : List String :=
  match samples with
  | [] => []
  | _ :: _ =>
      ["# HELP " ++ name ++ " " ++ help ++ ".", "# TYPE " ++ name ++ " " ++ kind] ++ samples

def counterSamples (name : String) (series : Series Nat) : List String :=
  series.map fun entry => sampleLine (name ++ "_total") entry.1.texts (toString entry.2)

def counterLines (name help : String) (series : Series Nat) : List String :=
  familyLines name help "counter" (counterSamples name series)

def observationSample (name : String) (labels : SeriesLabels) (histogram : Histogram) : String :=
  sampleLine (name ++ "_count") labels.texts (toString histogram.count)

def histogramSamples (name : String) (labels : SeriesLabels) (histogram : Histogram) :
    List String :=
  let bounds := durationBounds.map metricLayout.text ++ ["+Inf"]
  let counts := Histogram.cumulative 0 histogram.buckets ++ [histogram.count]
  [sampleLine (name ++ "_sum") labels.texts (metricLayout.text histogram.sum),
    observationSample name labels histogram] ++
    List.zipWith
      (fun bound count =>
        sampleLine (name ++ "_bucket") (labelText "le" bound :: labels.texts) (toString count))
      bounds counts

namespace Metrics

def reconciliationsName : String := "pg_object_operator_reconciliations"

def errorsName : String := "pg_object_operator_reconciliation_errors"

def durationsName : String := "pg_object_operator_reconcile_duration_seconds"

def lines (metrics : Metrics) : List String :=
  counterLines reconciliationsName "Total number of reconciliations" metrics.reconciliations ++
    counterLines errorsName "Total number of reconciliations that ended in the ERROR phase"
      metrics.errors ++
    familyLines durationsName "Duration of reconciliation in seconds" "histogram"
      (metrics.durations.flatMap fun entry => histogramSamples durationsName entry.1 entry.2) ++
    ["# EOF"]

def text (metrics : Metrics) : String :=
  String.join (metrics.lines.map (· ++ "\n"))

/-- The lines that only count, whatever the durations were. -/
def countLines (metrics : Metrics) : List String :=
  counterSamples reconciliationsName metrics.reconciliations ++
    counterSamples errorsName metrics.errors ++
    metrics.durations.map fun entry => observationSample durationsName entry.1 entry.2

end Metrics

end CatalogSteward
