import BucketOperator.Metrics.Registry

/-!
# Text of the metrics

The registry as it is served: families in order of their names, each with a help line and a type
line, then one line for each number. Families without series are left out.
-/

namespace BucketOperator.Metrics

/-- The name of a family. -/
def familyName (name : String) : String := "object_storage_operator_" ++ name

/-- How a character of a label value is written. -/
def labelChar : Char → List Char
  | '\\' => ['\\', '\\']
  | '"' => ['\\', '"']
  | '\n' => ['\\', 'n']
  | c => [c]

/-- A label with its value. -/
def label (name value : String) : String :=
  name ++ "=\"" ++ String.ofList (value.toList.flatMap labelChar) ++ "\""

/-- A line with a number: the name, the labels, the value. -/
def sample (name : String) (labels : List (String × String)) (value : String) : String :=
  name ++ "\x7b" ++ ",".intercalate (labels.map fun (k, v) => label k v) ++ "\x7d " ++ value

/-- The lines of a family; there are none without samples. -/
def familyLines (name kind help : String) (samples : List String) : List String :=
  if samples.isEmpty then []
  else
    let name := familyName name
    s!"# HELP {name} {help}" :: s!"# TYPE {name} {kind}" :: samples

/-- The lines of a family of plain numbers. -/
def numberLines (name kind help : String) (labels : List String) (family : Family Nat) :
    List String :=
  familyLines name kind help <|
    family.map fun (values, n) => sample (familyName name) (labels.zip values) (toString n)

/-- A number of seconds as text. -/
def secondsText (x : Binary64) : String := x.render Binary64.plainStyle

/-- The lines of one histogram. -/
def histogramSamples (name : String) (labels : List (String × String)) (bounds : List Binary64)
    (h : Histogram) : List String :=
  let limits := bounds.map secondsText ++ ["+Inf"]
  (limits.zip h.cumulative).map (fun (limit, n) =>
    sample (name ++ "_bucket") (labels ++ [("le", limit)]) (toString n)) ++
  [sample (name ++ "_sum") labels (secondsText h.sum),
    sample (name ++ "_count") labels (toString h.count)]

/-- The lines of a family of histograms. -/
def histogramLines (name help : String) (labels : List String) (bounds : List Binary64)
    (family : Family Histogram) : List String :=
  familyLines name "histogram" help <|
    family.flatMap fun (values, h) =>
      histogramSamples (familyName name) (labels.zip values) bounds h

namespace Registry

/-- The families of counters and gauges that come before the provider's durations. -/
def firstLines (r : Registry) : List String :=
  numberLines "bucket_reconcile_delete_total" "gauge"
    "Buckets deleted on the provider by the operator" ["bucket_name"] r.deletions ++
  numberLines "errors_total" "counter"
    "Total number of reconciliation errors by type" ["error_type"] r.errors ++
  numberLines "leader_elections_total" "counter"
    "Total number of leader election transitions by status" ["status"] r.elections ++
  numberLines "leader_status" "gauge"
    "Current leader election status of this replica" ["pod_name"] r.leaders

def providerDurationLines (r : Registry) : List String :=
  histogramLines "provider_operation_duration_seconds"
    "Duration of cloud provider operations in seconds" ["operation", "provider"] providerBounds
    r.providerDurations

def providerCallLines (r : Registry) : List String :=
  numberLines "provider_operations_total" "counter"
    "Total number of cloud provider operations by provider, operation and status"
    ["operation", "provider", "status"] r.providerCalls

def reconcileDurationLines (r : Registry) : List String :=
  histogramLines "reconciliation_duration_seconds"
    "Duration of bucket reconciliations in seconds" ["status"] reconcileBounds
    r.reconcileDurations

def reconciliationLines (r : Registry) : List String :=
  numberLines "reconciliations_total" "counter"
    "Total number of bucket reconciliations by status" ["status"] r.reconciliations

/-- All lines. -/
def lines (r : Registry) : List String :=
  r.firstLines ++ r.providerDurationLines ++ r.providerCallLines ++ r.reconcileDurationLines ++
    r.reconciliationLines

/-- Whether a line is that of a number other than a duration. -/
def isCount (line : String) : Bool :=
  let name := String.ofList (line.toList.takeWhile (· != '\x7b'))
  !line.startsWith "#" && (name.splitOn "_duration_seconds").length == 1

/-- The lines of the counts. -/
def counts (r : Registry) : List String := r.lines.filter isCount

/-- The whole text. -/
def text (r : Registry) : String := String.join (r.lines.map (· ++ "\n"))

end Registry

end BucketOperator.Metrics
