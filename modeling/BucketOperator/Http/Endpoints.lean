import BucketOperator.Metrics.Exposition

/-!
# HTTP endpoints

The metrics are served on one address and the probes on another. Only reading is allowed, and a
reader may ask for the head alone.
-/

namespace BucketOperator.Http

/-- What is served on an address. -/
inductive Site where
  | metrics
  | probes
  deriving DecidableEq, Repr

/-- An answer of an endpoint. -/
structure Page where
  status : Nat
  body : String
  deriving DecidableEq, Repr

/-- The page at a path; the operator is ready once its controller runs. -/
def Site.page? (site : Site) (registry : Metrics.Registry) (isReady : Bool) (path : String) :
    Option Page :=
  match site, path with
  | .metrics, "/metrics" => some ⟨200, registry.text⟩
  | .probes, "/healthz" => some ⟨200, "ok"⟩
  | .probes, "/readyz" => some (if isReady then ⟨200, "ok"⟩ else ⟨503, "not ready"⟩)
  | _, _ => none

/-- The path of a target, without query and fragment. -/
def pathOf (target : String) : String :=
  String.ofList (target.toList.takeWhile fun c => c != '?' && c != '#')

/-- Answer a request. -/
def Site.answer (site : Site) (registry : Metrics.Registry) (isReady : Bool)
    (method target : String) : Page :=
  match site.page? registry isReady (pathOf target) with
  | none => ⟨404, ""⟩
  | some page =>
    if method = "GET" then page
    else if method = "HEAD" then { page with body := "" }
    else ⟨405, ""⟩

end BucketOperator.Http
