import AccessPolicy.Engine.Basic
import AccessPolicy.Engine.Metrics
import AccessPolicy.Engine.AccessLog
import AccessPolicy.Interceptor.Guard
import AccessPolicy.Snapshot.TagCache
/-!
# A deployed engine

A deployed engine carries, beside its decisions, the metrics it counts, the access log its
records go to and the environment its records name. Operations on it run in `Deployed`, a
state over the deployment:

* judging a request that does not validate counts an invalid request and leaves no record;
* judging one that does counts a decision of its service and outcome and, unless it is a
  probe, sends its record to the log;
* a reload counts the attempt by its result, and a success publishes the new snapshot to the
  gauges;
* a query for tags goes through the tag cache, if the deployment has one.

The metrics start from the snapshot of the first load.
-/

namespace AccessPolicy
structure Deployment where
  engine : Engine
  metrics : Metrics
  log : AccessLog
  env : List (String × String) := []
  tagCache : Option TagCache := none
  deriving Inhabited

abbrev Deployed := StateM Deployment

namespace Deployment

/-- Deploys an engine with an access log, its metrics counted from `metrics` and its first
snapshot published. -/
def start (engine : Engine) (log : AccessLog) (metrics : Metrics := {}) : Deployment :=
  { engine := engine, metrics := metrics.observeSnapshot engine.snapshot, log := log }

def judge (req : AccessRequest) (probe : Bool) :
    Deployed (Except RequestError (Decision × AccessRecord)) := do
  let d ← get
  match d.engine.evaluate req with
  | .error e =>
    set { d with metrics := d.metrics.observeInvalid }
    pure (.error e)
  | .ok (dec, r) =>
    let metrics := d.metrics.observeDecision req.resource.service dec.outcome
    let log := if probe then d.log else d.log.send { id := "", timestamp := "", env := d.env } r
    set { d with metrics := metrics, log := log }
    pure (.ok (dec, r))
def evaluator : Evaluator Deployed := fun req probe => do
  pure ((← judge req probe).map (·.1))

def reload : Deployed (Except EngineError Unit) := do
  let d ← get
  match d.engine.reload with
  | .ok e =>
    set { d with engine := e, metrics := d.metrics.observeReload (some e.snapshot) }
    pure (.ok ())
  | .error err =>
    set { d with metrics := d.metrics.observeReload none }
    pure (.error err)

/-- Binds a tag to a resource through the engine's set store: nothing without one, else the
failure of the write. -/
def bindTag (resource tag : String) : Deployed (Option (Except String Unit)) := do
  let d ← get
  match d.engine.bindTag resource tag with
  | none => pure none
  | some (.error msg) => pure (some (.error msg))
  | some (.ok e) =>
    set { d with engine := e }
    pure (some (.ok ()))

def tagsFor (path : ResourcePath) : Deployed (List String) := do
  let d ← get
  let (tags, cache) := d.engine.snapshot.tagsThrough d.tagCache path
  set { d with tagCache := cache }
  pure tags

def snapshot : Deployed Snapshot := do
  pure (← get).engine.snapshot

end Deployment

end AccessPolicy
