import AccessPolicy.Engine.Basic
import AccessPolicy.Decision.Encode
import AccessPolicy.Logging.Entry
/-!
# What the engine logs

Loading and judging write log entries through the loggers of their parts:

* the store (`registry`): `published snapshot V: P policies, T tag bindings in D` at info for
  a load that succeeds, and `reload rejected, keeping version V: …` at error for one that fails;
* the file backend (`dataguard.backend.local`): `serving P policies from [paths]` at info once
  its first load succeeds; the memory backend (`dataguard.backend.memory`) warns when it has no
  documents;
* the engine (`policyengine`), at debug, one entry per step of judging a request: the
  candidates collected, each phase change, the groups that govern the hits, the conditions of
  an ALLOW, the outcome, and the access record itself, written out indented.

A load takes no time in this model; the time is written `0s`.
-/

namespace AccessPolicy.Journal

def engineLogger : Logger := ⟨"policyengine"⟩

def storeLogger : Logger := ⟨"registry"⟩

def filesLogger : Logger := ⟨"dataguard.backend.local"⟩

def memoryLogger : Logger := ⟨"dataguard.backend.memory"⟩

def bracketed (xs : List String) : String := "[" ++ " ".intercalate xs ++ "]"

def published (s : Snapshot) : LogItem :=
  storeLogger.info "registry" "reload" ("published snapshot " ++ toString s.version ++ ": " ++
    toString s.policyCount ++ " policies, " ++ toString s.tagBindingCount ++ " tag bindings in 0s")
def rejected (kept : Nat) (err : LoadError) : LogItem :=
  storeLogger.error "registry" "reload"
    ("reload rejected, keeping version " ++ toString kept ++ ": " ++ err.message)

def loaded (kept : Nat) : Except LoadError Snapshot → List LogItem
  | .ok s => [published s]
  | .error err => [rejected kept err]

def created (documents : DocumentSource) (result : Except EngineError Engine) : List LogItem :=
  let noDocuments := match documents with
    | .named [] => [memoryLogger.warn "memory" "NewBackend"
        "no policy domains configured; every request will be rejected"]
    | _ => []
  let load := match result with
    | .ok e => loaded 0 (.ok e.snapshot)
    | .error err => loaded 0 (.error err.cause)
  let serving := match documents, result with
    | .files paths _, .ok e => [filesLogger.info "backend.local" "NewBackend"
        ("serving " ++ toString e.snapshot.policyCount ++ " policies from " ++ bracketed paths)]
    | _, _ => []
  noDocuments ++ load ++ serving

def reloaded (before : Engine) (result : Except EngineError Engine) : List LogItem :=
  match result with
  | .ok e => loaded before.version (.ok e.snapshot)
  | .error err => loaded before.version (.error err.cause)

def step (action message : String) : LogItem :=
  engineLogger.debug "policyengine" action message
def refused (err : RequestError) : List LogItem :=
  [step "evaluate" "Enter", step "evaluate" ("invalid request: " ++ err.message), step "evaluate" "Exit"]

def judged (e : Evaluation) (probe : Bool) (recordText : String) : List LogItem :=
  let d := e.decision
  let collect := step "collect" (e.path.text ++ ": " ++ toString e.groups.length ++
    " resource group(s), " ++ toString e.tagged.length ++ " tag candidate(s) for tags " ++
    bracketed e.tags)
  let governing := e.governing.map fun g =>
    step "evaluatePrincipal" ("resource group " ++ g.specificity.text ++ " governs " ++
      (if g.denies then "denies" else "allows") ++ ": " ++ toString g.hits)
  let uncovered := if e.allows.isEmpty && e.denies.isEmpty then
      [step "evaluatePrincipal" ("no policy covers " ++ e.request.principal.user ++ " " ++
        e.action.name ++ " on " ++ e.path.text ++ "; default deny")]
    else []
  let conditions := if d.allowed then
      [step "advance" "EVALUATING_PRINCIPAL -> EVALUATING_CONDITIONS",
        step "evaluateConditions" ("row filter '" ++ d.rowFilterText ++ "', masked columns " ++
          bracketed d.maskedColumns)]
    else []
  let last := if d.allowed then "EVALUATING_CONDITIONS" else "EVALUATING_PRINCIPAL"
  [step "evaluate" "Enter", collect, step "advance" "COLLECTING -> EVALUATING_PRINCIPAL"] ++
    governing ++ uncovered ++ conditions ++
    [step "advance" (last ++ " -> DECIDED"),
      step "evaluate" (e.request.principal.user ++ " " ++ e.action.name ++ " " ++ e.path.text ++
        ": " ++ d.outcome.text ++ " " ++ bracketed d.appliedPolicyIds ++ " (snapshot " ++
        toString d.snapshotVersion ++ ")"),
      step "auditDecision" ("resource: " ++ e.record.resource ++ ", decision: " ++
        d.outcome.text ++ ", options: &" ++ "\x7bProbe:" ++ (if probe then "true" else "false") ++
        "\x7d"),
      step "auditDecision" "access record:",
      .text engineLogger.module .debug (recordText ++ "\n"),
      step "evaluate" "Exit",
      step "Evaluate" ("returned from evaluate(): " ++ d.outcome.text)]

end AccessPolicy.Journal
