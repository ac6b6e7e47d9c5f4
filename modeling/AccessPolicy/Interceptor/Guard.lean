import AccessPolicy.Decision.Basic
import AccessPolicy.Resource.Action
/-!
# Guarding storage operations

An interceptor sits in a storage service and asks for a decision before each operation. A
guard asks for one action on one resource and lets the operation go ahead only on ALLOW. It
fails in two ways: a refusal, naming the user, action, resource and the deciding policies; or
a request that could not be judged, reported with the action and resource it was for.

Interceptors reach the engine through an evaluator: a function from a request and a probe flag
(a probe leaves no access record) to a decision, in whatever monad the engine runs in.
-/

namespace AccessPolicy

abbrev Evaluator (m : Type → Type) := AccessRequest → Bool → m (Except RequestError Decision)

inductive GuardError where
  | denied (user : String) (action : Action) (path : ResourcePath) (policyIds : List String)
  | failed (action : Action) (path : ResourcePath) (cause : RequestError)
  | unsupported (operation : String)
  | noObjects (operation : String)
  deriving Repr, Inhabited

namespace GuardError

def message : GuardError → String
  | .denied user action path ids =>
    "access denied: user '" ++ user ++ "' may not " ++ action.name ++ " " ++ path.text ++
      (if ids.isEmpty then "" else " (policies " ++ ",".intercalate ids ++ ")")
  | .failed action path cause => action.name ++ " " ++ path.text ++ ": " ++ cause.message
  | .unsupported op => "unsupported hive operation '" ++ op ++ "'"
  | .noObjects op => op ++ " names no objects"

def isDenial : GuardError → Bool
  | .denied .. => true
  | _ => false

end GuardError

def guard {m : Type → Type} [Monad m] (eval : Evaluator m) (p : Principal) (a : Action)
    (path : ResourcePath) (probe : Bool) : m (Except GuardError Decision) := do
  match ← eval ⟨p, path, a.name, none⟩ probe with
  | .error e => pure (.error (.failed a path e))
  | .ok d =>
    if d.allowed then pure (.ok d)
    else pure (.error (.denied p.user a path d.appliedPolicyIds))

def guardAll {m : Type → Type} [Monad m] (eval : Evaluator m) (p : Principal) (a : Action) :
    List ResourcePath → m (Except GuardError Unit)
  | [] => pure (.ok ())
  | r :: rs => do
    match ← guard eval p a r false with
    | .error e => pure (.error e)
    | .ok _ => guardAll eval p a rs

end AccessPolicy
