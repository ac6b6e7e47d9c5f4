import AccessPolicy.Engine.Deployment
/-!
# Watching for changes

A watch reloads a deployed engine when time passes or its policy files change, on a timeline
in milliseconds from the moment it starts:

* with an interval, a tick at every multiple of it reloads;
* with files watched, a change to a file whose name ends in `.yml` or `.yaml` (in this case
  exactly), directly in a watched directory, arms a timer for the debounce delay (250 when
  none is given); each later change sets it again, and when it runs out the engine reloads.
  The watched directories are those of the policy paths: a path that is a file stands for its
  directory, any other for itself. An engine over documents in memory watches no files. A
  watched directory that does not exist stops the watch at once, with its error;
* changes to documents happen at planned times while the watch runs.

The watch runs until its changes are made and then until it has seen a number of reloads, or
for at most a timeout after its last change. Every reload the watch causes is an event: the
version published, or why the load failed.

Of several things due at one time, a change comes first, then a timer, then a tick.
-/

namespace AccessPolicy

inductive DocumentChange where
  | put (name content : String)
  | write (path content : String)
  | remove (path : String)
  deriving Repr, Inhabited

structure WatchPlan where
  files : Bool := false
  interval : Nat := 0
  debounce : Nat := 0
  start : Nat := 40
  changes : List (Nat × DocumentChange) := []
  reloads : Nat := 1
  timeout : Nat := 600
  deriving Repr, Inhabited

structure WatchReport where
  events : List (Except String Nat)
  error : Option String := none
  deriving Repr, Inhabited

namespace Watch

def defaultDebounce : Nat := 250

def relevantName (path : String) : Bool :=
  let ext := FilePath.extension path
  ext == ".yml" || ext == ".yaml"

/-- The directories watched for policy paths of a file tree: a file's directory, any other
path itself, each once, cleaned. -/
def watchedDirs (tree : FileTree) (paths : List String) : List String :=
  (paths.map fun p => match tree.stat p with
    | .ok .file => FilePath.dir p
    | _ => FilePath.clean p).eraseDups

def missingDir (tree : FileTree) (dirs : List String) : Option String :=
  if dirs.all fun d => match tree.stat d with
    | .ok .directory => true
    | _ => false
  then none
  else some "no such file or directory"

/-- Makes a change to an engine's documents: whether it is a change to a watched file that
matters, and the engine after it. A change an engine cannot take leaves it as it is. -/
def apply (dirs : List String) (e : Engine) : DocumentChange → Bool × Engine
  | .put name content => (false, (e.put name content).getD e)
  | .write path content =>
    match e.updateFiles (·.write path content) with
    | some e2 => (dirs.contains (FilePath.dir path) && relevantName path, e2)
    | none => (false, e)
  | .remove path =>
    match e.documents with
    | .files _ tree =>
      let existed := tree.isFile path
      ((dirs.contains (FilePath.dir path)) && relevantName path && existed,
        (e.updateFiles (·.remove path)).getD e)
    | .named _ => (false, e)

structure Progress where
  pending : List (Nat × DocumentChange)
  timer : Option Nat
  tick : Nat
  seen : List (Except String Nat)
  deriving Inhabited

def reloadEvent : Deployed (Except String Nat) := do
  match ← Deployment.reload with
  | .ok () => pure (.ok (← Deployment.snapshot).version)
  | .error err => pure (.error err.cause.message)

def earliest : Option Nat → Option Nat → Option Nat
  | some a, some b => some (min a b)
  | some a, none => some a
  | none, b => b

def fire (plan : WatchPlan) (p : Progress) (tick : Option Nat) : Deployed Progress := do
  let event ← reloadEvent
  let p := { p with seen := event :: p.seen }
  match p.timer, tick with
  | some t, some k => pure (if t ≤ k then { p with timer := none } else { p with tick := k + plan.interval })
  | some _, none => pure { p with timer := none }
  | none, _ => pure { p with tick := p.tick + plan.interval }

def steps (plan : WatchPlan) (dirs : List String) (debounce deadline : Nat) :
    Nat → Progress → Deployed (List (Except String Nat))
  | 0, p => pure p.seen.reverse
  | fuel + 1, p => do
    let tick := if plan.interval > 0 then some p.tick else none
    match p.pending with
    | (t, c) :: rest =>
      if (earliest p.timer tick).all (t ≤ ·) then
        let d ← get
        let (matters, e) := apply dirs d.engine c
        set { d with engine := e }
        steps plan dirs debounce deadline fuel
          { p with pending := rest, timer := if matters then some (t + debounce) else p.timer }
      else steps plan dirs debounce deadline fuel (← fire plan p tick)
    | [] =>
      if p.seen.length ≥ plan.reloads then pure p.seen.reverse
      else match earliest p.timer tick with
        | some t =>
          if t < deadline then steps plan dirs debounce deadline fuel (← fire plan p tick)
          else pure p.seen.reverse
        | none => pure p.seen.reverse

def timed (start : Nat) : List (Nat × DocumentChange) → List (Nat × DocumentChange)
  | [] => []
  | (after, c) :: rest => (start + after, c) :: timed (start + after) rest

end Watch

def Deployment.watch (plan : WatchPlan) : Deployed WatchReport := do
  let d ← get
  let (dirs, tree) := match d.engine.documents with
    | .files paths tree => (if plan.files then Watch.watchedDirs tree paths else [], tree)
    | .named _ => ([], {})
  let pending := Watch.timed plan.start plan.changes
  let last := (pending.getLast?.map (·.1)).getD plan.start
  match Watch.missingDir tree dirs with
  | some err =>
    for (_, c) in pending do
      let d ← get
      set { d with engine := (Watch.apply dirs d.engine c).2 }
    pure ⟨[], some err⟩
  | none =>
    let debounce := if plan.debounce == 0 then Watch.defaultDebounce else plan.debounce
    let deadline := last + plan.timeout
    let fuel := 2 * pending.length + deadline / max plan.interval 1 + 2
    let events ← Watch.steps plan dirs debounce deadline fuel
      ⟨pending, none, plan.interval, []⟩
    pure ⟨events, none⟩

end AccessPolicy
