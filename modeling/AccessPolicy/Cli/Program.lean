import AccessPolicy.Cli.Parse
import AccessPolicy.Cli.Session
import AccessPolicy.Cli.Suite
import AccessPolicy.Interceptor.Registry
/-!
# The `dg` program

`dg` authors, tests and serves access policies. Its commands:

* `test decision` judges one request, read from a file or the standard input, and prints the
  decision as indented JSON;
* `test decisions` runs a suite of requests with expected outcomes, one line per case, and
  fails when a case does not pass;
* `serve` starts a decision point (`generic` over HTTP, or `envoy`) and runs until it is
  interrupted; here it is interrupted as soon as it listens;
* `lint` checks policy documents in three passes, each only when the one before passed: the
  YAML of each file, the document schema of each file, then the domains together, validated
  and compiled;
* `tags show` prints the tags in effect on a resource; `tags bind` binds a tag in the set
  store, which is out of reach here;
* `version` prints the version.

Policy documents come from `--bundle`, or else from the setting `policy.paths`. Settings are
read once, when a command first needs them, and set the log levels; engine logs go to the
standard output. With `--trace`, each access record is also written to the standard error.

A run ends with an exit code: 0 on success, 1 for a failure, whose message goes to the standard
error, and 3 when help is asked for a command that does not exist.
-/

namespace AccessPolicy.Cli

def version : String := "dev"

/-! ## The command tree -/

def bundleFlag : Flag :=
  { name := "bundle", aliases := ["b"], kind := .texts,
    usage := "Load PolicyDomain from `FILE` or directory.  Can be specified multiple times.  " ++
      "Defaults to policy.paths from the configuration." }

def testCommand : Command :=
  { name := "test", acts := false,
    usage := "Evaluates access requests against one or more PolicyDomain files, simplifying " ++
      "authoring and verification",
    commands := [
      { name := "decision", usage := "Evaluates a single access request and prints the decision",
        flags := [
          { name := "input", aliases := ["i"], kind := .text,
            usage := "Load the request from 'FILE', or use '-' for stdin" },
          bundleFlag] },
      { name := "decisions", usage := "Runs a YAML suite of access requests and expected outcomes",
        flags := [
          { name := "input", aliases := ["i"], kind := .text, required := true,
            usage := "Load the test suite from 'FILE'" },
          bundleFlag,
          { name := "test", kind := .texts,
            usage := "Only run tests whose name matches `PATTERN` (glob).  Can be specified " ++
              "multiple times." }] }] }

def serveCommand : Command :=
  { name := "serve", usage := "Creates a decision-point service",
    flags := [
      { name := "port", kind := .integer, usage := "The TCP port to serve on.",
        initial := some (.integer 9000) },
      { name := "protocol", aliases := ["p"], kind := .text,
        usage := "The protocol to serve.  Must be one of 'generic' or 'envoy'",
        initial := some (.text "generic") },
      bundleFlag,
      { name := "watch", kind := .switch,
        usage := "Reload policies when a PolicyDomain file changes.  Overrides reload.watch." },
      { name := "reload-interval", kind := .duration,
        usage := "Reload policies and tags every `DURATION`.  Overrides reload.interval." }] }

def lintCommand : Command :=
  { name := "lint", usage := "Validate PolicyDomain YAML files and compile their row filters",
    flags := [
      { name := "file", aliases := ["f"], kind := .texts, required := true,
        usage := "PolicyDomain YAML file or directory to lint (.yml, .yaml).  Can be specified " ++
          "multiple times." }] }

def tagsCommand : Command :=
  { name := "tags", acts := false, usage := "Inspects and manages resource tags",
    commands := [
      { name := "show", usage := "Prints the tags in effect on a resource, including inherited ones",
        flags := [
          { name := "resource", aliases := ["r"], kind := .text, required := true,
            usage := "The resource path, e.g. hive/db/table/column" },
          bundleFlag] },
      { name := "bind", usage := "Binds a tag to a resource in the redis tag source",
        flags := [
          { name := "resource", aliases := ["r"], kind := .text, required := true,
            usage := "The resource path, e.g. hbase/table/family" },
          { name := "tag", kind := .text, required := true, usage := "The tag to bind" },
          { name := "redis-addr", kind := .text,
            usage := "The redis server `HOST:PORT`.  Overrides tags.redis.addr." },
          { name := "prefix", kind := .text,
            usage := "The redis key prefix.  Overrides tags.redis.prefix." }] }] }

def program : Command :=
  { name := "dg", acts := false,
    usage := "A CLI application for authoring, testing and serving DataGuard access policies",
    flags := [
      { name := "trace", aliases := ["t"], kind := .switch,
        usage := "Enable OPA trace logging output to stderr while compiling row filters and " ++
          "evaluating requests" }],
    commands := [testCommand, serveCommand, lintCommand, tagsCommand,
      { name := "version", usage := "Prints the version" }] }

/-! ## Flags as given -/

structure Given where
  path : List Command
  values : List (String × FlagValue)

namespace Given
def value (g : Given) (name : String) : FlagValue := flagValue g.path g.values name

def isSet (g : Given) (name : String) : Bool := (g.values.lookup name).isSome

def text (g : Given) (name : String) : String :=
  match g.value name with
  | .text s => s
  | _ => ""

def texts (g : Given) (name : String) : List String :=
  match g.value name with
  | .texts xs => xs
  | _ => []

def switch (g : Given) (name : String) : Bool :=
  match g.value name with
  | .switch b => b
  | _ => false

def integer (g : Given) (name : String) : Int :=
  match g.value name with
  | .integer n => n
  | _ => 0

def duration (g : Given) (name : String) : Int :=
  match g.value name with
  | .duration d => d
  | _ => 0

end Given

/-! ## Engines -/

def setupLogger : Logger := ⟨"policyengine"⟩

def domainPaths (g : Given) : Run (List String) := do
  match g.texts "bundle" with
  | [] =>
    let s ← needSettings
    match s.policyPaths with
    | [] => fail "no policy domains: use --bundle or set policy.paths"
    | ps => pure ps
  | bundles => pure bundles
def unreachable (addr : String) : String :=
  "dial tcp " ++ addr ++ ": connect: connection refused"

/-- Whether an access log database can be opened at a path: in memory, or in a directory that
exists. -/
def databaseOpens (tree : FileTree) (path : String) : Bool :=
  path == ":memory:" ||
    match tree.stat (FilePath.dir path) with
    | .ok .directory => true
    | _ => false

/-- Makes an engine over policy paths, with an access log database when one is configured:
the engine, and the metadata its access records carry. The tag source is chosen by the setting
`tags.source`: the set store is out of reach, and an unknown source is warned about and
ignored. -/
def openEngine (paths : List String) (database : Option String) :
    Run (Engine × List (String × String)) := do
  let s ← needSettings ("error loading config: " ++ ·)
  let source := s.getText "tags.source"
  let addr := s.getText "tags.redis.addr"
  if source == "redis" then
    note (setupLogger.system .info ("tag bindings from redis at " ++ addr))
  else if source != "static" && source != "" then
    note (setupLogger.system .warn ("unknown tags.source '" ++ source ++ "'; using static bindings only"))
  let sur ← read
  if let some path := database then
    if !databaseOpens sur.tree path then
      fail "error creating policy engine: migrate access log: unable to open database file: out of memory (14)"
  let documents := DocumentSource.files paths sur.tree
  let created := match Engine.create documents none with
    | .ok e =>
      if source == "redis" then
        .error (.create (.tagSource "redis" ("redis tag index " ++
          TagSource.indexKey (s.getText "tags.redis.prefix") ++ ": " ++ unreachable addr)))
      else .ok e
    | .error err => .error err
  notes (Journal.created documents created)
  match created with
  | .error err => fail err.message
  | .ok e =>
    let (env, logs) := s.auditEnv sur.tree
    notes logs
    pure (e, env)

/-- Judges a request, logging the steps and writing the access record to the standard error
when traced: the decision and its id. -/
def decide (e : Engine) (env : List (String × String)) (traced : Bool) (req : AccessRequest) :
    Run (Except RequestError (Decision × String)) := do
  match e.snapshot.judge req with
  | .error err =>
    notes (Journal.refused err)
    pure (.error err)
  | .ok ev =>
    let stamp ← nextStamp env
    let record := ev.record.toJson stamp
    notes (Journal.judged ev false (Json.pretty record))
    if traced then sayError (Json.line record ++ "\n")
    pure (.ok (ev.decision, stamp.id))

/-- The request a written request stands for, its resource read against the engine's
snapshot. -/
def RequestEntry.toRequest (r : RequestEntry) (e : Engine) : Except String AccessRequest := do
  let path ← e.snapshot.parsePath r.resource
  pure ⟨r.principal, path, r.action, r.rowContext⟩

/-! ## The commands -/

def testDecision (g : Given) : Run Unit := do
  let sur ← read
  let input := g.text "input"
  let text ← if input == "-" || input.isEmpty then pure sur.stdin
    else match sur.tree.readFile input with
      | .ok t => pure t
      | .error e => fail e
  let entry ← match readRequest text with
    | .ok r => pure r
    | .error e => fail ("failed to parse request: " ++ e)
  let traced := g.switch "trace"
  let paths ← domainPaths g
  let (e, env) ← openEngine paths none
  let req ← match entry.toRequest e with
    | .ok r => pure r
    | .error msg => fail msg
  match ← decide e env traced req with
  | .error err => fail err.message
  | .ok (d, id) => say (Json.pretty (d.toJson id) ++ "\n")

def testDecisions (g : Given) : Run Unit := do
  let sur ← read
  let text ← match sur.tree.readFile (g.text "input") with
    | .ok t => pure t
    | .error e => fail ("failed to load test suite: failed to read test file: " ++ e)
  let suite ← match readSuite text with
    | .ok s => pure s
    | .error e => fail ("failed to load test suite: " ++ e)
  if suite.tests.isEmpty then fail "no tests found in test suite"
  let picked := pickTests suite.tests (g.texts "test")
  if picked.isEmpty then fail "no tests match the specified patterns"
  let traced := g.switch "trace"
  let paths ← domainPaths g
  let (e, env) ← openEngine paths none
  let mut passed := 0
  for t in picked do
    match t.request.toRequest e with
    | .error msg => say (t.name ++ ": ERROR (" ++ msg ++ ")\n")
    | .ok req =>
      match ← decide e env traced req with
      | .error err => say (t.name ++ ": ERROR (" ++ err.message ++ ")\n")
      | .ok (d, _) =>
        match t.problems d with
        | [] =>
          say (t.name ++ ": PASS\n")
          passed := passed + 1
        | problems => say (t.name ++ ": FAIL (" ++ "; ".intercalate problems ++ ")\n")
  say ("\n" ++ toString passed ++ "/" ++ toString picked.length ++ " tests passed\n")
  if passed < picked.length then throw ⟨"", 1⟩

def pointLogger : Logger := ⟨"dataguard.decisionpoint"⟩

def serveLogger : Logger := ⟨"dataguard"⟩

def interceptorLogger : Logger := ⟨"interceptor"⟩

def storeWatchLogger : Logger := ⟨"registry"⟩

/-- The interceptors configured, logging each as it is registered; the first entry that is
unknown or repeated fails. -/
def registerInterceptors (entries : List String) : Run (List InterceptorEntry) :=
  entries.foldlM (fun acc entry => do
    match InterceptorEntry.accept acc entry with
    | .error msg => fail msg
    | .ok x =>
      note (interceptorLogger.system .info
        ("registering interceptor " ++ x.name ++ " for service " ++ x.service))
      pure (acc ++ [x])) []

/-- The directories a file watch covers: each path, or the directory of a path that is a file,
each once. -/
def watchDirs (tree : FileTree) (paths : List String) : List String :=
  (paths.map fun p => match tree.stat p with
    | .ok .file => FilePath.dir p
    | _ => p).eraseDups
def listenAddress (port : Int) : Except String String :=
  if 0 ≤ port ∧ port ≤ 65535 then .ok ("[::]:" ++ toString port)
  else .error ("listen tcp: address " ++ toString port ++ ": invalid port")

def serve (g : Given) : Run Unit := do
  let s ← needSettings
  let database := match s.getText "audit.sqlite.path" with
    | "" => none
    | p => some p
  let paths ← domainPaths g
  let _ ← openEngine paths database
  let sur ← read
  let files := if g.isSet "watch" then g.switch "watch" else (s.get "reload.watch").asBool
  let interval := if g.isSet "reload-interval" then g.duration "reload-interval"
    else (s.get "reload.interval").asDuration
  if files || 0 < interval then
    note (serveLogger.info "serve" "watch" ("reloading policies (files: " ++
      (if files then "true" else "false") ++ ", interval: " ++ Duration.text interval ++ ")"))
    if files then
      for dir in watchDirs sur.tree paths do
        note (storeWatchLogger.debug "registry" "watch" ("watching " ++ dir))
  let protocol := g.text "protocol"
  let address ← if protocol == "generic" then do
      let set ← registerInterceptors s.interceptors
      note (serveLogger.info "serve" "start"
        ("interceptors: [" ++ " ".intercalate (set.map (·.name)) ++ "]"))
      let address ← match listenAddress (g.integer "port") with
        | .ok a => pure a
        | .error msg => fail msg
      note (pointLogger.info "generic" "start" ("Starting generic decision point on " ++ address))
      pure address
    else do
      let address ← match listenAddress (g.integer "port") with
        | .ok a => pure a
        | .error msg => fail msg
      note (pointLogger.info "envoy" "start"
        ("Starting Envoy External Authorization gRPC server on " ++ address))
      pure address
  note (serveLogger.info "serve" "start" (protocol ++ " decision point listening on " ++ address))
  note (serveLogger.info "serve" "shutdown" "Shutting down server...")
  if protocol == "generic" then
    note (pointLogger.system .info "Stopping generic decision point")
  else
    note (pointLogger.system .info "Stopped gRPC server")
    note (pointLogger.system .info "GRPC server stopped")
  note (serveLogger.info "serve" "shutdown" "Server exited gracefully.")

/-- The first check a policy file fails, as its kind and message: its YAML, then its
document schema. -/
def fileProblem (tree : FileTree) (file : String) : Option (String × String) :=
  match tree.readFile file with
  | .error e => some ("YAML", "Failed to read file: " ++ e)
  | .ok text =>
    match Yaml.readAny text with
    | .error e => some ("YAML", e)
    | .ok _ =>
      match Domain.read file text with
      | .error e => some ("SCHEMA", e)
      | .ok _ => none

def lintDomains (tree : FileTree) (files : List String) : Run Nat := do
  let loaded := files.filterMap fun f => match tree.readFile f with
    | .ok text => match Domain.read f text with
      | .ok d => some (f, d)
      | .error _ => none
    | .error _ => none
  let fileOf := fun (name : String) =>
    ((loaded.filter fun (_, d) => d.name == name).getLast?.map (·.1)).getD ""
  let domains := loaded.map (·.2)
  match validateDomains domains with
  | [] =>
    match Snapshot.build 1 domains none with
    | .error err =>
      say ("✗ Compilation failed: " ++ err.message ++ "\n")
      pure 1
    | .ok _ =>
      for d in domains do
        let disabled := (d.policies.filter fun p => !p.enabled).length
        say ("✓ " ++ fileOf d.name ++ ": domain '" ++ d.name ++ "' with " ++
          toString d.services.length ++ " service(s), " ++ toString d.policies.length ++
          " policies (" ++ toString disabled ++ " disabled), " ++ toString d.tags.length ++
          " tag binding(s)\n")
      pure 0
  | errors =>
    for err in errors do
      let file := match fileOf err.domain with
        | "" => "unknown"
        | f => f
      say ("✗ " ++ file ++ " (" ++ err.kind ++ ")\n  Error: " ++ err.text ++ "\n\n")
    say (validationSummary errors ++ "\n")
    pure errors.length

def lint (g : Given) : Run Unit := do
  let sur ← read
  let files ← match sur.tree.policyFiles (g.texts "file") with
    | .ok fs => pure fs
    | .error e => fail e
  if files.isEmpty then fail "no files specified, use --file/-f to specify YAML files to lint"
  say "Linting YAML files...\n\n"
  let mut failed := 0
  for file in files do
    if !isPolicyFileName file then
      say ("⚠ " ++ file ++ ": Unsupported file type (only .yml, .yaml supported)\n\n")
    else
      match fileProblem sur.tree file with
      | some (kind, msg) =>
        failed := failed + 1
        say ("✗ " ++ file ++ " (" ++ kind ++ ")\n  Error: " ++ msg ++ "\n\n")
      | none => pure ()
  if 0 < failed then
    say ("---\nLinting completed: " ++ toString failed ++ " file(s) with errors\n")
    fail ("linting failed: " ++ toString failed ++ " file(s) with errors")
  let problems ← lintDomains sur.tree files
  say "---\n"
  if 0 < problems then
    say ("Linting completed: " ++ toString problems ++ " error(s)\n")
    fail ("linting failed: " ++ toString problems ++ " error(s)")
  say ("All checks passed: " ++ toString files.length ++ " file(s) validated successfully\n")

def showTags (g : Given) : Run Unit := do
  let paths ← domainPaths g
  let (e, _) ← openEngine paths none
  match e.snapshot.parsePath (g.text "resource") with
  | .error msg => fail msg
  | .ok path =>
    for tag in e.tagsFor path do
      say (tag ++ "\n")

def bindTag (g : Given) : Run Unit := do
  let resource := Settings.trimChar '/' (g.text "resource")
  if let .error err := ResourcePath.parse resource 1 then fail err.message
  let tag := CharClass.trimBlank (g.text "tag")
  if tag.isEmpty then fail "tag must not be empty"
  let s ← needSettings
  let addr := if g.isSet "redis-addr" then g.text "redis-addr" else s.getText "tags.redis.addr"
  fail ("bind " ++ tag ++ " to " ++ resource ++ " at " ++ addr ++ ": " ++ unreachable addr)

def checkFlags (g : Given) : Run Unit := do
  if g.isSet "protocol" then
    let p := g.text "protocol"
    if p != "generic" && p != "envoy" then fail ("unsupported protocol: " ++ p)

def act (g : Given) : Run Unit := do
  checkFlags g
  match g.path.map (·.name) with
  | ["dg", "test", "decision"] => testDecision g
  | ["dg", "test", "decisions"] => testDecisions g
  | ["dg", "serve"] => serve g
  | ["dg", "lint"] => lint g
  | ["dg", "tags", "show"] => showTags g
  | ["dg", "tags", "bind"] => bindTag g
  | ["dg", "version"] => say (version ++ "\n")
  | _ => say (helpOf version g.path)

def dispatch : Request → Run Unit
  | .run path values _ => act ⟨path, values⟩
  | .help path => say (helpOf version path)
  | .ownHelp path => say (helpOf version path true)
  | .version => say (program.name ++ " version " ++ version ++ "\n")
  | .noTopic word => throw ⟨"No help topic for '" ++ word ++ "'", 3⟩
  | .badUsage message => do
    sayError ("Incorrect Usage: " ++ message ++ "\n\n")
    fail message
  | .missing path names => do
    say (helpOf version path)
    match names with
    | [name] => fail ("Required flag \"" ++ name ++ "\" not set")
    | _ => fail ("Required flags \"" ++ ", ".intercalate names ++ "\" not set")

structure Transcript where
  exitCode : Nat
  stdout : String
  stderr : String
  deriving Repr, Inhabited

def run (sur : Surroundings) : Transcript :=
  let (result, st) := (((dispatch (readCommandLine program sur.args)).run sur).run.run {}).run
  match result with
  | .ok () => ⟨0, st.stdout, st.stderr⟩
  | .error f =>
    ⟨f.code, st.stdout, st.stderr ++ (if f.message.isEmpty then "" else f.message ++ "\n")⟩

end AccessPolicy.Cli
