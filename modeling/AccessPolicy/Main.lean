import AccessPolicy.Cli.Program
import Std.Time
/-!
# The command line of `dg`

Runs the program on the real surroundings. The program itself reads a file tree, an
environment and the standard input as values, so they are gathered first:

* the environment variables of the settings, of every key and of every prefix of a key, with
  `HOME` and the variables that `audit.env` names;
* the files the program may read: the settings files it looks for, the paths named on the
  command line, and the policy paths and pod labels the settings name. A path that is a
  directory is known as an empty directory, since its entries are not listed;
* the standard input, read only when a request is read from it.

Decisions get version 4 ids drawn from a random seed, and are stamped with the time the run
starts.
-/

namespace AccessPolicy.Cli

def settingKeys : List String :=
  ["log.level", "policy.paths", "opa.unsafebuiltins", "tags.source", "tags.redis.addr",
    "tags.redis.prefix", "tags.cache.size", "reload.watch", "reload.interval",
    "audit.k8s.podinfo", "audit.env", "audit.sqlite.path", "interceptors"]

/-- The environment variables the settings may read: those of each key and of each prefix of a
key, the variables of the settings file, and `HOME`. -/
def settingVariables : List String :=
  let layers := Config.defaultLayers []
  let prefixes := settingKeys.flatMap fun k =>
    let parts := k.splitOn "."
    (List.range parts.length).map fun i => ".".intercalate (parts.take (i + 1))
  ([Config.pathVariable, Config.nameVariable, Config.levelVariable, "HOME"] ++
    prefixes.map layers.variableOf).eraseDups

def idOfBytes (bytes : List UInt8) : String :=
  let marked := bytes.zipIdx.map fun (b, i) =>
    if i == 6 then (b &&& 0x0f) ||| 0x40 else if i == 8 then (b &&& 0x3f) ||| 0x80 else b
  let hex := marked.map fun b =>
    let ds := Nat.toDigits 16 b.toNat
    String.ofList (List.replicate (2 - ds.length) '0' ++ ds)
  let group := fun (a n : Nat) => String.join ((hex.drop a).take n)
  "-".intercalate [group 0 4, group 4 2, group 6 2, group 8 2, group 10 6]

def idOfSeed (seed : Nat) : String :=
  let draw := fun (acc : List UInt8 × StdGen) (_ : Nat) =>
    let (n, g) := randNat acc.2 0 255
    (acc.1 ++ [n.toUInt8], g)
  idOfBytes ((List.range 16).foldl draw ([], mkStdGen seed)).1

def readsStandardInput (args : List String) : Bool :=
  match readCommandLine program args with
  | .run path values _ =>
    let g : Given := ⟨path, values⟩
    path.map (·.name) == ["dg", "test", "decision"] && (g.text "input" == "" || g.text "input" == "-")
  | _ => false

end AccessPolicy.Cli

open AccessPolicy

def readEnvironment (names : List String) : IO Config.Environment :=
  names.filterMapM fun n => do
    match ← IO.getEnv n with
    | some v => pure (some (n, v))
    | none => pure none

def loadPath (t : FileTree) (path : String) : IO FileTree := do
  match t.locate? path with
  | none => pure t
  | some key =>
    if t.isFile key || t.isDir key then pure t
    else
      try
        pure (t.write key (← IO.FS.readFile path))
      catch e =>
        match e with
        | .inappropriateType .. => pure (t.makeDir key)
        | _ => pure t

def loadPaths (t : FileTree) (paths : List String) : IO FileTree :=
  paths.foldlM loadPath t

def main (args : List String) : IO UInt32 := do
  let cwd := toString (← IO.currentDir)
  let env ← readEnvironment Cli.settingVariables
  let dir := Config.absoluteDir env cwd
    (Config.expandVariables env (env.valueOf Config.pathVariable |> fun d => if d.isEmpty then "." else d))
  let name := env.valueOf Config.nameVariable |> fun n => if n.isEmpty then "dg-config" else n
  let candidates := (Config.fileExtensions.map fun ext => FilePath.join dir (name ++ "." ++ ext)) ++
    [FilePath.join dir name]
  let tree ← loadPaths { root := cwd } (candidates ++ args.filter (!·.startsWith "-"))
  let first := Settings.read env tree {}
  let audited := (first.layers.getTextMap "audit.env").map (·.2)
  let env ← readEnvironment (Cli.settingVariables ++ audited)
  let tree ← loadPaths tree (first.policyPaths ++
    [FilePath.join (first.getText "audit.k8s.podinfo") "labels"])
  let stdin ← if Cli.readsStandardInput args then (← IO.getStdin).readToEnd else pure ""
  let seed ← IO.getRandomBytes 8
  let seed := seed.toList.foldl (fun n b => n * 256 + b.toNat) 0
  let now ← Std.Time.Timestamp.now
  let clock := (Timestamp.ofUnixNanos now.toNanosecondsSinceUnixEpoch.val).rfc3339Nano
  let t := Cli.run
    { args := args, env := env, tree := tree, stdin := stdin,
      decisionId := fun n => Cli.idOfSeed (seed + n), clock := clock }
  IO.print t.stdout
  IO.eprint t.stderr
  pure t.exitCode.toUInt32
