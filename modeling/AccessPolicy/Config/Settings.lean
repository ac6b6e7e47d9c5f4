import AccessPolicy.Config.Layers
import AccessPolicy.Yaml.Generic
import AccessPolicy.Files.Tree
import AccessPolicy.Logging.Entry
/-!
# The program's settings

Settings are read once, at start, from three layers (see `Layers`): variables `DG_…` of the
environment, a settings file, and these defaults:

| key | default |
|---|---|
| `log.level` | `.:info` |
| `opa.unsafebuiltins` | `http.send` |
| `tags.source` | `static` |
| `tags.redis.addr` | `localhost:6379` |
| `tags.redis.prefix` | `dataguard` |
| `tags.cache.size` | `10000` |
| `reload.watch` | `false` |
| `reload.interval` | `0s` |
| `audit.k8s.podinfo` | `/etc/podinfo` |
| `interceptors` | the empty list |

The settings file is looked for in the directory `DG_CONFIG_PATH` names (the working directory
by default; `$VAR` in it is expanded, and it is made absolute), as `DG_CONFIG_FILENAME`
(`dg-config` by default) with one of the known extensions, in their order, and last without
one. It is read as YAML whatever its extension; one that does not read leaves the file layer
empty.

Reading applies the log levels twice: first those of `DG_LOG_LEVEL`, when set, before anything
else, and then those of the setting `log.level`. Levels that do not read stop the reading with
their error, which is kept: the settings read so far stay.
-/

namespace AccessPolicy.Config

/-- The variables of the environment naming the settings file's directory and name, and the
early log levels. -/
def pathVariable : String := "DG_CONFIG_PATH"

def nameVariable : String := "DG_CONFIG_FILENAME"

def levelVariable : String := "DG_LOG_LEVEL"

def fileExtensions : List String :=
  ["json", "toml", "yaml", "yml", "properties", "props", "prop", "hcl", "tfvars", "dotenv", "env",
    "ini"]

def logger : Logger := ⟨"dataguard.config"⟩
def Environment.valueOf (env : Environment) (name : String) : String :=
  (env.lookup name).getD ""

def specialVariable (c : Char) : Bool :=
  "*#$@!?-".toList.contains c || ('0' ≤ c && c ≤ '9')
def nameChar (c : Char) : Bool :=
  c == '_' || ('a' ≤ c && c ≤ 'z') || ('A' ≤ c && c ≤ 'Z') || ('0' ≤ c && c ≤ '9')

/-- The variable name at the start of the text after a `$`, and how many characters it takes:
`{name}`, a special character, or a run of name characters. A name of no characters that takes
some is bad syntax, eaten; one that takes none leaves the `$` as it is. -/
def shellName (s : List Char) : String × Nat :=
  match s with
  | '{' :: c :: '}' :: _ => if specialVariable c then (String.singleton c, 3) else braced
  | '{' :: _ => braced
  | c :: _ =>
    if specialVariable c then (String.singleton c, 1)
    else
      let name := s.takeWhile nameChar
      (String.ofList name, name.length)
  | [] => ("", 0)
where
  braced : String × Nat :=
    let after := s.drop 1
    let inner := after.takeWhile (· != '}')
    if inner.length == after.length then ("", 1)
    else if inner.isEmpty then ("", 2)
    else (String.ofList inner, inner.length + 2)

def expandChars (env : Environment) : List Char → List Char
  | '$' :: c :: rest =>
    let (name, width) := shellName (c :: rest)
    let out := if name.isEmpty then (if width > 0 then [] else ['$']) else (env.valueOf name).toList
    out ++ expandChars env ((c :: rest).drop width)
  | c :: rest => c :: expandChars env rest
  | [] => []
termination_by cs => cs.length
decreasing_by
  all_goals simp_wf
  all_goals (try simp only [List.length_drop, List.length_cons])
  all_goals omega

def expandVariables (env : Environment) (s : String) : String :=
  String.ofList (expandChars env s.toList)

/-- The absolute, clean form of a directory named in the environment: `$HOME` at its start is
the home directory, variables are expanded, and a relative name is read from the working
directory. -/
def absoluteDir (env : Environment) (workDir : String) (dir : String) : String :=
  let dir := if dir == "$HOME" || dir.startsWith "$HOME/" then
      env.valueOf "HOME" ++ (dir.drop 5).toString
    else dir
  let dir := expandVariables env dir
  if FilePath.isAbsolute dir || workDir.isEmpty then FilePath.clean dir
  else FilePath.join workDir dir
def defaultLayers (env : Environment) : Layers :=
  let base : Layers := { env := env, envPrefix := "DG" }
  [("log.level", Value.text ".:info"),
    ("opa.unsafebuiltins", .text "http.send"),
    ("tags.source", .text "static"),
    ("tags.redis.addr", .text "localhost:6379"),
    ("tags.redis.prefix", .text "dataguard"),
    ("tags.cache.size", .int .int 10000),
    ("reload.watch", .bool false),
    ("reload.interval", .text "0s"),
    ("audit.k8s.podinfo", .text "/etc/podinfo"),
    ("interceptors", .list [])].foldl (fun L (k, v) => L.setDefault k v) base

/-- The settings file in a directory: a file of the name with a known extension, or of the name
alone. -/
def findFile (tree : FileTree) (dir name : String) : Option String :=
  ((fileExtensions.map fun ext => FilePath.join dir (name ++ "." ++ ext)) ++
    [FilePath.join dir name]).find? fun p => match tree.stat p with
      | .ok .file => true
      | _ => false

end AccessPolicy.Config

namespace AccessPolicy

structure Settings where
  layers : Config.Layers
  fileUsed : String := ""
  loadError : Option String := none
  levels : LevelSettings
  logs : List LogItem := []
  deriving Inhabited

namespace Settings

open Config
def note (s : Settings) (item : LogItem) : Settings :=
  if item.admittedBy s.levels then { s with logs := s.logs ++ [item] } else s

/-- Applies a log level setting: the settings with the new levels, or with the error kept and
logged under `what`. -/
def applyLevels (s : Settings) (what spec : String) : Settings :=
  let (levels, bad) := s.levels.apply spec
  let s := { s with levels := levels }
  if bad.isEmpty then s
  else
    let msg := LevelSettings.invalidMessage bad
    { s with loadError := some msg }.note
      (logger.system .error ("Failed updating " ++ what ++ " " ++ spec ++ ": " ++ msg))

/-- Reads the settings from an environment and a file tree whose root is the working directory,
under the log levels in force before. -/
def read (env : Config.Environment) (tree : FileTree) (levels : LevelSettings) : Settings :=
  let start : Settings := { layers := defaultLayers env, levels := levels }
  let early := env.valueOf levelVariable
  let s := if early.isEmpty then start else start.applyLevels "early log level" early
  if s.loadError.isSome then s
  else
    let dirText := (env.lookup pathVariable).getD "."
    let name := (env.lookup nameVariable).getD "dg-config"
    let shown := dirText ++ "/" ++ name ++ ".yaml"
    let s := s.note (logger.system .debug ("Loading configuration from " ++ shown))
    let found := if dirText.isEmpty then none
      else findFile tree (absoluteDir env tree.root dirText) name
    let notFound := logger.system .debug ("No config file found at " ++ shown)
    let s := match found with
      | none => s.note notFound
      | some f =>
        let s := { s with fileUsed := f }
        match tree.readFile f with
        | .error e =>
          (s.note (logger.system .warn ("error reading config; using defaults: " ++ e))).note notFound
        | .ok text =>
          match Yaml.readSettings text with
          | .error e =>
            (s.note (logger.system .warn
              ("error reading config; using defaults: While parsing config: " ++ e))).note notFound
          | .ok m => { s with layers := { s.layers with file := m } }
    s.applyLevels "log level" (s.layers.getText "log.level")

def get (s : Settings) (key : String) : Value := s.layers.get key

def getText (s : Settings) (key : String) : String := s.layers.getText key

def policyPaths (s : Settings) : List String :=
  let base := if s.fileUsed.isEmpty then "" else FilePath.dir s.fileUsed
  (s.layers.getTexts "policy.paths").map fun p =>
    if !base.isEmpty && !FilePath.isAbsolute p then FilePath.join base p else p

/-- The names of the interceptors to install: each listed text split at commas, blank parts
left out. -/
def interceptors (s : Settings) : List String :=
  (s.layers.getTexts "interceptors").flatMap fun n =>
    ((n.splitOn ",").map CharClass.trimBlank).filter (!·.isEmpty)

/-- The lines of a text as a line scanner gives them: split at line feeds, a carriage return
before one dropped, no empty line after the last line feed. -/
def textLines (text : String) : List String :=
  let parts := text.splitOn "\n"
  let parts := if parts.getLast? == some "" then parts.dropLast else parts
  parts.map fun l => if l.endsWith "\r" then (l.dropEnd 1).toString else l

def trimChar (c : Char) (s : String) : String :=
  String.ofList (((s.toList.dropWhile (· == c)).reverse.dropWhile (· == c)).reverse)

/-- The pod labels in a labels file: lines `key=value`, trimmed, the value without quotes at its
ends; lines without `=` or with an empty key are passed over. -/
def parseLabels (text : String) : List (String × String) :=
  (textLines text).foldl (fun acc line =>
    let line := CharClass.trimBlank line
    match line.splitOn "=" with
    | key :: rest@(_ :: _) =>
      if key.isEmpty then acc
      else
        let value := trimChar '"' ("=".intercalate rest)
        (acc.filter (·.1 != key)) ++ [(key, value)]
    | _ => acc) []

/-- The pod labels of the directory `audit.k8s.podinfo`, from its file `labels`: none when there
is no such file, and none, with a warning, when it does not read. -/
def podLabels (s : Settings) (tree : FileTree) : List (String × String) × List LogItem :=
  let p := FilePath.join (s.getText "audit.k8s.podinfo") "labels"
  match tree.readFile p with
  | .ok text => (parseLabels text, [])
  | .error e =>
    if e.endsWith "no such file or directory" then ([], [])
    else ([], [logger.system .warn ("failed to read k8s labels from " ++ p ++ ": " ++ e)])

/-- The metadata access records carry: each `audit.env` entry naming a variable gives that
variable's value (empty when unset), and each pod label `k` gives `k8s.label.k`. -/
def auditEnv (s : Settings) (tree : FileTree) : List (String × String) × List LogItem :=
  let fromEnv := (s.layers.getTextMap "audit.env").map fun (k, var) => (k, s.layers.env.valueOf var)
  let (labels, logs) := s.podLabels tree
  (labels.foldl (fun acc (k, v) =>
    let key := "k8s.label." ++ k
    (acc.filter (·.1 != key)) ++ [(key, v)]) fromEnv, logs)

end Settings

end AccessPolicy
