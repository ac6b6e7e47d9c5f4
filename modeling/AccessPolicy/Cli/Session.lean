import AccessPolicy.Config.Settings
import AccessPolicy.Engine.Journal
/-!
# A run of the program

A run reads its arguments, environment, files and standard input, and writes to its standard
output and standard error. It keeps, as it goes:

* the log levels in force, which start at `info` for every module and change when the settings
  are read;
* the settings, read at most once: later reads give the first result, failure included;
* how many decisions it has made, which numbers their ids.

Log entries go to the standard output as JSON lines, each only when the levels in force at
that moment admit it. A run ends normally, or with a failure: a message for the standard error
(none when empty) and an exit code.
-/

namespace AccessPolicy.Cli

structure Surroundings where
  args : List String
  env : Config.Environment
  tree : FileTree
  stdin : String := ""
  decisionId : Nat → String
  clock : String

structure Session where
  levels : LevelSettings := {}
  settings : Option Settings := none
  stdout : String := ""
  stderr : String := ""
  decisions : Nat := 0
  deriving Inhabited

structure Failure where
  message : String
  code : Nat := 1
  deriving Repr, Inhabited

abbrev Run := ReaderT Surroundings (ExceptT Failure (StateM Session))
def logStyle : LogStyle := { format := .json, caller := none }

def everything : LevelSettings := { default := .debug }

def say (s : String) : Run Unit :=
  modify fun st => { st with stdout := st.stdout ++ s }

def sayError (s : String) : Run Unit :=
  modify fun st => { st with stderr := st.stderr ++ s }
def note (item : LogItem) : Run Unit := do
  let st ← get
  say (item.output st.levels logStyle)

def notes (items : List LogItem) : Run Unit :=
  items.forM note

def fail (message : String) : Run α :=
  throw ⟨message, 1⟩
def settings : Run (Except String Settings) := do
  let st ← get
  let s ← match st.settings with
    | some s => pure s
    | none => do
      let sur ← read
      let s := Settings.read sur.env sur.tree st.levels
      modify fun st => { st with settings := some s, levels := s.levels }
      say (String.join (s.logs.map (·.output everything logStyle)))
      pure s
  match s.loadError with
  | some e => pure (.error e)
  | none => pure (.ok s)

def needSettings (wrap : String → String := id) : Run Settings := do
  match ← settings with
  | .ok s => pure s
  | .error e => fail (wrap e)

def nextStamp (env : List (String × String)) : Run RecordStamp := do
  let st ← get
  let sur ← read
  modify fun st => { st with decisions := st.decisions + 1 }
  pure { id := sur.decisionId st.decisions, timestamp := sur.clock, env := env }

end AccessPolicy.Cli
