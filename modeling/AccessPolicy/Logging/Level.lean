import AccessPolicy.Text.CharClass
/-!
# Log levels

Every module logs through its own logger, whose level decides which messages it writes: a
message is written when its level is at least the logger's. A level setting names levels for
modules and a default; a module without its own level takes that of its nearest dotted parent
(`a.b` for `a.b.c`), and else the default.

A setting is written `module:level;module:level`, blanks ignored, the module `.` standing for the
default. Level names are read in any case: `fatal`, `error`, `warn` or `warning`, `info`, and
`debug` or `trace` (trace messages are debug messages). Applying a setting replaces every module
level; the default changes only when the setting names one. Entries that do not read are
reported together, after the others are applied. A logger is made on its module's first fetch,
at the level the settings then give the module, and applying a setting sets every logger anew.
-/

namespace AccessPolicy
inductive Level where
  | debug
  | info
  | warn
  | error
  | fatal
  deriving Repr, DecidableEq, Inhabited

namespace Level

def rank : Level → Nat
  | .debug => 0
  | .info => 1
  | .warn => 2
  | .error => 3
  | .fatal => 4

def name : Level → String
  | .debug => "debug"
  | .info => "info"
  | .warn => "warn"
  | .error => "error"
  | .fatal => "fatal"

def parse? (s : String) : Option Level :=
  match CharClass.lowerText s with
  | "fatal" => some .fatal
  | "error" => some .error
  | "warn" | "warning" => some .warn
  | "info" => some .info
  | "debug" | "trace" => some .debug
  | _ => none

def admits (threshold l : Level) : Bool := threshold.rank ≤ l.rank

end Level

structure LevelSettings where
  modules : List (String × Level) := []
  default : Level := .info
  deriving Repr, Inhabited

namespace LevelSettings

/-- The prefixes of a text that stand before one of its dots, shortest first. -/
def cutsAtDots : List Char → List (List Char)
  | [] => []
  | c :: cs => (if c = '.' then [[]] else []) ++ (cutsAtDots cs).map (c :: ·)

/-- The names a module's level is looked up under, longest first: the module, then the module
cut before each of its dots, from the last dot to the first. -/
def lineage (module : String) : List String :=
  module :: ((cutsAtDots module.toList).reverse.map String.ofList)

def levelFor (s : LevelSettings) (module : String) : Level :=
  if module.isEmpty then s.default
  else ((lineage module).findSome? fun m => s.modules.lookup m).getD s.default
def enabled (s : LevelSettings) (module : String) (l : Level) : Bool :=
  (s.levelFor module).admits l

/-- The blanks a setting may hold anywhere. -/
def isBlank (c : Char) : Bool := c = ' ' || c = '\t' || c = '\n' || c = '\r'

/-- The entries of a setting: its text without blanks, cut at `;`. -/
def entries (spec : String) : List String :=
  ((spec.toList.filter fun c => !isBlank c).splitOn ';').map String.ofList

/-- Reads an entry `module:level`: the module stands before the first `:` and is not empty. -/
def entryLevel? (entry : String) : Option (String × Level) :=
  match entry.toList.span (· ≠ ':') with
  | (module, _ :: level) =>
    if module.isEmpty then none else (Level.parse? (String.ofList level)).map (String.ofList module, ·)
  | (_, []) => none

/-- Takes one entry into the module levels, the default and the entries that do not read. -/
def applyEntry (acc : List (String × Level) × Option Level × List String) (entry : String) :
    List (String × Level) × Option Level × List String :=
  if entry.isEmpty then acc
  else
    match entryLevel? entry with
    | some (module, l) =>
      if module == "." then (acc.1, some l, acc.2.2)
      else (acc.1.filter (·.1 != module) ++ [(module, l)], acc.2)
    | none => (acc.1, acc.2.1, acc.2.2 ++ [entry])

def apply (s : LevelSettings) (spec : String) : LevelSettings × List String :=
  let r := (entries spec).foldl applyEntry ([], none, [])
  ({ modules := r.1, default := r.2.1.getD s.default }, r.2.2)

def invalidMessage (bad : List String) : String :=
  "invalid log level entries: " ++ ", ".intercalate bad

end LevelSettings

/-- The loggers made so far, each with the level it holds, and the settings in force. A logger
is made on its module's first fetch, at the level the settings give the module; applying a
setting sets every logger made so far anew. -/
structure LogManager where
  loggers : List (String × Level) := []
  settings : LevelSettings := {}

namespace LogManager

/-- Fetches the logger of a module, made on first use: the manager after, and its level. -/
def getLogger (m : LogManager) (module : String) : LogManager × Level :=
  match m.loggers.lookup module with
  | some l => (m, l)
  | none =>
    let l := m.settings.levelFor module
    ({ m with loggers := m.loggers ++ [(module, l)] }, l)

/-- Applies a setting: the manager after, and the error naming the entries that do not read. -/
def updateLevels (m : LogManager) (spec : String) : LogManager × Option String :=
  let (settings, bad) := m.settings.apply spec
  ({ loggers := m.loggers.map fun e => (e.1, settings.levelFor e.1), settings := settings },
    if bad.isEmpty then none else some (LevelSettings.invalidMessage bad))

end LogManager

inductive LogCall where
  | getLogger (module : String)
  | updateLevels (spec : String)

def LogManager.call (m : LogManager) : LogCall → LogManager
  | .getLogger module => (m.getLogger module).1
  | .updateLevels spec => (m.updateLevels spec).1

def LogManager.run (m : LogManager) (calls : List LogCall) : LogManager :=
  calls.foldl call m

end AccessPolicy
