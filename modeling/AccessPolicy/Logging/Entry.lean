import AccessPolicy.Logging.Level
import AccessPolicy.Text.Printf
/-!
# Log entries

A log entry carries a level, the module of the logger, an actor and an action naming who did
what, and a message. A message is either given whole, or made from a format and values; an
entry made from a format with no values keeps the format as it is.

Entries are written one a line, timestamps left out, in one of two layouts:

* JSON: `{"level":…,"caller":…,"msg":…,"module":…,"actor":…,"action":…}`, where strings escape
  the quote, the backslash and control characters (`\n`, `\r`, `\t`, others as `\u00XX`);
* console: level, caller, message and the fields as spaced JSON, separated by tabs.

The caller appears only when asked for.
-/

namespace AccessPolicy

def systemActor : String := "sys"

def systemAction : String := "unk"

structure LogEntry where
  level : Level
  module : String
  actor : String
  action : String
  message : String
  deriving Repr, Inhabited

def logMessage (fmt : String) (args : List Value) : String :=
  if args.isEmpty then fmt else Printf.format fmt args

inductive LogFormat where
  | json
  | console
  deriving Repr, DecidableEq, Inhabited

structure LogStyle where
  format : LogFormat := .json
  caller : Option String := none
  deriving Repr, Inhabited

def logEscape (c : Char) : String :=
  if c = '"' then "\\\""
  else if c = '\\' then "\\\\"
  else if c = '\n' then "\\n"
  else if c = '\r' then "\\r"
  else if c = '\t' then "\\t"
  else if c.toNat < 0x20 then
    let h := Nat.toDigits 16 c.toNat
    "\\u00" ++ String.ofList (List.replicate (2 - h.length) '0' ++ h)
  else String.singleton c

def logQuote (s : String) : String :=
  "\"" ++ String.join (s.toList.map logEscape) ++ "\""

namespace LogEntry

def fields (e : LogEntry) : List (String × String) :=
  [("module", e.module), ("actor", e.actor), ("action", e.action)]

def render (style : LogStyle) (e : LogEntry) : String :=
  match style.format with
  | .json =>
    let head := [("level", e.level.name)] ++
      (match style.caller with
        | some c => [("caller", c)]
        | none => []) ++ [("msg", e.message)]
    "\x7b" ++ ",".intercalate ((head ++ e.fields).map fun (k, v) => logQuote k ++ ":" ++ logQuote v) ++ "\x7d"
  | .console =>
    let context := "\x7b" ++ ", ".intercalate (e.fields.map fun (k, v) => logQuote k ++ ": " ++ logQuote v) ++ "\x7d"
    "\t".intercalate ([e.level.name] ++ style.caller.toList ++ [e.message, context])

end LogEntry

/-- What a program writes to its log: entries, and texts written only when a module's logger
admits a level. -/
inductive LogItem where
  | entry (e : LogEntry)
  | text (module : String) (level : Level) (text : String)
  deriving Repr, Inhabited

def LogItem.admittedBy (item : LogItem) (settings : LevelSettings) : Bool :=
  match item with
  | .entry e => settings.enabled e.module e.level
  | .text module level _ => settings.enabled module level

def LogItem.output (settings : LevelSettings) (style : LogStyle) : LogItem → String
  | .entry e => if settings.enabled e.module e.level then e.render style ++ "\n" else ""
  | .text module level t => if settings.enabled module level then t else ""

structure Logger where
  module : String
  deriving Repr, Inhabited

namespace Logger

def log (l : Logger) (level : Level) (actor action message : String) : LogItem :=
  .entry ⟨level, l.module, actor, action, message⟩

def debug (l : Logger) (actor action message : String) : LogItem := l.log .debug actor action message

def info (l : Logger) (actor action message : String) : LogItem := l.log .info actor action message

def warn (l : Logger) (actor action message : String) : LogItem := l.log .warn actor action message

def error (l : Logger) (actor action message : String) : LogItem := l.log .error actor action message

def system (l : Logger) (level : Level) (message : String) : LogItem :=
  l.log level systemActor systemAction message

end Logger

/-- A method of the logging API: the level it logs at, whether it takes a format and values
(the methods whose name ends in `f`), and whether it logs for the system (those whose name
starts with `Sys`, which log with the system's actor and action). -/
structure LogMethod where
  level : Level
  formats : Bool
  system : Bool
  deriving Repr, Inhabited

namespace LogMethod

/-- The method of a name: `Debug`, `Info`, `Warn` or `Error` (`Trace` logs at debug), with `f`
after it for a format, and `Sys` before it for the system. -/
def ofName? (name : String) : Option LogMethod :=
  let system := name.startsWith "Sys"
  let base := if system then (name.drop 3).toString else name
  let formats := base.endsWith "f"
  let level : Option Level := match if formats then (base.dropEnd 1).toString else base with
    | "Trace" | "Debug" => some .debug
    | "Info" => some .info
    | "Warn" => some .warn
    | "Error" => some .error
    | _ => none
  level.map (⟨·, formats, system⟩)

/-- The entry a call of the method makes for a module, an actor and an action, and a message or
a format with its values. -/
def entry (m : LogMethod) (module actor action message : String) (args : List Value) : LogItem :=
  let text := if m.formats then logMessage message args else message
  if m.system then .entry ⟨m.level, module, systemActor, systemAction, text⟩
  else .entry ⟨m.level, module, actor, action, text⟩

end LogMethod

end AccessPolicy
