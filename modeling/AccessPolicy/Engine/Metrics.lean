import AccessPolicy.Snapshot.Basic
import AccessPolicy.Decision.Basic
/-!
# Decision metrics

An engine counts what it does in six families of series. A family has a name, a help text, a
kind and samples told apart by their labels:

| family | kind | labels | counts |
|---|---|---|---|
| `dataguard_decision_duration_seconds` | histogram | service | decisions timed |
| `dataguard_decisions_total` | counter | outcome, service | decisions reached |
| `dataguard_invalid_requests_total` | counter | | requests refused before judging |
| `dataguard_policy_reloads_total` | counter | result | reloads, `success` or `failure` |
| `dataguard_snapshot_policies` | gauge | | policies of the active snapshot |
| `dataguard_snapshot_version` | gauge | | version of the active snapshot |

A family with labels appears once it has a sample. Families come in ascending order of name,
and samples in ascending order of their label values, the labels taken in order of name.

Durations are not measured here: a decision takes no time, so a histogram sample falls in
every bucket and its sum is zero.

The exposition text gives each family as a `# HELP` line, a `# TYPE` line and one line per
sample, a histogram sample as its cumulative buckets, its sum and its count. Numbers are
written as the shortest general form of a binary float: positional below a million, then a
mantissa and a signed exponent of at least two digits (`1e+06`).
-/

namespace AccessPolicy
abbrev Labels := List (String × String)

def tally (labels : Labels) : List (Labels × Nat) → List (Labels × Nat)
  | [] => [(labels, 1)]
  | (l, n) :: rest => if l == labels then (l, n + 1) :: rest else (l, n) :: tally labels rest

inductive MetricKind where
  | counter
  | gauge
  | histogram
  deriving Repr, DecidableEq, Inhabited

def MetricKind.text : MetricKind → String
  | .counter => "counter"
  | .gauge => "gauge"
  | .histogram => "histogram"

/-- A sample of a family: its labels and its value, for a histogram the number of
observations. -/
structure Sample where
  labels : Labels
  value : Nat
  deriving Repr, DecidableEq, Inhabited

structure Family where
  name : String
  help : String
  kind : MetricKind
  samples : List Sample
  deriving Repr, Inhabited

structure Metrics where
  decisions : List (Labels × Nat) := []
  timed : List (Labels × Nat) := []
  invalid : Nat := 0
  reloads : List (Labels × Nat) := []
  version : Nat := 0
  policies : Nat := 0
  deriving Repr, Inhabited

namespace Metrics

def observeDecision (m : Metrics) (service : String) (outcome : Outcome) : Metrics :=
  { m with decisions := tally [("outcome", outcome.text), ("service", service)] m.decisions,
           timed := tally [("service", service)] m.timed }

def observeInvalid (m : Metrics) : Metrics :=
  { m with invalid := m.invalid + 1 }

def observeSnapshot (m : Metrics) (s : Snapshot) : Metrics :=
  { m with version := s.version, policies := s.policyCount }

def observeReload (m : Metrics) : Option Snapshot → Metrics
  | some s => { m with reloads := tally [("result", "success")] m.reloads }.observeSnapshot s
  | none => { m with reloads := tally [("result", "failure")] m.reloads }
def valuesBefore : List String → List String → Bool
  | [], _ :: _ => true
  | a :: as, b :: bs => a < b || (a == b && valuesBefore as bs)
  | _, _ => false

def samplesOf (counts : List (Labels × Nat)) : List Sample :=
  (counts.mergeSort fun a b => !valuesBefore (b.1.map (·.2)) (a.1.map (·.2))).map
    fun (l, n) => ⟨l, n⟩

/-- The families of the series, in ascending order of name; a family with labels and no
sample is left out. -/
def families (m : Metrics) : List Family :=
  let all : List Family := [
    ⟨"dataguard_decision_duration_seconds", "Time to reach a decision.", .histogram,
      samplesOf m.timed⟩,
    ⟨"dataguard_decisions_total", "Access decisions by service and outcome.", .counter,
      samplesOf m.decisions⟩,
    ⟨"dataguard_invalid_requests_total", "Requests rejected before evaluation.", .counter,
      [⟨[], m.invalid⟩]⟩,
    ⟨"dataguard_policy_reloads_total", "Policy reload attempts by result.", .counter,
      samplesOf m.reloads⟩,
    ⟨"dataguard_snapshot_policies", "Policies in the active snapshot.", .gauge,
      [⟨[], m.policies⟩]⟩,
    ⟨"dataguard_snapshot_version", "Version of the active policy snapshot.", .gauge,
      [⟨[], m.version⟩]⟩]
  all.filter (!·.samples.isEmpty)

end Metrics

namespace Exposition
def bucketBounds : List String :=
  ["1e-05", "5e-05", "0.0001", "0.0005", "0.001", "0.005", "0.01", "0.05", "+Inf"]

/-- A count as the shortest general form of a binary float: positional below a million, else
the significant digits with a point after the first and a signed two-digit exponent. -/
def number (n : Nat) : String :=
  let digits := toString n
  if n < 1000000 then digits
  else
    let significant := (digits.toList.reverse.dropWhile (· == '0')).reverse
    let mantissa := match significant with
      | [d] => String.singleton d
      | d :: rest => String.singleton d ++ "." ++ String.ofList rest
      | [] => "0"
    let e := toString (digits.length - 1)
    mantissa ++ "e+" ++ (if e.length < 2 then "0" ++ e else e)

def escapeValue (s : String) : String :=
  String.join (s.toList.map fun c =>
    if c == '\\' then "\\\\" else if c == '"' then "\\\"" else if c == '\n' then "\\n"
    else String.singleton c)
def escapeHelp (s : String) : String :=
  String.join (s.toList.map fun c =>
    if c == '\\' then "\\\\" else if c == '\n' then "\\n" else String.singleton c)
def labelText (labels : Labels) : String :=
  if labels.isEmpty then ""
  else "\x7b" ++ ",".intercalate (labels.map fun (k, v) => k ++ "=\"" ++ escapeValue v ++ "\"") ++
    "\x7d"

def sampleLines (f : Family) (s : Sample) : List String :=
  match f.kind with
  | .histogram =>
    (bucketBounds.map fun b =>
      f.name ++ "_bucket" ++ labelText (s.labels ++ [("le", b)]) ++ " " ++ number s.value) ++
    [f.name ++ "_sum" ++ labelText s.labels ++ " 0",
     f.name ++ "_count" ++ labelText s.labels ++ " " ++ number s.value]
  | _ => [f.name ++ labelText s.labels ++ " " ++ number s.value]

def familyLines (f : Family) : List String :=
  ["# HELP " ++ f.name ++ " " ++ escapeHelp f.help, "# TYPE " ++ f.name ++ " " ++ f.kind.text] ++
    f.samples.flatMap (sampleLines f)

def contentType : String := "text/plain; version=0.0.4; charset=utf-8; escaping=underscores"

end Exposition

def Metrics.exposition (m : Metrics) : String :=
  String.join ((m.families.flatMap Exposition.familyLines).map (· ++ "\n"))

end AccessPolicy
