import AccessPolicy.Yaml.Generic
import AccessPolicy.Decision.Basic
import AccessPolicy.Glob.Compile
/-!
# Requests and test suites as documents

A request is written as a YAML (or JSON) mapping:

```
principal: {user: dave, groups: [dev]}
resource: hive/default/words
action: read
rowContext: {count: 90}
```

A test suite is a mapping whose `tests` list holds test cases: a `name`, a `description`, a
`request`, the expected `result` (`allow` or `deny`, in any case), and optionally the expected
`policies`, `rowFilter`, `maskedColumns` and `rowMatch`, each checked only when present. An
expectation that is present but empty (`policies: []`) is checked; one that is null is not.

A case passes when the decision agrees with every expectation; otherwise each disagreement is
reported as `expected …, got …`. Cases may be picked by name with glob patterns; a pattern that
is not a glob matches the name written exactly.
-/

namespace AccessPolicy.Cli

open Yaml

structure RequestEntry where
  principal : Principal := ⟨"", []⟩
  resource : String := ""
  action : String := ""
  rowContext : Option Row := none
  deriving Repr, Inhabited

structure TestCase where
  name : String := ""
  description : String := ""
  request : RequestEntry := {}
  result : String := ""
  policies : Option (List String) := none
  rowFilter : Option String := none
  maskedColumns : Option (List String) := none
  rowMatch : Option Bool := none
  deriving Repr, Inhabited

structure TestSuite where
  tests : List TestCase := []
  deriving Repr, Inhabited
def asPresentStrings (n : Node) : DecodeM (Option (List String)) := do
  if n.shortTagOf = "!!null" then
    countShallow n
    return none
  asList "[]string" asString n

def asPrincipal : Node → DecodeM (Option Principal) :=
  asRecord "types.Principal" ⟨"", []⟩ fun
    | "user" => some (setWith asString fun p v => { p with user := v })
    | "groups" => some (setWith (asList "[]string" asString) fun p v => { p with groups := v })
    | _ => none

def asRequestEntry : Node → DecodeM (Option RequestEntry) :=
  asRecord "test.Request" {} fun
    | "principal" => some (setWith asPrincipal fun r v => { r with principal := v })
    | "resource" => some (setWith asString fun r v => { r with resource := v })
    | "action" => some (setWith asString fun r v => { r with action := v })
    | "rowContext" => some fun n r => do
      let isNull := n.shortTagOf = "!!null"
      match ← asAnyMap n with
      | some m => return { r with rowContext := some m }
      | none => return (if isNull then { r with rowContext := none } else r)
    | _ => none

def asTestCase : Node → DecodeM (Option TestCase) :=
  asRecord "test.TestCase" {} fun
    | "name" => some (setWith asString fun t v => { t with name := v })
    | "description" => some (setWith asString fun t v => { t with description := v })
    | "request" => some (setWith asRequestEntry fun t v => { t with request := v })
    | "result" => some (setWith asString fun t v => { t with result := v })
    | "policies" => some fun n t => do return { t with policies := ← asPresentStrings n }
    | "rowFilter" => some fun n t => do return { t with rowFilter := ← asString n }
    | "maskedColumns" => some fun n t => do return { t with maskedColumns := ← asPresentStrings n }
    | "rowMatch" => some fun n t => do return { t with rowMatch := ← asBool n }
    | _ => none

def asTestItem (n : Node) : DecodeM (Option TestCase) := do
  if n.shortTagOf = "!!null" then
    countShallow n
    return some {}
  asTestCase n

def asTestSuite : Node → DecodeM (Option TestSuite) :=
  asRecord "test.TestSuite" {} fun
    | "tests" => some (setWith (asList "[]test.TestCase" asTestItem) fun s v => { s with tests := v })
    | _ => none

def readRequest (text : String) : Except String RequestEntry :=
  decodeText text asRequestEntry {}

def readSuite (text : String) : Except String TestSuite := do
  let suite ← (decodeText text asTestSuite {}).mapError ("failed to parse test file: " ++ ·)
  for (t, i) in suite.tests.zipIdx do
    let r := CharClass.lowerText t.result
    if r != "allow" && r != "deny" then
      throw ("test " ++ toString i ++ " (" ++ t.name ++ "): result must be 'allow' or 'deny', got '" ++
        t.result ++ "'")
  pure suite

def pickTests (tests : List TestCase) (patterns : List String) : List TestCase :=
  if patterns.isEmpty then tests
  else
    let matchers := patterns.map fun p => match Glob.compile p with
      | .ok m => fun (name : String) => m.acceptsText name
      | .error _ => fun name => name == p
    tests.filter fun t => matchers.any fun m => m t.name

def listText (xs : List String) : String := "[" ++ " ".intercalate xs ++ "]"

def TestCase.problems (t : TestCase) (d : Decision) : List String :=
  let want := CharClass.upperText t.result
  let outcome := if want == d.outcome.text then []
    else ["expected " ++ want ++ ", got " ++ d.outcome.text]
  let policies := match t.policies with
    | some ps => if ps == d.appliedPolicyIds then []
      else ["expected policies " ++ listText ps ++ ", got " ++ listText d.appliedPolicyIds]
    | none => []
  let filter := match t.rowFilter with
    | some f => if f == d.rowFilterText then []
      else ["expected row filter " ++ Quote.string f ++ ", got " ++ Quote.string d.rowFilterText]
    | none => []
  let masked := match t.maskedColumns with
    | some cs => if cs == d.maskedColumns then []
      else ["expected masked columns " ++ listText cs ++ ", got " ++ listText d.maskedColumns]
    | none => []
  let rowMatch := match t.rowMatch, d.rowMatch with
    | some want, some got => if want == got then []
      else ["expected row match " ++ toString want ++ ", got " ++ toString got]
    | some want, none => ["expected row match " ++ toString want ++ ", got none"]
    | none, _ => []
  outcome ++ policies ++ filter ++ masked ++ rowMatch

end AccessPolicy.Cli
