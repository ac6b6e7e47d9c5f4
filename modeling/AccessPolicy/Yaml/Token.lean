/-!
# YAML tokens and reading errors

The YAML reader works in two layers: a scanner turns characters into tokens, and a parser turns
tokens into a node tree. This module holds what the two share: positions (`Mark`), the tokens,
and the errors either layer may raise.
-/

namespace AccessPolicy.Yaml

structure Mark where
  index : Nat := 0
  line : Nat := 0
  column : Nat := 0
  deriving Repr, DecidableEq, Inhabited

inductive ScalarStyle where
  | plain
  | singleQuoted
  | doubleQuoted
  | literal
  | folded
  deriving Repr, DecidableEq, Inhabited

inductive TokenKind where
  | streamStart
  | streamEnd
  | versionDirective (major minor : Nat)
  | tagDirective (handle pfx : String)
  | documentStart
  | documentEnd
  | blockSequenceStart
  | blockMappingStart
  | blockEnd
  | flowSequenceStart
  | flowSequenceEnd
  | flowMappingStart
  | flowMappingEnd
  | blockEntry
  | flowEntry
  | key
  | value
  | aliasRef (name : String)
  | anchor (name : String)
  | tag (handle suffix : String)
  | scalar (text : String) (style : ScalarStyle)
  deriving Repr, DecidableEq, Inhabited
structure Token where
  kind : TokenKind
  start : Mark
  stop : Mark
  deriving Repr, DecidableEq, Inhabited

inductive YamlError where
  | reader (problem : String)
  | scanner (context : String) (contextMark : Mark) (problem : String) (problemMark : Mark)
  | parser (context : String) (contextMark : Mark) (problem : String) (problemMark : Mark)
  | other (message : String)
  deriving Repr, DecidableEq, Inhabited
def YamlError.line : YamlError → Nat
  | .scanner _ cm _ pm =>
    if cm.line ≠ 0 then cm.line + 1 else if pm.line ≠ 0 then pm.line + 1 else 0
  | .parser _ cm _ pm =>
    if cm.line ≠ 0 then cm.line else if pm.line ≠ 0 then pm.line else 0
  | _ => 0

def YamlError.message (e : YamlError) : String :=
  let problem := match e with
    | .reader p => p
    | .scanner _ _ p _ => p
    | .parser _ _ p _ => p
    | .other m => m
  let whereText := if e.line = 0 then "" else "line " ++ toString e.line ++ ": "
  "yaml: " ++ whereText ++ problem

end AccessPolicy.Yaml
