import AccessPolicy.Rego.SyntaxTree
import AccessPolicy.Text.Template
/-!
# Rendering templates

`strings.render_template(template, vars)` runs a text template on the object `vars`. The
object reaches the template the way it reads back from its Rego text as JSON: numbers keep the
text they are written with, arrays are lists and objects are maps. So a set anywhere in it, a
key that is not a string, a number that is not JSON, or a text holding a character that its Rego
literal writes with an escape JSON lacks (`\a`, `\v`, `\x…` or `\U…`) makes the call undefined,
as does a template that does not read or fails to run.
-/

namespace AccessPolicy.Rego

namespace Templates

/-- Whether a text reads back from its Rego literal as JSON: each character is printable, or one
of backspace, form feed, line feed, carriage return and tab, or past U+007F and below U+10000. -/
def readsBack (s : String) : Bool :=
  s.toList.all fun c =>
    CharClass.printable c ∨ c = '\x08' ∨ c = '\x0c' ∨ c = '\n' ∨ c = '\r' ∨ c = '\t' ∨
      (0x80 ≤ c.toNat ∧ c.toNat < 0x10000)

mutual

def valueOf : Datum → Option Value
  | .null => some .null
  | .bool b => some (.bool b)
  | .number n => if SyntaxTree.isJsonNumber n then some (.numeral n) else none
  | .string s => if readsBack s then some (.text s) else none
  | .array items => (itemsOf items).map .list
  | .set _ => none
  | .object pairs => (fieldsOf pairs).map .map

def itemsOf : List Datum → Option (List Value)
  | [] => some []
  | d :: ds => do pure ((← valueOf d) :: (← itemsOf ds))
def fieldsOf : List (Datum × Datum) → Option (List (String × Value))
  | [] => some []
  | (.string k, v) :: ps =>
    if readsBack k then do pure ((k, ← valueOf v) :: (← fieldsOf ps)) else none
  | _ :: _ => none

end

def apply (name : String) (args : List Datum) : Option Datum :=
  match name, args with
  | "strings.render_template", [.string source, .object pairs] => do
    let vars ← fieldsOf pairs
    let text ← (Template.render source (.map vars)).toOption
    pure (.string text)
  | _, _ => none

end Templates

end AccessPolicy.Rego
