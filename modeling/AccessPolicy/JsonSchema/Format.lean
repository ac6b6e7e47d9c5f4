import AccessPolicy.Rego.Networks
import AccessPolicy.Net.MailAddress
import AccessPolicy.Net.Url
import AccessPolicy.Value.LayoutRead
import AccessPolicy.Regex.Search
/-!
# String formats of JSON schemas

`format` names a kind of string; a string that is not of that kind fails the schema. Values
that are not strings, and formats this library does not know, always pass.
-/

namespace AccessPolicy.JsonSchema

def patternHolds (pattern text : String) : Bool :=
  match Regex.Program.read pattern with
  | .ok p => p.matches text
  | .error _ => false
def readsInLayout (layouts : List String) (s : String) : Bool :=
  layouts.any fun l => (Timestamp.readLayout l s).isSome

/-- Whether a URL's path is a template, read from outside or inside braces: each `{` is closed
by a `}` after it; inside braces a `{` is a plain byte, and outside them a `}` is. -/
def templatePath : Bool → List UInt8 → Bool
  | inside, [] => !inside
  | false, 0x7B :: rest => templatePath true rest
  | true, 0x7D :: rest => templatePath false rest
  | inside, _ :: rest => templatePath inside rest

def isHostname (s : String) : Bool :=
  s.length ≤ 255 && (s.splitOn ".").all fun label =>
    let cs := label.toList
    !cs.isEmpty && cs.length ≤ 63 && cs.all (fun c => c.isAlphanum || c = '-') &&
      cs.head? ≠ some '-' && cs.getLast? ≠ some '-'

def formatHolds (format s : String) : Bool :=
  match format with
  | "date" => readsInLayout ["2006-01-02"] s
  | "time" => readsInLayout ["15:04:05Z07:00", "15:04:05"] s
  | "date-time" =>
    readsInLayout ["15:04:05", "15:04:05Z07:00", "2006-01-02", "2006-01-02T15:04:05Z07:00",
      "2006-01-02T15:04:05.999999999Z07:00"] s
  | "hostname" => isHostname s
  | "email" | "idn-email" => MailAddress.valid s
  | "ipv4" => (Rego.Networks.parseIP s).isSome && s.contains '.'
  | "ipv6" => (Rego.Networks.parseIP s).isSome && s.contains ':'
  | "uri" | "iri" => (Url.parse s).toOption.any (!·.scheme.isEmpty) && !s.contains '\\'
  | "uri-reference" | "iri-reference" => (Url.parse s).toOption.isSome && !s.contains '\\'
  | "uri-template" => (Url.parse s).toOption.any (templatePath false ·.pathBytes) && !s.contains '\\'
  | "uuid" =>
    patternHolds "^(?i)[a-f0-9]{8}-[a-f0-9]{4}-[a-f0-9]{4}-[a-f0-9]{4}-[a-f0-9]{12}$" s
  | "regex" => (Regex.Program.read s).toOption.isSome
  | "json-pointer" => patternHolds "^(?:/(?:[^~/]|~0|~1)*)*$" s
  | "relative-json-pointer" => patternHolds "^(?:0|[1-9][0-9]*)(?:#|(?:/(?:[^~/]|~0|~1)*)*)$" s
  | _ => true

end AccessPolicy.JsonSchema
