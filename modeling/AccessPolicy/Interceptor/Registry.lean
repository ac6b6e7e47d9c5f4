import AccessPolicy.Text.CharClass
/-!
# The interceptor registry

Hosts run interceptors that ask for decisions before they act. A configuration lists them as
entries `name` or `name=service`: the interceptor named, guarding the service named (the name
itself when no service is given). Only the known interceptors may be named, each at most once.
-/

namespace AccessPolicy

structure InterceptorEntry where
  name : String
  service : String
  deriving Repr, DecidableEq, Inhabited

namespace InterceptorEntry

def known : List String := ["hbase", "hive"]

def read (entry : String) : InterceptorEntry :=
  let t := CharClass.trimBlank entry
  match t.splitOn "=" with
  | name :: rest@(_ :: _) =>
    let service := "=".intercalate rest
    ⟨name, if service.isEmpty then name else service⟩
  | _ => ⟨t, t⟩

/-- Accepts one more entry after those already accepted: the interceptor it names, or why it
cannot be, being unknown or already accepted. -/
def accept (accepted : List InterceptorEntry) (entry : String) : Except String InterceptorEntry :=
  let x := read entry
  if !known.contains x.name then
    .error ("unknown interceptor '" ++ x.name ++ "' (known: " ++ ", ".intercalate known ++ ")")
  else if accepted.any (·.name = x.name) then
    .error ("interceptor '" ++ x.name ++ "' configured twice")
  else .ok x

def build (entries : List String) : Except String (List InterceptorEntry) :=
  entries.foldlM (fun acc e => (accept acc e).map (acc ++ [·])) []

end InterceptorEntry

end AccessPolicy
