import AccessPolicy.Rego.Comments
import AccessPolicy.Rego.Conflicts
import AccessPolicy.Rego.Check
import AccessPolicy.Yaml.Generic
/-!
# Metadata annotations

A module may describe its package and rules in *metadata blocks*: a comment that starts with
`METADATA`, and the comments on each following line that start in the first column. Those
comments, each without one leading blank, are a YAML document of the block's fields: `scope`,
`title`, `entrypoint`, `description`, `organizations`, `related_resources`, `authors`, `schemas`
and `custom`.
-/

namespace AccessPolicy.Rego

/-! ## Blocks -/

structure Comment where
  text : String
  loc : Loc
  deriving Repr, Inhabited

def moduleComments (file source : String) : List Comment :=
  let chars := source.toList
  (sourceComments source).map fun (text, offset) =>
    let (row, col) := lineAndColumn chars offset
    ⟨text, ⟨file, row, col⟩⟩

def trimBlanks (s : String) : String :=
  String.ofList ((s.toList.dropWhile Char.isWhitespace).reverse.dropWhile Char.isWhitespace).reverse

structure MetadataBlock where
  loc : Loc
  lines : List Comment := []
  deriving Repr, Inhabited

/-- The metadata blocks of some comments: a comment starting with `METADATA`, blanks aside,
opens a block, and each comment on the next line starting in the first column goes on it. -/
def metadataBlocks (cs : List Comment) : List MetadataBlock :=
  let step := fun (acc : List MetadataBlock × Option Comment) (c : Comment) =>
    let (blocks, prev) := acc
    let continues := match prev with
      | some p => c.loc.row == p.loc.row + 1 && c.loc.col == 1
      | none => false
    match blocks.reverse, continues with
    | b :: bs, true => ((bs.reverse ++ [{ b with lines := b.lines ++ [c] }]), some c)
    | _, _ =>
      if (trimBlanks c.text).startsWith "METADATA" then (blocks ++ [⟨c.loc, []⟩], some c)
      else (blocks, none)
  (cs.foldl step ([], none)).1

/-! ## Reading a block -/
structure RawMetadata where
  scope : String := ""
  title : String := ""
  entrypoint : Bool := false
  description : String := ""
  organizations : List String := []
  relatedResources : List Value := []
  authors : List Value := []
  schemas : List (List (String × Value)) := []
  custom : List (String × Value) := []
  deriving Inhabited

open Yaml in
def rawField : String → Option (Node → RawMetadata → DecodeM RawMetadata)
  | "scope" => some (setWith asString fun r v => { r with scope := v })
  | "title" => some (setWith asString fun r v => { r with title := v })
  | "entrypoint" => some (setWith asBool fun r v => { r with entrypoint := v })
  | "description" => some (setWith asString fun r v => { r with description := v })
  | "organizations" => some (setWith (asList "[]string" asString) fun r v => { r with organizations := v })
  | "related_resources" =>
    some (setWith (asList "[]interface \x7b\x7d" fun n => some <$> anyValue n)
      fun r v => { r with relatedResources := v })
  | "authors" =>
    some (setWith (asList "[]interface \x7b\x7d" fun n => some <$> anyValue n) fun r v => { r with authors := v })
  | "schemas" =>
    some (setWith (asList "[]map[string]interface \x7b\x7d" asAnyMap) fun r v => { r with schemas := v })
  | "custom" => some (setWith asAnyMap fun r v => { r with custom := v })
  | _ => none

/-- The line a message of the YAML reader names, when it starts `yaml: line N:` or
`yaml: unmarshal errors:` and then `line N:`. -/
def yamlLine? (message : String) : Option Nat :=
  let cs := message.toList
  if !("yaml:".toList.isPrefixOf cs) then none
  else
    let rest := cs.drop 5
    let group := " unmarshal errors:".toList
    let afterGroup := if group.isPrefixOf rest then
        let tail := rest.drop group.length
        if tail.head?.any Char.isWhitespace then some (tail.dropWhile Char.isWhitespace) else none
      else if rest.head? == some ' ' then some (rest.drop 1) else none
    afterGroup.bind fun t =>
      if "line ".toList.isPrefixOf t then
        let digits := (t.drop 5).takeWhile Char.isDigit
        if !digits.isEmpty && (t.drop (5 + digits.length)).head? == some ':' then (String.ofList digits).toNat?
        else none
      else none

/-- A character as a quoted character literal in ASCII: printable characters as they are, the
quote and the backslash escaped, others by their code. -/
def quoteRune (c : Char) : String :=
  let hex := fun (width n : Nat) =>
    let ds := (Nat.toDigits 16 n)
    String.ofList (List.replicate (width - ds.length) '0' ++ ds)
  let body := match c with
    | '\'' => "\\'"
    | '\\' => "\\\\"
    | '\x07' => "\\a"
    | '\x08' => "\\b"
    | '\x0c' => "\\f"
    | '\n' => "\\n"
    | '\r' => "\\r"
    | '\t' => "\\t"
    | '\x0b' => "\\v"
    | c =>
      if c.toNat ≥ 0x20 && c.toNat < 0x7f then String.singleton c
      else if c.toNat < 0x80 then "\\x" ++ hex 2 c.toNat
      else if c.toNat < 0x10000 then "\\u" ++ hex 4 c.toNat
      else "\\U" ++ hex 8 c.toNat
  "'" ++ body ++ "'"

/-- The hint for one line of a block whose YAML does not read: when every colon of the line is
followed by something other than a blank, and the line does not end with its colon, the
characters that follow them. -/
def colonHint (c : Comment) : Option String :=
  match c.text.splitOn ":" with
  | _ :: parts@(_ :: _) =>
    let symbols := parts.zipIdx.foldl (fun (acc : Option (List String)) (part, i) =>
      acc.bind fun found =>
        match part.toList with
        | [] => if i + 1 == parts.length then none else some (found ++ [quoteRune '\uFFFD'])
        | d :: _ => if d == ' ' || d == '\t' then none else some (found ++ [quoteRune d])) (some [])
    symbols.bind fun syms =>
      if syms.isEmpty then none
      else some ("\n  Hint: on line " ++ toString c.loc.row ++ ", symbol(s) " ++ ", ".intercalate syms ++
        " immediately following a key/value separator ':' must be followed by a space or tab")
  | _ => none

mutual

def valueText : Value → String
  | .text s => s
  | .null => "%!s(<nil>)"
  | .bool b => "%!s(bool=" ++ (if b then "true" else "false") ++ ")"
  | .int _ n => "%!s(int=" ++ toString n ++ ")"
  | .float64 x => "%!s(float64=" ++ x.text .double .general ++ ")"
  | .list items => "[" ++ " ".intercalate (valuesText items) ++ "]"
  | .map fields => "map[" ++ " ".intercalate ((fieldsText fields).mergeSort fun a b => decide (a ≤ b)) ++ "]"
  | _ => "%!s(?)"
def valuesText : List Value → List String
  | [] => []
  | v :: vs => valueText v :: valuesText vs

def fieldsText : List (String × Value) → List String
  | [] => []
  | (k, v) :: fs => (k ++ ":" ++ valueText v) :: fieldsText fs

end

def fieldText (fields : List (String × Value)) (name : String) : String :=
  match ((fields.find? (·.1 == name)).map (·.2) : Option Value) with
  | some (.text s) => trimBlanks s
  | _ => ""

def relatedResource : Value → Except String (String × String)
  | .text s => if s.isEmpty then .error "ref URL may not be empty string" else .ok (s, "")
  | .map fields =>
    let ref := fieldText fields "ref"
    if ref.isEmpty then .error "'ref' value required in object" else .ok (ref, fieldText fields "description")
  | _ => .error "invalid value type, must be string or map"

/-- An author: a name and an email address, either of which may be empty. -/
def authorOf : Value → Except String (String × String)
  | .text s =>
    let words := ((String.ofList (s.toList.map fun c => if c.isWhitespace then ' ' else c)).splitOn " ").filter
      (!·.isEmpty)
    match words.getLast? with
    | none => .error "author is an empty string"
    | some last =>
      if last.length ≥ 2 && last.startsWith "<" && last.endsWith ">" then
        .ok (" ".intercalate words.dropLast, String.ofList ((last.toList.drop 1).dropLast))
      else .ok (" ".intercalate words, "")
  | .map fields =>
    let name := fieldText fields "name"
    let email := fieldText fields "email"
    if name.isEmpty && email.isEmpty then .error "'name' and/or 'email' values required in object"
    else .ok (name, email)
  | _ => .error "invalid value type, must be string or map"

def dottedNames? (s : String) : Option (List String) :=
  let parts := s.splitOn "."
  if parts.all fun p => match p.toList with
      | c :: cs => (c.isAlpha || c == '_') && cs.all fun d => d.isAlphanum || d == '_'
      | [] => false then some parts
  else none

def schemaOf (fields : List (String × Value)) : Except String Datum :=
  let (key, value) := fields.headD ("", .null)
  match dottedNames? key with
  | none => .error "invalid document reference"
  | some path =>
    let pathD := (Datum.string "path", Datum.array (path.map .string))
    match value with
    | .text s =>
      match dottedNames? s with
      | some ("schema" :: rest) =>
        .ok (Datum.objectOf [pathD, (.string "schema", .array (("schema" :: rest).map .string))])
      | _ => .error ("invalid schema reference " ++ Quote.string s)
    | .map definition => .ok (Datum.objectOf [pathD, (.string "definition", Datum.ofValue (.map definition))])
    | _ => .error ("invalid schema declaration for path " ++ Quote.string key)

structure Metadata where
  loc : Loc
  scope : String
  title : String := ""
  entrypoint : Bool := false
  description : String := ""
  organizations : List String := []
  related : List (String × String) := []
  authors : List (String × String) := []
  schemas : List Datum := []
  custom : List (String × Value) := []
  deriving Inhabited

def MetadataBlock.read (b : MetadataBlock) : Except RegoError Metadata := do
  let fault := fun (loc : Loc) (msg : String) => (⟨"rego_parse_error", some loc, msg, []⟩ : RegoError)
  let doc := String.join (b.lines.map fun c =>
    String.ofList (match c.text.toList with
      | ' ' :: cs => cs
      | cs => cs) ++ "\n")
  if (trimBlanks doc).isEmpty then throw (fault b.loc "expected METADATA block, found whitespace")
  let raw ← match Yaml.decodeText doc (Yaml.asRecord "ast.rawAnnotation" {} rawField) {} with
    | .ok raw => pure raw
    | .error msg =>
      let loc := match yamlLine? msg, b.lines.getLast? with
        | some n, some last => ((b.lines[n]?).getD last).loc
        | _, _ => b.loc
      throw (fault loc (msg ++ String.join (b.lines.filterMap colonHint)))
  let related ← raw.relatedResources.mapM fun v =>
    (relatedResource v).mapError fun e => fault b.loc ("invalid related-resource definition " ++ valueText v ++ ": " ++ e)
  let schemas ← raw.schemas.mapM fun s => (schemaOf s).mapError (fault b.loc)
  let authors ← raw.authors.mapM fun v =>
    (authorOf v).mapError fun e => fault b.loc ("invalid author definition " ++ valueText v ++ ": " ++ e)
  pure { loc := b.loc, scope := raw.scope, title := raw.title, entrypoint := raw.entrypoint,
         description := raw.description, organizations := raw.organizations, related, authors,
         schemas, custom := raw.custom }

def Metadata.toDatum (a : Metadata) : Datum :=
  let text := fun (k v : String) => (Datum.string k, Datum.string v)
  let opt := fun (k v : String) => if v.isEmpty then [] else [text k v]
  Datum.objectOf (opt "scope" a.scope ++ opt "title" a.title ++
    (if a.entrypoint then [(.string "entrypoint", .bool true)] else []) ++
    opt "description" a.description ++
    (if a.organizations.isEmpty then [] else [(.string "organizations", .array (a.organizations.map .string))]) ++
    (if a.related.isEmpty then [] else
      [(.string "related_resources", .array (a.related.map fun (r, d) =>
        Datum.objectOf (text "ref" r :: opt "description" d)))]) ++
    (if a.authors.isEmpty then [] else
      [(.string "authors", .array (a.authors.map fun (n, e) =>
        Datum.objectOf (opt "name" n ++ opt "email" e)))]) ++
    (if a.schemas.isEmpty then [] else [(.string "schemas", .array a.schemas)]) ++
    (if a.custom.isEmpty then [] else [(.string "custom", Datum.ofValue (.map a.custom))]))

/-! ## What a block belongs to -/

inductive Attachment where
  | package
  | imports
  | rule (index : Nat)
  deriving BEq, Repr, Inhabited
def Attachment.kindName : Attachment → String
  | .package => "package"
  | .imports => "import"
  | .rule _ => "rule"
def Module.attachment? (m : Module) (row : Nat) : Option Attachment :=
  let stmts : List (Nat × Attachment) := (m.packageLoc.row, .package) ::
    m.imports.map (fun i => (i.loc.row, .imports)) ++ m.rules.zipIdx.map fun (r, i) => (r.loc.row, .rule i)
  ((stmts.filter (·.1 > row)).mergeSort fun a b => a.1 ≤ b.1).head?.map (·.2)

def settle (a : Metadata) (node : Option Attachment) : Metadata × List RegoError :=
  let scope := if !a.scope.isEmpty then a.scope
    else match node with
      | some (.rule _) => if a.entrypoint then "document" else "rule"
      | some .package => "package"
      | some .imports => "import"
      | none => ""
  let a := { a with scope }
  let fault := fun (msg : String) => (⟨"rego_parse_error", some a.loc, msg, []⟩ : RegoError)
  let held := (node.map fun n => " (have " ++ n.kindName ++ ")").getD ""
  let scopeFault := match scope, node with
    | "rule", some (.rule _) | "document", some (.rule _) => none
    | "package", some .package | "subpackages", some .package => none
    | "rule", _ | "document", _ => some (fault ("annotation scope '" ++ scope ++ "' must be applied to rule" ++ held))
    | "package", _ | "subpackages", _ =>
      some (fault ("annotation scope '" ++ scope ++ "' must be applied to package" ++ held))
    | _, _ => some (fault ("invalid annotation scope '" ++ scope ++
      "'. Use one of 'rule', 'document', 'package', or 'subpackages'"))
  let entryFault := if a.entrypoint && !(["rule", "document", "package"].contains scope) then
      some (fault ("annotation entrypoint applied to non-rule or package scope '" ++ scope ++ "'"))
    else none
  (a, scopeFault.toList ++ entryFault.toList)

/-- The annotations of a module read from a source, each with what it belongs to, or the faults
of its blocks: first those that do not read, then those whose scope does not fit. -/
def moduleMetadata (m : Module) (source : String) :
    List (Metadata × Option Attachment) × List RegoError :=
  let read := (metadataBlocks (moduleComments m.file source)).map MetadataBlock.read
  let readFaults := read.filterMap fun r => match r with
    | .error e => some e
    | .ok _ => none
  let settled := read.filterMap fun r => match r with
    | .ok a => let node := m.attachment? a.loc.row; some (settle a node, node)
    | .error _ => none
  (settled.map fun ((a, _), n) => (a, n), readFaults ++ settled.flatMap fun ((_, es), _) => es)

/-! ## The chain of a rule -/

/-- The path below `data` a rule describes: the constant start of its reference, each key as a
text. -/
def describedPath (package : List String) (r : Rule) : List String :=
  ((Entry.ref ⟨package, r⟩).takeWhile Term.isConstant).map fun t => match t with
    | .string s => s
    | t => t.render

abbrev MetadataSet := List (Module × List (Metadata × Option Attachment))

/-- The faults of annotations that describe a package or document another one describes: each
names where the first one stands. -/
def redeclaredFaults (set : MetadataSet) : List RegoError :=
  let described := set.flatMap fun (m, anns) => anns.filterMap fun (a, n) =>
    match a.scope, n with
    | "package", some .package => some (a, "package", m.package)
    | "document", some (.rule i) => (m.rules[i]?).map fun r => (a, "path", describedPath m.package r)
    | "subpackages", some .package => some (a, "path", m.package)
    | _, _ => none
  (described.foldl (fun (acc : List (Metadata × String × List String) × List RegoError) d =>
    let (a, space, path) := d
    match acc.1.find? fun (_, s, p) => s == space && p == path with
    | some (first, _, _) =>
      (acc.1, acc.2 ++ [⟨"rego_type_error", some a.loc, a.scope ++ " annotation redeclared: " ++ first.loc.text, []⟩])
    | none => (acc.1 ++ [d], acc.2)) ([], [])).2
def Loc.after (a b : Loc) : Bool :=
  a.file > b.file || (a.file == b.file && (a.row > b.row || (a.row == b.row && a.col > b.col)))

def ownMetadata (anns : List (Metadata × Option Attachment)) (i : Nat) : List Metadata :=
  ((anns.filter fun (a, n) => a.scope == "rule" && n == some (.rule i)).map (·.1)).mergeSort
    fun a b => !b.loc.after a.loc

def chainLink (path : List String) (a : Option Metadata) : Datum :=
  Datum.objectOf ((.string "path", .array (path.map .string)) ::
    (a.map fun a => [(Datum.string "annotations", a.toDatum)]).getD [])

/-- The chain of annotations leading to a rule of a module: its own, nearest first, or its path
alone; then its document's, its package's, and those of the packages it lies in, innermost
first. -/
def chainOf (set : MetadataSet) (m : Module) (r : Rule) (own : List Metadata) : Datum :=
  let path := describedPath m.package r
  let first := if own.isEmpty then [chainLink path none] else own.map (chainLink path ∘ some)
  let all := set.flatMap fun (m', anns) => anns.map fun (a, n) => (m', a, n)
  let document := all.find? fun (m', a, n) => a.scope == "document" && match n with
    | some (.rule i) => (m'.rules[i]?).any fun r' => describedPath m'.package r' == path
    | _ => false
  let package := all.find? fun (m', a, n) => a.scope == "package" && n == some .package && m'.package == m.package
  let outer := ((all.filter fun (m', a, n) =>
      a.scope == "subpackages" && n == some .package && m'.package.isPrefixOf m.package).mergeSort
    fun (x, _, _) (y, _, _) => x.package.length ≥ y.package.length)
  .array (first ++ (document.map fun (_, a, _) => chainLink path (some a)).toList ++
    (package.map fun (_, a, _) => chainLink m.package (some a)).toList ++
    outer.map fun (m', a, _) => chainLink m'.package (some a))

/-! ## Replacing the calls -/

mutual

def Datum.toTerm : Datum → Term
  | .null => .null
  | .bool b => .bool b
  | .number n => .number n
  | .string s => .string s
  | .array items => .array (datumTerms items)
  | .object pairs => .object (datumPairTerms pairs)
  | .set items => .set (datumTerms items)

def datumTerms : List Datum → List Term
  | [] => []
  | d :: ds => d.toTerm :: datumTerms ds

def datumPairTerms : List (Datum × Datum) → List (Term × Term)
  | [] => []
  | (k, v) :: ps => (k.toTerm, v.toTerm) :: datumPairTerms ps

end

structure MetadataValues where
  chain : Option Term
  rule : Option Term

def MetadataValues.of? (mv : MetadataValues) (name : String) : Option Term :=
  if name == "rego.metadata.chain" then mv.chain
  else if name == "rego.metadata.rule" then mv.rule
  else none

mutual

def Term.withMetadata (mv : MetadataValues) : Term → Term
  | .call name args loc =>
    let rest := termsWithMetadata mv args
    match mv.of? name, rest with
    | some t, [] => t
    | _, _ => .call name rest loc
  | .ref head path loc => .ref (head.withMetadata mv) (termsWithMetadata mv path) loc
  | .array items => .array (termsWithMetadata mv items)
  | .set items => .set (termsWithMetadata mv items)
  | .object pairs => .object (pairsWithMetadata mv pairs)
  | .arrayOf head body => .arrayOf (head.withMetadata mv) (bodyWithMetadata mv body)
  | .setOf head body => .setOf (head.withMetadata mv) (bodyWithMetadata mv body)
  | .objectOf k v body => .objectOf (k.withMetadata mv) (v.withMetadata mv) (bodyWithMetadata mv body)
  | t => t
def termsWithMetadata (mv : MetadataValues) : List Term → List Term
  | [] => []
  | t :: ts => t.withMetadata mv :: termsWithMetadata mv ts

def pairsWithMetadata (mv : MetadataValues) : List (Term × Term) → List (Term × Term)
  | [] => []
  | (k, v) :: ps => (k.withMetadata mv, v.withMetadata mv) :: pairsWithMetadata mv ps
def bodyWithMetadata (mv : MetadataValues) : List Literal → List Literal
  | [] => []
  | .mk neg e loc text mods :: ls =>
    .mk neg (exprWithMetadata mv e) loc text (modsWithMetadata mv mods) :: bodyWithMetadata mv ls

def modsWithMetadata (mv : MetadataValues) : List (Term × Term × Loc) → List (Term × Term × Loc)
  | [] => []
  | (t, v, loc) :: ms => (t, v.withMetadata mv, loc) :: modsWithMetadata mv ms

/-- An expression with the calls of metadata built-ins replaced: a call as an expression holds
once it gives its value, to its output argument when it has one. -/
def exprWithMetadata (mv : MetadataValues) : Expr → Expr
  | .call name args =>
    let rest := termsWithMetadata mv args
    match mv.of? name, rest with
    | some t, [] => .term t
    | some t, [out] => .call "eq" [out, t]
    | _, _ => .call name rest
  | .term t => .term (t.withMetadata mv)
  | .some names => .some names
  | .someIn key value coll =>
    .someIn (match key with
      | some k => some (k.withMetadata mv)
      | none => none) (value.withMetadata mv) (coll.withMetadata mv)
  | .every key value domain body => .every key value (domain.withMetadata mv) (bodyWithMetadata mv body)

end

/-- A rule with its calls of metadata built-ins replaced: those of its head and body by what
they give for the rule, those of each `else` branch by what they give for a rule without
annotations of its own. -/
def Rule.withMetadata (main branch : MetadataValues) (r : Rule) : Rule :=
  { r with key := r.key.map (·.withMetadata main), value := r.value.map (·.withMetadata main),
           body := bodyWithMetadata main r.body,
           elses := r.elses.map fun (v, b) => (v.map (·.withMetadata branch), bodyWithMetadata branch b) }

def Rule.callsMetadata (r : Rule) : Bool :=
  (ruleCalls r).any fun c => c.name == "rego.metadata.chain" || c.name == "rego.metadata.rule"

/-- The modules, each given with its source, with their calls of the metadata built-ins replaced
by what they give; or the faults of the blocks, when some rule calls one of them: first those
of reading them, then those of redeclaring. -/
def withMetadata (bs : Builtins) (modules : List (Module × String)) : Except (List RegoError) (List Module) :=
  if !(modules.any fun (m, _) => m.rules.any Rule.callsMetadata) then .ok (modules.map (·.1))
  else
    let read := modules.map fun (m, source) => (m, moduleMetadata m source)
    match read.flatMap fun (_, _, errs) => errs with
    | errs@(_ :: _) => .error errs
    | [] =>
      let set : MetadataSet := read.map fun (m, anns, _) => (m, anns)
      match redeclaredFaults set with
      | errs@(_ :: _) => .error errs
      | [] =>
        let chainOn := bs.has "rego.metadata.chain"
        let ruleOn := bs.has "rego.metadata.rule"
        .ok (set.map fun (m, anns) =>
          { m with rules := m.rules.zipIdx.map fun (r, i) =>
            let own := ownMetadata anns i
            let main : MetadataValues :=
              ⟨if chainOn then some (chainOf set m r own).toTerm else none,
               if ruleOn then some ((own.head?.map Metadata.toDatum).getD (.object [])).toTerm else none⟩
            let branch : MetadataValues :=
              ⟨if chainOn then some (chainOf set m r []).toTerm else none,
               if ruleOn then some (Term.object []) else none⟩
            r.withMetadata main branch })

end AccessPolicy.Rego
