import AccessPolicy.Text.CharClass
import AccessPolicy.Text.Quote
/-!
# URLs

A URL or relative reference read as a lenient reader of RFC 3986 reads it, resolved against
another, and written back.
-/

namespace AccessPolicy

structure Url where
  scheme : String := ""
  rootless : String := ""
  user : Option String := none
  host : String := ""
  omitHost : Bool := false
  path : String := ""
  query : Option String := none
  fragment : String := ""
  deriving Repr, Inhabited, BEq

namespace Url

inductive Part where
  | host
  | zone
  | userInfo
  | path
  | fragment
  deriving DecidableEq, Repr

/-- Whether a byte must be escaped in a part of a URL: letters, digits and `-_.~` never are; a
host or a zone may also hold `!$&'()*+,;=:[]<>"`; of the reserved `$&+,/:;=?@` a path escapes
only `?`, the user information `@/?:` and a fragment none; a fragment may also hold `!()*`. -/
def escapes (part : Part) (b : Nat) : Bool :=
  let c := Char.ofNat b
  if b < 0x80 && c.isAlphanum then false
  else if (part = .host || part = .zone) && "!$&'()*+,;=:[]<>\"".toList.contains c then false
  else if "-_.~".toList.contains c then false
  else if "$&+,/:;=?@".toList.contains c then
    match part with
    | .path => c = '?'
    | .userInfo => c = '@' || c = '/' || c = '?' || c = ':'
    | .fragment => false
    | _ => true
  else if part = .fragment && "!()*".toList.contains c then false
  else true

/-- The bytes of a part with its escapes decoded, or the message of the first escape that is not
`%` and two hexadecimal digits or breaks the rules of the part: in a host only bytes past ASCII
and `%` itself may be escaped, and in a zone only bytes a host may hold, a space and `%`; a host
and a zone hold no other ASCII byte that must be escaped. -/
def unescape (part : Part) : List Char → Except String (List UInt8)
  | [] => .ok []
  | '%' :: a :: b :: rest => do
    let bad := fun (cs : List Char) => "invalid URL escape " ++ Quote.string (String.ofList cs)
    let some x := CharClass.hexValue? a | throw (bad ['%', a, b])
    let some y := CharClass.hexValue? b | throw (bad ['%', a, b])
    let v := x * 16 + y
    let percent := a = '2' && b = '5'
    if part = .host && x < 8 && !percent then throw (bad ['%', a, b])
    if part = .zone && !percent && v ≠ 32 && escapes .host v then throw (bad ['%', a, b])
    pure (UInt8.ofNat v :: (← unescape part rest))
  | '%' :: rest => .error ("invalid URL escape " ++ Quote.string (String.ofList ('%' :: rest)))
  | c :: rest =>
    if (part = .host || part = .zone) && c.toNat < 0x80 && escapes part c.toNat then
      .error ("invalid character " ++ Quote.string (String.singleton c) ++ " in host name")
    else
      match rest with
      | r :: more =>
        if c == Utf8.marker && Utf8.isRawChar r then
          do pure ((r.toNat - Utf8.rawBase).toUInt8 :: (← unescape part more))
        else do pure (Utf8.bytesOf (String.singleton c) ++ (← unescape part (r :: more)))
      | [] => .ok (Utf8.bytesOf (String.singleton c))

def optionalPort : List Char → Bool
  | [] => true
  | ':' :: digits => digits.all Char.isDigit
  | _ => false
def lastIndex (cs : List Char) (c : Char) : Option Nat :=
  (cs.zipIdx.filter (·.1 = c)).getLast?.map (·.2)
def findText (cs pat : List Char) : Option Nat :=
  (List.range (cs.length + 1)).find? fun i => pat.isPrefixOf (cs.drop i)

def checkHost (host : List Char) : Except String Unit := do
  let port := fun (p : List Char) =>
    if optionalPort p then pure () else throw ("invalid port " ++ Quote.string (String.ofList p) ++ " after host")
  match host with
  | '[' :: _ =>
    match lastIndex host ']' with
    | none => throw "missing ']' in host"
    | some i =>
      port (host.drop (i + 1))
      match findText (host.take i) "%25".toList with
      | some z =>
        discard <| unescape .host (host.take z)
        discard <| unescape .zone ((host.take i).drop z)
        discard <| unescape .host (host.drop i)
      | none => discard <| unescape .host host
  | _ =>
    match lastIndex host ':' with
    | some i => port (host.drop i)
    | none => pure ()
    discard <| unescape .host host
def userInfoChar (c : Char) : Bool :=
  (c.toNat < 0x80 && c.isAlphanum) || "-._:~!$&'()*+,;=%@".toList.contains c

def readAuthority (authority : List Char) : Except String (Option String × String) := do
  match lastIndex authority '@' with
  | none =>
    checkHost authority
    pure (none, String.ofList authority)
  | some i =>
    let info := authority.take i
    let host := authority.drop (i + 1)
    checkHost host
    if !info.all userInfoChar then throw "net/url: invalid userinfo"
    for piece in info.splitOn ':' do
      discard <| unescape .userInfo piece
    pure (some (String.ofList info), String.ofList host)

/-- The scheme at the head of a text and what follows its `:`, or none for the scheme when there
is none. -/
def readScheme (cs : List Char) : Except String (Option (List Char) × List Char) :=
  let name := cs.takeWhile fun c => c.toNat < 0x80 && (c.isAlphanum || c = '+' || c = '-' || c = '.')
  match cs.drop name.length with
  | ':' :: rest =>
    if name.isEmpty then .error "missing protocol scheme"
    else if name.head?.all Char.isAlpha then .ok (some name, rest)
    else .ok (none, cs)
  | _ => .ok (none, cs)

def readFront (cs : List Char) : Except String Url := do
  if cs.any fun c => c.toNat < 0x20 || c.toNat = 0x7F then
    throw "net/url: invalid control character in URL"
  if cs == ['*'] then return { path := "*" }
  let (name, rest) ← readScheme cs
  let scheme := String.ofList ((name.getD []).map Char.toLower)
  let (rest, query) :=
    if rest.getLast? == some '?' && (rest.filter (· = '?')).length == 1 then (rest.dropLast, some "")
    else
      let before := rest.takeWhile (· ≠ '?')
      (before, if before.length < rest.length then some (String.ofList (rest.drop (before.length + 1)))
        else none)
  if rest.head? != some '/' then
    if name.isSome then return { scheme, rootless := String.ofList rest, query }
    if (rest.takeWhile (· ≠ '/')).contains ':' then
      throw "first path segment in URL cannot contain colon"
  let (user, host, rest, omitHost) ← match rest with
    | '/' :: '/' :: after =>
      if name.isSome || after.head? != some '/' then do
        let authority := after.takeWhile (· ≠ '/')
        let (user, host) ← readAuthority authority
        pure (user, host, after.drop authority.length, false)
      else pure (none, "", rest, false)
    | '/' :: _ => pure (none, "", rest, name.isSome)
    | _ => pure (none, "", rest, false)
  discard <| unescape .path rest
  pure { scheme, user, host, omitHost, path := String.ofList rest, query }

def parse (s : String) : Except String Url := do
  let cs := s.toList
  let front := cs.takeWhile (· ≠ '#')
  let fragment := cs.drop (front.length + 1)
  let u ← (readFront front).mapError fun e => "parse " ++ Quote.string (String.ofList front) ++ ": " ++ e
  discard <| (unescape .fragment fragment).mapError fun e => "parse " ++ Quote.string s ++ ": " ++ e
  pure { u with fragment := String.ofList fragment }

/-- The bytes of a part written with every byte that must be escaped as `%` and two upper-case
hexadecimal digits. -/
def escapeBytes (part : Part) (bs : List UInt8) : String :=
  let hex := fun (n : Nat) => "0123456789ABCDEF".toList.getD n '0'
  String.ofList (Utf8.decodeKeeping (bs.flatMap fun b =>
    if escapes part b.toNat then
      ['%'.toNat.toUInt8, (hex (b.toNat / 16)).toNat.toUInt8, (hex (b.toNat % 16)).toNat.toUInt8]
    else [b]))

/-- Whether a part is written validly escaped: it holds only bytes the part need not escape,
sub-delimiters, `:`, `@`, brackets and escapes. -/
def validlyEscaped (part : Part) (s : String) : Bool :=
  (Utf8.bytesOf s).all fun b =>
    "!$&'()*+,;=:@[]%".toList.contains (Char.ofNat b.toNat) || !escapes part b.toNat

/-- A part as it is written back: as written when validly escaped, else escaped again from its
bytes. -/
def written (part : Part) (s : String) : String :=
  if validlyEscaped part s then s
  else
    match unescape part s.toList with
    | .ok bs => escapeBytes part bs
    | .error _ => s

def writtenPath (u : Url) : String :=
  if u.path == "*" then "*" else written .path u.path

def render (u : Url) : String :=
  let head := if u.scheme.isEmpty then "" else u.scheme ++ ":"
  let body :=
    if !u.rootless.isEmpty then u.rootless
    else
      let authority :=
        if !u.scheme.isEmpty || !u.host.isEmpty || u.user.isSome then
          if u.omitHost && u.host.isEmpty && u.user.isNone then ""
          else
            (if !u.host.isEmpty || !u.path.isEmpty || u.user.isSome then "//" else "") ++
              ((u.user.map (· ++ "@")).getD "") ++ u.host
        else ""
      let path := u.writtenPath
      let slash := if !path.isEmpty && !path.startsWith "/" && !u.host.isEmpty then "/" else ""
      let dot :=
        if (head ++ authority ++ slash).isEmpty && (path.takeWhile (· ≠ '/')).contains ':' then "./"
        else ""
      authority ++ slash ++ dot ++ path
  let query := match u.query with
    | some q => "?" ++ q
    | none => ""
  let fragment := if u.fragment.isEmpty then "" else "#" ++ written .fragment u.fragment
  head ++ body ++ query ++ fragment

def removeDots (full : String) : String :=
  if full.isEmpty then ""
  else
    let segments := full.splitOn "/"
    let (kept, _) := segments.foldl (fun (acc : List String × Bool) seg =>
      let (out, _) := acc
      if seg == "." then (out, true)
      else if seg == ".." then (out.dropLast, true)
      else (out ++ [seg], false)) ([], false)
    let last := segments.getLast?.getD ""
    let trail := if last == "." || last == ".." then "/" else ""
    let joined := "/" ++ "/".intercalate kept ++ trail
    if joined.startsWith "//" then (joined.drop 1).toString else joined

/-- Merges a reference's path with a base's: an empty one keeps the base's, a relative one
replaces the base's last segment. -/
def mergePaths (base ref : String) : String :=
  let full :=
    if ref.isEmpty then base
    else if ref.startsWith "/" then ref
    else
      match lastIndex base.toList '/' with
      | some i => String.ofList (base.toList.take (i + 1)) ++ ref
      | none => ref
  removeDots full

def resolve (base ref : Url) : Url :=
  let u := { ref with scheme := if ref.scheme.isEmpty then base.scheme else ref.scheme }
  if !ref.scheme.isEmpty || !ref.host.isEmpty || ref.user.isSome then
    { u with path := mergePaths ref.writtenPath "" }
  else if !ref.rootless.isEmpty then { u with user := none, host := "", path := "" }
  else
    let u := if ref.path.isEmpty && ref.query.isNone then
        { u with query := (if base.query == some "" then none else base.query),
                 fragment := if ref.fragment.isEmpty then base.fragment else ref.fragment }
      else u
    if ref.path.isEmpty && !base.rootless.isEmpty then
      { u with rootless := base.rootless, user := none, host := "", path := "" }
    else { u with host := base.host, user := base.user, path := mergePaths base.writtenPath ref.writtenPath }
def pathBytes (u : Url) : List UInt8 :=
  (unescape .path u.path.toList).toOption.getD []

end Url

end AccessPolicy
