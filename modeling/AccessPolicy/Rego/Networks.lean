import AccessPolicy.Rego.Builtin
/-!
# Network built-ins

Addresses are read strictly. An IPv4 address is four decimal fields from 0 to 255, none with a
leading zero. An IPv6 address is up to eight hexadecimal groups of at most four digits. One
`::` may stand for one or more zero groups, and the last two groups may be written as an IPv4
address. No address may name a zone. A network `address/bits` has a prefix length of at most 32
for IPv4 and 128 for IPv6.
-/

namespace AccessPolicy.Rego

namespace Networks

def hexValue (c : Char) : Option Nat :=
  if '0' ≤ c ∧ c ≤ '9' then some (c.toNat - '0'.toNat)
  else if 'a' ≤ c ∧ c ≤ 'f' then some (c.toNat - 'a'.toNat + 10)
  else if 'A' ≤ c ∧ c ≤ 'F' then some (c.toNat - 'A'.toNat + 10)
  else none

def ipv4Fields (s : List Char) : Option (List Nat) := do
  let parts := s.splitOn '.'
  if parts.length ≠ 4 then none
  parts.mapM fun part => do
    if part.isEmpty || !part.all Char.isDigit then none
    if part.length > 1 ∧ part.head? = some '0' then none
    let v := part.foldl (fun n c => n * 10 + (c.toNat - '0'.toNat)) 0
    if v > 255 then none else some v

/-- The hexadecimal digits at the head of a group: their value and count. -/
def hexGroup (s : List Char) : Option (Nat × Nat) :=
  let ds := s.takeWhile fun c => (hexValue c).isSome
  if ds.length > 4 then none
  else some (ds.foldl (fun n c => n * 16 + (hexValue c).getD 0) 0, ds.length)

def setBytes (ip : List Nat) (at_ : Nat) (bs : List Nat) : List Nat :=
  ip.take at_ ++ bs ++ ip.drop (at_ + bs.length)

/-- The groups of an IPv6 address after any leading `::`: the bytes filled so far, the place of
the `::` if one was read, and what is left of the text. -/
def ipv6Groups : Nat → Nat → List Nat → Option Nat → List Char →
    Option (Nat × List Nat × Option Nat × List Char)
  | 0, i, ip, gap, s => some (i, ip, gap, s)
  | fuel + 1, i, ip, gap, s =>
    if i ≥ 16 then some (i, ip, gap, s)
    else do
      let (acc, off) ← hexGroup s
      if off = 0 then none
      if s[off]? = some '.' then
        if gap.isNone ∧ i ≠ 12 then none
        if i + 4 > 16 then none
        let fields ← ipv4Fields s
        some (i + 4, setBytes ip i fields, gap, [])
      else
        let ip := setBytes ip i [acc / 256, acc % 256]
        let i := i + 2
        let s := s.drop off
        match s with
        | [] => some (i, ip, gap, [])
        | [':'] => none
        | ':' :: ':' :: rest =>
          if gap.isSome then none
          else if rest.isEmpty then some (i, ip, some i, [])
          else ipv6Groups fuel i ip (some i) rest
        | ':' :: rest => ipv6Groups fuel i ip gap rest
        | _ => none

def ipv6Bytes (s : List Char) : Option (List Nat) := do
  if s.contains '%' then none
  let zero := List.replicate 16 0
  let (gap, s) := match s with
    | ':' :: ':' :: rest => (some 0, rest)
    | _ => (none, s)
  if gap.isSome ∧ s.isEmpty then some zero
  else
    let (i, ip, gap, rest) ← ipv6Groups (s.length + 1) 0 zero gap s
    if !rest.isEmpty then none
    if i < 16 then
      let g ← gap
      let n := 16 - i
      some (ip.take g ++ List.replicate n 0 ++ (ip.take i).drop g)
    else if gap.isSome then none
    else some ip

def mappedPrefix : List Nat := List.replicate 10 0 ++ [255, 255]

def readAddress (s : String) : Option (Bool × List Nat) :=
  let cs := s.toList
  match cs.find? fun c => c = '.' ∨ c = ':' ∨ c = '%' with
  | some '.' => (ipv4Fields cs).map fun fs => (true, mappedPrefix ++ fs)
  | some ':' => (ipv6Bytes cs).map (false, ·)
  | _ => none
def parseIP (s : String) : Option (List Nat) := (readAddress s).map (·.2)

structure Network where
  address : List Nat
  mask : List Nat
  deriving Repr, Inhabited

def prefixMask (ones bits : Nat) : List Nat :=
  (List.range (bits / 8)).map fun i =>
    if ones ≥ 8 * (i + 1) then 255
    else if ones ≤ 8 * i then 0
    else 256 - Nat.pow 2 (8 - (ones - 8 * i))

def asIPv4 (ip : List Nat) : Option (List Nat) :=
  if ip.length = 4 then some ip
  else if ip.length = 16 ∧ ip.take 12 = mappedPrefix then some (ip.drop 12)
  else none

def applyMask (ip mask : List Nat) : Option (List Nat) :=
  let mask := if mask.length = 16 ∧ ip.length = 4 ∧ (mask.take 12).all (· = 255) then mask.drop 12
    else mask
  let ip := if mask.length = 4 ∧ ip.length = 16 ∧ ip.take 12 = mappedPrefix then ip.drop 12 else ip
  if ip.length ≠ mask.length then none
  else some ((ip.zip mask).map fun (a, m) => a &&& m)

def parseCIDR (s : String) : Option (List Nat × Network) := do
  let (addr, bits) ← match s.splitOn "/" with
    | a :: rest => if rest.isEmpty then none else some (a, "/".intercalate rest)
    | [] => none
  let (isV4, ip) ← readAddress addr
  let len := if isV4 then 4 else 16
  let ds := bits.toList
  if ds.isEmpty || !ds.all Char.isDigit then none
  let n := ds.foldl (fun n c => n * 10 + (c.toNat - '0'.toNat)) 0
  if n > 8 * len then none
  let mask := prefixMask n (8 * len)
  let address ← applyMask ip mask
  some (ip, { address, mask })

def Network.numberAndMask (n : Network) : Option (List Nat × List Nat) := do
  let ip ← match asIPv4 n.address with
    | some x => some x
    | none => if n.address.length = 16 then some n.address else none
  match n.mask.length with
  | 4 => if ip.length = 4 then some (ip, n.mask) else none
  | 16 => some (ip, if ip.length = 4 then n.mask.drop 12 else n.mask)
  | _ => none

def Network.holds (n : Network) (ip : List Nat) : Bool :=
  match n.numberAndMask with
  | none => false
  | some (nn, m) =>
    let ip := (asIPv4 ip).getD ip
    ip.length = nn.length && ((nn.zip m).zip ip).all fun ((a, k), b) => a &&& k = b &&& k

def maskOnes (mask : List Nat) : Nat :=
  mask.foldl (fun n b => n + ((List.range 8).filter fun i => b &&& Nat.pow 2 (7 - i) ≠ 0).length) 0
def bytesValue (bs : List Nat) : Nat := bs.foldl (fun n b => n * 256 + b) 0

def valueBytes (k n : Nat) : List Nat :=
  (List.range k).reverse.map fun i => n / Nat.pow 256 i % 256

def Network.lastAddress (n : Network) : List Nat :=
  let bits := 8 * n.mask.length
  let ones := maskOnes n.mask
  if ones = bits then n.address
  else valueBytes (bits / 8) (bytesValue n.address ||| (Nat.pow 2 (bits - ones) - 1))

/-- Whether a network holds an address, or the first and last addresses of a network, given as
text. -/
def contains (cidr other : String) : Option Bool := do
  let (_, net) ← parseCIDR cidr
  match parseIP other with
  | some ip => some (net.holds ip)
  | none =>
    let (_, inner) ← parseCIDR other
    some (net.holds inner.address && net.holds inner.lastAddress)

def hexText (n : Nat) : String :=
  String.ofList (Nat.toDigits 16 n)

def zeroRun (groups : List Nat) : Option (Nat × Nat) :=
  (List.range 8).foldl (fun best i =>
    let run := ((groups.drop i).takeWhile (· = 0)).length
    let longer := match best with
      | some (s, e) => run > e - s
      | none => true
    if run ≥ 2 && longer then some (i, i + run) else best) none

def addressText (ip : List Nat) : String :=
  if ip.isEmpty then "<nil>"
  else if ip.length ≠ 4 ∧ ip.length ≠ 16 then "?" ++ String.join (ip.map fun b =>
    String.ofList ((Nat.toDigits 16 b).length |> fun l => List.replicate (2 - l) '0') ++ hexText b)
  else
    match asIPv4 ip with
    | some v4 => ".".intercalate (v4.map toString)
    | none =>
      let groups := (List.range 8).map fun i => ip.getD (2 * i) 0 * 256 + ip.getD (2 * i + 1) 0
      match zeroRun groups with
      | some (s, e) =>
        ":".intercalate ((groups.take s).map hexText) ++ "::" ++
          ":".intercalate ((groups.drop e).map hexText)
      | none => ":".intercalate (groups.map hexText)
def nextAddress (ip : List Nat) : List Nat :=
  valueBytes ip.length ((bytesValue ip + 1) % Nat.pow 256 ip.length)

def addressesFrom (n : Network) : Nat → List Nat → List String
  | 0, _ => []
  | fuel + 1, ip => if n.holds ip then addressText ip :: addressesFrom n fuel (nextAddress ip) else []

def expand (cidr : String) : Option (List String) := do
  let (ip, net) ← parseCIDR cidr
  let first ← applyMask ip net.mask
  let hostBits := 8 * net.mask.length - maskOnes net.mask
  some (addressesFrom net (Nat.pow 2 (Nat.min hostBits 24) + 1) first)

/-! ### Merging networks -/

/-- The number of leading one bits of the default mask of an IPv4 address's class: eight below
128, sixteen below 192, and twenty-four from there. -/
def classBits (v4 : List Nat) : Nat :=
  let first := v4.headD 0
  if first < 0x80 then 8 else if first < 0xC0 then 16 else 24

/-- The network a text given to `net.cidr_merge` stands for. -/
def mergeItem? (s : String) : Option Network :=
  match parseIP s with
  | some ip =>
    match asIPv4 ip with
    | some v4 => some { address := v4, mask := prefixMask (classBits v4) 32 }
    | none => some { address := ip, mask := prefixMask 128 128 }
  | none => (parseCIDR s).map (·.2)

def compareBytes : List Nat → List Nat → Ordering
  | [], [] => .eq
  | [], _ :: _ => .lt
  | _ :: _, [] => .gt
  | a :: as, b :: bs => (compare a b).then (compareBytes as bs)

/-- A run of addresses being merged: its first and last addresses, and the network it came from
while it is merged with no other. -/
structure AddressRun where
  first : List Nat
  last : List Nat
  network : Option Network
  deriving Repr, Inhabited

def AddressRun.ofNetwork (n : Network) : AddressRun :=
  { first := n.address, last := n.lastAddress, network := some n }

/-- Merges runs sorted by their last addresses, from the end: each run is merged into the one
after it when it reaches up to the address before that one's first; the merged run goes from the
lower of the two first addresses to the later last one. -/
def mergeRuns (runs : List AddressRun) : List AddressRun :=
  runs.foldr (fun prev later =>
    match later with
    | cur :: rest =>
      if compareBytes cur.first prev.last != .gt || cur.first == nextAddress prev.last then
        let first := if compareBytes prev.first cur.first == .lt then prev.first else cur.first
        { first, last := cur.last, network := none } :: rest
      else prev :: cur :: rest
    | [] => [prev]) []

/-- The fewest networks that cover the addresses from one to another, in order, each aligned
on its size. -/
def coverRange (bits : Nat) : Nat → Nat → Nat → List (Nat × Nat)
  | 0, _, _ => []
  | fuel + 1, a, b =>
    if a > b then []
    else
      let host := ((List.range (bits + 1)).reverse.find? fun h =>
        a % Nat.pow 2 h = 0 && a + Nat.pow 2 h - 1 ≤ b).getD 0
      (a, bits - host) :: coverRange bits fuel (a + Nat.pow 2 host) b

/-- A network as Go writes it: its address in the form of the mask's length, not masked, and
the length of its mask. -/
def networkText (n : Network) : String :=
  match n.numberAndMask with
  | some (nn, m) => addressText nn ++ "/" ++ toString (maskOnes m)
  | none => "<nil>"

def AddressRun.texts (r : AddressRun) : List String :=
  match r.network with
  | some n => [networkText n]
  | none =>
    let k := r.first.length
    (coverRange (8 * k) (16 * k + 2) (bytesValue r.first) (bytesValue r.last)).map fun (a, ones) =>
      networkText { address := valueBytes k a, mask := prefixMask ones (8 * k) }

/-- The networks that `net.cidr_merge` makes of some texts: the runs of their addresses sorted
by last address, merged where they overlap or touch, and written back as networks. -/
def mergeNetworks (items : List Datum) : Option Datum := do
  let nets ← items.mapM fun d => match d with
    | .string s => mergeItem? s
    | _ => none
  let runs := Order.insertionSort (fun a b => compareBytes a.last b.last == .lt)
    (nets.map AddressRun.ofNetwork)
  some (Datum.setOf ((mergeRuns runs).flatMap (·.texts) |>.map .string))

/-- The text of an item given to `net.cidr_contains_matches`: a text, or an array whose first
item is a text. -/
def matchText : Datum → Option String
  | .string s => some s
  | .array (.string s :: _) => some s
  | _ => none

def matchItems : Datum → Option (List (String × Datum))
  | .string s => some [(s, .string s)]
  | .array items => items.zipIdx.mapM fun (x, i) => (matchText x).map (·, .number (toString i))
  | .set items => items.mapM fun x => (matchText x).map (·, x)
  | .object pairs => pairs.mapM fun (k, v) => (matchText v).map (·, k)
  | _ => some []

/-- The pairs of keys of the networks of one operand and what they hold of the other. -/
def containsMatches (a b : Datum) : Option Datum := do
  let xs ← matchItems a
  if xs.isEmpty then some (.set [])
  else
    let ys ← matchItems b
    let pairs ← xs.mapM fun (cidr, k1) =>
      ys.filterMapM fun (other, k2) => do
        let held ← contains cidr other
        pure (if held then some (Datum.array [k1, k2]) else none)
    some (Datum.setOf pairs.flatten)

/-- The value of a call of a network built-in; none when the call fails or the function is not
one of these. -/
def apply (name : String) (args : List Datum) : Option Datum :=
  match name, args with
  | "net.cidr_contains", [.string cidr, .string other]
  | "net.cidr_overlap", [.string cidr, .string other] => (contains cidr other).map .bool
  | "net.cidr_intersects", [.string a, .string b] => do
    let (_, x) ← parseCIDR a
    let (_, y) ← parseCIDR b
    some (.bool (x.holds y.address || y.holds x.address))
  | "net.cidr_is_valid", [.string s] => some (.bool (parseCIDR s).isSome)
  | "net.cidr_is_valid", [_] => some (.bool false)
  | "net.cidr_expand", [.string s] => (expand s).map fun hs => Datum.setOf (hs.map .string)
  | "net.cidr_contains_matches", [a, b] => containsMatches a b
  | "net.cidr_merge", [.array items] => mergeNetworks items
  | "net.cidr_merge", [.set items] => mergeNetworks items
  | _, _ => none

end Networks

end AccessPolicy.Rego
