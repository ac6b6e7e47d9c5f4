import AccessPolicy.Text.Utf8
/-!
# Glob syntax
-/

namespace AccessPolicy.Glob

inductive Node where
  | pattern (children : List Node)
  | anyOf (children : List Node)
  | text (s : String)
  | any
  | super
  | single
  | nothing
  | list (chars : String) (neg : Bool)
  | range (lo hi : Char) (neg : Bool)
  deriving Repr, Inhabited, BEq

/-- The character that stands for the end of the text. -/
def endChar : Char := Char.ofNat 0

inductive Token where
  | done
  | error (message : String)
  | text (s : String)
  | any
  | super
  | single
  | termsOpen
  | separator
  | termsClose
  | rangeOpen
  | rangeClose
  | negation
  | rangeLo (c : Char)
  | rangeBetween
  | rangeHi (c : Char)
  deriving Repr, Inhabited, BEq

/-- The state of reading a glob text: the position in it, the first error met, the tokens read
and not yet taken, how many braces are open, and the last character read, which can be put back
once. -/
structure Reader where
  data : Array Char
  pos : Nat := 0
  err : Option String := none
  queue : List Token := []
  terms : Nat := 0
  last : Char := endChar
  lastSize : Nat := 0
  hasRune : Bool := false
  deriving Inhabited

namespace Reader

def push (r : Reader) (t : Token) : Reader := { r with queue := r.queue ++ [t] }
def fail (r : Reader) (message : String) : Reader := { r with err := some message }

/-- The next character and how many it takes, without reading it. -/
def peek (r : Reader) : Char × Nat × Reader :=
  match r.data[r.pos]? with
  | none => (endChar, 0, r)
  | some c => if c = '\uFFFD' then (endChar, 0, r.fail "could not read rune") else (c, 1, r)
def read (r : Reader) : Char × Reader :=
  if r.hasRune then (r.last, { r with hasRune := false, pos := r.pos + r.lastSize })
  else
    let (c, w, r) := r.peek
    (c, { r with pos := r.pos + w, last := c, lastSize := w })
def unread (r : Reader) : Reader :=
  if r.hasRune then r.fail "could not unread rune"
  else { r with pos := r.pos - r.lastSize, hasRune := true }

/-- Reads a text item up to one of `breakers`, which is put back, or the end; a backslash takes the next
character as it is. -/
def fetchText (breakers : List Char) : Nat → Reader → Bool → List Char → Reader
  | 0, r, _, acc => if acc.isEmpty then r else r.push (.text (String.ofList acc.reverse))
  | fuel + 1, r, escaped, acc =>
    let (c, r) := r.read
    let flush (r : Reader) : Reader :=
      if acc.isEmpty then r else r.push (.text (String.ofList acc.reverse))
    if c = endChar then flush r
    else if !escaped ∧ c = '\\' then fetchText breakers fuel r true acc
    else if !escaped ∧ breakers.contains c then flush r.unread
    else fetchText breakers fuel r false (c :: acc)

/-- Reads a character class after its `[`: an optional `!`, then a range `lo-hi` or a list, then
`]`. -/
def fetchRange : Nat → Reader → Bool → Bool → Bool → Reader
  | 0, r, _, _, _ => r
  | fuel + 1, r, wantHi, wantClose, seenNot =>
    let (c, r) := r.read
    if c = endChar then r.fail "unexpected end of input"
    else if wantClose then
      if c ≠ ']' then r.fail "expected close range character" else r.push .rangeClose
    else if wantHi then fetchRange fuel (r.push (.rangeHi c)) wantHi true seenNot
    else if !seenNot ∧ c = '!' then fetchRange fuel (r.push .negation) wantHi wantClose true
    else
      let (n, w, r) := r.peek
      if n = '-' then
        let r := { r with pos := r.pos + w }
        fetchRange fuel ((r.push (.rangeLo c)).push .rangeBetween) true wantClose seenNot
      else
        let r := fetchText [']'] (r.data.size + 1) r.unread false []
        fetchRange fuel r wantHi true seenNot

def breakers (r : Reader) : List Char :=
  if r.terms > 0 then ['?', '*', '[', '{', '}', ','] else ['?', '*', '[', '{']
def fetchItem (r : Reader) : Reader :=
  let fuel := r.data.size + 1
  let (c, r) := r.read
  if c = endChar then r.push .done
  else if c = '{' then { r with terms := r.terms + 1 }.push .termsOpen
  else if c = ',' ∧ r.terms > 0 then r.push .separator
  else if c = '}' ∧ r.terms > 0 then { r.push .termsClose with terms := r.terms - 1 }
  else if c = '[' then fetchRange fuel (r.push .rangeOpen) false false false
  else if c = '?' then r.push .single
  else if c = '*' then
    let (d, r) := r.read
    if d = '*' then r.push .super else r.unread.push .any
  else fetchText r.breakers fuel r.unread false []

/-- The next token: the reading error once there is one, else the oldest token queued, reading
more of the text when none is. -/
def next : Nat → Reader → Token × Reader
  | 0, r => (.done, r)
  | fuel + 1, r =>
    match r.err, r.queue with
    | some e, _ => (.error e, r)
    | none, t :: ts => (t, { r with queue := ts })
    | none, [] => next fuel r.fetchItem

end Reader

/-- One open alternative: the alternatives closed so far and the children of the one being
read, latest first. -/
structure Frame where
  done : List (List Node)
  current : List Node

def place (root : List Node) (frames : List Frame) (n : Node) : List Node × List Frame :=
  match frames with
  | [] => (n :: root, [])
  | f :: fs => (root, { f with current := n :: f.current } :: fs)

def Frame.node (f : Frame) : Node :=
  .anyOf ((f.done ++ [f.current.reverse]).map .pattern)

def closeAll (root : List Node) : List Frame → List Node
  | [] => root
  | [f] => f.node :: root
  | f :: g :: fs => closeAll root ({ g with current := f.node :: g.current } :: fs)
termination_by frames => frames.length

def readClass (fuel : Nat) (root : List Node) (frames : List Frame) :
    Nat → Reader → Bool → Char → Char → String → Except String (List Node × List Frame × Reader)
  | 0, r, _, _, _, _ => .ok (root, frames, r)
  | n + 1, r, neg, lo, hi, chars =>
    let (t, r) := r.next fuel
    match t with
    | .done => .error "unexpected end"
    | .error e => .error e
    | .negation => readClass fuel root frames n r true lo hi chars
    | .rangeLo c => readClass fuel root frames n r neg c hi chars
    | .rangeHi c =>
      if c < lo then
        .error ("hi character '" ++ String.singleton c ++ "' should be greater than lo '" ++
          String.singleton lo ++ "'")
      else readClass fuel root frames n r neg lo c chars
    | .text s => readClass fuel root frames n r neg lo hi s
    | .rangeClose =>
      let isRange := lo ≠ endChar ∧ hi ≠ endChar
      if (chars ≠ "") = isRange then .error "could not parse range"
      else
        let (root, frames) := place root frames
          (if isRange then .range lo hi neg else .list chars neg)
        .ok (root, frames, r)
    | _ => readClass fuel root frames n r neg lo hi chars

def build (fuel : Nat) : Nat → List Node → List Frame → Reader → Except String Node
  | 0, root, frames, _ => .ok (.pattern (closeAll root frames).reverse)
  | n + 1, root, frames, r =>
    let (t, r) := r.next fuel
    match t with
    | .done => .ok (.pattern (closeAll root frames).reverse)
    | .error e => .error e
    | .text s => let (root, frames) := place root frames (.text s); build fuel n root frames r
    | .any => let (root, frames) := place root frames .any; build fuel n root frames r
    | .super => let (root, frames) := place root frames .super; build fuel n root frames r
    | .single => let (root, frames) := place root frames .single; build fuel n root frames r
    | .rangeOpen =>
      match readClass fuel root frames fuel r false endChar endChar "" with
      | .ok (root, frames, r) => build fuel n root frames r
      | .error e => .error e
    | .termsOpen => build fuel n root (⟨[], []⟩ :: frames) r
    | .separator =>
      match frames with
      | f :: fs => build fuel n root (⟨f.done ++ [f.current.reverse], []⟩ :: fs) r
      | [] => build fuel n root frames r
    | .termsClose =>
      match frames with
      | f :: fs => let (root, frames) := place root fs f.node; build fuel n root frames r
      | [] => build fuel n root frames r
    | _ => .error "unexpected token"

def parse (s : String) : Except String Node :=
  let fuel := 3 * s.length + 4
  build fuel fuel [] [] { data := s.toList.toArray }

end AccessPolicy.Glob
