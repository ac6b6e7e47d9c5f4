import AccessPolicy.Glob.Matcher
/-!
# Compiling globs
-/

namespace AccessPolicy.Glob

def bytesOf (s : String) : Bytes := Utf8.encode s

namespace Matcher

/-- Simplifies a matcher: one alternative is itself, a list of one character is that text, and a
tree around a text with sides of any text or nothing becomes a prefix, suffix or containment
test. -/
def simplify : Matcher → Matcher
  | .anyOf [m] => m
  | .list [c] false => .text (bytesOf (String.singleton (Char.ofNat c)))
  | .btree v l r vl ll rl total =>
    let l' := match l with
      | some m => some (simplify m)
      | none => none
    let r' := match r with
      | some m => some (simplify m)
      | none => none
    simplifyTree v l' r' vl ll rl total
  | m => m
where
  /-- A tree around a text with sides of any text or nothing as a prefix, suffix or containment
  test. -/
  simplifyTree (v : Matcher) (l r : Option Matcher) (vl ll rl total : Int) : Matcher :=
    match v with
    | .text t =>
      match l, r with
      | none, none => .text t
      | some .super, some .super => .contains t false
      | some .super, none => .suffixOf t
      | none, some .super => .prefixOf t
      | none, some (.suffixOf q) => .prefixSuffix t q
      | some (.prefixOf p), none => .prefixSuffix p t
      | some (.anyExcept seps), none => .suffixAny t seps
      | none, some (.anyExcept seps) => .prefixAny t seps
      | _, _ => .btree v l r vl ll rl total
    | _ => .btree v l r vl ll rl total

end Matcher

/-- What a part counts as when runs of `*` and `?` are glued: its kind of character, and whether
it is `*`, `?`. -/
inductive GluePart where
  | star (outside : List Nat)
  | one (outside : List Nat)

def gluePart? : Matcher → Option GluePart
  | .super => some (.star [])
  | .anyExcept seps => some (.star seps)
  | .single => some (.one [])
  | .list cs true => some (.one cs)
  | _ => none

def GluePart.outside : GluePart → List Nat
  | .star cs => cs
  | .one cs => cs

/-- Glues a run of `*` and `?` parts, all keeping out the same characters, into a count of
characters. -/
def glueEvery (ms : List Matcher) : Option Matcher :=
  if ms.length ≤ 1 then none
  else
    match ms.mapM gluePart? with
    | none => none
    | some parts =>
      let sep := (parts.head?.map GluePart.outside).getD []
      if parts.any (fun p => p.outside != sep) then none
      else
        let stars := parts.any fun | .star _ => true | _ => false
        let singles := (parts.filter fun | .one _ => true | _ => false).length
        if stars ∧ singles = 0 then some (if sep.isEmpty then .super else .anyExcept sep)
        else if stars ∧ singles > 0 ∧ sep.isEmpty then some (.min singles)
        else
          let counts := if singles > 0 then
              [Matcher.min singles] ++ (if stars then [] else [Matcher.max singles])
            else []
          let keepOut := if sep.isEmpty then [] else
            [Matcher.contains (bytesOf (String.ofList (sep.map Char.ofNat))) true]
          some (.everyOf (counts ++ keepOut))
def glueRow (ms : List Matcher) : Option Matcher :=
  if ms.length ≤ 1 then none
  else if ms.any (fun m => m.len = -1) then none
  else some (.row (ms.foldl (fun n m => n + m.len.toNat) 0) ms)

def glue (ms : List Matcher) : Option Matcher :=
  (glueEvery ms).orElse fun _ => glueRow ms

/-- The best run to glue: the widest, or of two the one of greater fixed length; the first
found of equals. -/
def bestRun (ms : List Matcher) : Option (Matcher × Nat × Nat) :=
  let n := ms.length
  let windows := (List.range n).flatMap fun l =>
    (List.range (n - l)).map fun k => (l, n - k)
  windows.foldl (fun best (l, r) =>
    match glue ((ms.drop l).take (r - l)) with
    | none => best
    | some g =>
      match best with
      | none => some (g, l, r)
      | some (d, bl, br) =>
        let cl := d.len
        let gl := g.len
        if (cl > -1 ∧ gl > -1 ∧ gl > cl) ∨ br - bl < r - l then some (g, l, r) else best)
    none

def gather (ms : List Matcher) : List Matcher :=
  match bestRun ms with
  | none => ms
  | some (g, l, r) =>
    let next := ms.take l ++ [g] ++ ms.drop r
    if next.length < ms.length then gather next else next
termination_by ms.length
decreasing_by all_goals assumption

def longestFixed (ms : List Matcher) : Option Nat :=
  (ms.zipIdx.foldl (fun best (m, i) =>
    let l := m.len
    if l = -1 then best
    else match best with
      | none => some (i, l)
      | some (_, bl) => if l ≥ bl then some (i, l) else best) none).map (·.1)

def split : List Matcher → Matcher
  | [] => .nothing
  | [m] => m
  | m :: m' :: rest =>
    match glue (m :: m' :: rest) with
    | some g => g
    | none =>
      match longestFixed (m :: m' :: rest) with
      | some idx =>
        if hidx : idx < rest.length + 2 then
          let left := (m :: m' :: rest).take idx
          let right := (m :: m' :: rest).drop (idx + 1)
          Matcher.mkTree ((m :: m' :: rest).getD idx .nothing)
            (if left.isEmpty then none else some (split left))
            (if right.isEmpty then none else some (split right))
        else .nothing
      | none => Matcher.mkTree m none (some (split (m' :: rest)))
termination_by ms => ms.length
decreasing_by
  · exact Nat.lt_of_le_of_lt (List.length_take_le idx _) hidx
  · rw [List.length_drop]
    exact Nat.sub_lt (Nat.succ_pos _) (Nat.succ_pos _)
  · exact Nat.lt_succ_self _

/-- The leading and trailing children that every alternative shares. -/
def commonParts (alts : List (List Node)) : List Node × List Node :=
  if alts.length ≤ 1 then ([], [])
  else
    let fewest := alts.foldl (fun m a => Nat.min m a.length) (alts.headD []).length
    let idx := (alts.findIdx? (·.length = fewest)).getD 0
    let tree := alts.getD idx []
    let n := tree.length
    let others := (alts.zipIdx.filter (·.2 ≠ idx)).map (·.1)
    let rec walk (fuel i : Nat) (j : Int) (total : Nat) (bl br : Bool)
        (left right : List Node) : List Node × List Node :=
      match fuel with
      | 0 => (left.reverse, right)
      | fuel + 1 =>
        if total < n ∧ j ≥ 0 ∧ ¬(bl ∧ br) then
          let tl := tree.getD i .nothing
          let tr := tree.getD j.toNat .nothing
          let (bl, br) := others.foldl (fun (bl, br) other =>
            if bl ∧ br then (bl, br)
            else
              let restLeft := other.getD i .nothing
              let restRight := other.getD (j.toNat + other.length - n) .nothing
              let bl := bl || !(tl == restLeft)
              let br := br || (!bl && j ≤ i)
              let br := br || !(tr == restRight)
              (bl, br)) (bl, br)
          let (total, left) := if !bl then (total + 1, tl :: left) else (total, left)
          let (total, right) := if !br then (total + 1, tr :: right) else (total, right)
          walk fuel (i + 1) (j - 1) total bl br left right
        else (left.reverse, right)
    walk (n + 1) 0 ((n : Int) - 1) 0 false false [] []

/-- Takes the parts shared by all alternatives out of them: the shared leading parts, then the
alternatives of what is left (one left with nothing is `nothing`, and repeats are dropped), then
the shared trailing parts. -/
def shareParts (alts : List Node) : Option Node :=
  let seqs := alts.filterMap fun | .pattern cs => some cs | _ => none
  if seqs.length ≠ alts.length then none
  else
    let (cl, cr) := commonParts seqs
    if cl.isEmpty ∧ cr.isEmpty then none
    else
      let middles := seqs.map fun cs =>
        let reuse := (cs.drop cl.length).take (cs.length - cl.length - cr.length)
        if reuse.isEmpty then Node.nothing else .pattern reuse
      let unique := middles.foldl (fun acc m => if acc.contains m then acc else acc ++ [m]) []
      let mid := match unique with
        | [] => []
        | [m] => [m]
        | ms => [Node.anyOf ms]
      some (.pattern ((if cl.isEmpty then [] else [.pattern cl]) ++ mid ++
        (if cr.isEmpty then [] else [.pattern cr])))

def Node.size : Node → Nat
  | .pattern cs | .anyOf cs => 1 + sizes cs
  | _ => 1
where
  sizes : List Node → Nat
    | [] => 0
    | c :: cs => c.size + sizes cs

/-- Compiles a tree into a matcher, `*` and `?` keeping out the separators; `fuel` bounds the
depth of compiling. -/
def compileWith (seps : List Nat) : Nat → Node → Matcher
  | 0, _ => .nothing
  | fuel + 1, n =>
    match n with
    | .anyOf cs =>
      match shareParts cs with
      | some n' => compileWith seps fuel n'
      | none => .anyOf (cs.map fun c => (compileWith seps fuel c).simplify)
    | .pattern [] => .nothing
    | .pattern cs => (split (gather (cs.map fun c => (compileWith seps fuel c).simplify))).simplify
    | .any => if seps.isEmpty then .super else .anyExcept seps
    | .super => .super
    | .single => if seps.isEmpty then .single else .list seps true
    | .nothing => .nothing
    | .list chars neg => (Matcher.list (codePoints chars) neg).simplify
    | .range lo hi neg => .range lo.toNat hi.toNat neg
    | .text t => .text (bytesOf t)

/-- Compiles a glob text whose `*` and `?` keep out some separators, or gives the reason it is
no glob. -/
def compileWithSeparators (s : String) (seps : List Char) : Except String Matcher :=
  (parse s).map fun n => compileWith (seps.map Char.toNat) (2 * n.size + 8) n

def compile (s : String) : Except String Matcher :=
  compileWithSeparators s []

def quoteMeta (s : String) : String :=
  String.join (s.toList.map fun c =>
    if "*?\\[]\x7b\x7d".toList.contains c then String.ofList ['\\', c] else String.singleton c)

def Matcher.acceptsText (m : Matcher) (s : String) : Bool :=
  m.accepts (bytesOf s)

end AccessPolicy.Glob
