import AccessPolicy.Text.CharClass
/-!
# Actions

A request asks to read, write, create, drop, alter or administer a resource. Policies grant sets
of actions, written as lists of names in which `all` stands for every action. A name is read
after trimming blanks and folding to lower case; `all` is recognised in any case, in lists only.
-/

namespace AccessPolicy

inductive Action where
  | read
  | write
  | create
  | drop
  | alter
  | admin
  deriving Repr, DecidableEq, Inhabited

namespace Action

def all : List Action := [.read, .write, .create, .drop, .alter, .admin]

def name : Action → String
  | .read => "read"
  | .write => "write"
  | .create => "create"
  | .drop => "drop"
  | .alter => "alter"
  | .admin => "admin"

def bit : Action → Nat
  | .read => 1
  | .write => 2
  | .create => 4
  | .drop => 8
  | .alter => 16
  | .admin => 32

def parse (s : String) : Except String Action :=
  match (all.find? fun a => a.name = CharClass.lowerText (CharClass.trimBlank s)) with
  | some a => .ok a
  | none => .error ("unknown action '" ++ s ++ "'")

end Action

structure ActionSet where
  bits : Nat
  deriving Repr, DecidableEq, Inhabited

namespace ActionSet

def everything : ActionSet := ⟨63⟩

def has (s : ActionSet) (a : Action) : Bool :=
  s.bits / a.bit % 2 = 1

def insert (s : ActionSet) (a : Action) : ActionSet :=
  if s.has a then s else ⟨s.bits + a.bit⟩

def actions (s : ActionSet) : List Action :=
  Action.all.filter s.has

def text (s : ActionSet) : String :=
  "[" ++ ",".intercalate (s.actions.map Action.name) ++ "]"

def parse (names : List String) : Except String ActionSet :=
  names.foldlM (fun s n =>
    if (CharClass.trimBlank n).toList.map Char.toLower = "all".toList then .ok everything
    else (Action.parse n).map (fun a => s.insert a)) ⟨0⟩

end ActionSet

end AccessPolicy
