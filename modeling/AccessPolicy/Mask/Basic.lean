import AccessPolicy.Value.Text
import AccessPolicy.Text.CharClass
import AccessPolicy.Text.Md5
/-!
# Column masks

A mask spec names a mask function and its arguments; the policy that contributed it is kept
with it. Masking is total: a spec is applied whether or not it passed its check, and a value
that is nothing stays nothing under every function.

* `redact` writes `X` for an upper-case letter, `x` for a lower-case one and `n` for a decimal
  digit, and keeps every other character;
* `hash` gives the MD5 digest of the value's text in hexadecimal;
* `show_last n` and `show_first n` write `x` for every letter and digit outside the last or
  the first `n` characters; `n` is 4 without an argument and 0 when the argument is no
  non-negative integer;
* `nullify` gives nothing, `none` the value itself;
* `date_show_year` keeps the year of a timestamp, or of a text starting `YYYY-MM-DD`, as
  `YYYY-01-01`, and gives nothing for anything else;
* an unknown function gives nothing.

Specs are applied in order, each to the result of the one before.
-/

namespace AccessPolicy

structure MaskSpec where
  function : String
  args : List String := []
  policyId : String := ""
  deriving Repr, DecidableEq, Inhabited

inductive MaskFunction where
  | redact
  | hash
  | showLast
  | showFirst
  | nullify
  | keep
  | dateShowYear
  deriving Repr, DecidableEq

def MaskFunction.ofName? : String → Option MaskFunction
  | "redact" => some .redact
  | "hash" => some .hash
  | "show_last" => some .showLast
  | "show_first" => some .showFirst
  | "nullify" => some .nullify
  | "none" => some .keep
  | "date_show_year" => some .dateShowYear
  | _ => none

inductive MaskError where
  | takesNoArguments (function : String)
  | takesAtMostOne (function : String)
  | badCount (function : String) (arg : String)
  | unknown (function : String)
  deriving Repr, DecidableEq

def MaskError.message : MaskError → String
  | .takesNoArguments f => "mask function '" ++ f ++ "' takes no arguments"
  | .takesAtMostOne f => "mask function '" ++ f ++ "' takes at most one argument"
  | .badCount f a => "mask function '" ++ f ++ "': argument must be a non-negative integer, got '" ++ a ++ "'"
  | .unknown f => "unknown mask function '" ++ f ++ "'"

namespace MaskSpec

/-- The number of characters a show function reveals: 4 without an argument, else the first
argument read as a non-negative integer of 64 bits. -/
def showCount (spec : MaskSpec) : Except MaskError Nat :=
  match spec.args with
  | [] => .ok 4
  | a :: _ =>
    match readInt64? a with
    | some n => if 0 ≤ n then .ok n.toNat else .error (.badCount spec.function a)
    | none => .error (.badCount spec.function a)

def check (spec : MaskSpec) : Except MaskError Unit :=
  match MaskFunction.ofName? spec.function with
  | some .showLast | some .showFirst =>
    if spec.args.length > 1 then .error (.takesAtMostOne spec.function)
    else (spec.showCount).map (fun _ => ())
  | some _ => if spec.args.isEmpty then .ok () else .error (.takesNoArguments spec.function)
  | none => .error (.unknown spec.function)

def hideRange (cs : List Char) (lo hi : Int) : List Char :=
  cs.mapIdx fun i c =>
    if lo ≤ i ∧ i < hi ∧ (CharClass.letter c ∨ CharClass.decimalDigit c) then 'x' else c

/-- The characters with upper-case letters written `X`, lower-case ones `x` and decimal digits
`n`. -/
def redactChars (cs : List Char) : List Char :=
  cs.map fun c =>
    if CharClass.upper c then 'X'
    else if CharClass.lower c then 'x'
    else if CharClass.decimalDigit c then 'n'
    else c

def startsWithDate (cs : List Char) : Bool :=
  let d (c : Char) : Bool := '0' ≤ c ∧ c ≤ '9'
  match cs with
  | y1 :: y2 :: y3 :: y4 :: '-' :: m1 :: m2 :: '-' :: d1 :: d2 :: _ =>
    d y1 ∧ d y2 ∧ d y3 ∧ d y4 ∧ d m1 ∧ d m2 ∧ d d1 ∧ d d2
  | _ => false

def yearOnly (v : Value) : Value :=
  match v with
  | .time t => .text (Timestamp.pad 4 t.year ++ "-01-01")
  | _ =>
    let cs := v.maskChars
    if startsWithDate cs then .text (String.ofList (cs.take 4) ++ "-01-01") else .null

def apply (spec : MaskSpec) (v : Value) : Value :=
  match v with
  | .null => .null
  | _ =>
    let count : Int := match spec.showCount with
      | .ok n => n
      | .error _ => 0
    match MaskFunction.ofName? spec.function with
    | some .keep => v
    | some .nullify => .null
    | some .redact => .text (String.ofList (redactChars v.maskChars))
    | some .hash => .text (Md5.hexDigest v.maskBytes)
    | some .showLast =>
      let cs := v.maskChars
      .text (String.ofList (hideRange cs 0 (cs.length - count)))
    | some .showFirst =>
      let cs := v.maskChars
      .text (String.ofList (hideRange cs count cs.length))
    | some .dateShowYear => yearOnly v
    | none => .null

end MaskSpec

def applyMasks (specs : List MaskSpec) (v : Value) : Value :=
  specs.foldl (fun acc spec => spec.apply acc) v

end AccessPolicy
