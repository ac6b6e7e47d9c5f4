import AccessPolicy.RowFilter.Predicate
/-!
# Row filters

A filter is the conjunction of predicates; the filter with none passes every row. Its text joins
the predicates' sources, each in parentheses, with ` AND `, and applying it keeps the rows that
pass, in their order.
-/

namespace AccessPolicy.RowFilter

structure Filter where
  predicates : List Predicate
  deriving Repr, DecidableEq, Inhabited

namespace Filter

def isEmpty (f : Filter) : Bool :=
  f.predicates.isEmpty

def evaluate (f : Filter) (row : Row) : Bool :=
  f.predicates.all (·.evaluate row)

def apply (f : Filter) (rows : List Row) : List Row :=
  if f.isEmpty then rows else rows.filter f.evaluate

def text (f : Filter) : String :=
  " AND ".intercalate (f.predicates.map fun p => "(" ++ p.source ++ ")")

def compile (texts : List String) : Except (String × ParseError) Filter :=
  match texts.mapM (fun t => (Predicate.compile t).mapError (t, ·)) with
  | .ok ps => .ok ⟨ps⟩
  | .error e => .error e

end Filter

def passes (f : Option Filter) (row : Row) : Bool :=
  match f with
  | some f => f.evaluate row
  | none => true

/-- The rows a filter that may be absent keeps; no filter keeps them all. -/
def visibleRows (f : Option Filter) (rows : List Row) : List Row :=
  match f with
  | some f => f.apply rows
  | none => rows

@[simp] theorem passes_some (f : Filter) : passes (some f) = f.evaluate := rfl

/-- The shortcut for a filter without predicates keeps what the selection keeps. -/
theorem visibleRows_eq_filter (f : Option Filter) (rows : List Row) :
    visibleRows f rows = rows.filter (passes f) := by
  rcases f with _ | f
  · exact (List.filter_eq_self.mpr fun _ _ => rfl).symm
  · by_cases h : f.isEmpty
    · have hall : ∀ row ∈ rows, f.evaluate row := fun row _ => by
        simp_all [Filter.isEmpty, Filter.evaluate]
      simpa [visibleRows, Filter.apply, h] using (List.filter_eq_self.mpr hall).symm
    · simp [visibleRows, Filter.apply, h]

end AccessPolicy.RowFilter
