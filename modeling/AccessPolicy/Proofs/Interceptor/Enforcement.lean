import AccessPolicy.Engine.Deployment
import AccessPolicy.Interceptor.HBase
import AccessPolicy.Interceptor.Hive
/-!
# Interceptors enforce the engine's decisions

An interceptor turns a storage operation into requests and lets it go ahead as the engine's
decisions on them say. Against a fixed snapshot the engine is a function from requests to
decisions, whatever else a deployment records while it judges (metrics, the access log): such
an evaluator is `Evaluator.Fixed`, and a deployed engine is one (`Deployment.evaluator_fixed`).

Over a fixed evaluator a guard answers its request's `verdict` (`guard_run`), so guarding a list
of resources answers the first refusal among them, a denial or a request the engine could not
judge (`guardAll_run`, `guardEach_eq_ok_iff`). Each hook is that rule applied to the requests it
derives (`hooks_enforce_decisions`): puts, deletes and privilege checks stop at the first refused
resource; a get keeps the readable families, failing with the first denial when none is; and row
policies keep the rows that pass the decision's filter, masked.
-/

namespace AccessPolicy

/-- The engine's decision on a request, without its access record. -/
def Engine.decision (e : Engine) (req : AccessRequest) : Except RequestError Decision :=
  (e.evaluate req).map (·.1)

section Verdicts

variable (judge : AccessRequest → Except RequestError Decision)

/-- What a guard answers when the engine decides its request as `judge` does: the decision on
ALLOW, a refusal naming the user, action, resource and deciding policies otherwise, and the
engine's own error, with the action and resource, when it cannot decide. -/
def verdict (p : Principal) (a : Action) (path : ResourcePath) : Except GuardError Decision :=
  match judge ⟨p, path, a.name, none⟩ with
  | .error e => .error (.failed a path e)
  | .ok d => if d.allowed then .ok d else .error (.denied p.user a path d.appliedPolicyIds)

/-- Why a guard stops at `path`, if it does. -/
def refusal (p : Principal) (a : Action) (path : ResourcePath) : Option GuardError :=
  match verdict judge p a path with
  | .error e => some e
  | .ok _ => none

/-- The engine's failure to decide `p` doing `a` on `path`, as a guard reports it. -/
def failure (p : Principal) (a : Action) (path : ResourcePath) : Option GuardError :=
  match judge ⟨p, path, a.name, none⟩ with
  | .error e => some (.failed a path e)
  | .ok _ => none

/-- The engine decides `p` may do `a` on `path`: the request is decided and the outcome is
ALLOW. -/
def Allows (p : Principal) (a : Action) (path : ResourcePath) : Prop :=
  ∃ d, judge ⟨p, path, a.name, none⟩ = .ok d ∧ d.allowed

/-- Guarding each of `paths` in turn under the engine's decisions: the first refusal, if any. -/
def guardEach (p : Principal) (a : Action) (paths : List ResourcePath) : Except GuardError Unit :=
  match paths.findSome? (refusal judge p a) with
  | some e => .error e
  | none => .ok ()

variable {judge}

theorem refusal_eq_none_iff {p : Principal} {a : Action} {path : ResourcePath} :
    refusal judge p a path = none ↔ Allows judge p a path := by
  unfold refusal verdict Allows
  cases judge ⟨p, path, a.name, none⟩ with
  | error e => simp
  | ok d => by_cases hd : d.allowed <;> simp [hd]

/-- A refusal is a denial exactly when the engine did decide. -/
theorem failure_eq {p : Principal} {a : Action} {path : ResourcePath} :
    failure judge p a path = (refusal judge p a path).filter (!·.isDenial) := by
  unfold failure refusal verdict
  cases judge ⟨p, path, a.name, none⟩ with
  | error e => rfl
  | ok d => by_cases hd : d.allowed <;> simp only [hd] <;> rfl

/-- A guard stopped by `e` has `e` for its refusal, and for the engine's failure unless `e` is a
denial. -/
theorem refusal_of_verdict_error {p : Principal} {a : Action} {path : ResourcePath}
    {e : GuardError} (hv : verdict judge p a path = .error e) :
    refusal judge p a path = some e ∧
      failure judge p a path = if e.isDenial then none else some e := by
  have hr : refusal judge p a path = some e := by simp [refusal, hv]
  refine ⟨hr, ?_⟩
  rw [failure_eq, hr]
  by_cases hd : e.isDenial <;> simp [hd]

theorem refusal_of_verdict_ok {p : Principal} {a : Action} {path : ResourcePath} {d : Decision}
    (hv : verdict judge p a path = .ok d) :
    refusal judge p a path = none ∧ failure judge p a path = none := by
  have hr : refusal judge p a path = none := by simp [refusal, hv]
  exact ⟨hr, by rw [failure_eq, hr]; rfl⟩

theorem guardEach_eq_ok_iff {p : Principal} {a : Action} {paths : List ResourcePath} :
    guardEach judge p a paths = .ok () ↔ ∀ r ∈ paths, Allows judge p a r := by
  simp only [← refusal_eq_none_iff, ← List.findSome?_eq_none_iff, guardEach]
  split <;> simp_all

/-- Guarding fails with the refusal of the first refused resource, all before it allowed. -/
theorem guardEach_eq_error_iff {p : Principal} {a : Action} {paths : List ResourcePath}
    {e : GuardError} :
    guardEach judge p a paths = .error e ↔ ∃ pre r post, paths = pre ++ r :: post ∧
      refusal judge p a r = some e ∧ ∀ r' ∈ pre, Allows judge p a r' := by
  simp only [← refusal_eq_none_iff]
  rw [← List.findSome?_eq_some_iff, guardEach]
  split <;> rename_i h <;> simp [h]

end Verdicts

/-! ## Evaluators over a fixed snapshot -/

/-- An evaluator over a fixed snapshot: from every state in `inv` it answers each request as
`judge` does and stays in `inv`. -/
structure Evaluator.Fixed {σ : Type} (eval : Evaluator (StateM σ)) (inv : σ → Prop)
    (judge : AccessRequest → Except RequestError Decision) : Prop where
  answer : ∀ req probe s, inv s → ((eval req probe).run s).1 = judge req
  keeps : ∀ req probe s, inv s → inv ((eval req probe).run s).2

/-- A deployed engine answers every request as its engine decides it, and keeps its engine. -/
theorem Deployment.evaluator_fixed (e : Engine) :
    Evaluator.Fixed Deployment.evaluator (·.engine = e) e.decision := by
  -- judging answers with the engine's decision and leaves the engine as it is
  have hrun (req : AccessRequest) (probe : Bool) (d : Deployment) :
      ((evaluator req probe).run d).1 = d.engine.decision req ∧
        ((evaluator req probe).run d).2.engine = d.engine := by
    unfold Engine.decision
    cases h : d.engine.evaluate req <;> simp [evaluator, judge, h] <;> exact ⟨rfl, rfl⟩
  exact ⟨fun req probe d hd => hd ▸ (hrun req probe d).1,
    fun req probe d hd => (hrun req probe d).2.trans hd⟩

theorem StateT.run_bind_eq {σ α β : Type} (x : StateM σ α) (f : α → StateM σ β) (s : σ) :
    (x >>= f).run s = (f (x.run s).1).run (x.run s).2 := rfl

section Fixed

variable {σ : Type} {eval : Evaluator (StateM σ)} {inv : σ → Prop}
  {judge : AccessRequest → Except RequestError Decision}

/-- Over a fixed evaluator a guard answers the verdict on its request. -/
theorem guard_run (hf : eval.Fixed inv judge) {s : σ} (hs : inv s) (p : Principal) (a : Action)
    (path : ResourcePath) (probe : Bool) :
    (guard eval p a path probe).run s =
      (verdict judge p a path, ((eval ⟨p, path, a.name, none⟩ probe).run s).2) := by
  simp only [guard, StateT.run_bind_eq, hf.answer _ probe s hs]
  unfold verdict
  cases judge ⟨p, path, a.name, none⟩ with
  | error e => rfl
  | ok d => by_cases hd : d.allowed <;> simp only [hd] <;> rfl

theorem guard_keeps (hf : eval.Fixed inv judge) {s : σ} (hs : inv s) (p : Principal) (a : Action)
    (path : ResourcePath) (probe : Bool) : inv ((guard eval p a path probe).run s).2 := by
  rw [guard_run hf hs]
  exact hf.keeps _ probe s hs

/-- Guarding a list of resources answers the first refusal among them. -/
theorem guardAll_run (hf : eval.Fixed inv judge) (p : Principal) (a : Action) :
    ∀ (paths : List ResourcePath) (s : σ), inv s →
      ((guardAll eval p a paths).run s).1 = guardEach judge p a paths ∧
        inv ((guardAll eval p a paths).run s).2
  | [], s, hs => ⟨rfl, hs⟩
  | r :: rs, s, hs => by
    have hk := guard_keeps hf hs p a r false
    rw [guard_run hf hs] at hk
    simp only [guardAll, StateT.run_bind_eq, guard_run hf hs, guardEach, List.findSome?_cons]
    unfold refusal
    -- the first resource either stops the guard or hands the rest its state
    cases verdict judge p a r with
    | error e => exact ⟨rfl, hk⟩
    | ok d => exact guardAll_run hf p a rs _ hk

end Fixed

/-! ## The hbase hooks -/

/-- What a get answers under the engine's decisions: for no family, the table's verdict; else
the first failure to decide on a family, or the families that may be read, in order, failing
with the first refusal when there are none. -/
def HBaseGuard.getAnswer (h : HBaseGuard) (judge : AccessRequest → Except RequestError Decision)
    (p : Principal) (table : String) (families : List String) :
    Except GuardError (Option (List String)) :=
  if families.isEmpty then (guardEach judge p .read [h.path [table]]).map fun _ => none
  else
    match families.findSome? (fun f => failure judge p .read (h.path [table, f])) with
    | some e => .error e
    | none =>
      match families.filter (fun f => (refusal judge p .read (h.path [table, f])).isNone),
          families.findSome? (fun f => refusal judge p .read (h.path [table, f])) with
      | [], some e => .error e
      | readable, _ => .ok (some readable)

section Fixed

variable {σ : Type} {eval : Evaluator (StateM σ)} {inv : σ → Prop}
  {judge : AccessRequest → Except RequestError Decision}

/-- The families a get may read are those the engine allows; the first failure to decide stops
it, and the refusals are collected in order. -/
theorem readableFamilies_run (hf : eval.Fixed inv judge) (h : HBaseGuard) (p : Principal)
    (table : String) :
    ∀ (fs : List String) (s : σ), inv s →
      ((h.readableFamilies eval p table fs).run s).1 =
        (match fs.findSome? (fun f => failure judge p .read (h.path [table, f])) with
        | some e => .error e
        | none => .ok (fs.filter (fun f => (refusal judge p .read (h.path [table, f])).isNone),
            fs.filterMap (fun f => refusal judge p .read (h.path [table, f])))) ∧
      inv ((h.readableFamilies eval p table fs).run s).2
  | [], s, hs => ⟨rfl, hs⟩
  | f :: fs, s, hs => by
    have hk := guard_keeps hf hs p .read (h.path [table, f]) false
    rw [guard_run hf hs] at hk
    obtain ⟨ih, ihk⟩ := readableFamilies_run hf h p table fs _ hk
    refine ⟨?_, ?_⟩
    all_goals
      simp only [HBaseGuard.readableFamilies, StateT.run_bind_eq, guard_run hf hs,
        List.findSome?_cons, List.filter_cons, List.filterMap_cons]
      rcases hv : verdict judge p .read (h.path [table, f]) with e | d
    · obtain ⟨hr, hfl⟩ := refusal_of_verdict_error hv
      by_cases hd : e.isDenial
      · simp only [hd, if_true, StateT.run_bind_eq, ih, hr, hfl, Option.isNone_some]
        cases fs.findSome? (fun f => failure judge p .read (h.path [table, f])) <;> rfl
      · rw [Bool.not_eq_true] at hd
        simp only [hd, hfl, Bool.false_eq_true, if_false]
        rfl
    · obtain ⟨hr, hfl⟩ := refusal_of_verdict_ok hv
      simp only [StateT.run_bind_eq, ih, hr, hfl, Option.isNone_none, if_true]
      cases fs.findSome? (fun f => failure judge p .read (h.path [table, f])) <;> rfl
    -- the state is the guard's after a failure, and the rest's otherwise
    · by_cases hd : e.isDenial
      · simp only [hd, if_true, StateT.run_bind_eq]
        split <;> exact ihk
      · rw [Bool.not_eq_true] at hd
        simp only [hd, Bool.false_eq_true, if_false]
        exact hk
    · simp only [StateT.run_bind_eq]
      split <;> exact ihk

/-- A get answers as the engine decides on its families, or on its table when it names none. -/
theorem preGet_run (hf : eval.Fixed inv judge) (h : HBaseGuard) (p : Principal) (table : String)
    (families : List String) {s : σ} (hs : inv s) :
    ((h.preGet eval p table families).run s).1 = h.getAnswer judge p table families := by
  unfold HBaseGuard.preGet HBaseGuard.getAnswer
  by_cases he : families.isEmpty
  · simp only [he, if_true, StateT.run_bind_eq, (guardAll_run hf p .read _ s hs).1]
    rfl
  · simp only [he, Bool.false_eq_true, if_false, StateT.run_bind_eq,
      (readableFamilies_run hf h p table families s hs).1]
    cases families.findSome? (fun f => failure judge p .read (h.path [table, f])) with
    | some e => rfl
    | none =>
      -- the first refusal heads the refusals collected in order
      rw [← List.head?_filterMap]
      cases families.filter (fun f => (refusal judge p .read (h.path [table, f])).isNone) <;>
        cases families.filterMap (fun f => refusal judge p .read (h.path [table, f])) <;> rfl

end Fixed

/-! ## The hive hooks -/

/-- Applying a decision to rows keeps the rows that pass its row filter, in order, each masked. -/
theorem Decision.applyToRows_eq (d : Decision) (rows : List Row) :
    d.applyToRows rows = (rows.filter (RowFilter.passes d.rowFilter)).map d.maskRow := by
  -- without masks a row is left as it is
  have hmask : d.columnMasks.isEmpty → d.maskRow = id := fun hm =>
    funext fun row => by simp [Decision.maskRow, List.isEmpty_iff.mp hm]
  unfold Decision.applyToRows
  rw [RowFilter.visibleRows_eq_filter]
  by_cases hm : d.columnMasks.isEmpty
  · simp [hm, hmask hm]
  · simp [hm]

section Fixed

variable {σ : Type} {eval : Evaluator (StateM σ)} {inv : σ → Prop}
  {judge : AccessRequest → Except RequestError Decision}

theorem checkPrivileges_run (hf : eval.Fixed inv judge) (hv : HiveGuard) (p : Principal)
    {operation : String} {op : HiveOperation} (hop : HiveOperation.ofName? operation = some op)
    {objects : List HiveObject} (hne : objects ≠ []) {s : σ} (hs : inv s) :
    ((hv.checkPrivileges eval p operation objects).run s).1 =
      guardEach judge p op.action (objects.flatMap hv.paths) := by
  have hempty : objects.isEmpty = false := by simpa using hne
  simp only [HiveGuard.checkPrivileges, hop, hempty, Bool.false_eq_true, if_false]
  exact (guardAll_run hf p op.action _ s hs).1

theorem applyRowPolicies_run (hf : eval.Fixed inv judge) (hv : HiveGuard) (p : Principal)
    (database table : String) (rows : List Row) {s : σ} (hs : inv s) :
    ((hv.applyRowPolicies eval p database table rows).run s).1 =
      (verdict judge p .read ⟨hv.service, [database, table]⟩).map fun d =>
        (rows.filter (RowFilter.passes d.rowFilter)).map d.maskRow := by
  simp only [HiveGuard.applyRowPolicies, StateT.run_bind_eq, guard_run hf hs]
  cases verdict judge p .read ⟨hv.service, [database, table]⟩ with
  | error e => rfl
  | ok d => exact congrArg Except.ok (d.applyToRows_eq rows)

end Fixed

/-! ## The hooks of a deployed engine -/

/-- The hbase and hive hooks of a deployed engine enforce exactly its decisions on the requests
they derive. Puts and deletes succeed iff every cell, family or (for none) the table may be
written, and else fail with the first refusal; a get keeps the families that may be read;
privilege checks stop at the first refused path of the objects, in order; and row policies keep
the rows that pass the decision's filter, masked, when the table may be read. A request the
engine cannot decide stops every hook with its own error, reported with the action and path. -/
theorem hooks_enforce_decisions (d : Deployment) (p : Principal) (hb : HBaseGuard)
    (hv : HiveGuard) :
    (∀ table cells,
      let paths := if cells.isEmpty then [hb.path [table]] else cells.map (hb.cellPath table)
      ((hb.prePut Deployment.evaluator p table cells).run d).1 =
          guardEach d.engine.decision p .write paths ∧
        (((hb.prePut Deployment.evaluator p table cells).run d).1 = .ok () ↔
          ∀ r ∈ paths, Allows d.engine.decision p .write r)) ∧
    (∀ table families,
      let paths := if families.isEmpty then [hb.path [table]]
        else families.map fun f => hb.path [table, f]
      ((hb.preDelete Deployment.evaluator p table families).run d).1 =
          guardEach d.engine.decision p .write paths ∧
        (((hb.preDelete Deployment.evaluator p table families).run d).1 = .ok () ↔
          ∀ r ∈ paths, Allows d.engine.decision p .write r)) ∧
    (∀ table families, ((hb.preGet Deployment.evaluator p table families).run d).1 =
      hb.getAnswer d.engine.decision p table families) ∧
    (∀ operation op objects, HiveOperation.ofName? operation = some op → objects ≠ [] →
      let paths := objects.flatMap hv.paths
      ((hv.checkPrivileges Deployment.evaluator p operation objects).run d).1 =
          guardEach d.engine.decision p op.action paths ∧
        (((hv.checkPrivileges Deployment.evaluator p operation objects).run d).1 = .ok () ↔
          ∀ r ∈ paths, Allows d.engine.decision p op.action r)) ∧
    (∀ database table rows,
      ((hv.applyRowPolicies Deployment.evaluator p database table rows).run d).1 =
        (verdict d.engine.decision p .read ⟨hv.service, [database, table]⟩).map fun dec =>
          (rows.filter (RowFilter.passes dec.rowFilter)).map dec.maskRow) := by
  have hf := Deployment.evaluator_fixed d.engine
  have hd : d.engine = d.engine := rfl
  -- puts, deletes and privilege checks guard a list of resources
  have hall (a : Action) (paths : List ResourcePath) :
      ((guardAll Deployment.evaluator p a paths).run d).1 = guardEach d.engine.decision p a paths ∧
        (((guardAll Deployment.evaluator p a paths).run d).1 = .ok () ↔
          ∀ r ∈ paths, Allows d.engine.decision p a r) := by
    rw [(guardAll_run hf p a paths d hd).1]
    exact ⟨rfl, guardEach_eq_ok_iff⟩
  refine ⟨fun table cells => hall .write _, fun table families => hall .write _,
    fun table families => preGet_run hf hb p table families hd,
    fun operation op objects hop hne => ?_,
    fun database table rows => applyRowPolicies_run hf hv p database table rows hd⟩
  rw [checkPrivileges_run hf hv p hop hne hd]
  exact ⟨rfl, guardEach_eq_ok_iff⟩

end AccessPolicy
