import AccessPolicy.Proofs.Decision.Record
import AccessPolicy.Proofs.RowFilter.Conjunction
import AccessPolicy.Proofs.Tags.Binding
import AccessPolicy.DecisionPoint.ProxyCheck
/-!
# How a proxy's checks are answered

A check forwards a request exactly when the request names a user, an action and a resource the
snapshot reads, and the engine allows the access request they make: the user with the request's
groups, the resource and the action (`check_forwards_iff_allowed`). The answer then passes the
decision on, under the id of the check; the decision's row filter is passed on only when it has
predicates, since the engine never decides with an empty one (`Snapshot.evaluate_rowFilter`).

Every other check is refused, and a refusal passes nothing on (`Refuses`): 16 without a user,
3 when the action or the resource cannot be read or the engine finds the request invalid, 7 when
the engine denies it. No failure along the way forwards a request: the check is fail-closed.
-/

namespace AccessPolicy

/-! ## The engine's side -/

namespace Snapshot

theorem conditions_rowFilter {p : Principal} {allows : List Candidate} {f : RowFilter.Filter}
    (h : (conditions p allows).1 = some f) : f.predicates ≠ [] := by
  simp only [conditions] at h
  split at h
  next => cases h
  next hp =>
    cases h
    simpa using hp

/-- A decision's row filter is absent rather than empty: one that the engine attaches has at least
one predicate. -/
theorem evaluate_rowFilter {s : Snapshot} {req : AccessRequest} {d : Decision} {r : AccessRecord}
    (h : s.evaluate req = .ok (d, r)) {f : RowFilter.Filter} (hf : d.rowFilter = some f) :
    f.predicates ≠ [] := by
  obtain ⟨ev, hj, hev⟩ := Except.map_eq_ok h
  obtain ⟨c, -, hj⟩ := Except.bind_eq_ok hj
  simp only [pure, Except.pure, Except.ok.injEq] at hj
  subst hj
  simp only [Prod.mk.injEq] at hev
  obtain ⟨rfl, -⟩ := hev
  -- only an ALLOW carries a filter, the one the allow hits' conditions make
  split at hf
  · cases hf
  · split at hf
    · exact conditions_rowFilter hf
    · cases hf

end Snapshot

namespace Deployment

/-- Judging answers with the engine's evaluation; only the metrics and the log change. -/
theorem judge_run_fst (d : Deployment) (req : AccessRequest) (probe : Bool) :
    ((judge req probe).run d).1 = d.engine.evaluate req := by
  cases h : d.engine.evaluate req <;> simp [judge, h] <;> rfl

end Deployment

namespace ProxyCheck

/-! ## Answers -/

/-- A refusal with the code `code`: the request is answered rather than forwarded, under a result
header that says so, and nothing is passed on. -/
structure Refuses (code : Nat) (resp : CheckResponse) : Prop where
  code_eq : resp.code = code
  answered : ∃ status headers,
    resp.verdict = .answer status resp.message ((resultHeader, "denied") :: headers)
  no_metadata : resp.metadata = none

theorem deny_refuses (code status : Nat) (message : String) (headers : List (String × String)) :
    Refuses code (deny code status message headers) :=
  ⟨rfl, ⟨status, headers, rfl⟩, rfl⟩

/-- The answer that forwards a request under the decision `d`, with the id `id`: the request
goes ahead with the id, and the decision is passed on, its row filter only with predicates. -/
structure Forwards (id : String) (d : Decision) (resp : CheckResponse) : Prop where
  code_eq : resp.code = 0
  forwarded : resp.verdict = .forward [(resultHeader, "allowed"), (decisionHeader, id)]
  metadata : resp.metadata = some (metadataOf id d)
  rowFilter : ∀ f, d.rowFilter = some f → f.predicates ≠ []

/-! ## Reading the request -/

theorem accessRequest_eq_none_iff {s : Snapshot} {req : CheckRequest} :
    accessRequest s req = none ↔ req.user = "" := by
  unfold accessRequest
  by_cases h : req.user.isEmpty <;> simp_all [String.isEmpty_iff]

/-- A request with a user is read into an access request exactly when its action and its
resource are read. -/
theorem accessRequest_eq_ok_iff {s : Snapshot} {req : CheckRequest} {r : AccessRequest} :
    accessRequest s req = some (.ok r) ↔ req.user ≠ "" ∧ ∃ action path,
      req.action = .ok action ∧ req.resource s = .ok path ∧
        r = ⟨⟨req.user, req.groups⟩, path, action, none⟩ := by
  unfold accessRequest
  by_cases h : req.user.isEmpty
  · simp [String.isEmpty_iff.mp h]
  · rw [if_neg h, Option.some.injEq]
    refine ⟨fun hr => ?_, fun ⟨_, action, path, ha, hp, hr⟩ => by simp [ha, hp, hr, bind, pure,
      Except.bind, Except.pure]⟩
    obtain ⟨action, ha, hr⟩ := Except.bind_eq_ok hr
    obtain ⟨path, hp, hr⟩ := Except.bind_eq_ok hr
    exact ⟨String.isEmpty_eq_false_iff.mp (Bool.eq_false_iff.mpr h), action, path, ha, hp,
      (Except.ok.inj hr).symm⟩

theorem accessRequest_of_action_error {s : Snapshot} {req : CheckRequest} {e : RequestError}
    (hu : req.user ≠ "") (ha : req.action = .error e) : accessRequest s req = some (.error e) := by
  simp [accessRequest, String.isEmpty_eq_false_iff.mpr hu, ha, bind, Except.bind]

theorem accessRequest_of_resource_error {s : Snapshot} {req : CheckRequest} {action : String}
    {e : RequestError} (hu : req.user ≠ "") (ha : req.action = .ok action)
    (hp : req.resource s = .error e) : accessRequest s req = some (.error e) := by
  simp [accessRequest, String.isEmpty_eq_false_iff.mpr hu, ha, hp, bind, Except.bind]

/-! ## Checking -/

section Run

variable (id : String) {req : CheckRequest} (dep : Deployment)

theorem check_run_of_none (h : accessRequest dep.engine.snapshot req = none) :
    ((check id req).run dep).1 = deny 16 401 "missing x-dataguard-user header" := by
  simp [check, Deployment.snapshot, h]
  rfl

theorem check_run_of_error {e : RequestError}
    (h : accessRequest dep.engine.snapshot req = some (.error e)) :
    ((check id req).run dep).1 = deny 3 400 e.message := by
  simp [check, Deployment.snapshot, h]
  rfl

theorem check_run_of_evaluate_error {r : AccessRequest} {e : RequestError}
    (h : accessRequest dep.engine.snapshot req = some (.ok r))
    (he : dep.engine.evaluate r = .error e) :
    ((check id req).run dep).1 = deny 3 400 e.message := by
  simp [check, Deployment.snapshot, Deployment.judge, h, he]
  rfl

theorem check_run_of_evaluate_ok {r : AccessRequest} {d : Decision} {rec : AccessRecord}
    (h : accessRequest dep.engine.snapshot req = some (.ok r))
    (he : dep.engine.evaluate r = .ok (d, rec)) :
    ((check id req).run dep).1 =
      if d.allowed then ⟨0, "", .forward [(resultHeader, "allowed"), (decisionHeader, id)],
        some (metadataOf id d)⟩
      else deny 7 403 "permission denied" [(decisionHeader, id)] := by
  simp [check, Deployment.snapshot, Deployment.judge, h, he]
  split <;> rfl

theorem check_forwards {r : AccessRequest} {d : Decision} {rec : AccessRecord}
    (h : accessRequest dep.engine.snapshot req = some (.ok r))
    (he : dep.engine.evaluate r = .ok (d, rec)) (ha : d.allowed = true) :
    Forwards id d ((check id req).run dep).1 := by
  rw [check_run_of_evaluate_ok id dep h he, if_pos ha]
  exact ⟨rfl, rfl, rfl, fun _ hf => Snapshot.evaluate_rowFilter he hf⟩

/-- Every answer is a `deny` with a code other than 0, or forwards under a decision the engine
made on the request's access request and allowed. -/
theorem check_deny_or_forwards :
    (∃ code status message headers, code ≠ 0 ∧
      ((check id req).run dep).1 = deny code status message headers) ∨
    ∃ r d rec, accessRequest dep.engine.snapshot req = some (.ok r) ∧
      dep.engine.evaluate r = .ok (d, rec) ∧ d.allowed = true ∧
      Forwards id d ((check id req).run dep).1 := by
  cases hreq : accessRequest dep.engine.snapshot req with
  | none => exact .inl ⟨16, 401, _, [], by decide, check_run_of_none id dep hreq⟩
  | some res =>
    cases res with
    | error e => exact .inl ⟨3, 400, _, [], by decide, check_run_of_error id dep hreq⟩
    | ok r =>
      cases hev : dep.engine.evaluate r with
      | error e => exact .inl ⟨3, 400, _, [], by decide, check_run_of_evaluate_error id dep hreq hev⟩
      | ok dr =>
        obtain ⟨d, rec⟩ := dr
        by_cases ha : d.allowed = true
        · exact .inr ⟨r, d, rec, rfl, hev, ha, check_forwards id dep hreq hev ha⟩
        · refine .inl ⟨7, 403, "permission denied", [(decisionHeader, id)], by decide, ?_⟩
          rw [check_run_of_evaluate_ok id dep hreq hev, if_neg ha]

variable (req)

/-- A check forwards exactly when the request has a user, an action and a resource the snapshot
reads, and the engine allows the access request they make. -/
theorem check_code_eq_zero_iff :
    ((check id req).run dep).1.code = 0 ↔ req.user ≠ "" ∧ ∃ action path d rec,
      req.action = .ok action ∧ req.resource dep.engine.snapshot = .ok path ∧
      dep.engine.evaluate ⟨⟨req.user, req.groups⟩, path, action, none⟩ = .ok (d, rec) ∧
      d.allowed = true := by
  constructor
  · intro h0
    rcases check_deny_or_forwards id dep with ⟨code, _, _, _, hne, hd⟩ | ⟨r, d, rec, hreq, hev, ha, -⟩
    · rw [hd] at h0
      exact absurd h0 hne
    · obtain ⟨hu, action, path, ha', hp, rfl⟩ := accessRequest_eq_ok_iff.mp hreq
      exact ⟨hu, action, path, d, rec, ha', hp, hev, ha⟩
  · rintro ⟨hu, action, path, d, rec, ha, hp, hev, hal⟩
    exact (check_forwards id dep (accessRequest_eq_ok_iff.mpr ⟨hu, action, path, ha, hp, rfl⟩)
      hev hal).code_eq

/-- Every answer that does not forward is a refusal: nothing is passed on. -/
theorem check_refuses (h : ((check id req).run dep).1.code ≠ 0) :
    Refuses ((check id req).run dep).1.code ((check id req).run dep).1 := by
  rcases check_deny_or_forwards id dep with ⟨code, status, message, headers, -, hd⟩ | ⟨_, _, _, -, -, -, hf⟩
  · rw [hd]
    exact deny_refuses code status message headers
  · exact absurd hf.code_eq h

end Run

/-! ## The answer to every check -/

/-- Every check forwards exactly when the request names a user, an action and a resource the
snapshot reads, and the engine allows the access request they make: the user with the request's
groups, the resource and the action. The answer then passes the decision on. Every other check is
refused with nothing passed on: 16 without a user, 3 when the action or the resource cannot be
read or the engine finds the request invalid, 7 when the engine denies it. -/
theorem check_forwards_iff_allowed (id : String) (req : CheckRequest) (dep : Deployment) :
    (((check id req).run dep).1.code = 0 ↔ req.user ≠ "" ∧ ∃ action path d rec,
      req.action = .ok action ∧ req.resource dep.engine.snapshot = .ok path ∧
      dep.engine.evaluate ⟨⟨req.user, req.groups⟩, path, action, none⟩ = .ok (d, rec) ∧
      d.allowed = true) ∧
    (((check id req).run dep).1.code ≠ 0 →
      Refuses ((check id req).run dep).1.code ((check id req).run dep).1) ∧
    (req.user = "" → ((check id req).run dep).1 = deny 16 401 "missing x-dataguard-user header") ∧
    (∀ e, req.user ≠ "" → req.action = .error e →
      ((check id req).run dep).1 = deny 3 400 e.message) ∧
    (∀ action e, req.user ≠ "" → req.action = .ok action →
      req.resource dep.engine.snapshot = .error e →
      ((check id req).run dep).1 = deny 3 400 e.message) ∧
    (∀ action path, req.user ≠ "" → req.action = .ok action →
      req.resource dep.engine.snapshot = .ok path →
      (∀ e, dep.engine.evaluate ⟨⟨req.user, req.groups⟩, path, action, none⟩ = .error e →
        ((check id req).run dep).1 = deny 3 400 e.message) ∧
      ∀ d rec, dep.engine.evaluate ⟨⟨req.user, req.groups⟩, path, action, none⟩ = .ok (d, rec) →
        if d.allowed then Forwards id d ((check id req).run dep).1
        else ((check id req).run dep).1 = deny 7 403 "permission denied" [(decisionHeader, id)]) := by
  refine ⟨check_code_eq_zero_iff id req dep, check_refuses id req dep,
    fun hu => check_run_of_none id dep (accessRequest_eq_none_iff.mpr hu),
    fun e hu ha => check_run_of_error id dep (accessRequest_of_action_error hu ha),
    fun action e hu ha hp => check_run_of_error id dep (accessRequest_of_resource_error hu ha hp),
    fun action path hu ha hp => ?_⟩
  -- the request maps: what follows is the engine's to say
  have hreq := accessRequest_eq_ok_iff.mpr ⟨hu, action, path, ha, hp, rfl⟩
  refine ⟨fun e he => check_run_of_evaluate_error id dep hreq he, fun d rec he => ?_⟩
  split
  next hal => exact check_forwards id dep hreq he hal
  next hal => rw [check_run_of_evaluate_ok id dep hreq he, if_neg hal]

end ProxyCheck

end AccessPolicy
