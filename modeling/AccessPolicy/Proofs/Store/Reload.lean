import AccessPolicy.Engine.Store
import AccessPolicy.Engine.Basic
import AccessPolicy.Proofs.Snapshot.Build
/-!
# Publishing snapshots

A reload is atomic. It either publishes the snapshot it built, at one more than the published
version, or publishes nothing and keeps the version; and either way every observer is told which
(`Store.reload_eq`). No other call publishes anything (`Store.step_publishes`). Hence along any run
of calls the published snapshot is the last one the run published, and the version grows by one
for each, the snapshots published carrying consecutive versions (`Store.run_published`). From a
new store that makes versions dense: the version counts the successful reloads and is the
published snapshot's own (`Store.reload_atomic`).

An engine reloads as a store holding its snapshot does (`Engine.reload_eq_store`).
-/

namespace AccessPolicy

/-- A snapshot loaded from domains carries the version it was loaded at. -/
theorem Snapshot.ofDomains_version {v : Nat} {ds : List Domain} {src : Option TagSource}
    {s : Snapshot} (h : Snapshot.ofDomains v ds src = .ok s) : s.version = v := by
  unfold Snapshot.ofDomains at h
  split at h
  · exact (Snapshot.build_eq_ok h).1
  · cases h

namespace Store

variable {s : Store} {domains : Except LoadError (List Domain)} {source : Option TagSource}

/-- A store builds at one more than its published version. -/
theorem load_version {snap : Snapshot} (h : s.load domains source = .ok snap) :
    snap.version = s.version + 1 := by
  obtain ⟨ds, -, h⟩ := Except.bind_eq_ok h
  exact Snapshot.ofDomains_version h

@[simp] theorem notify_current (s : Store) (n : ReloadNotice) : (s.notify n).current = s.current :=
  rfl

@[simp] theorem notify_version (s : Store) (n : ReloadNotice) : (s.notify n).version = s.version :=
  rfl

@[simp] theorem notify_observers (s : Store) (n : ReloadNotice) :
    (s.notify n).observers = s.observers.map (· ++ [n]) :=
  rfl

/-- A reload that fails publishes nothing and tells every observer why; one that succeeds
publishes the snapshot it built, at the next version, and tells every observer of it. -/
theorem reload_eq (s : Store) (domains : Except LoadError (List Domain))
    (source : Option TagSource) :
    s.reload domains source =
      match s.load domains source with
      | .error err => (s.notify (.error err), .error err)
      | .ok snap =>
        ({ s with current := some snap, version := s.version + 1 }.notify (.ok snap), .ok snap) := by
  unfold reload
  cases h : s.load domains source with
  | error err => rfl
  | ok snap =>
    dsimp only
    rw [load_version h]

/-- What a call publishes: only a reload publishes, the snapshot it built, at one more than the
store's version; after any other call the published snapshot and the version are as they were. -/
theorem step_publishes (s : Store) (c : Call) :
    match (s.step c).2.published? with
    | some snap =>
      (∃ domains source, c = .reload domains source ∧ s.load domains source = .ok snap) ∧
        (s.step c).1.current = some snap ∧ (s.step c).1.version = s.version + 1
    | none => (s.step c).1.current = s.current ∧ (s.step c).1.version = s.version := by
  cases c with
  | reload domains source =>
    simp only [step, reload_eq]
    cases h : s.load domains source with
    | error err => simp [Answer.published?, Except.toOption]
    | ok snap => simp [Answer.published?, Except.toOption, h]
  | load domains source => simp [step, Answer.published?]
  | observe => simp [step, observe, Answer.published?]
  | tagsFor snap path => simp [step, tagsFor, Answer.published?]
  | drop key => simp [step, Answer.published?]

@[simp] theorem run_nil (s : Store) : s.run [] = (s, []) := rfl

theorem run_cons (s : Store) (c : Call) (cs : List Call) :
    s.run (c :: cs) = (((s.step c).1.run cs).1, (s.step c).2 :: ((s.step c).1.run cs).2) :=
  rfl

/-- Along any run the published snapshot is the last one the run published, or the one before
the run if it published none; the version grows by one for each snapshot published, and these
carry the versions that follow the store's in turn. -/
theorem run_published (s : Store) (cs : List Call) :
    (s.run cs).1.current = ((s.run cs).2.filterMap Answer.published?).getLast?.or s.current ∧
      (s.run cs).1.version = s.version + ((s.run cs).2.filterMap Answer.published?).length ∧
      ((s.run cs).2.filterMap Answer.published?).map (·.version) =
        List.range' (s.version + 1) ((s.run cs).2.filterMap Answer.published?).length := by
  induction cs generalizing s with
  | nil => simp
  | cons c cs ih =>
    obtain ⟨hcur, hver, hvers⟩ := ih (s.step c).1
    have hstep := step_publishes s c
    rw [run_cons, List.filterMap_cons]
    -- the first call either published a snapshot or left the store's publication alone
    cases hp : (s.step c).2.published? with
    | none =>
      rw [hp] at hstep
      obtain ⟨hc, hv⟩ := hstep
      simp only [hcur, hver, hvers, hc, hv, and_self]
    | some snap =>
      rw [hp] at hstep
      obtain ⟨⟨_, _, -, hload⟩, hc, hv⟩ := hstep
      refine ⟨?_, ?_, ?_⟩
      · rw [hcur, hc, Option.or_some, List.getLast?_cons, Option.some_or]
      · rw [hver, hv, List.length_cons]
        omega
      · rw [List.map_cons, hvers, hv, List.length_cons, List.range'_succ, load_version hload]

/-- Reloads are atomic and versions dense. A failed reload publishes nothing and keeps the
version, telling every observer why; a successful one publishes the snapshot it built, at the
next version, and tells every observer of it; a load changes nothing. Along any run of calls from
a new store, the published snapshot is the one the last successful reload built (none before the
first), the version counts the successful reloads, is the published snapshot's own, and the
snapshots published carry the versions `1, 2, …` in turn. -/
theorem reload_atomic :
    (∀ (s : Store) (domains : Except LoadError (List Domain)) (source : Option TagSource),
      s.reload domains source =
        match s.load domains source with
        | .error err => (s.notify (.error err), .error err)
        | .ok snap =>
          ({ s with current := some snap, version := s.version + 1 }.notify (.ok snap),
            .ok snap)) ∧
    (∀ (s : Store) (domains : Except LoadError (List Domain)) (source : Option TagSource),
      (s.step (.load domains source)).1 = s) ∧
    (∀ (observers : List (List ReloadNotice)) (cache : Option TagCache) (cs : List Call),
      let r := ({ observers := observers, cache := cache } : Store).run cs
      r.1.current = (r.2.filterMap Answer.published?).getLast? ∧
        r.1.version = (r.2.filterMap Answer.published?).length ∧
        (r.1.current.map (·.version)).getD 0 = r.1.version ∧
        (r.2.filterMap Answer.published?).map (·.version) =
          List.range' 1 (r.2.filterMap Answer.published?).length) := by
  refine ⟨reload_eq, fun s _ _ => rfl, fun observers cache cs => ?_⟩
  obtain ⟨hcur, hver, hvers⟩ := run_published ({ observers := observers, cache := cache } : Store) cs
  simp only [Option.or_none, Nat.zero_add] at hcur hver hvers
  refine ⟨hcur, hver, ?_, hvers⟩
  -- the last snapshot published carries the last of the versions `1, …, n`
  rw [hcur, hver, ← List.getLast?_map, hvers, List.getLast?_range']
  split <;> simp_all

end Store

/-- Loading an engine's documents at the version after a store's is the store's load of what
the documents read. -/
theorem Engine.load_eq_store (documents : DocumentSource) (source : Option TagSource)
    (s : Store) : Engine.load documents source (s.version + 1) = s.load documents.read source :=
  rfl

/-- An engine reloads as a store that has published its snapshot: the engine's new snapshot is
the one the store publishes, and its failure the one the store's observers are told. -/
theorem Engine.reload_eq_store (e : Engine) :
    e.reload.map (·.snapshot) =
      (({ current := some e.snapshot, version := e.version } : Store).reload e.documents.read
        e.tagSource).2.mapError .reload := by
  rw [Store.reload_eq, ← Engine.load_eq_store, Engine.reload]
  cases Engine.load e.documents e.tagSource (e.version + 1) <;> rfl

end AccessPolicy
