import AccessPolicy.Logging.Level
import AccessPolicy.Proofs.Store.TagCache
import Mathlib.Data.List.TakeDrop
/-!
# Loggers follow the level settings

A logger gets its level in two ways: one made on its module's first fetch reads the level the
settings give the module, and applying a setting pushes the new levels to every logger made so
far. Along every run of fetches and settings the two agree (`LogManager.levels_follow_settings`):
the loggers are those of the modules fetched, and each holds the level of the longest name among
its module and the module cut before each of its dots that the settings configure, and else the
default (`LevelSettings.LevelOf`). Names are cut at dots only, so `dataguardian` never takes the
level of `dataguard`, whatever dots a name has where.

Applying a setting replaces every module level by those of the entries that read, the last entry
for a module winning; the default changes only through an entry for `.`; the entries that do not
read are reported in order; blanks are dropped first.
-/

namespace AccessPolicy

namespace LevelSettings

/-! ## The names a module's level is looked up under -/

/-- `p` is a module itself or the module cut before one of its dots. -/
def DottedPrefix (p module : String) : Prop := p = module ∨ p.toList ++ ['.'] <+: module.toList

theorem mem_cutsAtDots {q cs : List Char} : q ∈ cutsAtDots cs ↔ q ++ ['.'] <+: cs := by
  induction cs generalizing q with
  | nil => simp [cutsAtDots]
  | cons c cs ih =>
    cases q with
    | nil => by_cases hc : c = '.' <;> simp [cutsAtDots, hc, eq_comm]
    | cons d q => by_cases hc : c = '.' <;> simp [cutsAtDots, hc, ih, eq_comm, and_comm]

theorem pairwise_cutsAtDots (cs : List Char) :
    (cutsAtDots cs).Pairwise (·.length < ·.length) := by
  induction cs with
  | nil => simp [cutsAtDots]
  | cons c cs ih =>
    simp only [cutsAtDots, List.pairwise_append, List.pairwise_map, List.length_cons]
    -- the empty cut before a leading dot comes first and is the shortest
    refine ⟨by split <;> simp, ih.imp (by omega), ?_⟩
    split <;> simp

theorem mem_lineage {p module : String} : p ∈ lineage module ↔ DottedPrefix p module := by
  simp only [lineage, List.mem_cons, List.mem_map, List.mem_reverse, mem_cutsAtDots, DottedPrefix]
  refine or_congr Iff.rfl ⟨?_, fun h => ⟨p.toList, h, String.ofList_toList⟩⟩
  rintro ⟨q, hq, rfl⟩
  simpa using hq

theorem pairwise_lineage (module : String) :
    (lineage module).Pairwise fun a b => b.length < a.length := by
  simp only [lineage, List.pairwise_cons, List.pairwise_map, List.pairwise_reverse, List.mem_map,
    List.mem_reverse, String.length_ofList]
  refine ⟨?_, pairwise_cutsAtDots _⟩
  rintro _ ⟨q, hq, rfl⟩
  have := (mem_cutsAtDots.mp hq).length_le
  simp only [List.length_append, List.length_singleton, String.length_toList] at this
  rw [String.length_ofList]
  omega

/-- Looking names up from the longest to the shortest finds the longest name that answers. -/
theorem findSome?_longest {f : String → Option Level} {l : List String}
    (hl : l.Pairwise fun a b => b.length < a.length) {v : Level} (h : l.findSome? f = some v) :
    ∃ p ∈ l, f p = some v ∧ ∀ q ∈ l, p.length < q.length → f q = none := by
  obtain ⟨l₁, p, l₂, rfl, hp, hbefore⟩ := List.findSome?_eq_some_iff.mp h
  refine ⟨p, by simp, hp, fun q hq hlt => ?_⟩
  rcases List.mem_append.mp hq with hq | hq
  · exact hbefore q hq
  · -- every name after `p` is shorter than it
    have hshort := (List.pairwise_cons.mp (List.pairwise_append.mp hl).2.1).1
    rcases List.mem_cons.mp hq with rfl | hq
    · omega
    · exact absurd (hshort q hq) (by omega)

/-- The level settings give a module: that of the longest of its dotted prefixes they configure,
and else the default. -/
def LevelOf (s : LevelSettings) (module : String) (l : Level) : Prop :=
  (∃ p, DottedPrefix p module ∧ s.modules.lookup p = some l ∧
      ∀ q, DottedPrefix q module → p.length < q.length → s.modules.lookup q = none) ∨
    ((∀ p, DottedPrefix p module → s.modules.lookup p = none) ∧ l = s.default)

theorem levelOf_levelFor (s : LevelSettings) (hs : s.modules.lookup "" = none) (module : String) :
    s.LevelOf module (s.levelFor module) := by
  unfold levelFor
  split
  · -- the empty module is its own only dotted prefix, and no entry names it
    rename_i hm
    rw [String.isEmpty_iff] at hm
    subst hm
    refine .inr ⟨fun p hp => ?_, rfl⟩
    rcases hp with rfl | hp
    · exact hs
    · simp at hp
  · cases h : (lineage module).findSome? fun m => s.modules.lookup m with
    | none => exact .inr ⟨fun p hp => List.findSome?_eq_none_iff.mp h p (mem_lineage.mpr hp), rfl⟩
    | some v =>
      obtain ⟨p, hp, hv, hlongest⟩ := findSome?_longest (pairwise_lineage module) h
      exact .inl ⟨p, mem_lineage.mp hp, hv, fun q hq => hlongest q (mem_lineage.mpr hq)⟩

/-! ## Reading a setting -/

theorem entryLevel?_of_colon {e : String} {m level : List Char} (he : e.toList = m ++ ':' :: level)
    (hm : ':' ∉ m) :
    entryLevel? e = if m.isEmpty then none
      else (Level.parse? (String.ofList level)).map (String.ofList m, ·) := by
  have hpos : ∀ c ∈ m, decide (c ≠ ':') = true := fun c hc => decide_eq_true fun h => hm (h ▸ hc)
  rw [entryLevel?, List.span_eq_takeWhile_dropWhile, he, List.takeWhile_append_of_pos hpos,
    List.dropWhile_append_of_pos hpos]
  simp

/-- An entry reads when it is a non-empty module, a colon and a level name. -/
theorem entryLevel?_eq_some_iff {e module : String} {l : Level} :
    entryLevel? e = some (module, l) ↔ module ≠ "" ∧ ':' ∉ module.toList ∧
      ∃ level, e.toList = module.toList ++ ':' :: level ∧ Level.parse? (String.ofList level) = some l := by
  constructor
  · intro h
    -- the entry is what precedes its first colon, the colon, and the rest
    have hcat := List.takeWhile_append_dropWhile (p := fun c => decide (c ≠ ':')) (l := e.toList)
    have hfree : ':' ∉ e.toList.takeWhile fun c => decide (c ≠ ':') := fun hc => by
      simpa using List.all_eq_true.mp List.all_takeWhile _ hc
    cases hd : e.toList.dropWhile fun c => decide (c ≠ ':') with
    | nil =>
      rw [entryLevel?, List.span_eq_takeWhile_dropWhile, hd] at h
      simp at h
    | cons c level =>
      have hc : c = ':' := by
        have := List.head_dropWhile_not (fun c => decide (c ≠ ':')) (l := e.toList)
          (by rw [hd]; exact List.cons_ne_nil _ _)
        simp only [hd, List.head_cons] at this
        simpa using this
      subst hc
      rw [hd] at hcat
      rw [entryLevel?_of_colon hcat.symm hfree] at h
      split at h
      · cases h
      · rename_i hne
        obtain ⟨l', hl', hml⟩ := Option.map_eq_some_iff.mp h
        cases hml
        refine ⟨by simpa [String.ofList_eq_empty_iff] using hne, by simpa using hfree,
          level, by simpa using hcat.symm, hl'⟩
  · rintro ⟨hne, hm, level, he, hl⟩
    rw [entryLevel?_of_colon he hm, if_neg (by simpa [String.toList_eq_nil_iff] using hne), hl]
    simp

/-- One entry: where a module's level now comes from, the default, and the report. -/
theorem applyEntry_eq (acc : List (String × Level) × Option Level × List String) (e : String) :
    (∀ k, (applyEntry acc e).1.lookup k =
      (if k = "." then none else (entryLevel? e).toList.lookup k).or (acc.1.lookup k)) ∧
    (applyEntry acc e).2.1 = ((entryLevel? e).toList.lookup ".").or acc.2.1 ∧
    (applyEntry acc e).2.2 = acc.2.2 ++ [e].filter fun e => !e.isEmpty && (entryLevel? e).isNone := by
  unfold applyEntry
  split
  · -- an empty entry reads as nothing and is not reported
    rename_i he
    rw [String.isEmpty_iff] at he
    subst he
    simp [show entryLevel? "" = none from rfl]
  · rename_i he
    cases hr : entryLevel? e with
    | none => simp [he, hr]
    | some ml =>
      obtain ⟨module, l⟩ := ml
      by_cases hdot : module = "."
      · subst hdot
        refine ⟨fun k => ?_, by simp, by simp [he, hr]⟩
        by_cases hk : k = "." <;> simp [hk, List.lookup_cons, beq_eq_false_iff_ne.mpr]
      · refine ⟨fun k => ?_, by simp [hdot, lookup_cons_of_ne _ _ (Ne.symm hdot)],
          by simp [hdot, he, hr]⟩
        simp only [hdot, beq_iff_eq, if_false, List.lookup_append, TagCache.lookup_filter_ne,
          Option.toList_some]
        by_cases hk : k = module
        · subst hk
          simp [hdot]
        · by_cases hk' : k = "."
          · subst hk'
            simp [Ne.symm hdot, lookup_cons_of_ne _ _ (Ne.symm hdot)]
          · simp [hk, hk', lookup_cons_of_ne _ _ hk]

/-- What a run of entries leaves: the module levels of the last entries that read, the level of
the last entry for `.`, and the entries that do not read, in order. -/
theorem foldl_applyEntry (es : List String) (acc : List (String × Level) × Option Level × List String) :
    (∀ k, (es.foldl applyEntry acc).1.lookup k =
      (if k = "." then none else (es.filterMap entryLevel?).reverse.lookup k).or (acc.1.lookup k)) ∧
    (es.foldl applyEntry acc).2.1 = ((es.filterMap entryLevel?).reverse.lookup ".").or acc.2.1 ∧
    (es.foldl applyEntry acc).2.2 = acc.2.2 ++ es.filter fun e => !e.isEmpty && (entryLevel? e).isNone := by
  induction es generalizing acc with
  | nil => simp
  | cons e es ih =>
    obtain ⟨hmods, hdflt, hbad⟩ := applyEntry_eq acc e
    obtain ⟨hmods', hdflt', hbad'⟩ := ih (applyEntry acc e)
    -- the entries after `e` come first in the reversed list, so they win over it
    have hread : ((e :: es).filterMap entryLevel?).reverse =
        (es.filterMap entryLevel?).reverse ++ (entryLevel? e).toList := by
      cases h : entryLevel? e <;> simp [h]
    refine ⟨fun k => ?_, ?_, ?_⟩
    · rw [List.foldl_cons, hmods', hmods, hread, List.lookup_append]
      split <;> simp [Option.or_assoc]
    · rw [List.foldl_cons, hdflt', hdflt, hread, List.lookup_append, Option.or_assoc]
    · rw [List.foldl_cons, hbad', hbad, List.append_assoc, ← List.filter_append,
        List.singleton_append]

end LevelSettings

/-! ## Fetching loggers and applying settings -/

namespace LogManager

open LevelSettings

/-- What every run keeps: no module level is set for the empty name, and every logger holds the
level the settings give its module. -/
structure Consistent (m : LogManager) : Prop where
  no_empty : m.settings.modules.lookup "" = none
  follows : ∀ module l, m.loggers.lookup module = some l → l = m.settings.levelFor module

theorem lookup_map_keys {β γ : Type} (f : String → γ) (l : List (String × β)) (k : String) :
    (l.map fun e => (e.1, f e.1)).lookup k = (l.lookup k).map fun _ => f k := by
  induction l with
  | nil => rfl
  | cons e l ih =>
    obtain ⟨j, v⟩ := e
    by_cases hk : k = j
    · subst hk
      simp
    · simp [lookup_cons_of_ne _ _ hk, ih]

theorem getLogger_settings (m : LogManager) (module : String) :
    (m.getLogger module).1.settings = m.settings := by
  unfold getLogger
  split <;> rfl

/-- Applying a setting: the module levels of the last entries that read, the default of the last
entry for `.` and else the old one, and an error naming the entries that do not read. -/
theorem updateLevels_eq (m : LogManager) (spec : String) :
    (∀ k, (m.updateLevels spec).1.settings.modules.lookup k =
      if k = "." then none else ((entries spec).filterMap entryLevel?).reverse.lookup k) ∧
    (m.updateLevels spec).1.settings.default =
      (((entries spec).filterMap entryLevel?).reverse.lookup ".").getD m.settings.default ∧
    (m.updateLevels spec).2 =
      let bad := (entries spec).filter fun e => !e.isEmpty && (entryLevel? e).isNone
      if bad.isEmpty then none else some (invalidMessage bad) := by
  obtain ⟨hmods, hdflt, hbad⟩ := foldl_applyEntry (entries spec) ([], none, [])
  refine ⟨fun k => ?_, ?_, ?_⟩
  · simp only [updateLevels, apply, hmods k]
    split <;> simp
  · simp [updateLevels, apply, hdflt]
  · simp [updateLevels, apply, hbad]

theorem updateLevels_consistent (m : LogManager) (spec : String) :
    (m.updateLevels spec).1.Consistent := by
  refine ⟨?_, fun module l hl => ?_⟩
  · -- no entry that reads has an empty module
    rw [(updateLevels_eq m spec).1, if_neg (by decide)]
    refine List.lookup_eq_none_iff.mpr fun e he => ?_
    obtain ⟨x, -, hx⟩ := List.mem_filterMap.mp (List.mem_reverse.mp he)
    exact bne_iff_ne.mpr (Ne.symm (entryLevel?_eq_some_iff.mp hx).1)
  · simp only [updateLevels, lookup_map_keys, Option.map_eq_some_iff] at hl
    obtain ⟨-, -, rfl⟩ := hl
    rfl

theorem getLogger_consistent {m : LogManager} (hm : m.Consistent) (module : String) :
    (m.getLogger module).1.Consistent := by
  unfold getLogger
  split
  · exact hm
  · rename_i hnone
    refine ⟨hm.no_empty, fun k l hl => ?_⟩
    rw [List.lookup_append] at hl
    cases hk : m.loggers.lookup k with
    | some l' => simp only [hk, Option.some_or, Option.some.injEq] at hl; exact hl ▸ hm.follows k l' hk
    | none =>
      -- a logger made now takes the level its module has now
      by_cases hkm : k = module
      · subst hkm
        simp [hk] at hl
        exact hl.symm
      · simp [hk, lookup_cons_of_ne _ _ hkm] at hl

theorem call_consistent {m : LogManager} (hm : m.Consistent) (c : LogCall) : (m.call c).Consistent := by
  cases c with
  | getLogger module => exact getLogger_consistent hm module
  | updateLevels spec => exact updateLevels_consistent m spec

theorem run_consistent {m : LogManager} (hm : m.Consistent) (calls : List LogCall) :
    (m.run calls).Consistent := by
  induction calls generalizing m with
  | nil => exact hm
  | cons c calls ih => exact ih (call_consistent hm c)

/-- A call makes the logger of the module it fetches and keeps the others. -/
theorem lookup_call_isSome (m : LogManager) (c : LogCall) (k : String) :
    ((m.call c).loggers.lookup k).isSome ↔ (m.loggers.lookup k).isSome ∨ c = .getLogger k := by
  cases c with
  | getLogger module =>
    simp only [call, getLogger, LogCall.getLogger.injEq]
    split
    · rename_i l hl
      by_cases hk : k = module
      · subst hk
        simp [hl]
      · simp [Ne.symm hk]
    · rename_i hnone
      by_cases hk : k = module
      · subst hk
        simp [List.lookup_append]
      · simp [List.lookup_append, lookup_cons_of_ne _ _ hk, Ne.symm hk]
  | updateLevels spec => simp [call, updateLevels, lookup_map_keys]

theorem lookup_run_isSome (m : LogManager) (calls : List LogCall) (k : String) :
    ((m.run calls).loggers.lookup k).isSome ↔ (m.loggers.lookup k).isSome ∨ .getLogger k ∈ calls := by
  induction calls generalizing m with
  | nil => simp [run]
  | cons c calls ih =>
    rw [show m.run (c :: calls) = (m.call c).run calls from rfl, ih, lookup_call_isSome,
      List.mem_cons, or_assoc, @eq_comm _ c]

/-- Loggers always follow the level settings. Along any run of fetches and settings from a new
manager, the loggers are those of the modules fetched, and each holds the level of the longest
dotted prefix of its module that the settings in force configure, and else the default. Fetching
changes no setting; applying one replaces the module levels by those of its last entries that
read, changes the default only through an entry for `.`, and reports the entries that do not
read; an entry reads when it is a non-empty module, a colon and a level name. -/
theorem levels_follow_settings :
    (∀ (calls : List LogCall) (module : String),
      ((({} : LogManager).run calls).loggers.lookup module).isSome ↔ .getLogger module ∈ calls) ∧
    (∀ (calls : List LogCall) (module : String) (l : Level),
      (({} : LogManager).run calls).loggers.lookup module = some l →
        (({} : LogManager).run calls).settings.LevelOf module l) ∧
    (∀ (m : LogManager) (module : String), (m.getLogger module).1.settings = m.settings) ∧
    (∀ (m : LogManager) (spec : String),
      (∀ k, (m.updateLevels spec).1.settings.modules.lookup k =
        if k = "." then none else ((entries spec).filterMap entryLevel?).reverse.lookup k) ∧
      (m.updateLevels spec).1.settings.default =
        (((entries spec).filterMap entryLevel?).reverse.lookup ".").getD m.settings.default ∧
      (m.updateLevels spec).2 =
        let bad := (entries spec).filter fun e => !e.isEmpty && (entryLevel? e).isNone
        if bad.isEmpty then none else some (invalidMessage bad)) ∧
    (∀ (e module : String) (l : Level), entryLevel? e = some (module, l) ↔
      module ≠ "" ∧ ':' ∉ module.toList ∧ ∃ level, e.toList = module.toList ++ ':' :: level ∧
        Level.parse? (String.ofList level) = some l) := by
  refine ⟨fun calls module => ?_, fun calls module l hl => ?_, getLogger_settings,
    updateLevels_eq, fun _ _ _ => entryLevel?_eq_some_iff⟩
  · simpa using lookup_run_isSome {} calls module
  · have hc := run_consistent (m := {}) ⟨rfl, by simp⟩ calls
    rw [hc.follows module l hl]
    exact levelOf_levelFor _ hc.no_empty module

end LogManager

end AccessPolicy
