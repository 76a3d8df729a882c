/-
# `Criteria.Proofs.Faults` — which filters fail to compile

## What is proved

For every filter and every writer, so for every resolver and in both bind
modes:

* compiling fails exactly when a live predicate is faulty, where a predicate is
  looked at by itself (`Predicate.IsFaulty`);
* the error is that of the first live predicate that is faulty, from left to
  right, and it names the operator of that predicate;
* what is switched off may be replaced by anything else that is switched off,
  at any depth and as often as one likes, and the filter compiles alike, be it
  to an error.

## How the tree comes apart

A predicate is compiled column by column, and a group member by member, and
each stops at the first error.  What a step reports is found without the steps
after it (`Outcome.Reports`), so the errors of a group are those of its members
one after the other, and those of the whole filter are the errors of its live
predicates, taken from the list of them (`Filter.reports_meaning`).  A predicate
tests each of its columns in the same way, and has one at least, so it reports
what the first of them does.
-/
import Criteria.Filter.Live
import Criteria.Proofs.Rewriting

namespace Criteria

open Outcome Relation

/-! ## One predicate -/

namespace Predicate

variable {r : Resolver} {p : Predicate}

theorem reports_test (p : Predicate) (column : FieldName) :
    Reports (p.test column) p.valueFault?.toList := by
  unfold test valueFault?
  cases p.operator.arity with
  | unary => exact reports_ok
  | set =>
      cases hcomparand : p.comparand with
      | none => simpa [required, hcomparand] using reports_error
      | some comparand => simpa [required, hcomparand] using reports_ok
  | list =>
      cases hcomparand : p.comparand with
      | none => simpa [required, hcomparand] using reports_error
      | some comparand =>
          cases hvalues : comparand.values with
          | nil => simpa [required, hcomparand, hvalues] using reports_ok
          | cons value rest => simpa [required, hcomparand, hvalues] using reports_ok
  | binary =>
      cases hcomparand : p.comparand with
      | none => simpa [required, hcomparand] using reports_error
      | some comparand =>
          cases comparand with
          | single value => simpa [required, hcomparand] using reports_ok
          | list values => simpa [required, hcomparand] using reports_error

/-- A predicate reports its fault. -/
theorem reports_condition (r : Resolver) (p : Predicate) :
    Reports (p.condition r) (p.fault? r).toList := by
  unfold condition Resolver.columns fault?
  cases p.fields.flatMap r.resolve with
  | nil => exact reports_error
  | cons column rest =>
      have htests : Reports ((column :: rest).mapM p.test)
          ((column :: rest).flatMap fun _ => p.valueFault?.toList) :=
        reports_mapM fun column _ => p.reports_test column
      have hfirst : ((column :: rest).flatMap fun _ => p.valueFault?.toList).head? =
          p.valueFault?.toList.head? := by
        cases p.valueFault? <;> simp
      exact (htests.of_head?_eq hfirst).map

theorem exists_fault?_iff : (∃ e, p.fault? r = some e) ↔ p.IsFaulty r := by
  unfold fault? IsFaulty
  rw [← List.flatMap_eq_nil_iff]
  by_cases hcolumns : p.fields.flatMap r.resolve = []
  · simp [hcolumns]
  · rw [if_neg hcolumns]
    unfold valueFault?
    cases p.operator.arity <;> rcases p.comparand with _ | _ | _ <;> simp [hcolumns]

end Predicate

/-! ## Filters -/

namespace Filter

variable {r : Resolver} {f g : Filter} {p : Predicate}

theorem livePredicatesOf_eq (fs : List Filter) :
    livePredicatesOf fs = fs.flatMap livePredicates := by
  induction fs with
  | nil => rfl
  | cons f rest ih => rw [livePredicatesOf, List.flatMap_cons, ih]

theorem live_of_mem (f : Filter) : p ∈ f.livePredicates → f.Live p := by
  induction f with
  | empty active => exact fun h => nomatch h
  | raw active text negated => exact fun h => nomatch h
  | predicate active q =>
      intro h
      cases active with
      | false => nomatch h
      | true =>
          obtain rfl := List.mem_singleton.mp h
          exact .predicate p
  | group active k negated members ih =>
      intro h
      cases active with
      | false => nomatch h
      | true =>
          have h : p ∈ livePredicatesOf members := h
          rw [livePredicatesOf_eq] at h
          obtain ⟨f, hf, hp⟩ := List.mem_flatMap.mp h
          exact .member hf (ih f hf hp)

theorem Live.mem (h : f.Live p) : p ∈ f.livePredicates := by
  induction h with
  | predicate p => exact List.mem_singleton_self p
  | @member f p k negated members hf _ ih =>
      show p ∈ livePredicatesOf members
      rw [livePredicatesOf_eq]
      exact List.mem_flatMap.mpr ⟨f, hf, ih⟩

/-- The list of live predicates has these and no others. -/
theorem mem_livePredicates : p ∈ f.livePredicates ↔ f.Live p :=
  ⟨f.live_of_mem, Live.mem⟩

theorem reports_meanings {fs : List Filter}
    (h : ∀ f ∈ fs, Reports (f.meaning r) (f.livePredicates.filterMap (Predicate.fault? r))) :
    Reports (meanings r fs) ((livePredicatesOf fs).filterMap (Predicate.fault? r)) := by
  induction fs with
  | nil => exact reports_ok
  | cons f rest ih =>
      obtain ⟨hf, hrest⟩ := List.forall_mem_cons.mp h
      rw [livePredicatesOf, List.filterMap_append]
      exact hf.bind fun _ _ => (ih hrest).map

/-- A filter reports the faults of its live predicates, one after the other. -/
theorem reports_meaning (r : Resolver) (f : Filter) :
    Reports (f.meaning r) (f.livePredicates.filterMap (Predicate.fault? r)) := by
  induction f with
  | empty active => exact reports_ok
  | raw active text negated => exact reports_ok
  | predicate active p =>
      cases active with
      | false => exact reports_ok
      | true =>
          have hfault : [p].filterMap (Predicate.fault? r) = (p.fault? r).toList := by
            cases hp : p.fault? r <;> simp [hp]
          show Reports (some <$> p.condition r) ([p].filterMap (Predicate.fault? r))
          rw [hfault]
          exact (p.reports_condition r).map
  | group active k negated members ih =>
      cases active with
      | false => exact reports_ok
      | true => exact (reports_meanings ih).map

theorem reports_compile (f : Filter) (w : Writer) :
    Reports (f.compile w)
      (f.livePredicates.filterMap (Predicate.fault? w.context.resolver)) := by
  rw [compile_eq, template]
  exact (f.reports_meaning w.context.resolver).map.map

/-- What is switched off means nothing. -/
theorem meaning_of_isActive (h : f.isActive = false) : f.meaning r = .ok none := by
  cases f with
  | empty active => rfl
  | raw active text negated =>
      obtain rfl : active = false := h
      rfl
  | predicate active p =>
      obtain rfl : active = false := h
      rfl
  | group active k negated members =>
      obtain rfl : active = false := h
      rfl

theorem meaning_of_idle (h : f.Idle g) : g.meaning r = f.meaning r := by
  rw [meaning_of_isActive h.1, meaning_of_isActive h.2]

/-- Compiling fails exactly when a live predicate is faulty, with the error of the first of these;
and what is switched off changes nothing, whatever it is. -/
theorem fails_iff_live_predicate_faulty (f : Filter) (w : Writer) :
    ((∃ e, f.compile w = .error e) ↔ ∃ p, f.Live p ∧ p.IsFaulty w.context.resolver) ∧
      (∀ e, f.compile w = .error e ↔
        f.livePredicates.findSome? (Predicate.fault? w.context.resolver) = some e) ∧
      ∀ g, ReflTransGen (Rewrites Idle) f g → g.compile w = f.compile w := by
  have herror : ∀ e, f.compile w = .error e ↔
      f.livePredicates.findSome? (Predicate.fault? w.context.resolver) = some e := by
    intro e
    rw [← List.head?_filterMap]
    exact (f.reports_compile w).1 e
  refine ⟨?_, herror, ?_⟩
  · constructor
    · rintro ⟨e, he⟩
      obtain ⟨p, hp, hfault⟩ := List.exists_of_findSome?_eq_some ((herror e).mp he)
      exact ⟨p, mem_livePredicates.mp hp, Predicate.exists_fault?_iff.mp ⟨e, hfault⟩⟩
    · rintro ⟨p, hp, hfaulty⟩
      obtain ⟨e, he⟩ := Predicate.exists_fault?_iff.mpr hfaulty
      have hsome : (f.livePredicates.findSome?
          (Predicate.fault? w.context.resolver)).isSome := by
        rw [List.findSome?_isSome_iff]
        exact ⟨p, mem_livePredicates.mpr hp, by rw [he]; rfl⟩
      obtain ⟨first, hfirst⟩ := Option.isSome_iff_exists.mp hsome
      exact ⟨first, (herror first).mpr hfirst⟩
  · intro g h
    exact compile_congr (meaning_of_run meaning_of_idle h)

/-- A predicate that is switched off may be faulty, and may give way to a text; of two live ones
that are faulty the first one counts, though it is deeper. -/
theorem fails_iff_live_predicate_faulty_past_idle :
    let w : Writer := .start ⟨.mysql, .plain⟩ .parameterized
    let a : FieldName := ⟨none, ⟨"a", by decide⟩⟩
    let nowhere : Predicate := { fields := [], operator := .eq }
    let rest : List Filter :=
      [.group true .or true [.predicate true { fields := [a], operator := .gt }],
        .predicate true nowhere]
    let f : Filter := .group true .and false (.predicate false nowhere :: rest)
    let g : Filter := .group true .and false (.raw false "b = 2" true :: rest)
    ReflTransGen (Rewrites Idle) f g ∧ f.compile w = .error (.missingValue .gt) ∧
      g.compile w = f.compile w := by
  intro w a nowhere rest f g
  have hrun : ReflTransGen (Rewrites Idle) f g :=
    .single (.inside true .and false [] rest (.here ⟨rfl, rfl⟩))
  obtain ⟨-, herror, hidle⟩ := fails_iff_live_predicate_faulty f w
  have hfirst : f.livePredicates.findSome? (Predicate.fault? w.context.resolver) =
      some (.missingValue .gt) := rfl
  exact ⟨hrun, (herror _).mpr hfirst, hidle g hrun⟩

end Filter

end Criteria
