/-
# `Criteria.Proofs.Rewriting` — what has nothing to say leaves no trace

## What is proved

For every filter and every writer:

* the filter compiles to the empty text exactly when it is blank, which can be
  seen from its shape, and then no value has been bound
  (`compile_eq_ok_empty`);
* blank members may be left out of groups at any depth, and groups that are
  neither switched off nor negated may give way to their only member, as often
  as one likes: text, parameters and errors stay as they are.  Done until
  nothing is left to do, this is `trimmed` (`blank_members_leave_no_trace`).

## Where the weight lies

A rewriting changes one place of a filter, and the text around it is put
together after it.  Compiling looks at nothing of a member but its meaning, so
a rule has to be looked at by itself only: what keeps the meaning of what it
replaces keeps it in every filter (`meaning_of_rewrites`), and as often as it
is used (`meaning_of_run`).

That a filter with text is not blank needs more than its shape: a predicate
compiles to something, whatever its columns and values are
(`sql_ne_empty_of_meaning`).
-/
import Mathlib.Logic.Relation
import Criteria.Filter.Rewriting
import Criteria.Proofs.Writing

namespace Criteria.Filter

open Outcome Relation

variable {r : Resolver} {w w' : Writer} {rule : Filter → Filter → Prop} {f g : Filter}
  {fs before after : List Filter} {active negated : Bool} {k : Conjunction}

/-! ## Rewritings and meaning -/

theorem meanings_append (fs gs : List Filter) : meanings r (fs ++ gs) = do
    let first ← meanings r fs
    let others ← meanings r gs
    return first ++ others := by
  induction fs with
  | nil =>
      show meanings r gs = meanings r gs >>= fun others => .ok others
      cases meanings r gs <;> rfl
  | cons f rest ih =>
      rw [List.cons_append, meanings, meanings, ih]
      cases f.meaning r with
      | error e => rfl
      | ok m =>
          cases meanings r rest with
          | error e => rfl
          | ok cs =>
              cases meanings r gs with
              | error e => rfl
              | ok ds => exact congrArg Except.ok (List.append_assoc _ _ _).symm

/-- Of a member only its meaning counts. -/
theorem meanings_congr (h : g.meaning r = f.meaning r) :
    meanings r (before ++ g :: after) = meanings r (before ++ f :: after) := by
  rw [meanings_append, meanings_append, meanings, meanings, h]

/-- A rule that keeps the meaning of what it replaces keeps that of the filter around it. -/
theorem meaning_of_rewrites (hrule : ∀ {f g}, rule f g → g.meaning r = f.meaning r)
    (h : Rewrites rule f g) : g.meaning r = f.meaning r := by
  induction h with
  | here h => exact hrule h
  | inside active k negated before after _ ih => rw [meaning, meaning, meanings_congr ih]

/-- So it does where it is used any number of times. -/
theorem meaning_of_run (hrule : ∀ {f g}, rule f g → g.meaning r = f.meaning r)
    (h : ReflTransGen (Rewrites rule) f g) : g.meaning r = f.meaning r := by
  induction h with
  | refl => rfl
  | tail _ hstep ih => exact (meaning_of_rewrites hrule hstep).trans ih

/-- Filters of one meaning compile alike. -/
theorem compile_congr (h : g.meaning w.context.resolver = f.meaning w.context.resolver) :
    g.compile w = f.compile w := by
  rw [compile_eq, compile_eq, template, template, h]

/-! ## Blank filters -/

theorem areBlank_eq (fs : List Filter) : areBlank fs = fs.all isBlank := by
  induction fs with
  | nil => rfl
  | cons f rest ih => rw [areBlank, List.all_cons, ih]

/-- The members of a group mean nothing together when each of them means nothing. -/
theorem meanings_eq_ok_nil : meanings r fs = .ok [] ↔ ∀ f ∈ fs, f.meaning r = .ok none := by
  induction fs with
  | nil => simp [meanings]
  | cons f rest ih =>
      rw [List.forall_mem_cons, ← ih, meanings]
      cases f.meaning r with
      | error e => simp
      | ok m =>
          cases meanings r rest with
          | error e => simp
          | ok cs => cases m <;> simp

theorem meaningOfText_eq_none {text : String} :
    meaningOfText text negated = none ↔ text.isEmpty := by
  unfold meaningOfText
  split <;> simp_all

theorem meaningOfGroup_eq_none {cs : List Condition} :
    meaningOfGroup k negated cs = none ↔ cs = [] := by
  cases cs <;> simp [meaningOfGroup]

/-- A filter means nothing exactly when it is blank. -/
theorem meaning_eq_ok_none (f : Filter) : f.meaning r = .ok none ↔ f.isBlank := by
  induction f with
  | empty active => exact ⟨fun _ => rfl, fun _ => rfl⟩
  | raw active text negated =>
      cases active with
      | false => exact ⟨fun _ => rfl, fun _ => rfl⟩
      | true =>
          show Except.ok (meaningOfText text negated) = .ok none ↔ text.isEmpty
          rw [Except.ok.injEq, meaningOfText_eq_none]
  | predicate active p =>
      cases active with
      | false => exact ⟨fun _ => rfl, fun _ => rfl⟩
      | true =>
          -- A predicate that is switched on fails or means a condition.
          show some <$> p.condition r = .ok none ↔ false = true
          cases p.condition r <;> simp
  | group active k negated members ih =>
      cases active with
      | false => exact ⟨fun _ => rfl, fun _ => rfl⟩
      | true =>
          show (meanings r members >>= fun cs => .ok (meaningOfGroup k negated cs)) = .ok none ↔
            areBlank members
          rw [areBlank_eq, List.all_eq_true]
          have hmembers : (∀ f ∈ members, f.meaning r = .ok none) ↔
              ∀ f ∈ members, f.isBlank := forall₂_congr ih
          rw [← hmembers, ← meanings_eq_ok_nil]
          cases meanings r members with
          | error e => simp
          | ok cs => simp [meaningOfGroup_eq_none]

/-- A filter compiles to the empty text exactly when it is blank, and then it binds nothing. -/
theorem compile_eq_ok_empty : f.compile w = .ok ("", w') ↔ f.isBlank ∧ w' = w := by
  rw [← meaning_eq_ok_none f, compile_eq, template, Functor.map_map]
  cases hm : f.meaning w.context.resolver with
  | error e => simp
  | ok m =>
      cases m with
      | none =>
          show Except.ok ("", w) = .ok ("", w') ↔ _
          simp [eq_comm]
      | some c =>
          have hne : (c.template w.context.dialect).sql w.mode ≠ "" :=
            sql_ne_empty_of_meaning hm _ _
          show Except.ok (w.write (c.template w.context.dialect)) = .ok ("", w') ↔ _
          simp [Writer.write_eq, hne]

/-! ## Trimming -/

/-- Trimming keeps the meaning: a blank member adds nothing to a group, and the junction of one
condition is that condition. -/
theorem meaning_of_trims (h : f.Trims g) : g.meaning r = f.meaning r := by
  cases h with
  | @blank f active k negated before after hblank =>
      have hnone : f.meaning r = .ok none := (meaning_eq_ok_none f).mpr hblank
      have hmembers : meanings r (before ++ f :: after) = meanings r (before ++ after) := by
        rw [meanings_append, meanings_append, meanings, hnone]
        cases meanings r before with
        | error e => rfl
        | ok cs => cases meanings r after <;> rfl
      rw [meaning, meaning, hmembers]
  | wrapper k f =>
      show g.meaning r = (meanings r [g] >>= fun cs => .ok (meaningOfGroup k false cs))
      rw [meanings]
      cases g.meaning r with
      | error e => rfl
      | ok m => cases m <;> rfl

theorem trimmedMembers_eq (fs : List Filter) :
    trimmedMembers fs = (fs.filter fun f => !f.isBlank).map trimmed := by
  induction fs with
  | nil => rfl
  | cons f rest ih =>
      rw [trimmedMembers, List.filter_cons]
      cases f.isBlank with
      | true => exact ih
      | false => exact congrArg (f.trimmed :: ·) ih

/-- A member of a group may be rewritten any number of times. -/
theorem run_inside (before after : List Filter) (h : ReflTransGen (Rewrites rule) f g) :
    ReflTransGen (Rewrites rule) (.group active k negated (before ++ f :: after))
      (.group active k negated (before ++ g :: after)) := by
  induction h with
  | refl => exact .refl
  | tail _ hstep ih => exact ih.tail (.inside active k negated before after hstep)

/-- The members of a group are trimmed from left to right; those in front of them are done. -/
theorem run_trimmedMembers (before : List Filter)
    (h : ∀ f ∈ fs, ReflTransGen (Rewrites Trims) f f.trimmed) :
    ReflTransGen (Rewrites Trims) (.group active k negated (before ++ fs))
      (.group active k negated (before ++ trimmedMembers fs)) := by
  induction fs generalizing before with
  | nil => exact .refl
  | cons f rest ih =>
      obtain ⟨hf, hrest⟩ := List.forall_mem_cons.mp h
      rw [trimmedMembers]
      cases hblank : f.isBlank with
      | true => exact .head (.here (.blank active k negated before rest hblank)) (ih before hrest)
      | false =>
          have htail := ih (before ++ [f.trimmed]) hrest
          rw [List.append_assoc, List.append_assoc] at htail
          exact (run_inside before rest hf).trans htail

theorem run_unwrapped (members : List Filter) :
    ReflTransGen (Rewrites Trims) (.group active k negated members)
      (unwrapped active k negated members) := by
  match members with
  | [] => exact .refl
  | [f] =>
      cases active with
      | false => exact .refl
      | true =>
          cases negated with
          | false => exact .single (.here (.wrapper k f))
          | true => exact .refl
  | _ :: _ :: _ => exact .refl

/-- A filter is trimmed step by step. -/
theorem run_trimmed (f : Filter) : ReflTransGen (Rewrites Trims) f f.trimmed := by
  induction f with
  | empty active => exact .refl
  | raw active text negated => exact .refl
  | predicate active p => exact .refl
  | group active k negated members ih =>
      exact (run_trimmedMembers [] ih).trans (run_unwrapped _)

/-! ## Nothing is left to trim -/

/-- A group is rewritten as a whole or in one of its members. -/
theorem Rewrites.of_group {members : List Filter}
    (h : Rewrites rule (.group active k negated members) g) :
    rule (.group active k negated members) g ∨ ∃ f ∈ members, ∃ f', Rewrites rule f f' := by
  generalize hgroup : Filter.group active k negated members = whole at h
  cases h with
  | here h => exact .inl h
  | @inside f f' active' k' negated' before after h =>
      obtain ⟨-, -, -, rfl⟩ := Filter.group.inj hgroup
      exact .inr ⟨f, List.mem_append_right _ List.mem_cons_self, f', h⟩

/-- Only a group can be trimmed. -/
theorem not_rewrites_trims (h : ∀ active k negated members, f ≠ .group active k negated members) :
    ¬Rewrites Trims f g := by
  intro hstep
  cases hstep with
  | here hrule => cases hrule with
    | blank => exact h _ _ _ _ rfl
    | wrapper => exact h _ _ _ _ rfl
  | inside => exact h _ _ _ _ rfl

theorem isBlank_unwrapped (members : List Filter) :
    (unwrapped active k negated members).isBlank = (group active k negated members).isBlank := by
  match members with
  | [] => rfl
  | [f] => cases active <;> cases negated <;> simp [unwrapped, isBlank, areBlank]
  | _ :: _ :: _ => rfl

theorem areBlank_trimmedMembers (h : ∀ f ∈ fs, f.trimmed.isBlank = f.isBlank) :
    areBlank (trimmedMembers fs) = areBlank fs := by
  induction fs with
  | nil => rfl
  | cons f rest ih =>
      obtain ⟨hf, hrest⟩ := List.forall_mem_cons.mp h
      rw [trimmedMembers, areBlank]
      cases hblank : f.isBlank with
      | true => exact ih hrest
      | false =>
          show (f.trimmed.isBlank && _) = false
          rw [hf, hblank, Bool.false_and]

/-- Trimming makes nothing blank that was not. -/
theorem isBlank_trimmed (f : Filter) : f.trimmed.isBlank = f.isBlank := by
  induction f with
  | empty active => rfl
  | raw active text negated => rfl
  | predicate active p => rfl
  | group active k negated members ih =>
      rw [trimmed, isBlank_unwrapped, isBlank, isBlank, areBlank_trimmedMembers ih]

/-- A group of members that cannot be trimmed, and none of which is blank, cannot be trimmed once
it has given way where it may. -/
theorem not_rewrites_unwrapped {members : List Filter}
    (hblank : ∀ f ∈ members, f.isBlank = false)
    (hmembers : ∀ f ∈ members, ∀ g, ¬Rewrites Trims f g) :
    ¬Rewrites Trims (unwrapped active k negated members) g := by
  have hgroup : (∀ f, members = [f] → (active && !negated) = false) →
      ¬Rewrites Trims (.group active k negated members) g := by
    intro halone h
    rcases h.of_group with h | ⟨f, hf, f', h⟩
    · generalize hwhole : Filter.group active k negated members = whole at h
      cases h with
      | @blank f _ _ _ before after hf =>
          obtain ⟨-, -, -, rfl⟩ := Filter.group.inj hwhole
          have hmem : f ∈ before ++ f :: after := List.mem_append_right _ List.mem_cons_self
          exact absurd hf (by simp [hblank f hmem])
      | wrapper k' f =>
          obtain ⟨rfl, -, rfl, hone⟩ := Filter.group.inj hwhole
          exact absurd (halone _ hone) (by decide)
    · exact hmembers f hf f' h
  match members with
  | [] => exact hgroup fun f hf => nomatch hf
  | [f] =>
      rw [unwrapped]
      split
      · exact hmembers f List.mem_cons_self g
      · next hstays => exact hgroup fun _ _ => by simpa using hstays
  | _ :: _ :: _ => exact hgroup fun f hf => nomatch hf

theorem not_rewrites_trimmed (f : Filter) : ∀ g, ¬Rewrites Trims f.trimmed g := by
  induction f with
  | empty active => exact fun g => not_rewrites_trims fun _ _ _ _ h => nomatch h
  | raw active text negated => exact fun g => not_rewrites_trims fun _ _ _ _ h => nomatch h
  | predicate active p => exact fun g => not_rewrites_trims fun _ _ _ _ h => nomatch h
  | group active k negated members ih =>
      intro g
      rw [trimmed, trimmedMembers_eq]
      refine not_rewrites_unwrapped ?_ ?_
      · intro m hm
        obtain ⟨f, hf, rfl⟩ := List.mem_map.mp hm
        rw [isBlank_trimmed]
        simpa using (List.mem_filter.mp hf).2
      · intro m hm
        obtain ⟨f, hf, rfl⟩ := List.mem_map.mp hm
        exact ih f (List.mem_filter.mp hf).1

/-- A filter compiles to the empty text, with nothing bound, exactly when it is blank; and what is
trimmed, once or until nothing is left to trim, compiles to what it was trimmed from. -/
theorem blank_members_leave_no_trace (f : Filter) (w : Writer) :
    (∀ w', f.compile w = .ok ("", w') ↔ f.isBlank ∧ w' = w) ∧
      (∀ g, ReflTransGen (Rewrites Trims) f g → g.compile w = f.compile w) ∧
      f.trimmed.compile w = f.compile w ∧ ∀ g, ¬Rewrites Trims f.trimmed g := by
  have hrun : ∀ g, ReflTransGen (Rewrites Trims) f g → g.compile w = f.compile w := by
    intro g h
    exact compile_congr (meaning_of_run meaning_of_trims h)
  exact ⟨fun w' => compile_eq_ok_empty, hrun, hrun _ f.run_trimmed, f.not_rewrites_trimmed⟩

/-- Groups within groups, a blank one among them; a negated group of one stays a group. -/
theorem blank_members_leave_no_trace_in_groups :
    let w : Writer := .start ⟨.mysql, .plain⟩ .parameterized
    let f : Filter := .group true .and false
      [.empty true,
        .group true .or false [.group true .and false
          [.raw true "a = 1" false, .predicate false { fields := [], operator := .eq }]],
        .group true .or true [.raw true "" true],
        .group true .or true [.raw true "b = 2" false]]
    let g : Filter := .group true .and false
      [.raw true "a = 1" false, .group true .or true [.raw true "b = 2" false]]
    f.trimmed = g ∧ g.compile w = f.compile w ∧ f.compile w = .ok ("(a = 1 AND NOT b = 2)", w) := by
  intro w f g
  have htrimmed : f.trimmed = g := rfl
  obtain ⟨-, -, hcompile, -⟩ := blank_members_leave_no_trace f w
  rw [htrimmed] at hcompile
  exact ⟨htrimmed, hcompile, rfl⟩

end Criteria.Filter
