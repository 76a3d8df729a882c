/-
# `Criteria.Proofs.Negation` — how far negating a filter negates it

## What is proved

A group without text of the caller's own can be negated, and so can a text that
is read by itself (`Negatable`).  If there is any text to negate, the filter
that comes out compiles too, to a text that is read as a condition and that
binds the same values.  That condition is the negation of the one before, in
the logic of three values, exactly when the filter was not negated already
(`negate_negates_iff`).

## Where it ends

A filter is negated or not, and negating says that it is.  So a filter that is
negated stays as it is, whichever way it came to be negated, and negating twice
is negating once (`second_negation_is_lost`).

## How the two texts are compared

The two texts are read on their own, and neither is a part of the other where a
text of the caller's own gets parentheses.  But what is read is what the filter
means (`readable_meaning`), and of the two meanings one says the negation of
what the other says (`Negatable.meaning_negate`).  That the texts differ in
truth, where the meanings are one, needs an assignment of truth values under
which a condition is not unknown: any does that knows all operands.
-/
import Criteria.Proofs.Splicing

namespace Criteria

open Outcome Sql

/-! ## Known truth values -/

namespace Sql

variable {value : List Symbol → Truth}

theorem Connective.isSome_combine {k : Connective} {a b : Truth} (ha : a.isSome)
    (hb : b.isSome) : (k.combine a b).isSome := by
  obtain ⟨x, rfl⟩ := Option.isSome_iff_exists.mp ha
  obtain ⟨y, rfl⟩ := Option.isSome_iff_exists.mp hb
  cases k <;> cases x <;> cases y <;> rfl

theorem Connective.isSome_combineAll {k : Connective} {xs : List Truth}
    (h : ∀ x ∈ xs, x.isSome) : (k.combineAll xs).isSome := by
  induction xs with
  | nil => cases k <;> rfl
  | cons x rest ih =>
      obtain ⟨hx, hrest⟩ := List.forall_mem_cons.mp h
      exact isSome_combine hx (ih hrest)

namespace Outline

mutual

/-- Where all operands are known, so is the condition. -/
theorem isSome_truth (h : ∀ s, (value s).isSome) : ∀ o : Outline, (o.truth value).isSome
  | .operand symbols => h symbols
  | .negation inner => by
      obtain ⟨b, hb⟩ := Option.isSome_iff_exists.mp (isSome_truth h inner)
      simp [truth, hb]
  | .junction _ members => Connective.isSome_combineAll (isSome_truths h members)

theorem isSome_truths (h : ∀ s, (value s).isSome) :
    ∀ os : List Outline, ∀ x ∈ truths value os, x.isSome
  | [] => fun _ hx => nomatch hx
  | o :: rest => List.forall_mem_cons.mpr ⟨isSome_truth h o, isSome_truths h rest⟩

end

/-- No condition has the truth values of its negation. -/
theorem exists_truth_ne_negation (o : Outline) :
    ∃ value, o.truth value ≠ (negation o).truth value := by
  have hknown : (o.truth fun _ => some true).isSome := o.isSome_truth fun _ => rfl
  obtain ⟨b, hb⟩ := Option.isSome_iff_exists.mp hknown
  refine ⟨fun _ => some true, ?_⟩
  rw [truth, hb]
  cases b <;> decide

end Outline

end Sql

/-! ## Conditions without text of the caller's own -/

namespace Condition

variable {c : Condition}

theorem connectives_of_ownTexts (h : c.ownTexts = []) : c.connectives = [] := by
  cases c with
  | raw text => nomatch h
  | test t => rfl
  | enclosed inner => rfl
  | negation inner => rfl
  | junction k members => rfl

/-- Nothing binds too loosely where there is no text of the caller's own. -/
theorem tight_of_ownTexts (c : Condition) : c.ownTexts = [] → c.Tight := by
  induction c with
  | test t => exact fun _ => trivial
  | raw text => exact fun _ => trivial
  | enclosed inner ih => exact ih
  | negation inner ih => exact fun h => ⟨connectives_of_ownTexts h, ih h⟩
  | junction k members ih =>
      intro h
      rw [ownTexts, ownTextsOf_eq, List.flatMap_eq_nil_iff] at h
      refine tight_junction.mpr fun c hc => ⟨fun _ => ?_, ih c hc (h c hc)⟩
      rw [connectives_of_ownTexts (h c hc)]
      exact List.forall_mem_nil _

end Condition

/-! ## Negating filters -/

namespace Filter

variable {f g : Filter} {r : Resolver} {c : Condition}

/-- A group without text of the caller's own, or such a text that is read by itself. -/
inductive Negatable : Filter → Prop
  | group (conjunction : Conjunction) (negated : Bool) {members : List Filter} :
      ownTextsOf members = [] → Negatable (.group true conjunction negated members)
  | raw (negated : Bool) {text : String} {o : Outline} :
      Outline.ofText? text = some o → Negatable (.raw true text negated)

theorem meaningOfText_eq_some {text : String} {negated : Bool}
    (h : meaningOfText text negated = some c) : ¬text.isEmpty ∧
      c = if negated then .negation (.enclosed (.raw text)) else .raw text := by
  by_cases htext : text.isEmpty
  · rw [meaningOfText, if_pos htext] at h
    exact absurd h.symm (Option.some_ne_none c)
  · rw [meaningOfText, if_neg htext] at h
    exact ⟨htext, (Option.some.inj h).symm⟩

namespace Negatable

theorem ofText?_ownTexts (hf : f.Negatable) :
    ∀ text ∈ f.ownTexts, text ≠ "" → ∃ o, Outline.ofText? text = some o := by
  cases hf with
  | group k negated h =>
      intro text htext
      rw [ownTexts, h] at htext
      nomatch htext
  | raw negated h =>
      intro text htext _
      obtain rfl := List.mem_singleton.mp htext
      exact ⟨_, h⟩

theorem tight_meaning (hf : f.Negatable) (h : f.meaning r = .ok (some c)) : c.Tight := by
  cases hf with
  | @group k negated members hmembers =>
      have hnone : ∀ s ∈ (Filter.group true k negated members).ownTexts, s = "" := by
        rw [ownTexts, hmembers]
        exact fun s hs => nomatch hs
      exact c.tight_of_ownTexts (ownTexts_eq_nil_of_meaning _ hnone h)
  | raw negated _ =>
      obtain ⟨-, rfl⟩ := meaningOfText_eq_some (Except.ok.inj h)
      cases negated with
      | false => trivial
      | true => exact ⟨rfl, trivial⟩

theorem readable (hf : f.Negatable) (h : f.meaning r = .ok (some c)) (dialect : Dialect)
    (mode : BindMode) : c.Readable dialect mode :=
  f.readable_meaning hf.ofText?_ownTexts h (hf.tight_meaning h)

/-- Negating succeeds, and what comes out is negated. -/
theorem exists_negate (hf : f.Negatable) :
    ∃ g, f.negate = .ok g ∧ g.Negatable ∧ g.isNegating := by
  cases hf with
  | group k negated h => exact ⟨_, rfl, .group k true h, rfl⟩
  | raw negated h => exact ⟨_, rfl, .raw true h, rfl⟩

/-- What is negated stays as it is. -/
theorem negate_of_isNegating (hf : f.Negatable) (h : f.isNegating) : f.negate = .ok f := by
  cases hf with
  | group k negated _ =>
      obtain rfl : negated = true := h
      rfl
  | raw negated _ =>
      obtain rfl : negated = true := h
      rfl

/-- What is not negated comes to say the negation of what it says, of the same values. -/
theorem meaning_negate (hf : f.Negatable) (hg : f.negate = .ok g) (hn : f.isNegating = false)
    (h : f.meaning r = .ok (some c)) : ∃ d, g.meaning r = .ok (some d) ∧
      ∀ dialect, (d.template dialect).values = (c.template dialect).values ∧
        ∀ mode, d.outline? dialect mode = .negation <$> c.outline? dialect mode := by
  cases hf with
  | @group k negated members _ =>
      obtain rfl : negated = false := hn
      obtain rfl := Except.ok.inj hg
      obtain ⟨cs, hcs, h⟩ := map_eq_ok.mp h
      cases cs with
      | nil => exact absurd h.symm (Option.some_ne_none c)
      | cons c rest =>
          obtain rfl := Option.some.inj h
          refine ⟨.negation (.join k (c :: rest)), ?_, fun dialect => ⟨?_, fun mode => rfl⟩⟩
          · exact map_eq_ok.mpr ⟨_, hcs, rfl⟩
          · simp [Condition.template, Condition.negatedIf]
  | @raw negated text o _ =>
      obtain rfl : negated = false := hn
      obtain rfl := Except.ok.inj hg
      obtain ⟨htext, rfl⟩ := meaningOfText_eq_some (Except.ok.inj h)
      refine ⟨.negation (.enclosed (.raw text)), ?_, fun dialect => ⟨?_, fun mode => rfl⟩⟩
      · exact congrArg Except.ok (if_neg htext)
      · simp [Condition.template]

end Negatable

/-- What is rendered to some text is the text of a meaning. -/
theorem meaning_of_render {context : Context} {mode : BindMode} {fragment : Fragment}
    (h : Expression.render f context mode = .ok fragment) (hsql : fragment.sql ≠ "") :
    ∃ c, f.meaning context.resolver = .ok (some c) ∧
      (c.template context.dialect).fragment mode = fragment := by
  rw [Expression.render_eq] at h
  obtain ⟨t, ht, rfl⟩ := map_eq_ok.mp h
  obtain ⟨m, hm, rfl⟩ := map_eq_ok.mp ht
  cases m with
  | none => exact absurd rfl hsql
  | some c => exact ⟨c, hm, rfl⟩

theorem render_of_meaning {context : Context} (h : f.meaning context.resolver = .ok (some c))
    (mode : BindMode) :
    Expression.render f context mode = .ok ((c.template context.dialect).fragment mode) := by
  have htemplate : Templated.template context f = .ok (c.template context.dialect) := by
    simp [Templated.template, template, h]
  rw [Expression.render_eq, htemplate]
  rfl

/-- What a filter says is negated exactly when the filter was not negated before; a filter that was
stays as it is, and so does what has been negated. -/
theorem negate_negates_iff {resolver : Resolver} {mode : BindMode} {fragment : Fragment}
    (hf : f.Negatable) (hrender : Expression.render f ⟨.mysql, resolver⟩ mode = .ok fragment)
    (hsql : fragment.sql ≠ "") :
    ∃ g other before after, f.negate = .ok g ∧ g.negate = .ok g ∧ (f.isNegating → g = f) ∧
      Expression.render g ⟨.mysql, resolver⟩ mode = .ok other ∧ other.params = fragment.params ∧
      Outline.ofText? fragment.sql = some before ∧ Outline.ofText? other.sql = some after ∧
      ((∀ value, after.truth value = (Outline.negation before).truth value) ↔
        f.isNegating = false) := by
  obtain ⟨c, hc, rfl⟩ := meaning_of_render hrender hsql
  obtain ⟨g, hg, hgn, hgnegated⟩ := hf.exists_negate
  have hgg : g.negate = .ok g := hgn.negate_of_isNegating hgnegated
  obtain ⟨chain, o, hread⟩ := hf.readable hc .mysql mode
  have hbefore : Outline.ofText? ((c.template .mysql).sql mode) = some chain.outline :=
    Option.map_eq_some_iff.mpr ⟨chain, hread.ofText?_eq, rfl⟩
  cases hn : f.isNegating with
  | true =>
      -- There is one text only, and it is not read as its own negation.
      obtain rfl : f = g := Except.ok.inj ((hf.negate_of_isNegating hn).symm.trans hg)
      refine ⟨f, _, _, _, hg, hgg, fun _ => rfl, hrender, rfl, hbefore, hbefore, ?_⟩
      obtain ⟨value, hvalue⟩ := chain.outline.exists_truth_ne_negation
      exact ⟨fun h => absurd (h value) hvalue, fun h => nomatch h⟩
  | false =>
      -- The texts are read as what the two filters mean, and there the negation is seen.
      obtain ⟨d, hd, hsame⟩ := hf.meaning_negate hg hn hc
      obtain ⟨hvalues, houtline⟩ := hsame .mysql
      obtain ⟨after, p, hafter⟩ := hgn.readable hd .mysql mode
      refine ⟨g, _, _, after.outline, hg, hgg, nofun, render_of_meaning hd mode, ?_,
        hbefore, ?_, ?_⟩
      · exact congrArg mode.bound hvalues
      · exact Option.map_eq_some_iff.mpr ⟨after, hafter.ofText?_eq, rfl⟩
      · have hp : .negation o = p := by
          have hboth := (houtline mode).symm.trans hafter.outline?_eq
          rw [hread.outline?_eq] at hboth
          exact Option.some.inj hboth
        refine ⟨fun _ => rfl, fun _ value => ?_⟩
        calc after.truth value = (Outline.negation o).truth value := hp ▸ hafter.truth_eq value
          _ = (Outline.negation chain.outline).truth value := by
            rw [Outline.truth, Outline.truth, ← hread.truth_eq, Chain.truth]

/-- A group of one predicate with two columns, whose values are bound. -/
theorem negate_negates_iff_of_columns :
    let a : FieldName := ⟨none, ⟨"a", by decide⟩⟩
    let b : FieldName := ⟨none, ⟨"b", by decide⟩⟩
    let p : Predicate :=
      { fields := [a, b], operator := .eq, comparand := some (.single (.integer 1)) }
    let f : Filter := .group true .and false [.predicate true p]
    let fragment : Fragment := ⟨"(a = ? OR b = ?)", [.integer 1, .integer 1]⟩
    f.Negatable ∧ Expression.render f ⟨.mysql, .plain⟩ .parameterized = .ok fragment ∧
      fragment.sql ≠ "" ∧
      ∃ before after, Outline.ofText? "(a = ? OR b = ?)" = some before ∧
        Outline.ofText? "NOT (a = ? OR b = ?)" = some after ∧
        ∀ value, after.truth value = (Outline.negation before).truth value := by
  intro a b p f fragment
  have hf : f.Negatable := .group .and false rfl
  have hrender : Expression.render f ⟨.mysql, .plain⟩ .parameterized = .ok fragment := rfl
  have hsql : fragment.sql ≠ "" := by decide
  obtain ⟨g, other, before, after, hg, -, -, hother, -, hbefore, hafter, htruth⟩ :=
    negate_negates_iff hf hrender hsql
  obtain rfl := Except.ok.inj hg
  obtain rfl := Except.ok.inj hother
  exact ⟨hf, hrender, hsql, before, after, hbefore, hafter, htruth.mpr rfl⟩

/-- A text that has been negated stays negated when it is negated again, and then its condition is
not the negation of what it was. -/
theorem second_negation_is_lost :
    let once : Filter := .raw true "a = 1" true
    let a : Outline := .operand [.word "a", .sign "=", .word "1"]
    (Filter.ofText "a = 1").negate = .ok once ∧ once.Negatable ∧ once.negate = .ok once ∧
      Expression.sql once ⟨.mysql, .plain⟩ = .ok "NOT (a = 1)" ∧
      Outline.ofText? "NOT (a = 1)" = some (.negation a) ∧
      ∃ value, (Outline.negation a).truth value ≠ (Outline.negation (.negation a)).truth value := by
  intro once a
  have hreads : Outline.ofText? "a = 1" = some a := rfl
  exact ⟨rfl, .raw true hreads, rfl, rfl, rfl, fun _ => some true, by decide⟩

end Filter

end Criteria
