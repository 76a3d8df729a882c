/-
# `Criteria.Proofs.Splicing` — texts of the caller's own as operands

## What is proved

A text of the caller's own goes into a condition as it is.  It is one operand
there, whatever connectives are in it, if it binds as tightly as its place
asks: behind the NOT of a group nothing may stand outside of parentheses that
joins operands, between the ANDs of a group nothing but AND, and everywhere
else, so also where the text is negated by itself, anything
(`Condition.Tight`).  Then the text of a filter is read, by the precedence of
the language, as a condition with the truth values of the filter's own tree,
in which every such text is read by itself (`own_texts_are_operands`).

## Where it ends

No parentheses are written around a member of a group, and the NOT of a group
with one member stands directly in front of it.  So in a place that asks for
more than the text has, the connectives around it reach into the text
(`negated_member_is_divided`).

The induction is over filters.  Its invariant (`Condition.ReadAs`) keeps the
connectives outside of parentheses beside the truth values, because they
decide whether the next connective takes the text as a whole.
-/
import Criteria.Proofs.Operands
import Criteria.Proofs.Precedence
import Criteria.Proofs.Reading

namespace Criteria

open Outcome Sql

namespace Condition

mutual

/-- What a condition says, with every text of the caller's own read by itself. -/
def outline? (dialect : Dialect) (mode : BindMode) : Condition → Option Outline
  | .test t => Outline.ofText? ((t.template dialect).sql mode)
  | .raw text => Outline.ofText? text
  | .enclosed inner => inner.outline? dialect mode
  | .negation inner => .negation <$> inner.outline? dialect mode
  | .junction k members => .junction k.connective <$> outlines? dialect mode members

/-- What the members of a junction say. -/
def outlines? (dialect : Dialect) (mode : BindMode) : List Condition → Option (List Outline)
  | [] => some []
  | c :: rest => do
    let first ← c.outline? dialect mode
    let others ← outlines? dialect mode rest
    return first :: others

end

/-- The connectives outside of parentheses, which only a text of the caller's own can have. -/
def connectives : Condition → List Connective
  | .raw text => (Chain.ofText? text).elim [] Chain.connectives
  | _ => []

mutual

/-- Every text of the caller's own binds as tightly as its place asks. -/
def Tight : Condition → Prop
  | .test _ | .raw _ => True
  | .enclosed inner => inner.Tight
  | .negation inner => inner.connectives = [] ∧ inner.Tight
  | .junction k members => TightIn k members

/-- Every text in the members of a junction binds as tightly as its place asks. -/
def TightIn (k : Conjunction) : List Condition → Prop
  | [] => True
  | c :: rest => (k = .and → ∀ j ∈ c.connectives, j = .and) ∧ c.Tight ∧ TightIn k rest

end

theorem tight_junction {k : Conjunction} {cs : List Condition} : (junction k cs).Tight ↔
    ∀ c ∈ cs, (k = .and → ∀ j ∈ c.connectives, j = .and) ∧ c.Tight := by
  rw [Tight]
  induction cs with
  | nil => simp [TightIn]
  | cons c rest ih => rw [TightIn, ih, List.forall_mem_cons, and_assoc]

/-! ## What the text of a condition is read as -/

/-- The text of the condition is read as the chain, which has the truth values of what the
condition says. -/
structure ReadAs (dialect : Dialect) (mode : BindMode) (c : Condition) (chain : Chain)
    (o : Outline) : Prop where
  ofText?_eq : Chain.ofText? ((c.template dialect).sql mode) = some chain
  outline?_eq : c.outline? dialect mode = some o
  truth_eq : ∀ value, chain.truth value = o.truth value
  connectives_eq : chain.connectives = c.connectives

/-- The text of the condition is read as what the condition says. -/
def Readable (dialect : Dialect) (mode : BindMode) (c : Condition) : Prop :=
  ∃ chain o, ReadAs dialect mode c chain o

variable {dialect : Dialect} {mode : BindMode} {c : Condition} {cs : List Condition}

theorem readable_test (t : Test) : Readable dialect mode (.test t) := by
  obtain ⟨symbols, hread⟩ := (t.begins dialect mode).ofText?
  refine ⟨_, _, ⟨hread, ?_, fun _ => rfl, rfl⟩⟩
  simp [outline?, Outline.ofText?, hread]

theorem readable_raw {text : String} {chain : Chain} (h : Chain.ofText? text = some chain) :
    Readable dialect mode (.raw text) := by
  refine ⟨chain, chain.outline, ⟨?_, ?_, fun _ => rfl, ?_⟩⟩
  · rw [template, Template.sql_ofText, h]
  · simp [outline?, Outline.ofText?, h]
  · simp [connectives, h]

theorem Readable.enclosed (h : Readable dialect mode c) : Readable dialect mode (.enclosed c) := by
  obtain ⟨chain, o, hc⟩ := h
  refine ⟨⟨chain.outline, []⟩, o, ⟨?_, ?_, hc.truth_eq, rfl⟩⟩
  · have htext : ((Condition.enclosed c).template dialect).sql mode =
        "(" ++ (c.template dialect).sql mode ++ ")" := by simp [template, String.append_assoc]
    rw [htext]
    exact Chain.ofText?_enclosed hc.ofText?_eq
  · rw [outline?, hc.outline?_eq]

theorem Readable.negation (h : Readable dialect mode c) (hc : c.connectives = []) :
    Readable dialect mode (.negation c) := by
  obtain ⟨chain, o, hread⟩ := h
  have hchain : chain.connectives = [] := hread.connectives_eq.trans hc
  refine ⟨chain.negate, .negation o, ⟨?_, ?_, fun value => ?_, hchain⟩⟩
  · have htext : ((Condition.negation c).template dialect).sql mode =
        "NOT " ++ (c.template dialect).sql mode := by
      cases dialect
      simp [template, Dialect.negation]
    rw [htext]
    exact Chain.ofText?_negation hread.ofText?_eq
  · rw [outline?, hread.outline?_eq]
    rfl
  · have htruth := hread.truth_eq value
    rw [Chain.truth] at htruth
    rw [Chain.truth, Chain.outline_negate hchain, Outline.truth, Outline.truth, htruth]

/-- Members that are read one by one are read, with a connective between, as all of them. -/
theorem readable_members (k : Conjunction) (hne : cs ≠ [])
    (h : ∀ c ∈ cs, Readable dialect mode c)
    (hand : k = .and → ∀ c ∈ cs, ∀ j ∈ c.connectives, j = .and) :
    ∃ chain os, Chain.ofText?
        ((Template.joined (" " ++ k.sql ++ " ") (cs.map (template dialect))).sql mode) =
          some chain ∧
      outlines? dialect mode cs = some os ∧
      (∀ value, chain.truth value = k.connective.combineAll (os.map (Outline.truth value))) ∧
      (k = .and → ∀ j ∈ chain.connectives, j = .and) := by
  induction cs with
  | nil => exact absurd rfl hne
  | cons c rest ih =>
      obtain ⟨hc, hrest⟩ := List.forall_mem_cons.mp h
      obtain ⟨chain, o, hread⟩ := hc
      have hchain : k = .and → ∀ j ∈ chain.connectives, j = .and := fun hk => by
        rw [hread.connectives_eq]
        exact hand hk c List.mem_cons_self
      cases rest with
      | nil =>
          refine ⟨chain, [o], ?_, ?_, fun value => ?_, hchain⟩
          · simpa [Template.joined] using hread.ofText?_eq
          · simp [outlines?, hread.outline?_eq]
          · simp [hread.truth_eq]
      | cons d rest =>
          obtain ⟨others, os, htext, houtlines, htruth, hothers⟩ := ih (by simp) hrest
            fun hk c hc => hand hk c (List.mem_cons_of_mem _ hc)
          refine ⟨chain.append k.connective others, o :: os, ?_, ?_, fun value => ?_, fun hk => ?_⟩
          · have happend := Chain.ofText?_conjunction k hread.ofText?_eq htext
            simpa [Template.joined_cons_cons, String.append_assoc] using happend
          · rw [outlines?, hread.outline?_eq, houtlines]
            rfl
          · rw [Chain.truth_append k fun hk => ⟨hchain hk, hothers hk⟩, hread.truth_eq, htruth]
            rfl
          · exact Chain.forall_connectives_append (by rw [hk]; rfl) (hchain hk) (hothers hk)

theorem readable_join (k : Conjunction) (hne : cs ≠ [])
    (h : ∀ c ∈ cs, c.Tight → Readable dialect mode c) (ht : (join k cs).Tight) :
    Readable dialect mode (join k cs) := by
  match cs with
  | [] => exact absurd rfl hne
  | [c] => exact h c List.mem_cons_self ht
  | c :: d :: rest =>
      have hmembers := tight_junction.mp ht
      obtain ⟨chain, os, htext, houtlines, htruth, -⟩ := readable_members k hne
        (fun e he => h e he (hmembers e he).2) fun hk e he => (hmembers e he).1 hk
      refine ⟨⟨chain.outline, []⟩, .junction k.connective os, ⟨?_, ?_, fun value => ?_, rfl⟩⟩
      · have hsql : ((join k (c :: d :: rest)).template dialect).sql mode = "(" ++
            (Template.joined (" " ++ k.sql ++ " ") ((c :: d :: rest).map (template dialect))).sql
              mode ++ ")" := by
          simp [template_join, Template.group, String.append_assoc]
        rw [hsql]
        exact Chain.ofText?_enclosed htext
      · rw [join, outline?, houtlines]
        · rfl
        · simp
      · rw [Outline.truth_junction]
        exact htruth value

end Condition

/-! ## Filters -/

namespace Predicate

variable {p : Predicate} {r : Resolver} {c : Condition} {dialect : Dialect} {mode : BindMode}

theorem readable_condition (h : p.condition r = .ok c) (ht : c.Tight) :
    c.Readable dialect mode := by
  obtain ⟨columns, hcolumns, h⟩ := bind_eq_ok.mp h
  obtain ⟨tests, htests, h⟩ := bind_eq_ok.mp h
  obtain rfl := Except.ok.inj h
  have hne : tests.map Condition.test ≠ [] := by
    intro hnil
    obtain rfl := List.map_eq_nil_iff.mp hnil
    exact (Resolver.columns_eq_ok.mp hcolumns).2 (List.map_eq_nil_iff.mp (mapM_eq_ok.mp htests))
  refine Condition.readable_join .or hne (fun c hc _ => ?_) ht
  obtain ⟨t, -, rfl⟩ := List.mem_map.mp hc
  exact Condition.readable_test t

end Predicate

namespace Filter

variable {r : Resolver} {dialect : Dialect} {mode : BindMode}

theorem readable_meaningOfText {text : String} {negated : Bool} {c : Condition}
    (htext : text ≠ "" → ∃ o, Outline.ofText? text = some o)
    (h : meaningOfText text negated = some c) : c.Readable dialect mode := by
  unfold meaningOfText at h
  split at h
  · nomatch h
  · next hne =>
      obtain rfl := Option.some.inj h
      obtain ⟨o, ho⟩ := htext fun hempty => hne (String.isEmpty_iff.mpr hempty)
      obtain ⟨chain, hchain, -⟩ := Option.map_eq_some_iff.mp ho
      have hraw : (Condition.raw text).Readable dialect mode := Condition.readable_raw hchain
      cases negated with
      | false => exact hraw
      | true => exact hraw.enclosed.negation rfl

theorem readable_meaningOfGroup {k : Conjunction} {negated : Bool} {cs : List Condition}
    {c : Condition} (hcs : ∀ d ∈ cs, d.Tight → d.Readable dialect mode)
    (h : meaningOfGroup k negated cs = some c) (ht : c.Tight) : c.Readable dialect mode := by
  cases cs with
  | nil => nomatch h
  | cons d rest =>
      obtain rfl := Option.some.inj h
      cases negated with
      | false => exact Condition.readable_join k (by simp) hcs ht
      | true =>
          obtain ⟨hconnectives, ht⟩ := ht
          exact (Condition.readable_join k (by simp) hcs ht).negation hconnectives

/-- A filter is read as what it means, if its texts can be read by themselves and bind tightly
enough. -/
theorem readable_meaning (f : Filter) :
    (∀ text ∈ f.ownTexts, text ≠ "" → ∃ o, Outline.ofText? text = some o) →
      ∀ {c : Condition}, f.meaning r = .ok (some c) → c.Tight → c.Readable dialect mode := by
  induction f with
  | empty active => intro _ c h; simp [meaning] at h
  | raw active text negated =>
      intro htexts c h ht
      cases active with
      | false => simp [meaning] at h
      | true =>
          exact readable_meaningOfText (htexts text (by simp [ownTexts])) (Except.ok.inj h)
  | predicate active p =>
      intro _ c h ht
      cases active with
      | false => simp [meaning] at h
      | true =>
          obtain ⟨d, hd, h⟩ := map_eq_ok.mp (by simpa [meaning] using h)
          obtain rfl := Option.some.inj h
          exact Predicate.readable_condition hd ht
  | group active k negated members ih =>
      intro htexts c h ht
      cases active with
      | false => simp [meaning] at h
      | true =>
          obtain ⟨cs, hcs, h⟩ := bind_eq_ok.mp (by simpa [meaning] using h)
          rw [ownTexts, ownTextsOf_eq] at htexts
          have hmembers : ∀ d ∈ cs, d.Tight → d.Readable dialect mode := by
            intro d hd
            obtain ⟨f, hf, hfd⟩ := mem_meanings hcs hd
            exact ih f hf (fun text htext => htexts text (List.mem_flatMap.mpr ⟨f, hf, htext⟩)) hfd
          exact readable_meaningOfGroup hmembers (Except.ok.inj h) ht

end Filter

/-- Where the texts of the caller's own can be read by themselves and bind as tightly as their
places ask, the text of a filter is read as a condition that has the truth values of the filter's
tree, in which every such text is one operand. -/
theorem own_texts_are_operands {f : Filter} {resolver : Resolver} {c : Condition}
    (mode : BindMode)
    (htexts : ∀ text ∈ f.ownTexts, text ≠ "" → ∃ o, Outline.ofText? text = some o)
    (hmeaning : f.meaning resolver = .ok (some c)) (htight : c.Tight) :
    ∃ fragment compiled meant,
      Expression.render f ⟨.mysql, resolver⟩ mode = .ok fragment ∧
        Outline.ofText? fragment.sql = some compiled ∧ c.outline? .mysql mode = some meant ∧
        ∀ value, compiled.truth value = meant.truth value := by
  have hreadable : c.Readable .mysql mode := f.readable_meaning htexts hmeaning htight
  obtain ⟨chain, meant, hread⟩ := hreadable
  have htemplate : Templated.template ⟨.mysql, resolver⟩ f = .ok (c.template .mysql) := by
    simp [Templated.template, Filter.template, hmeaning]
  refine ⟨(c.template .mysql).fragment mode, chain.outline, meant, ?_, ?_, hread.outline?_eq,
    hread.truth_eq⟩
  · rw [Expression.render_eq, htemplate]
    rfl
  · have hsql : ((c.template .mysql).fragment mode).sql = (c.template .mysql).sql mode := rfl
    rw [hsql, Outline.ofText?, hread.ofText?_eq]
    rfl

/-- Texts with connectives in a group of ANDs, in a negated group of ORs, and negated by
themselves. -/
theorem own_texts_are_operands_in_groups :
    let name : FieldName := ⟨none, ⟨"name", by decide⟩⟩
    let f : Filter := .group true .and false
      [.raw true "a = 1 AND b BETWEEN 2 AND 3" false,
        .group true .or true [.raw true "c = 4 OR d = 5" false, .raw true "" false,
          .predicate true { fields := [name], operator := .isNull }],
        .raw true "e = 6 XOR f = 7" true]
    let c : Condition := .junction .and
      [.raw "a = 1 AND b BETWEEN 2 AND 3",
        .negation (.junction .or [.raw "c = 4 OR d = 5", .test (.unary ⟨name, none⟩ .isNull)]),
        .negation (.enclosed (.raw "e = 6 XOR f = 7"))]
    (∀ text ∈ f.ownTexts, text ≠ "" → ∃ o, Outline.ofText? text = some o) ∧
      f.meaning .plain = .ok (some c) ∧ c.Tight ∧
      ∃ fragment compiled meant,
        Expression.render f ⟨.mysql, .plain⟩ .inline = .ok fragment ∧
          Outline.ofText? fragment.sql = some compiled ∧ c.outline? .mysql .inline = some meant ∧
          ∀ value, compiled.truth value = meant.truth value := by
  intro name f c
  have htexts : ∀ text ∈ f.ownTexts, text ≠ "" → ∃ o, Outline.ofText? text = some o := by
    have hall : f.ownTexts = ["a = 1 AND b BETWEEN 2 AND 3", "c = 4 OR d = 5", "",
      "e = 6 XOR f = 7"] := rfl
    rw [hall]
    intro text htext hne
    simp only [List.mem_cons, List.not_mem_nil, or_false] at htext
    rcases htext with rfl | rfl | rfl | rfl
    · exact ⟨_, rfl⟩
    · exact ⟨_, rfl⟩
    · exact absurd rfl hne
    · exact ⟨_, rfl⟩
  have hmeaning : f.meaning .plain = .ok (some c) := rfl
  have htight : c.Tight := by
    have hconnectives : (Condition.raw "a = 1 AND b BETWEEN 2 AND 3").connectives = [.and] := rfl
    simp [c, Condition.Tight, Condition.TightIn, hconnectives]
    simp [Condition.connectives]
  exact ⟨htexts, hmeaning, htight, own_texts_are_operands .inline htexts hmeaning htight⟩

/-- The NOT of a group whose only member is a text with an OR belongs to the first operand of the
text, and not to the text. -/
theorem negated_member_is_divided :
    let f : Filter := .group true .and true [.raw true "a = 1 OR b = 2" false]
    let c : Condition := .negation (.raw "a = 1 OR b = 2")
    let a : Outline := .operand [.word "a", .sign "=", .word "1"]
    let b : Outline := .operand [.word "b", .sign "=", .word "2"]
    f.meaning .plain = .ok (some c) ∧
      c.outline? .mysql .inline = some (.negation (.junction .or [a, b])) ∧
      Expression.sql f ⟨.mysql, .plain⟩ = .ok "NOT a = 1 OR b = 2" ∧
      Outline.ofText? "NOT a = 1 OR b = 2" = some (.junction .or [.negation a, b]) ∧
      ∃ value, (Outline.junction .or [.negation a, b]).truth value ≠
        (Outline.negation (.junction .or [a, b])).truth value := by
  intro f c a b
  exact ⟨rfl, rfl, rfl, rfl, fun _ => some true, by decide⟩

end Criteria
