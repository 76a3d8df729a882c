/-
# `Criteria.Proofs.Binding` — placeholders stand for the parameters

## What is proved

For every expression of one of the four kinds whose texts of the caller's own
have no question mark, and every resolver: both ways to write it fail with the
same error, or both give a text, and then

    count of '?' in the bound text   =  number of parameters
    the bound text, filled with the quoted parameters  =  the inline text

`Sql.fill` puts literals in the place of question marks from left to right, so
the second equation says of every parameter that it belongs to the placeholder
at its position, and to no other.

## Why the hypothesis, and where it goes

A question mark in a text of the caller's own would be taken for a
placeholder, and shift all that follow.  The texts of this library have none:
identifiers, operators, functions and key words are made of other characters.
So the only property of templates that is needed is `Unmarked`, that no piece
of text has a question mark, and each part of a query gets one lemma that
traces it to the texts of the caller's own.  The values may have as many
question marks as they like: they are put in, and not looked at again.
-/
import Criteria.Proofs.Writing

namespace Criteria

open Outcome

/-! ## Filling placeholders -/

namespace Sql

/-- Puts the literals of values in the place of question marks, from left to right; without a
value a question mark stays. -/
def fillChars (dialect : Dialect) : List Char → List Scalar → List Char
  | [], _ => []
  | c :: rest, values =>
    if c = '?' then
      match values with
      | [] => c :: fillChars dialect rest []
      | v :: others => (dialect.quote v).toList ++ fillChars dialect rest others
    else c :: fillChars dialect rest values

/-- The text with its placeholders replaced by the literals of values. -/
def fill (dialect : Dialect) (sql : String) (values : List Scalar) : String :=
  String.ofList (fillChars dialect sql.toList values)

/-- The number of placeholders of a text. -/
def placeholders (sql : String) : Nat :=
  sql.toList.count '?'

theorem fillChars_append_of_unmarked {dialect : Dialect} {cs : List Char} (h : '?' ∉ cs)
    (rest : List Char) (values : List Scalar) :
    fillChars dialect (cs ++ rest) values = cs ++ fillChars dialect rest values := by
  induction cs with
  | nil => rfl
  | cons c cs ih =>
      obtain ⟨hc, hcs⟩ := not_or.mp (fun h' => h (List.mem_cons.mpr h'))
      simp [fillChars, Ne.symm hc, ih hcs]

end Sql

/-! ## Templates without a question mark -/

namespace Template

/-- No text of the template has a question mark. -/
def Unmarked (t : Template) : Prop :=
  ∀ s, Piece.text s ∈ t → '?' ∉ s.toList

variable {s : String} {v : Scalar} {t u : Template} {ts : List Template}

@[simp] theorem unmarked_nil : Unmarked [] := by simp [Unmarked]

@[simp] theorem unmarked_append : Unmarked (t ++ u) ↔ Unmarked t ∧ Unmarked u := by
  simp only [Unmarked, List.mem_append]
  constructor
  · intro h
    exact ⟨fun s hs => h s (.inl hs), fun s hs => h s (.inr hs)⟩
  · rintro ⟨ht, hu⟩ s (hs | hs)
    · exact ht s hs
    · exact hu s hs

@[simp] theorem unmarked_ofText : Unmarked (ofText s) ↔ '?' ∉ s.toList := by
  simp [Unmarked, ofText]

@[simp] theorem unmarked_ofValue : Unmarked (ofValue v) := by simp [Unmarked, ofValue]

theorem unmarked_joined {between : String} (hb : '?' ∉ between.toList)
    (h : ∀ t ∈ ts, Unmarked t) : Unmarked (joined between ts) := by
  induction ts with
  | nil => exact unmarked_nil
  | cons t rest ih =>
      cases rest with
      | nil => simpa [joined] using h
      | cons u rest =>
          rw [joined_cons_cons, unmarked_append, unmarked_append, unmarked_ofText]
          exact ⟨h t List.mem_cons_self, hb, ih fun t ht => h t (List.mem_cons_of_mem _ ht)⟩

theorem unmarked_group {word : String} (hw : '?' ∉ word.toList) (h : ∀ t ∈ ts, Unmarked t) :
    Unmarked (group word ts) := by
  have hb : '?' ∉ (" " ++ word ++ " ").toList := by simpa using hw
  match ts with
  | [] => simp [group, joined]
  | [t] => exact h t List.mem_cons_self
  | t :: u :: rest => simp [group, unmarked_joined hb h]

/-- Filling the bound text of a template with its values gives its inline text. -/
theorem fillChars_chars (dialect : Dialect) (h : Unmarked t) (rest : List Char)
    (values : List Scalar) :
    Sql.fillChars dialect (t.chars .parameterized ++ rest) (t.values ++ values) =
      t.chars .inline ++ Sql.fillChars dialect rest values := by
  cases dialect
  induction t with
  | nil => rfl
  | cons p t ih =>
      have ht : Unmarked t := fun s hs => h s (List.mem_cons_of_mem _ hs)
      cases p with
      | text s =>
          have hs : '?' ∉ s.toList := h s List.mem_cons_self
          have := ih ht
          simp_all [chars, Template.values, Piece.chars, Sql.fillChars_append_of_unmarked]
      | value v =>
          have := ih ht
          simp_all [chars, Template.values, Piece.chars, Sql.fillChars, Dialect.quote]

theorem count_chars (h : Unmarked t) : (t.chars .parameterized).count '?' = t.values.length := by
  induction t with
  | nil => rfl
  | cons p t ih =>
      have ht := ih fun s hs => h s (List.mem_cons_of_mem _ hs)
      cases p with
      | text s =>
          have hs : s.toList.count '?' = 0 := List.count_eq_zero.mpr (h s List.mem_cons_self)
          simp_all [chars, Template.values, Piece.chars]
      | value v => simp_all [chars, Template.values, Piece.chars]

/-- There is one placeholder for each value. -/
theorem placeholders_sql (h : Unmarked t) :
    Sql.placeholders (t.sql .parameterized) = t.values.length := by
  simpa [Sql.placeholders] using count_chars h

/-- The bound text, filled with the values, is the inline text. -/
theorem fill_sql {dialect : Dialect} (h : Unmarked t) :
    Sql.fill dialect (t.sql .parameterized) t.values = t.sql .inline := by
  have hfill := fillChars_chars dialect h [] []
  simp only [List.append_nil, Sql.fillChars] at hfill
  simp [Sql.fill, hfill, sql]

end Template

/-! ## Every part of a query is unmarked

Down the tree, from the words of the vocabularies to whole conditions.  Only
texts of the caller's own need a hypothesis. -/

section Words

theorem FieldName.unmarked (field : FieldName) : '?' ∉ field.text.toList := by
  intro h
  rcases FieldName.isPart_of_mem h with h | h
  · exact absurd h (by decide)
  · exact absurd h (by decide)

theorem Function.unmarked (f : Function) : '?' ∉ f.sql.toList := by
  cases f <;> decide

theorem Operator.unmarked (op : Operator) : '?' ∉ op.sql.toList := by
  cases op <;> decide

theorem Conjunction.unmarked (k : Conjunction) : '?' ∉ k.sql.toList := by
  cases k <;> decide

theorem Target.unmarked (target : Target) (dialect : Dialect) :
    '?' ∉ (target.text dialect).toList := by
  obtain ⟨column, function⟩ := target
  cases dialect
  cases function with
  | none => exact column.unmarked
  | some f => simp [text, Dialect.call, f.unmarked, column.unmarked]

theorem SortKey.suffix_unmarked (direction : Option Direction) :
    '?' ∉ (suffix direction).toList := by
  cases direction with
  | none => simp [suffix]
  | some d => cases d <;> decide

end Words

theorem Test.unmarked (dialect : Dialect) (t : Test) : (t.template dialect).Unmarked := by
  cases t with
  | unary target op => simp [template, target.unmarked, op.unmarked]
  | binary target op v => simp [template, target.unmarked, op.unmarked]
  | list target op vs =>
      have hvs : (Template.joined "," (vs.map .ofValue)).Unmarked :=
        Template.unmarked_joined (by decide) (by simp)
      simp [template, target.unmarked, op.unmarked, hvs]
  | inSet target set => cases dialect; simp [template, Dialect.findInSet, target.unmarked]
  | constant holds => cases holds <;> simp [template]

theorem Condition.unmarked (dialect : Dialect) (c : Condition) :
    (∀ s ∈ c.ownTexts, '?' ∉ s.toList) → (c.template dialect).Unmarked := by
  induction c with
  | test t => exact fun _ => t.unmarked dialect
  | raw s =>
      intro h
      simpa [template] using h s (by simp [ownTexts])
  | enclosed c ih =>
      intro h
      simpa [template] using ih h
  | negation c ih =>
      intro h
      cases dialect
      simpa [template, Dialect.negation] using ih h
  | junction k members ih =>
      intro h
      rw [template, templates_eq]
      refine Template.unmarked_group k.unmarked fun t ht => ?_
      obtain ⟨c, hc, rfl⟩ := List.mem_map.mp ht
      refine ih c hc fun s hs => h s ?_
      rw [ownTexts, ownTextsOf_eq]
      exact List.mem_flatMap.mpr ⟨c, hc, hs⟩

theorem Filter.unmarked {f : Filter} {context : Context} {t : Template}
    (h : ∀ s ∈ f.ownTexts, '?' ∉ s.toList) (ht : f.template context = .ok t) : t.Unmarked := by
  obtain ⟨m, hm, rfl⟩ := map_eq_ok.mp ht
  cases m with
  | none => exact Template.unmarked_nil
  | some c => exact c.unmarked _ fun s hs => h s (f.ownTexts_of_meaning hm s hs).1

theorem SortKey.unmarked (dialect : Dialect) {key : SortKey}
    (h : ∀ s, key = .raw s → '?' ∉ s.toList) : (key.template dialect).Unmarked := by
  cases dialect
  cases key with
  | random => simp [template, Dialect.random]
  | raw s => simpa [template] using h s rfl
  | column c direction => simp [template, c.unmarked, suffix_unmarked]
  | position c vs direction =>
      have hvs : (Template.joined "," (vs.map .ofValue)).Unmarked :=
        Template.unmarked_joined (by decide) (by simp)
      simp [template, Dialect.fieldOrder, c.unmarked, suffix_unmarked, hvs]

theorem Order.unmarked {order : Order} {context : Context} {t : Template}
    (h : ∀ s ∈ order.ownTexts, '?' ∉ s.toList) (ht : order.template context = .ok t) :
    t.Unmarked := by
  obtain ⟨keys, hkeys, rfl⟩ := map_eq_ok.mp ht
  refine Template.unmarked_joined (by decide) fun u hu => ?_
  obtain ⟨key, hkey, rfl⟩ := List.mem_map.mp hu
  refine SortKey.unmarked _ ?_
  rintro s rfl
  exact h s (raw_mem_keys hkeys hkey).1

theorem Page.unmarked {page : Page} {context : Context} {t : Template}
    (ht : Templated.template context page = .ok t) : t.Unmarked := by
  obtain rfl := Except.ok.inj ht
  have hdigits : ∀ n : Nat, '?' ∉ Nat.toDigits 10 n := fun n h =>
    absurd (Nat.isDigit_of_mem_toDigits (by decide) (by decide) h) (by decide)
  cases context.dialect
  split
  · simp [Dialect.limit, hdigits]
  · exact Template.unmarked_nil

theorem CustomExpression.unmarked {e : CustomExpression} {context : Context} {t : Template}
    (h : ∀ s ∈ e.ownTexts, '?' ∉ s.toList) (ht : Templated.template context e = .ok t) :
    t.Unmarked := by
  obtain rfl := Except.ok.inj ht
  split
  · cases hc : e.condition with
    | none => simp
    | some s => simpa using h s (by simp [ownTexts, hc])
  · exact Template.unmarked_nil

/-! ## Both ways to write an expression -/

/-- Both ways to write an expression fail with the same error, or both give a text, and the bound
one has a placeholder for each of its parameters and becomes the inline one when they are filled
in. -/
def RenderingsAgree {ε : Type} [Expression ε] (context : Context) (e : ε) : Prop :=
  (∃ error, Expression.sql e context = .error error ∧
    Expression.toFragment e context = .error error) ∨
  ∃ sql fragment, Expression.sql e context = .ok sql ∧
    Expression.toFragment e context = .ok fragment ∧
    Sql.placeholders fragment.sql = fragment.params.length ∧
    Sql.fill context.dialect fragment.sql fragment.params = sql

section

variable {ε : Type} [Expression ε] [Templated ε]

theorem renderingsAgree_of_unmarked {context : Context} {e : ε}
    (h : ∀ t, Templated.template context e = .ok t → t.Unmarked) : RenderingsAgree context e := by
  unfold RenderingsAgree
  rw [Expression.sql_eq, Expression.toFragment_eq]
  cases ht : Templated.template context e with
  | error error => exact .inl ⟨error, rfl, rfl⟩
  | ok t =>
      exact .inr ⟨_, _, rfl, rfl, Template.placeholders_sql (h t ht), Template.fill_sql (h t ht)⟩

/-- Values that are quoted in place are not bound. -/
theorem params_render_inline {context : Context} {e : ε} {fragment : Fragment}
    (h : Expression.render e context .inline = .ok fragment) : fragment.params = [] := by
  rw [Expression.render_eq] at h
  obtain ⟨t, -, rfl⟩ := map_eq_ok.mp h
  rfl

end

/-- Inline and bound texts agree, for every kind of expression whose texts of the caller's own
have no question mark; and nothing is bound in an inline text, whatever these texts are. -/
theorem renderings_agree (resolver : Resolver) :
    let context : Context := ⟨.mysql, resolver⟩
    ((∀ f : Filter, (∀ s ∈ f.ownTexts, '?' ∉ s.toList) → RenderingsAgree context f) ∧
      (∀ order : Order, (∀ s ∈ order.ownTexts, '?' ∉ s.toList) → RenderingsAgree context order) ∧
      (∀ page : Page, RenderingsAgree context page) ∧
      ∀ e : CustomExpression, (∀ s ∈ e.ownTexts, '?' ∉ s.toList) → RenderingsAgree context e) ∧
    (∀ (f : Filter) fragment, Expression.render f context .inline = .ok fragment →
      fragment.params = []) ∧
    (∀ (order : Order) fragment, Expression.render order context .inline = .ok fragment →
      fragment.params = []) ∧
    (∀ (page : Page) fragment, Expression.render page context .inline = .ok fragment →
      fragment.params = []) ∧
    ∀ (e : CustomExpression) fragment, Expression.render e context .inline = .ok fragment →
      fragment.params = [] := by
  intro context
  refine ⟨⟨?_, ?_, ?_, ?_⟩, ?_, ?_, ?_, ?_⟩
  · exact fun f h => renderingsAgree_of_unmarked fun t ht => f.unmarked h ht
  · exact fun order h => renderingsAgree_of_unmarked fun t ht => order.unmarked h ht
  · exact fun page => renderingsAgree_of_unmarked fun t ht => page.unmarked ht
  · exact fun e h => renderingsAgree_of_unmarked fun t ht => e.unmarked h ht
  all_goals exact fun _ _ h => params_render_inline h

/-- A question mark in a value is no placeholder, and a quote in one does not end its literal. -/
theorem renderings_agree_at_list :
    let context : Context := ⟨.mysql, .plain⟩
    let f : Filter := .predicate true
      { fields := [⟨none, ⟨"city", by decide⟩⟩], operator := .among
        comparand := some (.list [.text "a?", .text "b'c"]) }
    Expression.sql f context = .ok "city IN ('a?','b''c')" ∧
      Expression.toFragment f context =
        .ok ⟨"city IN (?,?)", [.text "a?", .text "b'c"]⟩ ∧
      RenderingsAgree context f :=
  ⟨rfl, rfl, (renderings_agree .plain).1.1 _ (by simp [Filter.ownTexts])⟩

end Criteria
