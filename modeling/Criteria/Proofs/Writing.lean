/-
# `Criteria.Proofs.Writing` — a compiled expression is one written template

Compiling threads a writer through a tree: texts are put together on the way
back, while the values of the parts have been added to the parameters on the
way down.  Nothing in the code says that the two orders agree.  They do, and
this module says so in the strongest form:

    compile e w  =  (e.template w.context).map w.write

The template of an expression is a list of pieces, found without a writer;
writing it goes through the pieces once, from left to right, and takes up
each value where its piece stands.  Whatever is to be known about the two
ways to write a query is from here on a fact about lists of pieces.

The template of a filter comes from its meaning, so the same equation says
that a filter has text exactly when it means something.  That rests on one
invariant: a condition that some filter means has text in it
(`sql_ne_empty_of_meaning`), because the texts of the caller's own in it are
not empty.
-/
import Criteria.OwnText
import Criteria.Page.Basic
import Criteria.Proofs.Outcome

namespace Criteria

open Outcome

/-! ## The text of a template -/

/-- The characters of a piece: its own, or those of a literal or a placeholder. -/
def Piece.chars (mode : BindMode) : Piece → List Char
  | .text s => s.toList
  | .value v =>
    match mode with
    | .inline => (Sql.quote v.literal).toList
    | .parameterized => ['?']

namespace Template

/-- The characters of all pieces. -/
def chars (mode : BindMode) (t : Template) : List Char :=
  t.flatMap (Piece.chars mode)

/-- The text of all pieces. -/
def sql (mode : BindMode) (t : Template) : String :=
  String.ofList (t.chars mode)

variable {mode : BindMode} {s : String} {v : Scalar} {t u : Template} {ts : List Template}

@[simp] theorem chars_nil : chars mode [] = [] := rfl

@[simp] theorem chars_append : chars mode (t ++ u) = chars mode t ++ chars mode u :=
  List.flatMap_append

@[simp] theorem chars_ofText : chars mode (ofText s) = s.toList := by
  simp [chars, ofText, Piece.chars]

@[simp] theorem chars_ofValue : chars mode (ofValue v) = Piece.chars mode (.value v) := by
  simp [chars, ofValue]

@[simp] theorem toList_sql : (sql mode t).toList = chars mode t :=
  String.toList_ofList

@[simp] theorem sql_nil : sql mode [] = "" := rfl

@[simp] theorem sql_append : sql mode (t ++ u) = sql mode t ++ sql mode u := by
  simp [sql, String.ofList_append]

@[simp] theorem sql_ofText : sql mode (ofText s) = s := by
  simp [sql]

theorem joined_cons_cons (between : String) :
    joined between (t :: u :: ts) = t ++ (ofText between ++ joined between (u :: ts)) := by
  simp [joined, List.intercalate_cons_cons, List.append_assoc]

theorem chars_joined (between : String) (ts : List Template) :
    chars mode (joined between ts) = between.toList.intercalate (ts.map (chars mode)) := by
  induction ts with
  | nil => rfl
  | cons t rest ih =>
      cases rest with
      | nil => simp [joined]
      | cons u rest =>
          rw [joined_cons_cons, chars_append, chars_append, ih]
          simp [List.intercalate_cons_cons]

theorem sql_joined (between : String) (ts : List Template) :
    sql mode (joined between ts) = between.intercalate (ts.map (sql mode)) := by
  apply String.toList_inj.mp
  simp [chars_joined, Function.comp_def]

/-- Grouping templates and grouping their texts is the same. -/
theorem sql_group (word : String) (ts : List Template) :
    sql mode (group word ts) = groupTexts word (ts.map (sql mode)) := by
  match ts with
  | [] => simp [group, groupTexts, sql, chars_joined]
  | [t] => rfl
  | t :: u :: rest =>
      apply String.toList_inj.mp
      simp [group, groupTexts, chars_joined, Function.comp_def]

/-- The template has no text, and so no value. -/
def isBlank (t : Template) : Bool :=
  t.all fun
    | .text s => s.isEmpty
    | .value _ => false

theorem sql_eq_empty_iff : t.sql mode = "" ↔ t.isBlank := by
  rw [← String.toList_eq_nil_iff, toList_sql]
  induction t with
  | nil => simp [isBlank]
  | cons p rest ih =>
      have hrest : chars mode (p :: rest) = p.chars mode ++ chars mode rest := rfl
      cases p with
      | text s => simp_all [isBlank, Piece.chars]
      | value v => cases mode <;> simp [hrest, isBlank, Piece.chars, Sql.quote]

@[simp] theorem values_nil : values [] = [] := rfl

@[simp] theorem values_append : values (t ++ u) = values t ++ values u :=
  List.filterMap_append

@[simp] theorem values_ofText : values (ofText s) = [] := rfl

@[simp] theorem values_ofValue : values (ofValue v) = [v] := rfl

theorem values_joined (between : String) (ts : List Template) :
    values (joined between ts) = ts.flatMap values := by
  induction ts with
  | nil => rfl
  | cons t rest ih =>
      cases rest with
      | nil => simp [joined]
      | cons u rest =>
          rw [joined_cons_cons, values_append, values_append, ih]
          simp

theorem values_group (word : String) (ts : List Template) :
    values (group word ts) = ts.flatMap values := by
  match ts with
  | [] => rfl
  | [t] => simp [group]
  | t :: u :: rest => simp [group, values_joined]

theorem values_eq_nil_of_isBlank (h : t.isBlank) : t.values = [] := by
  refine List.filterMap_eq_nil_iff.mpr fun p hp => ?_
  have hp := List.all_eq_true.mp h p hp
  cases p with
  | text s => rfl
  | value v => simp at hp

end Template

/-! ## Writing a template

The text that is written does not depend on the parameters there are already,
and the parameters only grow at their end. -/

/-- The values that become parameters. -/
def BindMode.bound : BindMode → List Scalar → List Scalar
  | .inline, _ => []
  | .parameterized, values => values

namespace BindMode

variable {a b : List Scalar}

@[simp] theorem bound_inline : inline.bound a = [] := rfl

@[simp] theorem bound_parameterized : parameterized.bound a = a := rfl

@[simp] theorem bound_nil (mode : BindMode) : mode.bound [] = [] := by
  cases mode <;> rfl

theorem bound_append (mode : BindMode) : mode.bound (a ++ b) = mode.bound a ++ mode.bound b := by
  cases mode <;> rfl

theorem bound_flatMap {α : Type} (mode : BindMode) (xs : List α) (f : α → List Scalar) :
    mode.bound (xs.flatMap f) = xs.flatMap fun x => mode.bound (f x) := by
  cases mode with
  | inline => simp
  | parameterized => rfl

end BindMode

namespace Writer

/-- The writer that has taken up more values. -/
def bind (w : Writer) (values : List Scalar) : Writer :=
  { w with params := w.params ++ w.mode.bound values }

variable {w : Writer} {a b : List Scalar}

@[simp] theorem bind_mode : (w.bind a).mode = w.mode := rfl

@[simp] theorem bind_context : (w.bind a).context = w.context := rfl

@[simp] theorem bind_params : (w.bind a).params = w.params ++ w.mode.bound a := rfl

@[simp] theorem bind_nil : w.bind [] = w := by
  simp [bind]

@[simp] theorem bind_bind : (w.bind a).bind b = w.bind (a ++ b) := by
  simp [bind, BindMode.bound_append]

theorem literal_eq (w : Writer) (v : Scalar) :
    w.literal v = (String.ofList (Piece.chars w.mode (.value v)), w.bind [v]) := by
  obtain ⟨⟨dialect, resolver⟩, mode, params⟩ := w
  cases dialect
  cases mode <;> simp [literal, bind, Piece.chars, Dialect.quote, Dialect.placeholder]

theorem write_eq (w : Writer) (t : Template) : w.write t = (t.sql w.mode, w.bind t.values) := by
  induction t generalizing w with
  | nil => simp [write, Template.sql, Template.chars]
  | cons p rest ih =>
      cases p with
      | text s =>
          simp only [write, piece, ih]
          simp [Template.sql, Template.chars, Template.values, Piece.chars, String.ofList_append]
      | value v =>
          simp only [write, piece, literal_eq, ih]
          simp [Template.sql, Template.chars, Template.values, String.ofList_append]

theorem writeEach_eq (w : Writer) (ts : List Template) :
    w.writeEach ts = (ts.map (Template.sql w.mode), w.bind (ts.flatMap Template.values)) := by
  induction ts generalizing w with
  | nil => simp [writeEach]
  | cons t rest ih => simp [writeEach, write_eq, ih]

end Writer

/-! ## Conditions and filters as trees -/

namespace Condition

/-- Induction over conditions, with a hypothesis for every member of a junction. -/
@[elab_as_elim, induction_eliminator]
theorem induction {P : Condition → Prop} (test : ∀ t, P (.test t)) (raw : ∀ s, P (.raw s))
    (enclosed : ∀ c, P c → P (.enclosed c)) (negation : ∀ c, P c → P (.negation c))
    (junction : ∀ k members, (∀ c ∈ members, P c) → P (.junction k members)) : ∀ c, P c
  | .test t => test t
  | .raw s => raw s
  | .enclosed c => enclosed c (Condition.induction test raw enclosed negation junction c)
  | .negation c => negation c (Condition.induction test raw enclosed negation junction c)
  | .junction k members => junction k members fun c _ =>
      Condition.induction test raw enclosed negation junction c

theorem templates_eq (dialect : Dialect) (cs : List Condition) :
    templates dialect cs = cs.map (template dialect) := by
  induction cs with
  | nil => rfl
  | cons c rest ih => simp [templates, ih]

theorem ownTextsOf_eq (cs : List Condition) : ownTextsOf cs = cs.flatMap ownTexts := by
  induction cs with
  | nil => rfl
  | cons c rest ih => simp [ownTextsOf, ih]

/-- A single condition is joined to itself, as its template is grouped to itself. -/
theorem template_join (dialect : Dialect) (k : Conjunction) (cs : List Condition) :
    (join k cs).template dialect = Template.group k.sql (cs.map (template dialect)) := by
  match cs with
  | [] => simp [join, template, templates_eq]
  | [c] => rfl
  | c :: d :: rest => simp [join, template, templates_eq]

theorem ownTexts_join (k : Conjunction) (cs : List Condition) :
    (join k cs).ownTexts = cs.flatMap ownTexts := by
  match cs with
  | [] => rfl
  | [c] => simp [join]
  | c :: d :: rest => simp [join, ownTexts, ownTextsOf_eq]

theorem template_negatedIf (dialect : Dialect) (negated : Bool) (c : Condition) :
    (negatedIf negated c).template dialect =
      (if negated then Template.ofText (dialect.negation ++ " ") else []) ++
        c.template dialect := by
  cases negated <;> simp [negatedIf, template]

theorem ownTexts_negatedIf (negated : Bool) (c : Condition) :
    (negatedIf negated c).ownTexts = c.ownTexts := by
  cases negated <;> simp [negatedIf, ownTexts]

end Condition

namespace Filter

/-- Induction over filters, with a hypothesis for every member of a group. -/
@[elab_as_elim, induction_eliminator]
theorem induction {P : Filter → Prop} (empty : ∀ active, P (.empty active))
    (group : ∀ active k negated members, (∀ f ∈ members, P f) → P (.group active k negated members))
    (raw : ∀ active s negated, P (.raw active s negated))
    (predicate : ∀ active p, P (.predicate active p)) : ∀ f, P f
  | .empty active => empty active
  | .group active k negated members => group active k negated members fun f _ =>
      Filter.induction empty group raw predicate f
  | .raw active s negated => raw active s negated
  | .predicate active p => predicate active p

theorem ownTextsOf_eq (fs : List Filter) : ownTextsOf fs = fs.flatMap ownTexts := by
  induction fs with
  | nil => rfl
  | cons f rest ih => simp [ownTextsOf, ih]

end Filter

/-! ## A condition has text in it -/

theorem Test.chars_ne_nil (dialect : Dialect) (mode : BindMode) (t : Test) :
    (t.template dialect).chars mode ≠ [] := by
  cases t with
  | unary target op => simp [template]
  | binary target op v => simp [template]
  | list target op vs => simp [template]
  | inSet target set => cases dialect; simp [template, Dialect.findInSet]
  | constant holds => cases holds <;> simp [template]

theorem Condition.chars_ne_nil (dialect : Dialect) (mode : BindMode) (c : Condition) :
    (∀ s ∈ c.ownTexts, s ≠ "") → (c.template dialect).chars mode ≠ [] := by
  induction c with
  | test t => exact fun _ => t.chars_ne_nil dialect mode
  | raw s =>
      intro h
      simpa [template] using h s (by simp [ownTexts])
  | enclosed c _ => intro _; simp [template]
  | negation c _ => intro _; simp [template]
  | junction k members ih =>
      intro h
      match members, ih with
      | [], _ => simp [template, templates, Template.group]
      | [c], ih => exact ih c List.mem_cons_self (by simpa [ownTexts, ownTextsOf] using h)
      | c :: d :: rest, _ => simp [template, templates, Template.group]

namespace Filter

theorem meaningOfText_ownTexts {s : String} {negated : Bool} {c : Condition}
    (h : meaningOfText s negated = some c) : c.ownTexts = [s] ∧ s ≠ "" := by
  unfold meaningOfText at h
  split at h
  · exact absurd h (by simp)
  · next hs =>
      obtain rfl := Option.some.inj h
      refine ⟨?_, by simpa using hs⟩
      cases negated <;> simp [Condition.ownTexts]

theorem meaningOfGroup_ownTexts {k : Conjunction} {negated : Bool} {cs : List Condition}
    {c : Condition} (h : meaningOfGroup k negated cs = some c) :
    c.ownTexts = cs.flatMap Condition.ownTexts := by
  match cs, h with
  | d :: rest, h =>
      obtain rfl := Option.some.inj h
      rw [Condition.ownTexts_negatedIf, Condition.ownTexts_join]

end Filter

theorem Predicate.condition_ownTexts {p : Predicate} {r : Resolver} {c : Condition}
    (h : p.condition r = .ok c) : c.ownTexts = [] := by
  obtain ⟨columns, -, h⟩ := bind_eq_ok.mp h
  obtain ⟨tests, -, h⟩ := bind_eq_ok.mp h
  obtain rfl := Except.ok.inj h
  simp [Condition.ownTexts_join, Condition.ownTexts]

namespace Filter

theorem mem_meanings {r : Resolver} {fs : List Filter} {cs : List Condition} {c : Condition}
    (h : meanings r fs = .ok cs) (hc : c ∈ cs) : ∃ f ∈ fs, f.meaning r = .ok (some c) := by
  induction fs generalizing cs with
  | nil =>
      obtain rfl := Except.ok.inj h
      exact absurd hc List.not_mem_nil
  | cons f rest ih =>
      obtain ⟨first, hfirst, h⟩ := bind_eq_ok.mp h
      obtain ⟨others, hothers, h⟩ := bind_eq_ok.mp h
      obtain rfl := Except.ok.inj h
      rcases List.mem_append.mp hc with hc | hc
      · refine ⟨f, List.mem_cons_self, ?_⟩
        rw [hfirst, Option.mem_toList.mp hc]
      · obtain ⟨g, hg, hgc⟩ := ih hothers hc
        exact ⟨g, List.mem_cons_of_mem _ hg, hgc⟩

/-- What a filter means has texts of the filter in it, and none that is empty. -/
theorem ownTexts_of_meaning {r : Resolver} (f : Filter) : ∀ {c : Condition},
    f.meaning r = .ok (some c) → ∀ s ∈ c.ownTexts, s ∈ f.ownTexts ∧ s ≠ "" := by
  induction f with
  | empty active => intro c h; simp [meaning] at h
  | raw active s negated =>
      intro c h
      cases active with
      | false => simp [meaning] at h
      | true =>
          obtain ⟨hc, hs⟩ := meaningOfText_ownTexts (Except.ok.inj h)
          simp [hc, ownTexts, hs]
  | predicate active p =>
      intro c h
      cases active with
      | false => simp [meaning] at h
      | true =>
          obtain ⟨d, hd, h⟩ := map_eq_ok.mp (by simpa [meaning] using h)
          obtain rfl := Option.some.inj h
          simp [Predicate.condition_ownTexts hd]
  | group active k negated members ih =>
      intro c h
      cases active with
      | false => simp [meaning] at h
      | true =>
          obtain ⟨cs, hcs, h⟩ := bind_eq_ok.mp (by simpa [meaning] using h)
          rw [meaningOfGroup_ownTexts (Except.ok.inj h), ownTexts, ownTextsOf_eq]
          intro s hs
          obtain ⟨d, hd, hs⟩ := List.mem_flatMap.mp hs
          obtain ⟨f, hf, hfd⟩ := mem_meanings hcs hd
          obtain ⟨hmem, hne⟩ := ih f hf hfd s hs
          exact ⟨List.mem_flatMap.mpr ⟨f, hf, hmem⟩, hne⟩

/-- A filter that means something has text. -/
theorem sql_ne_empty_of_meaning {f : Filter} {r : Resolver} {c : Condition}
    (h : f.meaning r = .ok (some c)) (dialect : Dialect) (mode : BindMode) :
    (c.template dialect).sql mode ≠ "" := by
  have hne := c.chars_ne_nil dialect mode fun s hs => (f.ownTexts_of_meaning h s hs).2
  rwa [← Template.toList_sql, ne_eq, String.toList_eq_nil_iff] at hne

end Filter

/-! ## Compiling is writing

One equation for each kind of expression.  For predicates and filters the
induction follows the traversal: a member that fails fails on both sides, a
member without meaning leaves text and writer alone, and every other member
adds one text and its values, so that the texts of a group are those of its
members' templates, written one after the other. -/

/-- Grouping the texts of conditions is writing the junction of the conditions. -/
theorem Condition.write_join (w : Writer) (k : Conjunction) (cs : List Condition) :
    w.write ((join k cs).template w.context.dialect) =
      (Template.groupTexts k.sql
          (w.writeEach (cs.map (template w.context.dialect))).1,
        (w.writeEach (cs.map (template w.context.dialect))).2) := by
  simp [Writer.write_eq, Writer.writeEach_eq, template_join, Template.sql_group,
    Template.values_group]

namespace Predicate

theorem compileColumns_eq (p : Predicate) (columns : List FieldName) (w : Writer) :
    p.compileColumns w columns =
      (fun tests => w.writeEach (tests.map (Test.template w.context.dialect))) <$>
        columns.mapM p.test := by
  induction columns generalizing w with
  | nil => rfl
  | cons column rest ih =>
      simp only [compileColumns, List.mapM_cons]
      cases p.test column with
      | error e => rfl
      | ok test =>
          simp only [ok_bind, ih, Writer.write_eq, Writer.bind_context]
          cases rest.mapM p.test with
          | error e => rfl
          | ok tests => simp [Writer.writeEach, Writer.write_eq]

/-- A predicate compiles to the text of its condition. -/
theorem compile_eq (p : Predicate) (w : Writer) :
    p.compile w =
      (fun c => w.write (c.template w.context.dialect)) <$> p.condition w.context.resolver := by
  simp only [compile, condition, Writer.columns]
  cases w.context.resolver.columns p.fields with
  | error e => rfl
  | ok columns =>
      simp only [ok_bind, compileColumns_eq]
      cases columns.mapM p.test with
      | error e => rfl
      | ok tests =>
          simp only [ok_bind, map_ok, pure_eq, Condition.write_join, List.map_map]
          rfl

end Predicate

namespace Filter

/-- What a filter compiles to: the template of its meaning. -/
def template (context : Context) (f : Filter) : Except ExpressionError Template :=
  (fun meaning => meaning.elim [] (Condition.template context.dialect)) <$>
    f.meaning context.resolver

theorem write_meaningOfText (w : Writer) (s : String) (negated : Bool) :
    w.write ((meaningOfText s negated).elim [] (Condition.template w.context.dialect)) =
      (rawText w.context.dialect s negated, w) := by
  unfold meaningOfText rawText
  split
  · simp [Writer.write_eq]
  · apply Prod.ext
    · apply String.toList_inj.mp
      cases negated <;> simp [Writer.write_eq, Condition.template]
    · cases negated <;> simp [Writer.write_eq, Condition.template]

theorem write_meaningOfGroup (w : Writer) (k : Conjunction) (negated : Bool)
    (cs : List Condition) :
    w.write ((meaningOfGroup k negated cs).elim [] (Condition.template w.context.dialect)) =
      (groupText w.context.dialect k negated
          (w.writeEach (cs.map (Condition.template w.context.dialect))).1,
        (w.writeEach (cs.map (Condition.template w.context.dialect))).2) := by
  match cs with
  | [] => simp [meaningOfGroup, groupText, Writer.write_eq, Writer.writeEach]
  | c :: rest =>
      simp only [meaningOfGroup, Option.elim_some, Condition.template_negatedIf,
        Condition.template_join, Writer.write_eq, Writer.writeEach_eq, Template.sql_append,
        Template.values_append, Template.sql_group, Template.values_group, List.map_cons,
        groupText]
      cases negated with
      | false => simp
      | true => simp [String.append_assoc]

/-- The texts of the members of a group are those of what the members mean. -/
theorem compileMembers_eq {w : Writer} {fs : List Filter}
    (h : ∀ f ∈ fs, ∀ w : Writer, f.compile w = w.write <$> f.template w.context) :
    compileMembers w fs =
      (fun cs => w.writeEach (cs.map (Condition.template w.context.dialect))) <$>
        meanings w.context.resolver fs := by
  induction fs generalizing w with
  | nil => rfl
  | cons f rest ih =>
      have ihRest := fun w => @ih w fun g hg => h g (List.mem_cons_of_mem _ hg)
      simp only [compileMembers, meanings, h f List.mem_cons_self, template]
      cases hf : f.meaning w.context.resolver with
      | error e => rfl
      | ok m =>
          simp only [map_ok, ok_bind, Writer.write_eq, ihRest, Writer.bind_context]
          cases meanings w.context.resolver rest with
          | error e => rfl
          | ok cs =>
              cases m with
              | none => simp
              | some c =>
                  have hne : (c.template w.context.dialect).sql w.mode ≠ "" :=
                    sql_ne_empty_of_meaning hf _ _
                  simp [Writer.writeEach, Writer.write_eq, hne]

/-- A filter compiles to the text of what it means. -/
theorem compile_eq (f : Filter) (w : Writer) : f.compile w = w.write <$> f.template w.context := by
  induction f generalizing w with
  | empty active => simp [compile, template, meaning, Writer.write_eq]
  | raw active s negated =>
      cases active with
      | false => simp [compile, template, meaning, Writer.write_eq]
      | true => simp [compile, template, meaning, write_meaningOfText]
  | predicate active p =>
      cases active with
      | false => simp [compile, template, meaning, Writer.write_eq]
      | true =>
          simp only [compile, template, meaning, if_true, Predicate.compile_eq]
          cases p.condition w.context.resolver with
          | error e => rfl
          | ok c => rfl
  | group active k negated members ih =>
      cases active with
      | false => simp [compile, template, meaning, Writer.write_eq]
      | true =>
          simp only [compile, template, meaning, if_true, compileMembers_eq ih]
          cases meanings w.context.resolver members with
          | error e => rfl
          | ok cs =>
              simp only [map_ok, ok_bind, pure_eq, write_meaningOfGroup]

end Filter

/-! ## All kinds of expressions -/

/-- An expression that compiles to one template, whatever the writer. -/
class Templated (ε : Type) [Expression ε] where
  /-- What the expression compiles to. -/
  template : Context → ε → Except ExpressionError Template
  /-- Compiling writes the template. -/
  compile_eq : ∀ (e : ε) (w : Writer), Expression.compile e w = w.write <$> template w.context e

instance : Templated Filter where
  template := Filter.template
  compile_eq := Filter.compile_eq

namespace Order

theorem customKeys_eq_ok {order : Order} {keys : List SortKey} (h : order.customKeys = .ok keys) :
    ∃ s ∈ order.ownTexts, s ≠ "" ∧ keys = [.raw s] := by
  unfold customKeys at h
  split at h
  · next s hs =>
      obtain ⟨hmem, hne⟩ := Option.filter_eq_some_iff.mp hs
      exact ⟨s, by simp [ownTexts, hmem], by simpa using hne, (Except.ok.inj h).symm⟩
  · exact absurd h (by simp)

theorem valueKeys_eq_ok {order : Order} {r : Resolver} {keys : List SortKey}
    (h : order.valueKeys r = .ok keys) : ∃ columns, r.columns order.fields = .ok columns ∧
      keys = columns.map (.position · order.values order.direction) := by
  unfold valueKeys at h
  by_cases hf : order.fields.isEmpty
  · simp [hf] at h
  · by_cases hv : order.values.isEmpty
    · simp [hf, hv] at h
    · obtain ⟨columns, hcolumns, h⟩ := bind_eq_ok.mp (by simpa [hf, hv] using h)
      exact ⟨columns, hcolumns, (Except.ok.inj h).symm⟩

theorem fieldKeys_eq_ok {order : Order} {r : Resolver} {keys : List SortKey}
    (h : order.fieldKeys r = .ok keys) : ∃ columns, r.columns order.fields = .ok columns ∧
      keys = columns.map (.column · order.direction) := by
  obtain ⟨columns, hcolumns, h⟩ := bind_eq_ok.mp h
  exact ⟨columns, hcolumns, (Except.ok.inj h).symm⟩

/-- The keys of an order come from one of its four ways, or there are none. -/
theorem keys_source {order : Order} {r : Resolver} {keys : List SortKey}
    (h : order.keys r = .ok keys) :
    keys = [] ∨ keys = [.random] ∨ order.customKeys = .ok keys ∨ order.valueKeys r = .ok keys ∨
      order.fieldKeys r = .ok keys := by
  simp only [Order.keys] at h
  repeat' split at h
  all_goals simp_all

/-- What the keys of an order are. -/
theorem keys_eq_ok {order : Order} {r : Resolver} {keys : List SortKey}
    (h : order.keys r = .ok keys) :
    keys = [] ∨ keys = [.random] ∨ (∃ s ∈ order.ownTexts, s ≠ "" ∧ keys = [.raw s]) ∨
      ∃ columns, r.columns order.fields = .ok columns ∧
        (keys = columns.map (.position · order.values order.direction) ∨
          keys = columns.map (.column · order.direction)) := by
  rcases keys_source h with h | h | h | h | h
  · exact .inl h
  · exact .inr (.inl h)
  · exact .inr (.inr (.inl (customKeys_eq_ok h)))
  · obtain ⟨columns, hcolumns, hkeys⟩ := valueKeys_eq_ok h
    exact .inr (.inr (.inr ⟨columns, hcolumns, .inl hkeys⟩))
  · obtain ⟨columns, hcolumns, hkeys⟩ := fieldKeys_eq_ok h
    exact .inr (.inr (.inr ⟨columns, hcolumns, .inr hkeys⟩))

/-- A raw key is a text of the caller's own that is not empty. -/
theorem raw_mem_keys {order : Order} {r : Resolver} {keys : List SortKey} {s : String}
    (h : order.keys r = .ok keys) (hs : .raw s ∈ keys) : s ∈ order.ownTexts ∧ s ≠ "" := by
  rcases keys_eq_ok h with rfl | rfl | ⟨u, hu, hne, rfl⟩ | ⟨columns, -, rfl | rfl⟩
  · simp at hs
  · simp at hs
  · obtain rfl : s = u := by simpa using hs
    exact ⟨hu, hne⟩
  · simp at hs
  · simp at hs

end Order

/-- What an order compiles to: its keys with commas between. -/
def Order.template (context : Context) (order : Order) : Except ExpressionError Template :=
  (fun keys => Template.joined ", " (keys.map (SortKey.template context.dialect))) <$>
    order.keys context.resolver

/-- An order compiles to the text of its keys. -/
theorem Order.compile_eq (order : Order) (w : Writer) :
    order.compile w = w.write <$> order.template w.context := by
  simp only [compile, template]
  cases order.keys w.context.resolver with
  | error e => rfl
  | ok keys =>
      simp [Writer.write_eq, Writer.writeEach_eq, Template.sql_joined, Template.values_joined]

instance : Templated Order where
  template := Order.template
  compile_eq := Order.compile_eq

instance : Templated Page where
  template context page :=
    .ok (if page.active ∧ page.limit ≠ 0 then
      .ofText (context.dialect.limit page.offset.toNat page.limit.toNat) else [])
  compile_eq page w := by
    simp only [Expression.compile, map_ok, Writer.write_eq]
    split <;> simp

instance : Templated CustomExpression where
  template _ e := .ok (if e.active then .ofText (e.condition.getD "") else [])
  compile_eq e w := by
    simp only [Expression.compile, map_ok, Writer.write_eq]
    split <;> simp

/-- The text of a template, with its values where they are bound. -/
def Template.fragment (mode : BindMode) (t : Template) : Fragment :=
  ⟨t.sql mode, mode.bound t.values⟩

theorem Template.isEmpty_fragment (mode : BindMode) (t : Template) :
    (t.fragment mode).isEmpty = t.isBlank := by
  rw [Bool.eq_iff_iff, ← Template.sql_eq_empty_iff]
  exact String.isEmpty_iff

namespace Expression

variable {ε : Type} [Expression ε] [Templated ε]

theorem render_eq (e : ε) (context : Context) (mode : BindMode) :
    render e context mode = Template.fragment mode <$> Templated.template context e := by
  simp only [render, Templated.compile_eq, Writer.start]
  cases Templated.template context e with
  | error e => rfl
  | ok t => simp [Writer.write_eq, Writer.finish, Template.fragment]

theorem sql_eq (e : ε) (context : Context) :
    sql e context = Template.sql .inline <$> Templated.template context e := by
  simp only [sql, Templated.compile_eq, Writer.start]
  cases Templated.template context e with
  | error e => rfl
  | ok t => simp [Writer.write_eq]

theorem toFragment_eq (e : ε) (context : Context) :
    toFragment e context = Template.fragment .parameterized <$> Templated.template context e :=
  render_eq e context .parameterized

end Expression

end Criteria
