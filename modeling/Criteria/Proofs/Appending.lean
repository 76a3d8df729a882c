/-
# `Criteria.Proofs.Appending` — compiling only appends to the writer

## What is proved

Whatever parameters a writer has, an expression of any of the four kinds
compiles with it as it does alone: with the same text or the same error, and
with its own parameters behind those that are there (`compile_eq_render`).
Expressions that are compiled with one writer, one after the other, therefore
leave the parameters of each alone behind one another, in the order in which
they are compiled; the first that fails alone ends the sequence
(`compileEach_eq_render`, `compile_only_appends`).

## What carries it

An expression is one written template, and neither the template nor its text
depends on what the writer has taken up.  The induction over expressions is in
that; what is left here is one induction over the sequence, for every writer,
as each expression meets the writer that those before it leave behind.

## Where it ends

The placeholders of the dialect have no numbers.  One that shows the number of
its parameter would differ between the two writers, so the text of an
expression would not be that of the expression alone.  Nothing is said about a
writer with which an expression has failed: it is not used again.
-/
import Criteria.Proofs.Writing
import Criteria.Sequence

namespace Criteria

open Outcome

/-! ## A writer with more parameters -/

/-- The writer with parameters behind its own. -/
def Writer.adding (w : Writer) (params : List Scalar) : Writer :=
  { w with params := w.params ++ params }

namespace Writer

variable {w : Writer} {a b : List Scalar} {context : Context} {mode : BindMode}

@[simp] theorem start_context : (start context mode).context = context := rfl

@[simp] theorem start_mode : (start context mode).mode = mode := rfl

@[simp] theorem adding_context : (w.adding a).context = w.context := rfl

@[simp] theorem adding_mode : (w.adding a).mode = w.mode := rfl

@[simp] theorem adding_nil : w.adding [] = w := by
  simp [adding]

@[simp] theorem adding_adding : (w.adding a).adding b = w.adding (a ++ b) := by
  simp [adding]

theorem bind_eq_adding (values : List Scalar) :
    w.bind values = w.adding (w.mode.bound values) := rfl

/-- Adding parameters is all that becomes of a writer with the same context and mode. -/
theorem adding_eq_iff {after : Writer} : w.adding a = after ↔
    after.params = w.params ++ a ∧ after.mode = w.mode ∧ after.context = w.context := by
  constructor
  · rintro rfl
    exact ⟨rfl, rfl, rfl⟩
  · obtain ⟨context, mode, params⟩ := after
    rintro ⟨rfl, rfl, rfl⟩
    rfl

end Writer

/-! ## Expressions of all kinds -/

instance : Templated AnyExpression where
  template context
    | .filter f => Templated.template context f
    | .order order => Templated.template context order
    | .page page => Templated.template context page
    | .custom e => Templated.template context e
  compile_eq e w := by
    cases e with
    | filter f => exact Templated.compile_eq f w
    | order order => exact Templated.compile_eq order w
    | page page => exact Templated.compile_eq page w
    | custom e => exact Templated.compile_eq e w

namespace Expression

variable {ε : Type} [Expression ε] [Templated ε]

/-- Compiling with a writer is rendering alone, with the parameters put behind those of the
writer. -/
theorem compile_eq_render (e : ε) (w : Writer) :
    compile e w = (fun fragment => (fragment.sql, w.adding fragment.params)) <$>
      render e w.context w.mode := by
  rw [Templated.compile_eq, render_eq]
  cases Templated.template w.context e with
  | error error => rfl
  | ok t =>
      simp only [map_ok, Writer.write_eq, Writer.bind_eq_adding]
      rfl

/-- What one expression leaves behind has the context and the mode that the next one is rendered
for, so a sequence is each of its expressions rendered alone. -/
theorem compileEach_eq_render (es : List ε) (w : Writer) :
    compileEach w es =
      (fun fragments => (fragments.map Fragment.sql,
        w.adding (fragments.flatMap Fragment.params))) <$>
        es.mapM (render · w.context w.mode) := by
  induction es generalizing w with
  | nil => simp [compileEach]
  | cons e rest ih =>
      simp only [compileEach, List.mapM_cons, compile_eq_render]
      cases render e w.context w.mode with
      | error error => rfl
      | ok fragment =>
          -- The rest meets a writer with more parameters, but with the same context and mode.
          simp only [map_ok, ok_bind, ih, Writer.adding_context, Writer.adding_mode]
          cases rest.mapM (render · w.context w.mode) with
          | error error => rfl
          | ok fragments => simp

theorem onlyAppends (e : ε) (w : Writer) : OnlyAppends e w where
  outcome := by
    simp only [compile_eq_render, Writer.start_context, Writer.start_mode]
    cases render e w.context w.mode with
    | error error => rfl
    | ok fragment => rfl
  appended text after := by
    rw [compile_eq_render, map_eq_ok]
    simp only [Prod.mk.injEq, Writer.adding_eq_iff]

theorem appendInTurn (es : List ε) (w : Writer) : AppendInTurn es w where
  failed error := by
    rw [compileEach_eq_render, ← mapM_eq_error]
    cases es.mapM (render · w.context w.mode) <;> simp
  appended texts after := by
    rw [compileEach_eq_render, map_eq_ok]
    simp only [Prod.mk.injEq, Writer.adding_eq_iff, mapM_eq_ok]

end Expression

open Expression

/-- With any writer, whatever parameters it has, an expression of each kind compiles to what it
does alone and adds its parameters behind those of the writer, and so do expressions of all kinds
in sequence. -/
theorem compile_only_appends (writer : Writer) :
    (∀ f : Filter, OnlyAppends f writer) ∧ (∀ order : Order, OnlyAppends order writer) ∧
      (∀ page : Page, OnlyAppends page writer) ∧
      (∀ e : CustomExpression, OnlyAppends e writer) ∧
      ∀ es : List AnyExpression, AppendInTurn es writer := by
  refine ⟨?_, ?_, ?_, ?_, ?_⟩
  · exact fun f => onlyAppends f writer
  · exact fun order => onlyAppends order writer
  · exact fun page => onlyAppends page writer
  · exact fun e => onlyAppends e writer
  · exact fun es => appendInTurn es writer

/-- Behind a parameter that is there already: a filter twice, with what binds nothing and an order
that binds a value for each of two columns in between; and the same with an order behind it that
fails. -/
theorem compile_only_appends_behind_parameter :
    let title : FieldName := ⟨none, ⟨"title", by decide⟩⟩
    let english : FieldName := ⟨none, ⟨"title_en", by decide⟩⟩
    let german : FieldName := ⟨none, ⟨"title_de", by decide⟩⟩
    let context : Context := ⟨.mysql, .map [(title, [english, german])] .plain⟩
    let writer : Writer := ⟨context, .parameterized, [.text "z"]⟩
    let f : Filter := .predicate true
      { fields := [title], operator := .among, comparand := some (.list [.text "a", .text "b"]) }
    let page : Page := { number := 3, size := 10 }
    let order : Order := { fields := [title], values := [.text "c"] }
    let es : List AnyExpression :=
      [.filter f, .filter (f.setActive false), .page page, .custom { condition := some "d = 1" },
        .order order, .filter f]
    let ofFilter : Fragment :=
      ⟨"(title_en IN (?,?) OR title_de IN (?,?))", [.text "a", .text "b", .text "a", .text "b"]⟩
    let ofOrder : Fragment :=
      ⟨"FIELD(title_en, ?), FIELD(title_de, ?)", [.text "c", .text "c"]⟩
    compileEach writer es =
        .ok ([ofFilter.sql, "", "LIMIT 20, 10", "d = 1", ofOrder.sql, ofFilter.sql],
          ⟨context, .parameterized,
            [.text "z"] ++ ofFilter.params ++ ofOrder.params ++ ofFilter.params⟩) ∧
      compileEach writer (es ++ [.order { mode := some .values, fields := [title] }]) =
        .error .noValues := by
  intro title english german context writer f page order es ofFilter ofOrder
  have hturn : ∀ es, AppendInTurn es writer := (compile_only_appends writer).2.2.2.2
  let fragments : List Fragment :=
    [ofFilter, ⟨"", []⟩, ⟨"LIMIT 20, 10", []⟩, ⟨"d = 1", []⟩, ofOrder, ofFilter]
  have halone : es.map (render · context .parameterized) = fragments.map .ok := by
    simp only [es, page]
    rfl
  constructor
  · exact ((hturn es).appended _ _).mpr ⟨fragments, halone, rfl, rfl, rfl, rfl⟩
  · refine ((hturn _).failed _).mpr ⟨es, _, [], rfl, ?_, rfl⟩
    intro e he
    have hmem : render e context .parameterized ∈ fragments.map .ok := by
      rw [← halone]
      exact List.mem_map_of_mem he
    obtain ⟨fragment, -, hfragment⟩ := List.mem_map.mp hmem
    exact ⟨fragment, hfragment.symm⟩

end Criteria
