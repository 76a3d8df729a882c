/-
From fields to columns.

The field that a caller names need not be a column.  A resolver gives the
columns of a field: the field itself, the field with a table alias in front
when it has none, or the columns that a map lists for it.
-/
import Criteria.Error

namespace Criteria

/-- What turns fields into columns. -/
inductive Resolver where
  | plain
  | qualifying (table : Identifier)
  | map (entries : List (FieldName × List FieldName)) (fallback : Resolver)

namespace Resolver

/-- The columns of a field.  Of a map the first entry for the field counts. -/
def resolve : Resolver → FieldName → List FieldName
  | plain, field => [field]
  | qualifying table, field => if field.isQualified then [field] else [⟨some table, field.name⟩]
  | map entries fallback, field =>
    match entries.lookup field with
    | some columns => columns
    | none => fallback.resolve field

/-- The resolver that puts an alias in front; the alias is one identifier. -/
def ofAlias (text : String) : Except NameError Resolver := do
  let field ← FieldName.ofText text
  if field.isQualified then throw (.tooManySegments text)
  return .qualifying field.name

/-- A map without entries in front of another resolver. -/
def mapBefore (fallback : Resolver) : Resolver :=
  .map [] fallback

/-- Lists the columns of a field, in place of those it had; a resolver without a map gets one. -/
def insert (resolver : Resolver) (field : FieldName) (columns : List FieldName) : Resolver :=
  match resolver with
  | .map entries fallback => .map ((field, columns) :: entries) fallback
  | other => .map [(field, columns)] other

/-- Lists the columns of a field, all of them given as texts. -/
def insertTexts (resolver : Resolver) (field : String) (columns : List String) :
    Except NameError Resolver := do
  let field ← FieldName.ofText field
  let columns ← columns.mapM FieldName.ofText
  return resolver.insert field columns

/-- The columns of all fields, of which there must be one. -/
def columns (resolver : Resolver) (fields : List FieldName) :
    Except ExpressionError (List FieldName) :=
  match fields.flatMap resolver.resolve with
  | [] => .error .noColumn
  | columns => .ok columns

theorem columns_eq_ok {resolver : Resolver} {fields columns : List FieldName} :
    resolver.columns fields = .ok columns ↔
      fields.flatMap resolver.resolve = columns ∧ columns ≠ [] := by
  unfold Resolver.columns
  cases fields.flatMap resolver.resolve with
  | nil => simp
  | cons column rest =>
      constructor
      · intro h
        obtain rfl := Except.ok.inj h
        exact ⟨rfl, by simp⟩
      · rintro ⟨rfl, -⟩
        rfl

theorem columns_eq_error {resolver : Resolver} {fields : List FieldName} {e : ExpressionError} :
    resolver.columns fields = .error e ↔ fields.flatMap resolver.resolve = [] ∧ e = .noColumn := by
  unfold Resolver.columns
  cases fields.flatMap resolver.resolve with
  | nil => simp [eq_comm]
  | cons column rest => simp

end Resolver

end Criteria
