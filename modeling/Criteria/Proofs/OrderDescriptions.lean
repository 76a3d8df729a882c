/-
# `Criteria.Proofs.OrderDescriptions` — an order is the one that is described

## What is proved

Reading the description of an order ends in an order exactly when the order is
the one that is described (`OrderInput.toOrder_eq_ok`).  So a description has
one order at most, and whatever is known of an order that was read is known from
the texts and values of its description.

## What carries it

`OrderInput.Describes` has a field for each part of an order, and each of them
is one lemma here or elsewhere: a token is read as what it spells
(`Vocabulary.IsTable.token_eq_ok_iff_says`), a name as the field that has it
(`FieldName.ofText_eq_ok`), and of a list the scalars are kept, one by one, each
as the value that it is in the document (`Scalar.listOfJson_eq_iff`).
-/
import Criteria.Order.Description
import Criteria.Order.OfInput
import Criteria.Proofs.Integers
import Criteria.Proofs.Names
import Criteria.Proofs.Vocabularies

namespace Criteria

open Outcome

namespace Input

/-- A name is read as the field that has it, but for the blanks around it. -/
theorem field_eq_ok {name : String} {field : FieldName} :
    (FieldName.ofText (Text.trim name)).mapError ExpressionError.badField = .ok field ↔
      field.text = Text.trim name := by
  rw [← FieldName.ofText_eq_ok]
  cases FieldName.ofText (Text.trim name) <;> simp

/-- Names are read as the fields that have them, one by one. -/
theorem fields_eq_ok {given : Option (OneOrMany String)} {fields : List FieldName} :
    Input.fields given = .ok fields ↔ ∃ names, OneOrMany.Lists given names ∧
      fields.map FieldName.text = names.map Text.trim := by
  simp only [OneOrMany.lists_iff, exists_eq_left', Input.fields, mapM_eq_ok]
  constructor
  · intro h
    refine (map_eq_map_of_map_eq_map h ?_).symm
    exact fun name _ field _ hfield => (field_eq_ok.mp hfield).symm
  · intro h
    refine map_eq_map_of_map_eq_map h.symm ?_
    exact fun name _ field _ hfield => field_eq_ok.mpr hfield.symm

end Input

namespace Scalar

/-- A scalar that is read from a JSON value has this value. -/
theorem toJson_of_ofJson? {json : Json} {s : Scalar} (h : ofJson? json = some s) :
    s.toJson = json := by
  cases json with
  | null | list | object => cases h
  | bool | float | string =>
      obtain rfl := Option.some.inj h
      rfl
  | integer n =>
      obtain rfl := Option.some.inj h
      obtain ⟨value, hleast, hgreatest⟩ := n
      rcases exists_word ⟨value, hleast, hgreatest⟩ with ⟨-, i, hi⟩ | ⟨hlarge, u, hu⟩
      · obtain rfl : i.toInt = value := hi
        rw [ofWideInt_eq_integer i rfl]
        rfl
      · obtain rfl : (u.toNat : Int) = value := hu
        have hlarge : 9223372036854775807 < u.toNat := Int.ofNat_lt.mp hlarge
        rw [ofWideInt_eq_unsigned u rfl hlarge]
        rfl

theorem ofJson?_eq_some_iff {json : Json} {s : Scalar} :
    ofJson? json = some s ↔ s.IsJson ∧ s.toJson = json := by
  constructor
  · intro h
    exact ⟨isJson_of_ofJson? h, toJson_of_ofJson? h⟩
  · rintro ⟨hjson, rfl⟩
    exact ofJson?_toJson hjson

/-- The scalars of a list are those of its members that have one, one by one. -/
theorem listOfJson_eq_iff {values : List Json} {scalars : List Scalar} :
    listOfJson values = scalars ↔
      List.Forall₂ (fun json s => s.IsJson ∧ s.toJson = json) (values.filter Json.isScalar)
        scalars := by
  simp only [← ofJson?_eq_some_iff]
  constructor
  · rintro rfl
    exact listOfJson_forall₂ values
  · intro h
    refine Relator.RightUnique.forall₂ ?_ (listOfJson_forall₂ values) h
    intro json s t hs ht
    exact Option.some.inj (hs.symm.trans ht)

end Scalar

namespace OrderInput

variable {input : OrderInput} {order : Order}

theorem active_eq_iff {given : Option Bool} {active : Bool} :
    given.getD true = active ↔ (active = false ↔ given = some false) := by
  cases given with
  | none => cases active <;> simp
  | some value => cases value <;> cases active <;> simp

/-- A description is read as an order exactly when it describes the order. -/
theorem toOrder_eq_ok : input.toOrder = .ok order ↔ input.Describes order := by
  constructor
  · intro h
    obtain ⟨mode, hmode, h⟩ := bind_eq_ok.mp h
    obtain ⟨direction, hdirection, h⟩ := bind_eq_ok.mp h
    obtain ⟨fields, hfields, h⟩ := bind_eq_ok.mp h
    obtain rfl := Except.ok.inj h
    exact {
      active := active_eq_iff.mp rfl
      mode := Vocabulary.isTable_mode.token_eq_ok_iff_says.mp hmode
      condition := rfl
      fields := Input.fields_eq_ok.mp hfields
      values := Scalar.listOfJson_eq_iff.mp rfl
      direction := Vocabulary.isTable_direction.token_eq_ok_iff_says.mp hdirection }
  · intro h
    obtain ⟨active, mode, condition, fields, values, direction⟩ := order
    have hmode : Input.token OrderMode.ofToken? .unknownMode input.mode = .ok mode :=
      Vocabulary.isTable_mode.token_eq_ok_iff_says.mpr h.mode
    have hdirection :
        Input.token Direction.ofToken? .unknownDirection input.direction = .ok direction :=
      Vocabulary.isTable_direction.token_eq_ok_iff_says.mpr h.direction
    have hfields : Input.fields input.property = .ok fields := Input.fields_eq_ok.mpr h.fields
    have hvalues : Scalar.listOfJson input.values = values :=
      Scalar.listOfJson_eq_iff.mpr h.values
    have hcondition : condition = input.condition := h.condition
    have hactive : input.active.getD true = active := active_eq_iff.mpr h.active
    rw [toOrder, hmode, ok_bind, hdirection, ok_bind, hfields, ok_bind, hvalues, hcondition,
      hactive]
    rfl

/-- Descriptions that are read as orders describe them, one by one. -/
theorem forall₂_describes {inputs : List OrderInput} {orders : List Order}
    (h : inputs.map toOrder = orders.map .ok) : List.Forall₂ Describes inputs orders := by
  have hequal : List.Forall₂ Eq (inputs.map toOrder) (orders.map Except.ok) := by
    rw [h, List.forall₂_eq_eq_eq]
  have hread : List.Forall₂ (fun input order => toOrder input = .ok order) inputs orders :=
    List.forall₂_map_right_iff.mp (List.forall₂_map_left_iff.mp hequal)
  exact hread.imp fun _ _ => toOrder_eq_ok.mp

end OrderInput

end Criteria
