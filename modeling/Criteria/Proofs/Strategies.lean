/-
# `Criteria.Proofs.Strategies` — an order sorts in one way, and by nothing else

## What is proved

For every order, every resolver and either mode:

* the rules by which an order chooses (`Order.Chooses`) choose one way to sort;
* the order fails exactly where this way does, and for the same reason
  (`Strategy.Fails`), and has else the text and the parameters of this way;
* so orders that choose the same are compiled to the same, whatever else they
  have; and where no columns are sorted by, under any two resolvers;
* the order that is described depends on the scalars among its values alone.

## Why nothing else matters

The keys of an order are found with the order at hand, so that each step could
look at all of it.  The keys of a way to sort are those of an order that has
nothing but what the way depends on (`Strategy.keys`).  They are the keys of
every order that chooses the way (`Order.keys_eq_strategy_keys`), and after that
orders do not come up again: errors, text and parameters are those of the way.

That a way is chosen at all, and no other beside it, is not seen from the rules,
of which there are eight.  Looking at mode, text, values and fields in turn finds
one (`Order.strategy`), and each rule chooses that one (`Order.chooses_iff`).
-/
import Criteria.Order.Strategy
import Criteria.Proofs.SortKeys
import Criteria.Proofs.Validity

namespace Criteria

open Outcome

/-! ## One way to sort -/

namespace Order

variable {order : Order} {s : Strategy}

theorem isSome_ownText? : order.ownText?.isSome ↔ order.HasText := by
  unfold ownText? HasText
  cases order.condition <;> simp

theorem mode_cases : order.IsOpen ∨ order.mode = some .random ∨ order.mode = some .values ∨
    order.mode = some .custom := by
  unfold IsOpen
  cases order.mode with
  | none => simp
  | some mode => cases mode <;> simp

theorem strategy_of_isOpen (hactive : order.active = true) (hopen : order.IsOpen) :
    order.strategy = order.openStrategy := by
  rcases hopen with hmode | hmode | hmode <;> simp [strategy, hactive, hmode]

theorem chooses_openStrategy (hactive : order.active = true) (hopen : order.IsOpen) :
    order.Chooses order.openStrategy := by
  unfold openStrategy
  by_cases htext : order.HasText
  · rw [if_pos (isSome_ownText?.mpr htext)]
    exact .openText hactive hopen htext
  · rw [if_neg (mt isSome_ownText?.mp htext)]
    by_cases hvalues : order.values = []
    · by_cases hfields : order.fields = []
      · simpa [hvalues, hfields] using .openNothing hactive hopen htext hvalues hfields
      · simpa [hvalues, hfields] using .openFields hactive hopen htext hvalues hfields
    · simpa [hvalues] using .openValues hactive hopen htext hvalues

theorem chooses_strategy (order : Order) : order.Chooses order.strategy := by
  cases hactive : order.active with
  | false => simpa [strategy, hactive] using .inactive hactive
  | true =>
      rcases order.mode_cases with hopen | hmode | hmode | hmode
      · rw [strategy_of_isOpen hactive hopen]
        exact chooses_openStrategy hactive hopen
      · simpa [strategy, hactive, hmode] using .random hactive hmode
      · simpa [strategy, hactive, hmode] using .values hactive hmode
      · simpa [strategy, hactive, hmode] using .custom hactive hmode

theorem strategy_eq_of_chooses (h : order.Chooses s) : order.strategy = s := by
  cases h with
  | inactive hactive => simp [strategy, hactive]
  | random hactive hmode | custom hactive hmode | values hactive hmode =>
      simp [strategy, hactive, hmode]
  | openText hactive hopen htext =>
      rw [strategy_of_isOpen hactive hopen, openStrategy, if_pos (isSome_ownText?.mpr htext)]
  | openValues hactive hopen htext hvalues =>
      rw [strategy_of_isOpen hactive hopen, openStrategy, if_neg (mt isSome_ownText?.mp htext)]
      simp [hvalues]
  | openFields hactive hopen htext hvalues hfields
  | openNothing hactive hopen htext hvalues hfields =>
      rw [strategy_of_isOpen hactive hopen, openStrategy, if_neg (mt isSome_ownText?.mp htext)]
      simp [hvalues, hfields]

/-- The rules choose one way to sort. -/
theorem chooses_iff : order.Chooses s ↔ order.strategy = s :=
  ⟨strategy_eq_of_chooses, fun h => h ▸ order.chooses_strategy⟩

end Order

/-! ## The keys of a way to sort -/

/-- The keys of an order that has nothing but what the way depends on. -/
def Strategy.keys (resolver : Resolver) : Strategy → Except ExpressionError (List SortKey)
  | nothing => .ok []
  | random => .ok [.random]
  | text condition => Order.customKeys { condition }
  | positions fields values direction =>
    Order.valueKeys { fields, values, ownDirection := direction } resolver
  | columns fields direction => Order.fieldKeys { fields, ownDirection := direction } resolver

namespace Order

variable {order : Order} {s : Strategy} {resolver : Resolver}

theorem direction_of_ownDirection {fields : List FieldName} {values : List Scalar}
    {direction : Option Direction} :
    Order.direction { fields, values, ownDirection := direction } = direction :=
  Option.or_none

theorem valueKeys_eq : order.valueKeys resolver =
    (Strategy.positions order.fields order.values order.commonDirection).keys resolver := by
  rw [Strategy.keys, valueKeys, valueKeys, direction_of_ownDirection, direction_eq]

theorem fieldKeys_eq : order.fieldKeys resolver =
    (Strategy.columns order.fields order.commonDirection).keys resolver := by
  rw [Strategy.keys, fieldKeys, fieldKeys, direction_of_ownDirection, direction_eq]

/-- An order has the keys of the way that it chooses. -/
theorem keys_eq_strategy_keys : order.keys resolver = order.strategy.keys resolver := by
  -- Where the mode leaves it open, both sides look at text, values and fields in the same sequence.
  have hopen : (if order.ownText?.isSome then order.customKeys
      else if !order.values.isEmpty then order.valueKeys resolver
      else if !order.fields.isEmpty then order.fieldKeys resolver
      else .ok []) = order.openStrategy.keys resolver := by
    simp only [openStrategy, apply_ite (Strategy.keys resolver), ← valueKeys_eq, ← fieldKeys_eq]
    rfl
  unfold keys strategy
  cases order.active with
  | false => rfl
  | true =>
      cases order.mode with
      | none => exact hopen
      | some mode =>
          cases mode with
          | asc | desc => exact hopen
          | random | custom => rfl
          | values => exact valueKeys_eq

end Order

/-! ## What is wrong with it -/

namespace Strategy

variable {s : Strategy} {resolver : Resolver} {e : ExpressionError}

theorem customKeys_eq_error {condition : Option String} :
    Order.customKeys { condition } = .error e ↔
      (∀ text, condition = some text → text = "") ∧ e = .noCondition := by
  have htext : Order.ownText? { condition } = none ↔ ∀ text, condition = some text → text = "" := by
    simp [Order.ownText?]
  rw [← htext]
  unfold Order.customKeys
  cases Order.ownText? { condition } <;> simp [eq_comm]

theorem fails_positions_iff {fields : List FieldName} {values : List Scalar}
    {direction : Option Direction} : (positions fields values direction).Fails resolver e ↔
      (fields = [] ∧ e = .noColumn) ∨ (fields ≠ [] ∧ values = [] ∧ e = .noValues) ∨
        (fields ≠ [] ∧ values ≠ [] ∧ fields.flatMap resolver.resolve = [] ∧ e = .noColumn) := by
  constructor
  · intro h
    cases h with
    | noFields => exact .inl ⟨rfl, rfl⟩
    | noValues hfields => exact .inr (.inl ⟨hfields, rfl, rfl⟩)
    | noPlaces hfields hvalues hcolumns => exact .inr (.inr ⟨hfields, hvalues, hcolumns, rfl⟩)
  · rintro (⟨rfl, rfl⟩ | ⟨hfields, rfl, rfl⟩ | ⟨hfields, hvalues, hcolumns, rfl⟩)
    · exact .noFields
    · exact .noValues hfields
    · exact .noPlaces hfields hvalues hcolumns

theorem keys_positions_eq_error {fields : List FieldName} {values : List Scalar}
    {direction : Option Direction} : (positions fields values direction).keys resolver = .error e ↔
      (positions fields values direction).Fails resolver e := by
  rw [fails_positions_iff, keys, Order.valueKeys]
  by_cases hfields : fields = []
  · simp [hfields, eq_comm (a := e)]
  · by_cases hvalues : values = []
    · simp [hfields, hvalues, eq_comm (a := e)]
    · simp [hfields, hvalues, bind_eq_error, Resolver.columns_eq_error]

theorem keys_columns_eq_error {fields : List FieldName} {direction : Option Direction} :
    (columns fields direction).keys resolver = .error e ↔
      (columns fields direction).Fails resolver e := by
  have hkeys : (columns fields direction).keys resolver = .error e ↔
      fields.flatMap resolver.resolve = [] ∧ e = .noColumn := by
    simp [keys, Order.fieldKeys, bind_eq_error, Resolver.columns_eq_error]
  rw [hkeys]
  constructor
  · rintro ⟨hcolumns, rfl⟩
    exact .noColumns hcolumns
  · intro h
    cases h with
    | noColumns hcolumns => exact ⟨hcolumns, rfl⟩

/-- The keys are missing for what is wrong with the way to sort. -/
theorem keys_eq_error : s.keys resolver = .error e ↔ s.Fails resolver e := by
  cases s with
  | nothing | random =>
      constructor <;> intro h
      · cases h
      · cases h
  | text condition =>
      rw [keys, customKeys_eq_error]
      constructor
      · rintro ⟨hempty, rfl⟩
        exact .noText hempty
      · intro h
        cases h with
        | noText hempty => exact ⟨hempty, rfl⟩
  | positions fields values direction => exact keys_positions_eq_error
  | columns fields direction => exact keys_columns_eq_error

end Strategy

/-! ## What it looks like -/

theorem SortKey.suffix_eq_ending (direction : Option Direction) :
    suffix direction = Strategy.ending direction := by
  cases direction with
  | none => rfl
  | some d => cases d <;> rfl

theorem SortKey.sql_column (dialect : Dialect) (mode : BindMode) (column : FieldName)
    (direction : Option Direction) : ((SortKey.column column direction).template dialect).sql mode =
      column.text ++ Strategy.ending direction := by
  rw [template, Template.sql_ofText, suffix_eq_ending]

theorem Strategy.sql_ofValue (mode : BindMode) (v : Scalar) :
    (Template.ofValue v).sql mode = spelled mode v := by
  cases mode <;> simp [Template.sql, spelled, Piece.chars]

theorem SortKey.sql_position (dialect : Dialect) (mode : BindMode) (column : FieldName)
    (values : List Scalar) (direction : Option Direction) :
    ((SortKey.position column values direction).template dialect).sql mode =
      "FIELD(" ++ column.text ++ ", " ++ ",".intercalate (values.map (Strategy.spelled mode)) ++
        ")" ++ Strategy.ending direction := by
  cases dialect
  simp [template, Dialect.fieldOrder, Template.sql_joined, suffix_eq_ending, Function.comp_def,
    Strategy.sql_ofValue, String.append_assoc]

theorem SortKey.values_column (dialect : Dialect) (column : FieldName)
    (direction : Option Direction) :
    ((SortKey.column column direction).template dialect).values = [] :=
  Template.values_ofText

namespace Strategy

variable {s : Strategy} {resolver : Resolver} {keys : List SortKey}

/-- The keys have the text and the values of the way to sort. -/
theorem fragment_joined (dialect : Dialect) (mode : BindMode) (h : s.keys resolver = .ok keys) :
    (Template.joined ", " (keys.map (SortKey.template dialect))).fragment mode =
      ⟨s.sql resolver mode, s.params resolver mode⟩ := by
  rw [Template.fragment, Template.sql_joined, Template.values_joined, List.map_map,
    List.flatMap_map, Fragment.mk.injEq]
  cases s with
  | nothing =>
      obtain rfl := Except.ok.inj h
      cases mode <;> exact ⟨rfl, rfl⟩
  | random =>
      obtain rfl := Except.ok.inj h
      cases dialect
      cases mode <;> exact ⟨rfl, rfl⟩
  | text condition =>
      obtain ⟨text, htext, -, rfl⟩ := Order.customKeys_eq_ok h
      obtain rfl : condition = some text := by simpa [Order.ownTexts] using htext
      simp [SortKey.template, sql, params]
  | positions fields values direction =>
      -- Every key has all values, and so they are bound once for each column.
      obtain ⟨columns, hcolumns, rfl⟩ := Order.valueKeys_eq_ok h
      obtain ⟨rfl, -⟩ := Resolver.columns_eq_ok.mp hcolumns
      simp only [List.map_map, List.flatMap_map, Function.comp_def, SortKey.sql_position,
        Order.direction_of_ownDirection, SortKey.values_position]
      refine ⟨rfl, ?_⟩
      cases mode <;> rfl
  | columns fields direction =>
      obtain ⟨columns, hcolumns, rfl⟩ := Order.fieldKeys_eq_ok h
      obtain ⟨rfl, -⟩ := Resolver.columns_eq_ok.mp hcolumns
      simp only [List.map_map, List.flatMap_map, Function.comp_def, SortKey.sql_column,
        Order.direction_of_ownDirection, SortKey.values_column]
      refine ⟨rfl, ?_⟩
      cases mode <;> simp [params]

end Strategy

/-! ## Orders that are described -/

/-- Values that are no scalars do not count. -/
theorem Scalar.listOfJson_filter (values : List Json) :
    listOfJson (values.filter Json.isScalar) = listOfJson values := by
  rw [listOfJson, List.filterMap_filter]
  refine List.filterMap_congr fun v _ => ?_
  rw [← isSome_ofJson?]
  cases ofJson? v <;> rfl

theorem OrderInput.toOrder_congr (input : OrderInput) {values : List Json}
    (h : values.filter Json.isScalar = input.values.filter Json.isScalar) :
    toOrder { input with values } = input.toOrder := by
  have hvalues : Scalar.listOfJson values = Scalar.listOfJson input.values := by
    rw [← Scalar.listOfJson_filter values, h, Scalar.listOfJson_filter]
  simp only [toOrder, hvalues]

namespace Order

variable {order : Order} {s : Strategy}

theorem render_eq_of_chooses (h : order.Chooses s) (context : Context) (mode : BindMode) :
    Expression.render order context mode =
      (fun keys => (Template.joined ", " (keys.map (SortKey.template context.dialect))).fragment
        mode) <$> s.keys context.resolver := by
  obtain rfl := chooses_iff.mp h
  rw [Expression.render_eq, ← keys_eq_strategy_keys]
  exact Functor.map_map _ _ _

theorem render_eq_error (h : order.Chooses s) (context : Context) (mode : BindMode)
    (e : ExpressionError) :
    Expression.render order context mode = .error e ↔ s.Fails context.resolver e := by
  rw [render_eq_of_chooses h, ← Strategy.keys_eq_error]
  cases s.keys context.resolver <;> simp

theorem render_eq_ok (h : order.Chooses s) (context : Context) (mode : BindMode)
    (hfails : ∀ e, ¬s.Fails context.resolver e) : Expression.render order context mode =
      .ok ⟨s.sql context.resolver mode, s.params context.resolver mode⟩ := by
  rw [render_eq_of_chooses h]
  cases hkeys : s.keys context.resolver with
  | error e => exact absurd (Strategy.keys_eq_error.mp hkeys) (hfails e)
  | ok keys => rw [map_ok, Strategy.fragment_joined context.dialect mode hkeys]

/-- Orders that choose the same are compiled alike, under any resolver where no columns are used. -/
theorem render_congr {a b : Order} (ha : a.Chooses s) (hb : b.Chooses s) (context : Context)
    (mode : BindMode) {resolver : Resolver} (h : s.UsesColumns → resolver = context.resolver) :
    Expression.render b { context with resolver } mode = Expression.render a context mode := by
  have hkeys : s.keys resolver = s.keys context.resolver := by
    cases s with
    | nothing | random | text condition => rfl
    | positions | columns => rw [h trivial]
  rw [render_eq_of_chooses ha, render_eq_of_chooses hb, hkeys]

/-- An order chooses one way to sort by the rules, fails where this way does, and has else its text
and its parameters; what the order has besides does not matter, nor does the resolver where there
are no columns.  Of the values that are described for an order, those that are no scalars do not
matter. -/
theorem sorts_one_way (context : Context) (mode : BindMode) :
    (∀ order : Order, ∃! s, order.Chooses s) ∧
      (∀ (order : Order) (s : Strategy), order.Chooses s →
        (∀ e, Expression.render order context mode = .error e ↔ s.Fails context.resolver e) ∧
        ((∀ e, ¬s.Fails context.resolver e) → Expression.render order context mode =
          .ok ⟨s.sql context.resolver mode, s.params context.resolver mode⟩)) ∧
      (∀ (a b : Order) (s : Strategy), a.Chooses s → b.Chooses s → ∀ resolver : Resolver,
        (s.UsesColumns → resolver = context.resolver) →
          Expression.render b { context with resolver } mode =
            Expression.render a context mode) ∧
      ∀ (input : OrderInput) (values : List Json),
        values.filter Json.isScalar = input.values.filter Json.isScalar →
          OrderInput.toOrder { input with values } = input.toOrder := by
  refine ⟨fun order => ?_, fun order s h => ?_, fun a b s ha hb resolver h => ?_,
    fun input values h => input.toOrder_congr h⟩
  · exact ⟨order.strategy, chooses_iff.mpr rfl, fun s h => (chooses_iff.mp h).symm⟩
  · exact ⟨render_eq_error h context mode, render_eq_ok h context mode⟩
  · exact render_congr ha hb context mode h

/-- The mode of two orders is a direction or missing.  Without a text they sort by values, where it
does not matter which of mode and direction is descending; with one they sort by it, and fields,
values and resolver do not matter. -/
theorem sorts_one_way_with_open_mode :
    let title : FieldName := ⟨none, ⟨"title", by decide⟩⟩
    let english : FieldName := ⟨none, ⟨"title_en", by decide⟩⟩
    let german : FieldName := ⟨none, ⟨"title_de", by decide⟩⟩
    let context : Context := ⟨.mysql, .map [(title, [english, german])] .plain⟩
    let values : List Scalar := [.text "b", .bool true]
    let a : Order := { condition := some "", fields := [title], values, ownDirection := some .desc }
    let b : Order := { mode := some .desc, fields := [title], values }
    let byValues : Fragment :=
      ⟨"FIELD(title_en, ?,?) DESC, FIELD(title_de, ?,?) DESC",
        [.text "b", .bool true, .text "b", .bool true]⟩
    let c : Order := { a with condition := some "price" }
    let d : Order := .custom "price"
    let input : OrderInput :=
      { property := some (.one "title"), values := [.string "b", .null, .bool true, .list []] }
    Expression.render a context .parameterized = .ok byValues ∧
      Expression.render b context .parameterized = .ok byValues ∧
      Expression.render c context .parameterized = .ok ⟨"price", []⟩ ∧
      Expression.render d { context with resolver := .plain } .parameterized =
        .ok ⟨"price", []⟩ ∧
      OrderInput.toOrder { input with values := [.string "b", .bool true] } = input.toOrder := by
  intro title english german context values a b byValues c d input
  obtain ⟨-, hrender, hsame, hvalues⟩ := sorts_one_way context .parameterized
  let s : Strategy := .positions [title] values (some .desc)
  have ha : a.Chooses s := .openValues rfl (.inl rfl) (by simp [HasText, a]) (by simp [a, values])
  have hb : b.Chooses s :=
    .openValues rfl (.inr (.inr rfl)) (by simp [HasText, b]) (by simp [b, values])
  have hc : c.Chooses (.text (some "price")) :=
    .openText rfl (.inl rfl) ⟨"price", rfl, by decide⟩
  have hd : d.Chooses (.text (some "price")) := .custom rfl rfl
  have hvalid : ∀ e, ¬s.Fails context.resolver e := by
    intro e h
    rcases Strategy.fails_positions_iff.mp h with ⟨h, -⟩ | ⟨-, h, -⟩ | ⟨-, -, h, -⟩
    · exact absurd h (List.cons_ne_nil _ _)
    · exact absurd h (List.cons_ne_nil _ _)
    · exact absurd h (List.cons_ne_nil _ _)
  have htext : ∀ e, ¬(Strategy.text (some "price")).Fails context.resolver e := by
    intro e h
    cases h with
    | noText hempty => exact absurd (hempty "price" rfl) (by decide)
  have hrendered : Expression.render a context .parameterized = .ok byValues :=
    (hrender a s ha).2 hvalid
  have hverbatim : Expression.render c context .parameterized = .ok ⟨"price", []⟩ :=
    (hrender c _ hc).2 htext
  refine ⟨hrendered, ?_, hverbatim, ?_, ?_⟩
  · exact (hsame a b s ha hb _ fun _ => rfl).trans hrendered
  · exact (hsame c d _ hc hd .plain fun h => h.elim).trans hverbatim
  · exact hvalues input _ rfl

end Order

end Criteria
