/-
# `Criteria.Proofs.Validity` — which descriptions of filters are refused

## What is proved

For every description and every limit of levels:

* a filter is made of it exactly when each of its nodes breaks no rule, where a
  node is looked at by itself and with its level (`FilterInput.IsValidAt`);
* otherwise the error is the first of those that its nodes break, the nodes
  taken in the order in which they are written, each before those nested in it,
  and the rules of a node in their own order (`FilterInput.violations`);
* the filter does not depend on the limit, nor on what is hidden in the
  description (`FilterInput.visible`).

## How the checks and the choices come apart

The reader checks a node, chooses what it is, and goes on to the filters in it
all at once.  What it reports is found without the choice
(`Outcome.Reports`): a sequence of steps reports what the first reports, and
then what the second does, so the errors of the steps are put one behind the
other, and the recursion over the description is the list of its nodes
(`FilterInput.reports_toFilterAt`).  The one place where a choice decides what
is checked is a node without filters, of which the value counts only when
fields are compared.
-/
import Criteria.Filter.Rules
import Criteria.Proofs.Query

namespace Criteria

open Outcome

/-! ## What each step reports -/

theorem Scalar.isSome_ofJson? (v : Json) : (ofJson? v).isSome = v.isScalar := by
  cases v <;> rfl

namespace FilterInput

theorem reports_token {α : Type} (find? : String → Option α) (error : String → ExpressionError)
    (token : Option String) :
    Reports (Input.token find? error token) (tokenErrors find? error token) := by
  cases token with
  | none => exact reports_ok
  | some text =>
      by_cases hempty : (Text.trim text).isEmpty
      · simpa [Input.token, tokenErrors, hempty] using reports_ok
      · cases hfind : find? (Text.trim text) with
        | none =>
            simpa [Input.token, Vocabulary.read, tokenErrors, hempty, hfind] using reports_error
        | some meaning =>
            simpa [Input.token, Vocabulary.read, tokenErrors, hempty, hfind] using reports_ok

theorem reports_fields (property : Option (OneOrMany String)) :
    Reports (Input.fields property) ((names property).flatMap nameErrors) := by
  refine reports_mapM ?_
  intro name _
  unfold nameErrors
  cases FieldName.ofText (Text.trim name) with
  | error e => exact reports_error
  | ok field => exact reports_ok

theorem reports_heading (node : FilterInput) :
    Reports (Heading.ofInput node.operator node.func node.operand node.property)
      node.headingErrors := by
  refine (reports_token _ _ _).bind ?_
  intro operator _
  refine (reports_token _ _ _).bind ?_
  intro function _
  refine (reports_token _ _ _).bind ?_
  intro conjunction _
  exact (reports_fields node.property).map

theorem reports_scalar (value : Json) : Reports (scalar value) (scalarErrors value) := by
  have hscalar := Scalar.isSome_ofJson? value
  unfold scalar scalarErrors
  rw [← hscalar]
  cases Scalar.ofJson? value with
  | none => exact reports_error
  | some s => exact reports_ok

theorem comparand_of_single {v : Json} (hnull : v ≠ .null) (hlist : ∀ items, v ≠ .list items) :
    comparand (some v) = (fun s => some (.single s)) <$> scalar v ∧ compared (some v) = [v] := by
  cases v with
  | null => exact absurd rfl hnull
  | list items => exact absurd rfl (hlist items)
  | bool | integer | float | string | object => exact ⟨rfl, rfl⟩

theorem reports_comparand (value : Option Json) :
    Reports (comparand value) ((compared value).flatMap scalarErrors) := by
  cases value with
  | none => exact reports_ok
  | some v =>
      by_cases hnull : v = .null
      · rw [hnull]
        exact reports_ok
      · by_cases hlist : ∃ items, v = .list items
        · obtain ⟨items, rfl⟩ := hlist
          have hitems : Reports (items.mapM scalar) (items.flatMap scalarErrors) :=
            reports_mapM fun item _ => reports_scalar item
          exact hitems.map
        · obtain ⟨hread, hcompared⟩ :=
            comparand_of_single hnull fun items h => hlist ⟨items, h⟩
          rw [hread, hcompared, List.flatMap_singleton]
          exact (reports_scalar v).map

/-! ## What a node reports -/

/-- The heading negates where the token means NOT, and has fields where names are given. -/
theorem heading_of_ofInput {operator func operand : Option String}
    {property : Option (OneOrMany String)} {heading : Heading}
    (h : Heading.ofInput operator func operand property = .ok heading) :
    heading.negated = operator.any isNegation ∧ (heading.fields = [] ↔ names property = []) := by
  obtain ⟨op, hop, h⟩ := bind_eq_ok.mp h
  obtain ⟨function, -, h⟩ := bind_eq_ok.mp h
  obtain ⟨conjunction, -, h⟩ := bind_eq_ok.mp h
  obtain ⟨fields, hfields, h⟩ := bind_eq_ok.mp h
  obtain rfl := Except.ok.inj h
  constructor
  · show op.any Operator.isNegating = operator.any isNegation
    cases operator with
    | none =>
        obtain rfl := Except.ok.inj hop
        rfl
    | some text =>
        by_cases hempty : (Text.trim text).isEmpty
        · have hblank : Text.trim text = "" := String.isEmpty_iff.mp hempty
          have hnone : Operator.ofToken? "" = none := by decide
          obtain rfl : op = none := by simpa [Input.token, hempty] using hop.symm
          simp [isNegation, hblank, hnone]
        · cases hfind : Operator.ofToken? (Text.trim text) with
          | none => simp [Input.token, Vocabulary.read, hempty, hfind] at hop
          | some meaning =>
              obtain rfl : op = some meaning := by
                simpa [Input.token, Vocabulary.read, hempty, hfind] using hop.symm
              simp [isNegation, hfind, Operator.isNegating]
  · show fields = [] ↔ names property = []
    have hlength := congrArg List.length (mapM_eq_ok.mp hfields)
    rw [List.length_map, List.length_map] at hlength
    rw [← List.length_eq_zero_iff, ← hlength, List.length_eq_zero_iff]
    rfl

/-- Of a node without filters the rest is looked at. -/
theorem reports_leaf {node : FilterInput} (hfilters : node.filters = []) {heading : Heading}
    (h : Heading.ofInput node.operator node.func node.operand node.property = .ok heading)
    (active : Bool) :
    Reports (heading.leaf active (node.condition.getD "") node.value) node.comparisonErrors := by
  obtain ⟨hnegated, hnames⟩ := heading_of_ofInput h
  unfold Heading.leaf comparisonErrors
  by_cases hcondition : node.condition.getD "" = ""
  · by_cases hfields : heading.fields = []
    · have hleaf : ¬node.IsLeaf := fun h => h.2.2 (hnames.mp hfields)
      simpa [hcondition, hfields, hleaf] using reports_ok
    · have hleaf : node.IsLeaf := ⟨hfilters, hcondition, fun h => hfields (hnames.mpr h)⟩
      have hvalue : Reports
          (comparand node.value >>= fun comparand => Except.ok (Filter.predicate active
            { fields := heading.fields, operator := heading.operator.getD .eq,
              function := heading.function, comparand }))
          ((compared node.value).flatMap scalarErrors) := (reports_comparand node.value).map
      cases hnot : node.operator.any isNegation with
      | true => simpa [hcondition, hfields, hleaf, hnegated, hnot] using reports_error
      | false => simpa [hcondition, hfields, hleaf, hnegated, hnot] using hvalue
  · have hleaf : ¬node.IsLeaf := fun h => hcondition h.2.1
    simpa [hcondition, hleaf] using reports_ok

mutual

/-- A description is refused for the first thing that one of its nodes breaks. -/
theorem reports_toFilterAt (maxDepth : Nat) : ∀ (input : FilterInput) (level : Nat),
    Reports (input.toFilterAt maxDepth level)
      ((input.nodes level).flatMap fun node => node.2.violations maxDepth node.1)
  | ⟨active, condition, filters, property, value, operator, func, operand⟩, level => by
      rw [toFilterAt_eq, nodes, List.flatMap_cons, violations]
      by_cases hlevel : maxDepth < level
      · simpa [hlevel] using reports_error
      · rw [if_neg hlevel, if_neg hlevel, List.nil_append, List.append_assoc]
        refine (reports_heading ⟨active, condition, filters, property, value, operator, func,
          operand⟩).bind ?_
        intro heading hheading
        -- A node compares or has nodes below it, never both: one of the two lists is empty.
        cases filters with
        | nil =>
            have hleaf := reports_leaf rfl hheading (active.getD true)
            simpa [nodesOf] using hleaf
        | cons entry rest =>
            have hmembers := reports_entriesToFilters maxDepth (entry :: rest) level
            have hleaf : ¬IsLeaf ⟨active, condition, entry :: rest, property, value, operator, func,
                operand⟩ := fun h => absurd h.1 (List.cons_ne_nil _ _)
            rw [comparisonErrors, if_neg hleaf]
            exact hmembers.map

theorem reports_entriesToFilters (maxDepth : Nat) :
    ∀ (entries : List (FilterEntry FilterInput)) (level : Nat),
      Reports (entriesToFilters maxDepth level entries)
        ((nodesOf (level + 1) entries).flatMap fun node => node.2.violations maxDepth node.1)
  | [], _ => reports_ok
  | entry :: rest, level => by
      rw [nodesOf, List.flatMap_append]
      refine (reports_entryToFilter maxDepth entry level).bind ?_
      intro first _
      exact (reports_entriesToFilters maxDepth rest level).map

theorem reports_entryToFilter (maxDepth : Nat) :
    ∀ (entry : FilterEntry FilterInput) (level : Nat),
      Reports (entryToFilter maxDepth level entry)
        ((nodesOfEntry (level + 1) entry).flatMap fun node => node.2.violations maxDepth node.1)
  | .nested input, level => reports_toFilterAt maxDepth input (level + 1)
  | .fragment _, _ => reports_ok

end

/-! ## Nodes without violations -/

theorem tokenErrors_eq_nil {α : Type} {find? : String → Option α}
    {error : String → ExpressionError} {token : Option String} :
    tokenErrors find? error token = [] ↔ IsKnown find? token := by
  cases token with
  | none => simp [tokenErrors, IsKnown]
  | some text =>
      cases hfind : find? (Text.trim text) <;> simp [tokenErrors, IsKnown, hfind]

theorem nameErrors_eq_nil {name : String} :
    nameErrors name = [] ↔ ∃ field, FieldName.ofText (Text.trim name) = .ok field := by
  unfold nameErrors
  cases FieldName.ofText (Text.trim name) <;> simp

theorem scalarErrors_eq_nil {value : Json} : scalarErrors value = [] ↔ value.isScalar := by
  cases hscalar : value.isScalar <;> simp [scalarErrors, hscalar]

theorem headingErrors_eq_nil {node : FilterInput} : node.headingErrors = [] ↔
    IsKnown Operator.ofToken? node.operator ∧ IsKnown Function.ofToken? node.func ∧
      IsKnown Conjunction.ofToken? node.operand ∧
        ∀ name ∈ names node.property, ∃ field, FieldName.ofText (Text.trim name) = .ok field := by
  simp only [headingErrors, List.append_eq_nil_iff, List.flatMap_eq_nil_iff, tokenErrors_eq_nil,
    nameErrors_eq_nil]

theorem comparisonErrors_eq_nil {node : FilterInput} : node.comparisonErrors = [] ↔
    (node.IsLeaf → (∀ token ∈ node.operator, ¬isNegation token) ∧
      ∀ value ∈ compared node.value, value.isScalar) := by
  unfold comparisonErrors
  by_cases hleaf : node.IsLeaf
  · have hnegation : (if node.operator.any isNegation then [ExpressionError.ambiguousNegation]
        else []) = [] ↔ ∀ token ∈ node.operator, ¬isNegation token := by
      cases node.operator <;> simp
    rw [if_pos hleaf, List.append_eq_nil_iff, List.flatMap_eq_nil_iff, hnegation]
    simp only [scalarErrors_eq_nil, hleaf, forall_const]
  · simp [hleaf]

/-- A node breaks nothing exactly when it has what each of its rules asks for. -/
theorem violations_eq_nil {maxDepth level : Nat} {node : FilterInput} :
    node.violations maxDepth level = [] ↔ node.IsValidAt maxDepth level := by
  have hlevel : (if maxDepth < level then [ExpressionError.tooDeep maxDepth] else []) = [] ↔
      level ≤ maxDepth := by
    by_cases h : maxDepth < level
    · simp [h]
    · simp [h, Nat.le_of_not_lt h]
  rw [violations, List.append_eq_nil_iff, List.append_eq_nil_iff, hlevel, headingErrors_eq_nil,
    comparisonErrors_eq_nil]
  constructor
  · rintro ⟨hlevel, ⟨hoperator, hfunction, hconjunction, hfields⟩, hcomparison⟩
    exact ⟨hlevel, hoperator, hfunction, hconjunction, hfields, hcomparison⟩
  · rintro ⟨hlevel, hoperator, hfunction, hconjunction, hfields, hcomparison⟩
    exact ⟨hlevel, ⟨hoperator, hfunction, hconjunction, hfields⟩, hcomparison⟩

/-! ## The nodes are what is reached -/

mutual

theorem reaches_of_mem_nodes {root : FilterInput} : ∀ (input : FilterInput) (level : Nat),
    Reaches root level input → ∀ node ∈ input.nodes level, Reaches root node.1 node.2
  | ⟨active, condition, filters, property, value, operator, func, operand⟩, level, h => by
      intro node hnode
      rcases List.mem_cons.mp hnode with rfl | hnode
      · exact h
      · exact reaches_of_mem_nodesOf filters (level + 1) (fun inner hinner => h.nested hinner) node
          hnode

theorem reaches_of_mem_nodesOf {root : FilterInput} :
    ∀ (entries : List (FilterEntry FilterInput)) (level : Nat),
      (∀ inner, .nested inner ∈ entries → Reaches root level inner) →
        ∀ node ∈ nodesOf level entries, Reaches root node.1 node.2
  | [], _, _ => by
      intro node hnode
      exact absurd hnode List.not_mem_nil
  | entry :: rest, level, h => by
      intro node hnode
      rcases List.mem_append.mp hnode with hnode | hnode
      · exact reaches_of_mem_nodesOfEntry entry level
          (fun inner hinner => h inner (hinner ▸ List.mem_cons_self)) node hnode
      · exact reaches_of_mem_nodesOf rest level
          (fun inner hinner => h inner (List.mem_cons_of_mem _ hinner)) node hnode

theorem reaches_of_mem_nodesOfEntry {root : FilterInput} :
    ∀ (entry : FilterEntry FilterInput) (level : Nat),
      (∀ inner, .nested inner = entry → Reaches root level inner) →
        ∀ node ∈ nodesOfEntry level entry, Reaches root node.1 node.2
  | .nested input, level, h => reaches_of_mem_nodes input level (h input rfl)
  | .fragment _, _, _ => by
      intro node hnode
      exact absurd hnode List.not_mem_nil

end

/-- The nodes of what is nested in a filter are among the nodes of all filters. -/
theorem mem_nodesOf {level : Nat} {inner : FilterInput}
    {entries : List (FilterEntry FilterInput)} (h : .nested inner ∈ entries) :
    ∀ node ∈ inner.nodes level, node ∈ nodesOf level entries := by
  intro node hnode
  induction entries with
  | nil => exact absurd h List.not_mem_nil
  | cons entry rest ih =>
      rcases List.mem_cons.mp h with rfl | h
      · exact List.mem_append_left _ hnode
      · exact List.mem_append_right _ (ih h)

theorem self_mem_nodes (input : FilterInput) (level : Nat) :
    (level, input) ∈ input.nodes level := by
  obtain ⟨active, condition, filters, property, value, operator, func, operand⟩ := input
  exact List.mem_cons_self

mutual

/-- With a node the nodes have what is nested in it, one level below. -/
theorem nested_mem_nodes {level : Nat} {node inner : FilterInput}
    (hinner : .nested inner ∈ node.filters) : ∀ (input : FilterInput) (base : Nat),
      (level, node) ∈ input.nodes base → (level + 1, inner) ∈ input.nodes base
  | ⟨active, condition, filters, property, value, operator, func, operand⟩, base, h => by
      rcases List.mem_cons.mp h with h | h
      · obtain ⟨rfl, rfl⟩ := Prod.mk.inj h
        exact List.mem_cons_of_mem _ (mem_nodesOf hinner _ (self_mem_nodes inner _))
      · exact List.mem_cons_of_mem _ (nested_mem_nodesOf hinner filters (base + 1) h)

theorem nested_mem_nodesOf {level : Nat} {node inner : FilterInput}
    (hinner : .nested inner ∈ node.filters) :
    ∀ (entries : List (FilterEntry FilterInput)) (base : Nat),
      (level, node) ∈ nodesOf base entries → (level + 1, inner) ∈ nodesOf base entries
  | [], _, h => absurd h List.not_mem_nil
  | entry :: rest, base, h => by
      rcases List.mem_append.mp h with h | h
      · exact List.mem_append_left _ (nested_mem_nodesOfEntry hinner entry base h)
      · exact List.mem_append_right _ (nested_mem_nodesOf hinner rest base h)

theorem nested_mem_nodesOfEntry {level : Nat} {node inner : FilterInput}
    (hinner : .nested inner ∈ node.filters) :
    ∀ (entry : FilterEntry FilterInput) (base : Nat),
      (level, node) ∈ nodesOfEntry base entry → (level + 1, inner) ∈ nodesOfEntry base entry
  | .nested input, base, h => nested_mem_nodes hinner input base h
  | .fragment _, _, h => absurd h List.not_mem_nil

end

/-- The list of the nodes has those that are reached, each with its level. -/
theorem mem_nodes {input node : FilterInput} {level : Nat} :
    (level, node) ∈ input.nodes 1 ↔ input.Reaches level node := by
  constructor
  · intro h
    exact reaches_of_mem_nodes input 1 .root _ h
  · intro h
    induction h with
    | root => exact self_mem_nodes input 1
    | nested _ hinner ih => exact nested_mem_nodes hinner input 1 ih

/-! ## What does not matter -/

mutual

/-- A limit refuses descriptions, and does nothing else. -/
theorem toFilterAt_limit {maxDepth limit : Nat} : ∀ (input : FilterInput) {level level' : Nat}
    {f g : Filter}, input.toFilterAt maxDepth level = .ok f →
      input.toFilterAt limit level' = .ok g → f = g
  | ⟨active, condition, filters, property, value, operator, func, operand⟩, level, level', f, g,
      hf, hg => by
      rw [toFilterAt_eq] at hf hg
      split at hf
      · exact absurd hf (by simp)
      · split at hg
        · exact absurd hg (by simp)
        · obtain ⟨heading, hheading, hf⟩ := bind_eq_ok.mp hf
          obtain ⟨heading', hheading', hg⟩ := bind_eq_ok.mp hg
          obtain rfl : heading = heading' := Except.ok.inj (hheading.symm.trans hheading')
          by_cases hfilters : filters.isEmpty
          · rw [if_pos hfilters] at hf hg
            exact Except.ok.inj (hf.symm.trans hg)
          · rw [if_neg hfilters] at hf hg
            obtain ⟨members, hmembers, rfl⟩ := map_eq_ok.mp hf
            obtain ⟨members', hmembers', rfl⟩ := map_eq_ok.mp hg
            rw [entriesToFilters_limit filters hmembers hmembers']

theorem entriesToFilters_limit {maxDepth limit : Nat} :
    ∀ (entries : List (FilterEntry FilterInput)) {level level' : Nat} {fs gs : List Filter},
      entriesToFilters maxDepth level entries = .ok fs →
        entriesToFilters limit level' entries = .ok gs → fs = gs
  | [], _, _, _, _, hfs, hgs => Except.ok.inj (hfs.symm.trans hgs)
  | entry :: rest, level, level', fs, gs, hfs, hgs => by
      obtain ⟨first, hfirst, hfs⟩ := bind_eq_ok.mp hfs
      obtain ⟨others, hothers, hfs⟩ := bind_eq_ok.mp hfs
      obtain ⟨first', hfirst', hgs⟩ := bind_eq_ok.mp hgs
      obtain ⟨others', hothers', hgs⟩ := bind_eq_ok.mp hgs
      obtain rfl := Except.ok.inj hfs
      obtain rfl := Except.ok.inj hgs
      rw [entryToFilter_limit entry hfirst hfirst', entriesToFilters_limit rest hothers hothers']

theorem entryToFilter_limit {maxDepth limit : Nat} :
    ∀ (entry : FilterEntry FilterInput) {level level' : Nat} {f g : Filter},
      entryToFilter maxDepth level entry = .ok f → entryToFilter limit level' entry = .ok g → f = g
  | .nested input, _, _, _, _, hf, hg => toFilterAt_limit input hf hg
  | .fragment _, _, _, _, _, hf, hg => Except.ok.inj (hf.symm.trans hg)

end

/-- The operator that is left of one that compares nothing. -/
theorem token_filter_isNegation (operator : Option String) :
    Input.token Operator.ofToken? .unknownOperator (operator.filter isNegation) =
      .ok (if operator.any isNegation then some .not else none) := by
  cases operator with
  | none => rfl
  | some text =>
      cases hnot : isNegation text with
      | false => simp [Option.filter, hnot, Input.token]
      | true =>
          have hmeaning : Operator.ofToken? (Text.trim text) = some .not := by
            simpa [isNegation] using hnot
          have hnonempty : ¬(Text.trim text).isEmpty := by
            intro hempty
            rw [String.isEmpty_iff.mp hempty] at hmeaning
            exact absurd hmeaning (by decide)
          simp only [String.isEmpty_iff] at hnonempty
          simp [Option.filter, hnot, Input.token, Vocabulary.read, hmeaning, hnonempty]

/-- The heading that is left of a node that compares nothing. -/
theorem ofInput_filter_isNegation (operator operand : Option String) :
    Heading.ofInput (operator.filter isNegation) none operand none =
      Input.token Conjunction.ofToken? .unknownConjunction operand >>= fun conjunction =>
        .ok ⟨if operator.any isNegation then some .not else none, none, conjunction.getD .and,
          []⟩ := by
  rw [Heading.ofInput, token_filter_isNegation]
  rfl

theorem negated_of_isNegation (operator : Option String) (conjunction : Conjunction) :
    Heading.negated ⟨if operator.any isNegation then some .not else none, none, conjunction, []⟩ =
      operator.any isNegation := by
  cases operator.any isNegation <;> rfl

/-- The conjunction of a heading is that of its token. -/
theorem token_of_ofInput {operator func operand : Option String}
    {property : Option (OneOrMany String)} {heading : Heading}
    (h : Heading.ofInput operator func operand property = .ok heading) :
    (∃ conjunction, Input.token Conjunction.ofToken? .unknownConjunction operand =
        .ok conjunction ∧ heading.conjunction = conjunction.getD .and) ∧
      Heading.ofInput operator func none property = .ok { heading with conjunction := .and } := by
  obtain ⟨op, hop, h⟩ := bind_eq_ok.mp h
  obtain ⟨function, hfunction, h⟩ := bind_eq_ok.mp h
  obtain ⟨conjunction, hconjunction, h⟩ := bind_eq_ok.mp h
  obtain ⟨fields, hfields, h⟩ := bind_eq_ok.mp h
  obtain rfl := Except.ok.inj h
  refine ⟨⟨conjunction, hconjunction, rfl⟩, ?_⟩
  rw [Heading.ofInput, hop, hfunction, hfields]
  rfl

/-- A node without filters shows its condition or what its fields are compared with. -/
theorem toFilterAt_visible_leaf {maxDepth level : Nat} (hlevel : ¬maxDepth < level)
    (active : Option Bool) (condition : Option String) (property : Option (OneOrMany String))
    (value : Option Json) (operator func operand : Option String) {heading : Heading} {f : Filter}
    (hheading : Heading.ofInput operator func operand property = .ok heading)
    (hf : heading.leaf (active.getD true) (condition.getD "") value = .ok f) :
    toFilterAt maxDepth level
      (visible ⟨active, condition, [], property, value, operator, func, operand⟩) = .ok f := by
  obtain ⟨hnegated, hnames⟩ := heading_of_ofInput hheading
  rw [visible, if_neg (by simp)]
  by_cases hcondition : condition.getD "" = ""
  · rw [if_neg (fun h => h hcondition)]
    by_cases hproperty : names property = []
    · have hempty : f = .empty (active.getD true) := by
        simpa [Heading.leaf, hcondition, hnames.mpr hproperty] using hf.symm
      rw [if_neg (fun h => h hproperty), toFilterAt_eq, if_neg hlevel, hempty]
      rfl
    · obtain ⟨-, hwithout⟩ := token_of_ofInput hheading
      rw [if_pos hproperty, toFilterAt_eq, if_neg hlevel, hwithout, ok_bind, if_pos (by rfl),
        ← hf, hcondition]
      rfl
  · have hraw : f = .raw (active.getD true) (condition.getD "") (operator.any isNegation) := by
      simpa [Heading.leaf, hcondition, hnegated] using hf.symm
    have htext : (condition.getD "").isEmpty = false := by simpa using hcondition
    rw [if_pos hcondition, toFilterAt_eq, if_neg hlevel, ofInput_filter_isNegation, hraw]
    show Heading.leaf _ _ _ _ = _
    rw [Heading.leaf, htext, negated_of_isNegation]
    rfl

mutual

/-- What a description shows is enough to make its filter. -/
theorem toFilterAt_visible {maxDepth : Nat} : ∀ (input : FilterInput) {level : Nat} {f : Filter},
    input.toFilterAt maxDepth level = .ok f → input.visible.toFilterAt maxDepth level = .ok f
  | ⟨active, condition, filters, property, value, operator, func, operand⟩, level, f, h => by
      rw [toFilterAt_eq] at h
      split at h
      · exact absurd h (by simp)
      · next hlevel =>
          obtain ⟨heading, hheading, h⟩ := bind_eq_ok.mp h
          cases filters with
          | nil =>
              exact toFilterAt_visible_leaf hlevel active condition property value operator func
                operand hheading h
          | cons entry rest =>
              obtain ⟨members, hmembers, rfl⟩ := map_eq_ok.mp h
              obtain ⟨hnegated, -⟩ := heading_of_ofInput hheading
              obtain ⟨⟨conjunction, hconjunction, hheading⟩, -⟩ := token_of_ofInput hheading
              have hread := entriesToFilters_visible (entry :: rest) hmembers
              have hshown : ¬(visibleEntries (entry :: rest)).isEmpty := by simp [visibleEntries]
              rw [visible, if_pos (by simp), toFilterAt_eq, if_neg hlevel,
                ofInput_filter_isNegation, hconjunction, ok_bind, ok_bind, if_neg hshown, hread,
                negated_of_isNegation, hnegated, hheading]
              rfl

theorem entriesToFilters_visible {maxDepth : Nat} :
    ∀ (entries : List (FilterEntry FilterInput)) {level : Nat} {fs : List Filter},
      entriesToFilters maxDepth level entries = .ok fs →
        entriesToFilters maxDepth level (visibleEntries entries) = .ok fs
  | [], _, _, h => h
  | entry :: rest, level, fs, h => by
      obtain ⟨first, hfirst, h⟩ := bind_eq_ok.mp h
      obtain ⟨others, hothers, h⟩ := bind_eq_ok.mp h
      obtain rfl := Except.ok.inj h
      rw [visibleEntries, entriesToFilters, entryToFilter_visible entry hfirst,
        entriesToFilters_visible rest hothers]
      rfl

theorem entryToFilter_visible {maxDepth : Nat} :
    ∀ (entry : FilterEntry FilterInput) {level : Nat} {f : Filter},
      entryToFilter maxDepth level entry = .ok f →
        entryToFilter maxDepth level (visibleEntry entry) = .ok f
  | .nested input, _, _, h => toFilterAt_visible input h
  | .fragment _, _, _, h => h

end

end FilterInput

/-! ## Acceptance -/

/-- A filter is made of a description exactly when each node breaks no rule by itself, and the error
is else the first of those that its nodes break, in their order.  What is made depends on what the
description shows alone. -/
theorem accepted_iff_nodes_valid (input : FilterInput) (maxDepth : Nat) :
    ((∃ f, input.toFilter maxDepth = .ok f) ↔
        ∀ level node, input.Reaches level node → node.IsValidAt maxDepth level) ∧
      (∀ e, input.toFilter maxDepth = .error e ↔
        ((input.nodes 1).flatMap fun node => node.2.violations maxDepth node.1).head? = some e) ∧
      ∀ f, input.toFilter maxDepth = .ok f → ∀ (other : FilterInput) (limit : Nat) (g : Filter),
        other.visible = input.visible → other.toFilter limit = .ok g → g = f := by
  obtain ⟨herror, hok⟩ := FilterInput.reports_toFilterAt maxDepth input 1
  refine ⟨?_, herror, ?_⟩
  · refine hok.trans (List.flatMap_eq_nil_iff.trans ?_)
    constructor
    · intro hnodes level node hreaches
      exact FilterInput.violations_eq_nil.mp (hnodes _ (FilterInput.mem_nodes.mpr hreaches))
    · intro hvalid node hnode
      exact FilterInput.violations_eq_nil.mpr (hvalid _ _ (FilterInput.mem_nodes.mp hnode))
  · intro f hf other limit g hvisible hg
    have hshown : other.visible.toFilterAt limit 1 = .ok g :=
      FilterInput.toFilterAt_visible other hg
    rw [hvisible] at hshown
    exact FilterInput.toFilterAt_limit input.visible hshown
      (FilterInput.toFilterAt_visible input hf)

/-- A group of one comparison needs two levels, whatever its own condition, fields and value are. -/
theorem accepted_iff_nodes_valid_of_hidden :
    let bare : FilterInput :=
      { filters := [.nested { property := some (.one "id"), operator := some " not in "
                              value := some (.list []) }] }
    let input : FilterInput :=
      { bare with condition := some "a = 1", value := some (.object []), func := some "lower"
                  property := some (.one " b ") }
    (∃ f, input.toFilter 2 = .ok f ∧ ∀ g, bare.toFilter 64 = .ok g → g = f) ∧
      (∃ g, bare.toFilter 64 = .ok g) ∧ input.toFilter 1 = .error (.tooDeep 1) := by
  intro bare input
  have hvisible : bare.visible = input.visible := rfl
  obtain ⟨f, hf⟩ : ∃ f, input.toFilter 2 = .ok f := ⟨_, rfl⟩
  refine ⟨⟨f, hf, ?_⟩, ⟨_, rfl⟩, ?_⟩
  · intro g hg
    exact (accepted_iff_nodes_valid input 2).2.2 f hf bare 64 g hvisible hg
  · exact ((accepted_iff_nodes_valid input 1).2.1 _).mpr rfl

end Criteria
