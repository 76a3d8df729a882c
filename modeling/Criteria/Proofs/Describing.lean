/-
# `Criteria.Proofs.Describing` — which filters can be described

## What is proved

A filter comes out of a description, read with a limit of levels, exactly when
each of its nodes can be described and it has no more levels than the limit:

    (∃ input, input.toFilter maxDepth = .ok f)  ↔
      (∀ node ∈ f.nodes, node.IsDescribable) ∧ f.depth ≤ maxDepth

So no document leads to a predicate without fields or with the operator NOT,
nor to a group without members.

## How the two sides meet

From a description to its filter, the reader's four outcomes each make a node
that can be described, and a level that is entered is one that the filter has
(`FilterInput.describable_toFilterAt`).  From a filter to a description, there
is one that says everything about it (`FilterInput.describe`), and reading it
gives the filter back (`FilterInput.toFilterAt_describe`).

Levels are where the two directions could part.  A member that is written as a
text is read on any level, and one that is described by an object only on a
level below the limit; a filter that is no more than a text may come from
either.  `Filter.depthOf` counts it as none, which is right for both: the
object needs a level that the filter does not show, and the description that
`describe` makes never is that object.
-/
import Criteria.Filter.Description
import Criteria.Filter.Tree
import Criteria.Proofs.Query

namespace Criteria

open Outcome

/-! ## Names and tokens are read back -/

theorem Identifier.toNat_of_isPart {c : Char} (h : Identifier.isPart c) :
    48 ≤ c.toNat ∧ c.toNat ≤ 122 := by
  have hval : c.val.toNat = c.toNat := rfl
  have hcases : isPart c = (((decide (c.val ≥ 'A'.val ∧ c.val ≤ 'Z'.val) ||
      (decide (c.val ≥ 'a'.val) && decide (c.val ≤ 'z'.val))) || c.isDigit) ||
        decide (c = '_')) := rfl
  simp only [hcases, Bool.or_eq_true, Bool.and_eq_true, decide_eq_true_eq, ge_iff_le,
    UInt32.le_iff_toNat_le, Char.isDigit_iff_toNat, hval] at h
  rcases h with ((h | h) | h) | rfl
  · simp at h
    omega
  · simp at h
    omega
  · have hdigit : 48 ≤ c.toNat ∧ c.toNat ≤ 57 := h
    omega
  · decide

namespace Text

theorem isBlank_eq_false {c : Char} (hfirst : 0x21 ≤ c.toNat) (hlast : c.toNat < 0x85) :
    isBlank c = false := by
  simp [isBlank, CodePoints.contains, whiteSpace]
  omega

theorem trim_eq_self {text : String} (h : ∀ c ∈ text.toList, isBlank c = false) :
    trim text = text := by
  have hend : ∀ cs : List Char, (∀ c ∈ cs, isBlank c = false) → cs.dropWhile isBlank = cs := by
    intro cs hcs
    cases cs with
    | nil => rfl
    | cons c cs => exact List.dropWhile_cons_of_neg (by simp [hcs c List.mem_cons_self])
  rw [trim, hend _ h, hend _ (by simpa using h)]
  simp

end Text

namespace FieldName

/-- The written form of a name is read as that name. -/
theorem ofText_text (field : FieldName) : ofText field.text = .ok field := by
  obtain ⟨qualifier, name⟩ := field
  have hpoint : ∀ id : Identifier, ∀ c ∈ id.text.toList, (c == '.') = false := by
    intro id c hc
    have hrange := Identifier.toNat_of_isPart (Identifier.isPart_of_mem hc)
    rw [beq_eq_false_iff_ne]
    rintro rfl
    simp at hrange
  have hsegment : ∀ id : Identifier, segment id.text.toList = .ok id := by
    intro id
    have hid : Identifier.ofText id.text = .ok id := Identifier.ofText_ok_iff.mpr rfl
    rw [segment, String.ofList_toList, hid]
    rfl
  cases qualifier with
  | none =>
      rw [ofText, text, List.splitOn, List.splitOnP_eq_singleton (hpoint name)]
      simp [hsegment]
  | some qualifier =>
      have hchars : (text ⟨some qualifier, name⟩).toList =
          qualifier.text.toList ++ '.' :: name.text.toList := by
        simp [text]
      rw [ofText, hchars, List.splitOn,
        List.splitOnP_append_cons_of_forall_mem (hpoint qualifier) '.' rfl,
        List.splitOnP_eq_singleton (hpoint name)]
      simp [hsegment]

theorem trim_text (field : FieldName) : Text.trim field.text = field.text := by
  refine Text.trim_eq_self fun c hc => ?_
  rcases isPart_of_mem hc with h | rfl
  · have hrange := Identifier.toNat_of_isPart h
    exact Text.isBlank_eq_false (by omega) (by omega)
  · rfl

end FieldName

namespace Input

theorem fields_text (fields : List FieldName) :
    Input.fields (some (.many (fields.map FieldName.text))) = .ok fields := by
  have hread : ∀ field : FieldName,
      (FieldName.ofText (Text.trim field.text)).mapError ExpressionError.badField = .ok field := by
    intro field
    rw [field.trim_text, field.ofText_text]
    rfl
  simp only [Input.fields, Option.elim_some, OneOrMany.toList, mapM_eq_ok, List.map_map,
    Function.comp_def, hread]

/-- A token without blanks around it means what it is looked up as. -/
theorem token_eq_ok {α : Type} {find? : String → Option α} {unknown : String → ExpressionError}
    {text : String} {meaning : α}
    (h : Text.trim text = text ∧ text.isEmpty = false ∧ find? text = some meaning) :
    token find? unknown (some text) = .ok (some meaning) := by
  obtain ⟨htrim, hempty, hfind⟩ := h
  simp [token, Vocabulary.read, htrim, hempty, hfind]

theorem token_operator (op : Operator) :
    token Operator.ofToken? .unknownOperator (some op.sql) = .ok (some op) :=
  token_eq_ok (by cases op <;> decide +kernel)

theorem token_function (function : Option Function) :
    token Function.ofToken? .unknownFunction (function.map Function.sql) = .ok function := by
  cases function with
  | none => rfl
  | some function => exact token_eq_ok (by cases function <;> decide +kernel)

theorem token_conjunction (k : Conjunction) :
    token Conjunction.ofToken? .unknownConjunction (some k.sql) = .ok (some k) :=
  token_eq_ok (by cases k <;> decide +kernel)

theorem token_negation (negated : Bool) :
    token Operator.ofToken? .unknownOperator (FilterInput.negation negated) =
      .ok (if negated then some .not else none) := by
  cases negated with
  | false => rfl
  | true => exact token_operator .not

end Input

/-! ## Values -/

namespace Scalar

/-- A scalar that is read from a JSON value is one that JSON has. -/
theorem isJson_of_ofJson? {v : Json} {s : Scalar} (h : ofJson? v = some s) : s.IsJson := by
  cases v with
  | null | list | object => exact absurd h (by simp [ofJson?])
  | bool | string =>
      obtain rfl := Option.some.inj h
      trivial
  | float x =>
      obtain rfl := Option.some.inj h
      exact ⟨x, rfl⟩
  | integer n =>
      obtain rfl := Option.some.inj h
      rw [ofWideInt]
      split
      · trivial
      · next hlarge =>
          have hgreatest := n.lt_greatest
          have hword : (UInt64.ofNat n.value.toNat).toNat = n.value.toNat := by
            simp
            omega
          have hmax : Int64.maxValue.toInt = 9223372036854775807 := rfl
          rw [IsJson, hword]
          omega

/-- A scalar that JSON has is read from its JSON value. -/
theorem ofJson?_toJson {s : Scalar} (h : s.IsJson) : ofJson? s.toJson = some s := by
  have hmax : Int64.maxValue.toInt = 9223372036854775807 := rfl
  cases s with
  | text | bool => rfl
  | uuid | timestamp | date => exact h.elim
  | float x =>
      obtain ⟨x, rfl⟩ := h
      rfl
  | integer n =>
      have hle : n.toInt ≤ Int64.maxValue.toInt := n.toInt_le
      simp [toJson, ofJson?, ofWideInt, wideInt, hle]
  | unsigned n =>
      have hgt : ¬(n.toNat : Int) ≤ Int64.maxValue.toInt := by
        rw [IsJson] at h
        omega
      simp [toJson, ofJson?, ofWideInt, WideInt.ofUInt64, hgt]

end Scalar

theorem Filter.mem_nodes_self (f : Filter) : f ∈ f.nodes := by
  cases f <;> simp [nodes]

namespace FilterInput

theorem scalar_eq_ok {v : Json} {s : Scalar} : scalar v = .ok s ↔ Scalar.ofJson? v = some s := by
  unfold scalar
  cases Scalar.ofJson? v <;> simp

/-- What fields are compared with comes from JSON values. -/
theorem isJson_of_comparand {value : Option Json} {comparand : Option Comparand}
    (h : FilterInput.comparand value = .ok comparand) :
    ∀ c ∈ comparand, ∀ s ∈ c.values, s.IsJson := by
  rintro c rfl
  cases value with
  | none => exact absurd h (by simp [FilterInput.comparand])
  | some v =>
      cases v with
      | null => exact absurd h (by simp [FilterInput.comparand])
      | list items =>
          obtain ⟨values, hvalues, h⟩ := bind_eq_ok.mp h
          obtain rfl := Option.some.inj (Except.ok.inj h)
          intro s hs
          have hmem : Except.ok s ∈ items.map scalar := by
            rw [mapM_eq_ok.mp hvalues]
            exact List.mem_map_of_mem hs
          obtain ⟨item, -, hitem⟩ := List.mem_map.mp hmem
          exact Scalar.isJson_of_ofJson? (scalar_eq_ok.mp hitem)
      | bool | integer | float | string | object =>
          obtain ⟨s, hs, h⟩ := bind_eq_ok.mp h
          obtain rfl := Option.some.inj (Except.ok.inj h)
          intro s' hs'
          obtain rfl := List.mem_singleton.mp hs'
          exact Scalar.isJson_of_ofJson? (scalar_eq_ok.mp hs)

/-- What fields are compared with is read from its JSON value. -/
theorem comparand_toJson {comparand : Option Comparand}
    (h : ∀ c ∈ comparand, ∀ s ∈ c.values, s.IsJson) :
    FilterInput.comparand (comparand.map Comparand.toJson) = .ok comparand := by
  cases comparand with
  | none => rfl
  | some c =>
      have hc := h c rfl
      cases c with
      | single s =>
          have hs : Scalar.ofJson? s.toJson = some s :=
            Scalar.ofJson?_toJson (hc s (List.mem_singleton_self s))
          have hread : scalar s.toJson = .ok s := scalar_eq_ok.mpr hs
          simp only [Option.map_some, Comparand.toJson]
          generalize s.toJson = v at hs hread
          cases v <;> simp_all [FilterInput.comparand, Scalar.ofJson?]
      | list values =>
          have hread : (values.map Scalar.toJson).mapM scalar = .ok values := by
            rw [mapM_eq_ok, List.map_map]
            exact List.map_congr_left fun s hs => scalar_eq_ok.mpr (Scalar.ofJson?_toJson (hc s hs))
          simp [Comparand.toJson, FilterInput.comparand, hread]

/-! ## From a description to its filter -/

/-- What a leaf makes can be described. -/
theorem describable_leaf {heading : Heading} {active : Bool} {condition : String}
    {value : Option Json} {f : Filter} (h : heading.leaf active condition value = .ok f) :
    f.nodes = [f] ∧ f.IsDescribable ∧ f.depth = 1 := by
  unfold Heading.leaf at h
  split at h
  · next hcondition =>
      obtain rfl := Except.ok.inj h
      refine ⟨rfl, ?_, rfl⟩
      rintro rfl
      exact absurd hcondition (by decide)
  · split at h
    · obtain rfl := Except.ok.inj h
      exact ⟨rfl, trivial, rfl⟩
    · next hfields =>
        split at h
        · exact absurd h (by simp)
        · next hnegated =>
            obtain ⟨comparand, hcomparand, h⟩ := bind_eq_ok.mp h
            obtain rfl := Except.ok.inj h
            refine ⟨rfl, ⟨?_, ?_, isJson_of_comparand hcomparand⟩, rfl⟩
            · simpa using hfields
            · intro hnot
              cases hop : heading.operator with
              | none => simp [hop] at hnot
              | some op =>
                  obtain rfl : op = .not := by simpa [hop] using hnot
                  exact hnegated (by simp [Heading.negated, hop, Operator.isNegating])

mutual

/-- The filter of a description can be described at each node, and stays above the limit of
levels. -/
theorem describable_toFilterAt {maxDepth : Nat} : ∀ (input : FilterInput) {level : Nat}
    {f : Filter}, input.toFilterAt maxDepth level = .ok f →
      (∀ node ∈ f.nodes, node.IsDescribable) ∧ level + f.depth ≤ maxDepth + 1
  | ⟨active, condition, filters, property, value, operator, func, operand⟩, level, f, h => by
      rw [toFilterAt_eq] at h
      split at h
      · exact absurd h (by simp)
      · next hlevel =>
          obtain ⟨heading, -, h⟩ := bind_eq_ok.mp h
          split at h
          · obtain ⟨hnodes, hleaf, hdepth⟩ := describable_leaf h
            rw [hnodes, hdepth]
            refine ⟨?_, by omega⟩
            intro node hnode
            obtain rfl := List.mem_singleton.mp hnode
            exact hleaf
          · next hfilters =>
              obtain ⟨members, hmembers, rfl⟩ := map_eq_ok.mp h
              obtain ⟨hlength, hnodes, hdepth⟩ :=
                describable_entriesToFilters filters (by omega) hmembers
              refine ⟨?_, by rw [Filter.depth]; omega⟩
              intro node hnode
              rcases List.mem_cons.mp hnode with rfl | hnode
              · rintro rfl
                have hempty : filters = [] := List.eq_nil_of_length_eq_zero hlength.symm
                exact hfilters (List.isEmpty_iff.mpr hempty)
              · exact hnodes node hnode

theorem describable_entriesToFilters {maxDepth : Nat} :
    ∀ (entries : List (FilterEntry FilterInput)) {level : Nat} {fs : List Filter},
      level ≤ maxDepth → entriesToFilters maxDepth level entries = .ok fs →
        fs.length = entries.length ∧ (∀ node ∈ Filter.nodesOf fs, node.IsDescribable) ∧
          level + Filter.depthOf fs ≤ maxDepth
  | [], level, fs, hlevel, h => by
      obtain rfl := Except.ok.inj h
      refine ⟨rfl, ?_, hlevel⟩
      intro node hnode
      exact absurd hnode List.not_mem_nil
  | entry :: rest, level, fs, hlevel, h => by
      obtain ⟨first, hfirst, h⟩ := bind_eq_ok.mp h
      obtain ⟨others, hothers, h⟩ := bind_eq_ok.mp h
      obtain rfl := Except.ok.inj h
      obtain ⟨hfirstNodes, hfirstDepth⟩ := describable_entryToFilter entry hlevel hfirst
      obtain ⟨hlength, hnodes, hdepth⟩ := describable_entriesToFilters rest hlevel hothers
      refine ⟨by simp [hlength], ?_, by rw [Filter.depthOf]; omega⟩
      intro node hnode
      rcases List.mem_append.mp hnode with hnode | hnode
      · exact hfirstNodes node hnode
      · exact hnodes node hnode

theorem describable_entryToFilter {maxDepth : Nat} :
    ∀ (entry : FilterEntry FilterInput) {level : Nat} {f : Filter}, level ≤ maxDepth →
      entryToFilter maxDepth level entry = .ok f →
        (∀ node ∈ f.nodes, node.IsDescribable) ∧
          level + (if f.isPlain then 0 else f.depth) ≤ maxDepth
  | .nested input, level, f, hlevel, h => by
      obtain ⟨hnodes, hdepth⟩ := describable_toFilterAt input h
      refine ⟨hnodes, ?_⟩
      split <;> omega
  | .fragment sql, level, f, hlevel, h => by
      obtain rfl := Except.ok.inj h
      split
      · refine ⟨?_, hlevel⟩
        intro node hnode
        obtain rfl := List.mem_singleton.mp hnode
        trivial
      · next hsql =>
          refine ⟨?_, hlevel⟩
          intro node hnode
          obtain rfl := List.mem_singleton.mp hnode
          rintro rfl
          exact hsql rfl

end

/-! ## From a filter to its description -/

theorem isEmpty_describeMembers (fs : List Filter) :
    (describeMembers fs).isEmpty = fs.isEmpty := by
  cases fs <;> rfl

/-- A plain member is read from its text. -/
theorem entryToFilter_of_isPlain {maxDepth level : Nat} {f : Filter} (hplain : f.isPlain)
    (hf : f.IsDescribable) : entryToFilter maxDepth level (.fragment (f.condition?.getD "")) =
      .ok f := by
  cases f with
  | empty active =>
      obtain rfl : active = true := hplain
      rfl
  | raw active text negated =>
      obtain ⟨rfl, hnegated⟩ := Bool.and_eq_true_iff.mp hplain
      obtain rfl : negated = false := by simpa using hnegated
      have htext : text ≠ "" := hf
      simp [entryToFilter, Filter.condition?, htext, Filter.ofText]
  | group | predicate => exact absurd hplain (by simp [Filter.isPlain])

mutual

/-- A filter that can be described is read from its description, if it stays above the limit of
levels. -/
theorem toFilterAt_describe {maxDepth : Nat} : ∀ (f : Filter) {level : Nat},
    (∀ node ∈ f.nodes, node.IsDescribable) → level + f.depth ≤ maxDepth + 1 →
      toFilterAt maxDepth level (describe f) = .ok f
  | .empty active, level, _, hdepth => by
      have hlevel : ¬maxDepth < level := by rw [Filter.depth] at hdepth; omega
      rw [describe, toFilterAt_eq, if_neg hlevel]
      rfl
  | .raw active text negated, level, hnodes, hdepth => by
      have hlevel : ¬maxDepth < level := by rw [Filter.depth] at hdepth; omega
      have htext : text ≠ "" := hnodes _ (List.mem_singleton_self _)
      rw [describe, toFilterAt_eq, if_neg hlevel]
      simp only [Heading.ofInput, Input.token_negation]
      cases negated <;> simp [Input.token, Input.fields, Heading.leaf, htext, Heading.negated,
        Operator.isNegating]
  | .predicate active p, level, hnodes, hdepth => by
      have hlevel : ¬maxDepth < level := by rw [Filter.depth] at hdepth; omega
      obtain ⟨hfields, hop, hcomparand⟩ := hnodes _ (List.mem_singleton_self _)
      rw [describe, toFilterAt_eq, if_neg hlevel]
      simp only [Heading.ofInput, Input.token_operator, Input.token_function, Input.fields_text]
      simp [Input.token, Heading.leaf, hfields, Heading.negated, Operator.isNegating, hop,
        comparand_toJson hcomparand]
  | .group active k negated members, level, hnodes, hdepth => by
      have hlevel : ¬maxDepth < level := by rw [Filter.depth] at hdepth; omega
      have hmembers : members.isEmpty = false := by
        have hgroup : members ≠ [] := hnodes _ List.mem_cons_self
        simpa using hgroup
      have hread : entriesToFilters maxDepth level (describeMembers members) = .ok members :=
        entriesToFilters_describe members
          (fun node hnode => hnodes node (List.mem_cons_of_mem _ hnode))
          (by rw [Filter.depth] at hdepth; omega)
      rw [describe, toFilterAt_eq, if_neg hlevel, isEmpty_describeMembers, hmembers, hread]
      simp only [Heading.ofInput, Input.token_negation, Input.token_conjunction]
      cases negated <;> simp [Input.token, Input.fields, Heading.negated, Operator.isNegating]

theorem entriesToFilters_describe {maxDepth : Nat} : ∀ (fs : List Filter) {level : Nat},
    (∀ node ∈ Filter.nodesOf fs, node.IsDescribable) → level + Filter.depthOf fs ≤ maxDepth →
      entriesToFilters maxDepth level (describeMembers fs) = .ok fs
  | [], _, _, _ => rfl
  | f :: rest, level, hnodes, hdepth => by
      rw [Filter.depthOf] at hdepth
      have hrest : entriesToFilters maxDepth level (describeMembers rest) = .ok rest :=
        entriesToFilters_describe rest
          (fun node hnode => hnodes node (List.mem_append_right _ hnode))
          (by omega)
      have hfirst : entryToFilter maxDepth level (entry f (describe f)) = .ok f := by
        cases hplain : f.isPlain with
        | true =>
            rw [entry, if_pos hplain]
            exact entryToFilter_of_isPlain hplain
              (hnodes f (List.mem_append_left _ f.mem_nodes_self))
        | false =>
            rw [entry, hplain]
            refine toFilterAt_describe f
              (fun node hnode => hnodes node (List.mem_append_left _ hnode)) ?_
            rw [hplain] at hdepth
            simp at hdepth
            omega
      rw [describeMembers, entriesToFilters, hfirst, hrest]
      rfl

end

end FilterInput

/-! ## The image of descriptions -/

/-- A test without a value has the operator of its predicate. -/
theorem Predicate.operator_of_test {p : Predicate} {column : FieldName} {target : Target}
    {op : Operator} (h : p.test column = .ok (.unary target op)) : p.operator = op := by
  unfold Predicate.test at h
  cases harity : p.operator.arity with
  | unary =>
      simp only [harity, Except.ok.injEq, Test.unary.injEq] at h
      exact h.2
  | set =>
      simp only [harity] at h
      obtain ⟨comparand, -, h⟩ := bind_eq_ok.mp h
      exact absurd (Except.ok.inj h) (by simp)
  | list =>
      simp only [harity] at h
      obtain ⟨comparand, -, h⟩ := bind_eq_ok.mp h
      split at h
      · exact absurd (Except.ok.inj h) (by simp)
      · exact absurd (Except.ok.inj h) (by simp)
  | binary =>
      simp only [harity] at h
      obtain ⟨comparand, -, h⟩ := bind_eq_ok.mp h
      cases comparand with
      | single v => exact absurd (Except.ok.inj h) (by simp)
      | list values => exact absurd h (by simp)

namespace Filter

mutual

/-- The predicates of a filter are at its nodes. -/
theorem mem_nodes_of_mem_predicates {p : Predicate} : ∀ f : Filter, p ∈ f.predicates →
    ∃ active, .predicate active p ∈ f.nodes
  | .empty _, h => absurd h List.not_mem_nil
  | .raw _ _ _, h => absurd h List.not_mem_nil
  | .predicate active q, h => by
      obtain rfl := List.mem_singleton.mp h
      exact ⟨active, List.mem_singleton_self _⟩
  | .group _ _ _ members, h => by
      obtain ⟨active, hmem⟩ := mem_nodesOf_of_mem_predicatesOf members h
      exact ⟨active, List.mem_cons_of_mem _ hmem⟩

theorem mem_nodesOf_of_mem_predicatesOf {p : Predicate} : ∀ fs : List Filter,
    p ∈ predicatesOf fs → ∃ active, .predicate active p ∈ nodesOf fs
  | [], h => absurd h List.not_mem_nil
  | f :: rest, h => by
      rcases List.mem_append.mp h with h | h
      · obtain ⟨active, hmem⟩ := mem_nodes_of_mem_predicates f h
        exact ⟨active, List.mem_append_left _ hmem⟩
      · obtain ⟨active, hmem⟩ := mem_nodesOf_of_mem_predicatesOf rest h
        exact ⟨active, List.mem_append_right _ hmem⟩

end

end Filter

/-- A filter comes out of some description exactly when each of its nodes can be described and it
has no more levels than the limit; so none that does has a predicate without fields, a column that
is tested by NOT alone, or a group without members. -/
theorem described_iff (f : Filter) (maxDepth : Nat) :
    ((∃ input : FilterInput, input.toFilter maxDepth = .ok f) ↔
      (∀ node ∈ f.nodes, node.IsDescribable) ∧ f.depth ≤ maxDepth) ∧
    ∀ input : FilterInput, input.toFilter maxDepth = .ok f →
      (∀ p ∈ f.predicates, p.fields ≠ [] ∧
        ∀ column target, p.test column ≠ .ok (.unary target .not)) ∧
      ∀ active k negated, .group active k negated [] ∉ f.nodes := by
  constructor
  · constructor
    · rintro ⟨input, h⟩
      obtain ⟨hnodes, hdepth⟩ := FilterInput.describable_toFilterAt input h
      exact ⟨hnodes, by omega⟩
    · rintro ⟨hnodes, hdepth⟩
      exact ⟨.describe f, FilterInput.toFilterAt_describe f hnodes (by omega)⟩
  · intro input h
    obtain ⟨hnodes, -⟩ := FilterInput.describable_toFilterAt input h
    constructor
    · intro p hp
      obtain ⟨active, hmem⟩ := f.mem_nodes_of_mem_predicates hp
      obtain ⟨hfields, hop, -⟩ := hnodes _ hmem
      refine ⟨hfields, ?_⟩
      intro column target htest
      exact hop (Predicate.operator_of_test htest)
    · intro active k negated hmem
      exact hnodes _ hmem rfl

/-- Two levels are enough for a negated group of a text, an empty filter and a comparison that is
switched off, and one is not. -/
theorem described_iff_at_two_levels :
    let p : Predicate :=
      { fields := [⟨some ⟨"t", by decide⟩, ⟨"id", by decide⟩⟩], operator := .notAmong
        function := some .lower
        comparand := some (.list [.unsigned 9223372036854775808, .bool true]) }
    let f : Filter :=
      .group true .or true [.raw true "a = 1" false, .empty true, .predicate false p]
    (∃ input : FilterInput, input.toFilter 2 = .ok f) ∧
      ¬∃ input : FilterInput, input.toFilter 1 = .ok f := by
  intro p f
  have hnodes : ∀ node ∈ f.nodes, node.IsDescribable := by
    simp [f, p, Filter.nodes, Filter.nodesOf, Filter.IsDescribable, Comparand.values, Scalar.IsJson]
    decide
  have hdepth : f.depth = 2 := rfl
  refine ⟨(described_iff f 2).1.mpr ⟨hnodes, by omega⟩, ?_⟩
  intro h
  obtain ⟨-, hlimit⟩ := (described_iff f 1).1.mp h
  omega

end Criteria
