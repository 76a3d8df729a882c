/-
# `Criteria.Proofs.Respelling` — however a document is spelled, it compiles alike

## What is proved

`Criteria.Input.Respelling` lists the rewritings of a document that should
change nothing: other spellings of keys, nulls where nothing stands, keys that
mean nothing, and lists of one thing for the thing.  Two documents that are
connected by any number of them, at any depth and in either direction, compile
to the same query, or fail with the same error of an expression, or are both
refused as documents, by every compiler.

## Where the two readings meet

The readings differ in two ways only.  A document may be refused with another
message, since what is wrong in it is met in another sequence; so outcomes are
compared by `Outcome.Alike`, for which all failures are one.  And a name or an
order stands alone in one description and in a list in the other; so
descriptions are compared with all of these in lists (`QueryInput.listed`),
which a compiler cannot tell apart (`Compiler.compile_listed`).

## How it is proved

The four records differ in their fields only.  `Respellable` says what is
needed of a record: that its fields are those of the table, that what is put
into one does not depend on what stands in another, and that what is read at a
place inside is read alike.  Then the fields of an object may come in any
sequence (`Layout.readFields_perm`), and each rewriting of a record needs to be
looked at only where the field that it changes comes first.  One rewriting is
done by induction on where it stands in the document (`Step.same`), and any
number of them by transitivity.
-/
import Criteria.Input.Respelling
import Criteria.Proofs.Query
import Criteria.Proofs.Acceptance

namespace Criteria

open Outcome

/-! ## Records, whatever their fields -/

namespace Layout

variable {φ ρ γ : Type} {layout : Layout φ}
  {put : φ → Json → ρ → Except InputError ρ} {flat : ρ → γ}

variable [DecidableEq φ]

/-- Of the fields given before only those count that are named again. -/
theorem readFields_given {fields : List (String × Json)} : ∀ {given given' : List φ} {r : ρ},
    (∀ field ∈ layout.named fields, field ∈ given ↔ field ∈ given') →
      layout.readFields put given r fields = layout.readFields put given' r fields := by
  induction fields with
  | nil =>
      intro given given' r h
      rfl
  | cons f rest ih =>
      intro given given' r h
      obtain ⟨key, v⟩ := f
      cases hkey : layout.field? key with
      | none =>
          rw [named_cons_of_none hkey] at h
          simp only [readFields, hkey]
          exact ih h
      | some field =>
          rw [named_cons_of_some hkey] at h
          have hgiven : field ∈ given ↔ field ∈ given' := h field List.mem_cons_self
          simp only [readFields, hkey, claim, hgiven]
          split
          · rfl
          · simp only [ok_bind]
            refine bind_congr fun next => ih fun g hg => ?_
            simp only [List.mem_cons, h g (List.mem_cons_of_mem _ hg)]

/-- Records that look alike do so when the same fields are put into them. -/
theorem alike_readFields
    (hput : ∀ field v a b, flat a = flat b → Alike flat (put field v a) (put field v b))
    {fields : List (String × Json)} : ∀ {given : List φ} {a b : ρ}, flat a = flat b →
      Alike flat (layout.readFields put given a fields) (layout.readFields put given b fields) := by
  induction fields with
  | nil =>
      intro given a b hab
      exact alike_ok.mpr hab
  | cons f rest ih =>
      intro given a b hab
      obtain ⟨key, v⟩ := f
      simp only [readFields]
      cases layout.field? key with
      | none => exact ih hab
      | some field =>
          refine alike_bind fun given => ?_
          exact (hput field v a b hab).bind fun a' b' hab' => ih hab'

/-- An object in which a field is given twice, or once more, is refused. -/
theorem readFields_of_repeated {fields : List (String × Json)} : ∀ {given : List φ} {r : ρ},
    ¬((layout.named fields).Nodup ∧ ∀ field ∈ layout.named fields, field ∉ given) →
      ∃ e, layout.readFields put given r fields = .error e := by
  induction fields with
  | nil =>
      intro given r h
      exact absurd ⟨List.nodup_nil, by simp [named]⟩ h
  | cons f rest ih =>
      intro given r h
      obtain ⟨key, v⟩ := f
      cases hkey : layout.field? key with
      | none =>
          rw [named_cons_of_none hkey] at h
          simp only [readFields, hkey]
          exact ih h
      | some field =>
          rw [named_cons_of_some hkey, List.nodup_cons, List.forall_mem_cons] at h
          by_cases hgiven : field ∈ given
          · exact ⟨_, by simp only [readFields, hkey, claim, hgiven, if_true, error_bind]; rfl⟩
          · simp only [readFields, hkey, claim, hgiven, if_false, ok_bind]
            cases put field v r with
            | error e => exact ⟨e, rfl⟩
            | ok r =>
                refine ih fun hrest => h ⟨⟨fun hmem => ?_, hrest.1⟩, hgiven, fun g hg => ?_⟩
                · exact hrest.2 field hmem List.mem_cons_self
                · exact fun hmem => hrest.2 g hg (List.mem_cons_of_mem _ hmem)

/-- Two fields of an object may come in either sequence. -/
theorem readFields_swap
    (hcomm : ∀ f g v w r, f ≠ g →
      Alike id (put f v r >>= fun r => put g w r) (put g w r >>= fun r => put f v r))
    (a b : String × Json) (rest : List (String × Json)) (given : List φ) (r : ρ) :
    Alike id (layout.readFields put given r (a :: b :: rest))
      (layout.readFields put given r (b :: a :: rest)) := by
  have hperm : (layout.named (a :: b :: rest)).Perm (layout.named (b :: a :: rest)) :=
    (List.Perm.swap b a rest).filterMap _
  by_cases hclear : (layout.named (a :: b :: rest)).Nodup ∧
      ∀ field ∈ layout.named (a :: b :: rest), field ∉ given
  · obtain ⟨key, v⟩ := a
    obtain ⟨other, w⟩ := b
    cases hkey : layout.field? key with
    | none =>
        simp only [readFields, hkey]
        exact .refl _
    | some f =>
        cases hother : layout.field? other with
        | none =>
            simp only [readFields, hkey, hother]
            exact .refl _
        | some g =>
            rw [named_cons_of_some hkey, named_cons_of_some hother] at hclear
            obtain ⟨hnodup, hnew⟩ := hclear
            have hfg : f ≠ g := fun h => (List.nodup_cons.mp hnodup).1 (h ▸ List.mem_cons_self)
            have hf : f ∉ given := hnew f List.mem_cons_self
            have hg : g ∉ given := hnew g (List.mem_cons_of_mem _ List.mem_cons_self)
            have hgiven : ∀ r, layout.readFields put (g :: f :: given) r rest =
                layout.readFields put (f :: g :: given) r rest := fun r =>
              readFields_given fun h _ => by simp only [List.mem_cons, or_left_comm]
            simp only [readFields, hkey, hother, claim, hf, hg, hfg, hfg.symm, List.mem_cons,
              or_self, if_false, ok_bind, hgiven]
            rw [← bind_assoc, ← bind_assoc]
            refine (hcomm f g v w r hfg).bind ?_
            rintro a _ rfl
            exact .refl _
  · -- A field given twice is refused in either sequence, if not with the same error.
    have hclear' := hclear
    rw [hperm.nodup_iff] at hclear'
    simp only [hperm.mem_iff] at hclear'
    obtain ⟨e, he⟩ : ∃ e, layout.readFields put given r (a :: b :: rest) = .error e :=
      readFields_of_repeated hclear
    obtain ⟨e', he'⟩ : ∃ e, layout.readFields put given r (b :: a :: rest) = .error e :=
      readFields_of_repeated hclear'
    rw [he, he']
    exact alike_error

/-- The fields of an object may come in any sequence. -/
theorem readFields_perm
    (hcomm : ∀ f g v w r, f ≠ g →
      Alike id (put f v r >>= fun r => put g w r) (put g w r >>= fun r => put f v r))
    {fields fields' : List (String × Json)} (h : fields.Perm fields') : ∀ (given : List φ) (r : ρ),
      Alike id (layout.readFields put given r fields)
        (layout.readFields put given r fields') := by
  induction h with
  | nil =>
      intro given r
      exact .refl _
  | cons f _ ih =>
      intro given r
      obtain ⟨key, v⟩ := f
      simp only [readFields]
      cases layout.field? key with
      | none => exact ih given r
      | some field => exact alike_bind fun given => alike_bind fun r => ih given r
  | swap a b rest =>
      intro given r
      exact readFields_swap hcomm b a rest given r
  | trans _ _ ih ih' =>
      intro given r
      exact (ih given r).trans (ih' given r)

end Layout

/-! ## Descriptions in which lists stand for single things -/

/-- A list of things, also where there is one. -/
def OneOrMany.listed {α : Type} (things : OneOrMany α) : OneOrMany α :=
  .many things.toList

namespace FilterInput

mutual

/-- The description of a filter in which all names stand in lists. -/
def listed : FilterInput → FilterInput
  | ⟨active, condition, filters, property, value, operator, func, operand⟩ =>
    ⟨active, condition, listedEntries filters, property.map OneOrMany.listed, value, operator,
      func, operand⟩

/-- The descriptions of the members of a group in which all names stand in lists. -/
def listedEntries : List (FilterEntry FilterInput) → List (FilterEntry FilterInput)
  | [] => []
  | entry :: rest => listedEntry entry :: listedEntries rest

/-- The description of a member in which all names stand in lists. -/
def listedEntry : FilterEntry FilterInput → FilterEntry FilterInput
  | .nested input => .nested (listed input)
  | .fragment sql => .fragment sql

end

theorem listedEntries_eq (entries : List (FilterEntry FilterInput)) :
    listedEntries entries = entries.map listedEntry := by
  induction entries with
  | nil => rfl
  | cons entry rest ih => rw [listedEntries, ih, List.map_cons]

end FilterInput

/-- The description of an order in which all names stand in lists. -/
def OrderInput.listed (input : OrderInput) : OrderInput :=
  { input with property := input.property.map OneOrMany.listed }

/-- A list of the descriptions of orders in which all names stand in lists. -/
def OrderInput.listedSection (orders : OneOrMany OrderInput) : OneOrMany OrderInput :=
  .many (orders.toList.map OrderInput.listed)

/-- The description of a query in which all names and orders stand in lists. -/
def QueryInput.listed (input : QueryInput) : QueryInput where
  filter := input.filter.map FilterInput.listed
  order := input.order.map OrderInput.listedSection
  page := input.page

theorem Input.fields_listed (names : Option (OneOrMany String)) :
    Input.fields (names.map OneOrMany.listed) = Input.fields names := by
  cases names <;> rfl

namespace FilterInput

theorem ofInput_listed (operator func operand : Option String)
    (property : Option (OneOrMany String)) :
    Heading.ofInput operator func operand (property.map OneOrMany.listed) =
      Heading.ofInput operator func operand property := by
  rw [Heading.ofInput, Heading.ofInput, Input.fields_listed]

mutual

theorem toFilterAt_listed (maxDepth : Nat) : ∀ (input : FilterInput) (level : Nat),
    toFilterAt maxDepth level input.listed = toFilterAt maxDepth level input
  | ⟨active, condition, filters, property, value, operator, func, operand⟩, level => by
      have hempty : (listedEntries filters).isEmpty = filters.isEmpty := by
        cases filters <;> rfl
      rw [listed, toFilterAt_eq, toFilterAt_eq, ofInput_listed, hempty,
        entriesToFilters_listed maxDepth filters level]

theorem entriesToFilters_listed (maxDepth : Nat) :
    ∀ (entries : List (FilterEntry FilterInput)) (level : Nat),
      entriesToFilters maxDepth level (listedEntries entries) =
        entriesToFilters maxDepth level entries
  | [], _ => rfl
  | entry :: rest, level => by
      rw [listedEntries, entriesToFilters, entriesToFilters,
        entryToFilter_listed maxDepth entry level, entriesToFilters_listed maxDepth rest level]

theorem entryToFilter_listed (maxDepth : Nat) :
    ∀ (entry : FilterEntry FilterInput) (level : Nat),
      entryToFilter maxDepth level (listedEntry entry) = entryToFilter maxDepth level entry
  | .nested input, level => toFilterAt_listed maxDepth input (level + 1)
  | .fragment _, _ => rfl

end

end FilterInput

theorem OrderInput.toOrder_listed (input : OrderInput) : input.listed.toOrder = input.toOrder := by
  simp only [toOrder, listed, Input.fields_listed]

/-- A query compiles to the same where its names and orders stand in lists. -/
theorem Compiler.compile_listed (c : Compiler) (input : QueryInput) :
    c.compile input.listed = c.compile input := by
  have hfilter : ∀ filter : FilterInput,
      c.compileFilter filter.listed = c.compileFilter filter := by
    intro filter
    simp only [compileFilter, FilterInput.toFilter, FilterInput.toFilterAt_listed]
  have horder : c.compileOrder ∘ OrderInput.listed = c.compileOrder := by
    funext order
    simp only [Function.comp_apply, compileOrder, order.toOrder_listed]
  have horders : ∀ orders : List OrderInput,
      c.compileOrders (orders.map OrderInput.listed) = c.compileOrders orders := by
    intro orders
    simp only [compileOrders, List.mapM_map, horder]
  obtain ⟨filter, order, page⟩ := input
  have hfilters : compileOptional c.compileFilter (filter.map FilterInput.listed) =
      compileOptional c.compileFilter filter := by
    cases filter with
    | none => rfl
    | some filter => exact hfilter filter
  have hsection : compileOptional c.compileOrders
      ((order.map OrderInput.listedSection).map OneOrMany.toList) =
        compileOptional c.compileOrders (order.map OneOrMany.toList) := by
    cases order with
    | none => rfl
    | some orders => exact horders orders.toList
  simp only [compile, QueryInput.listed, hfilters, hsection]


/-! ## What is read the same -/

theorem Json.optional_of_ne_null {α : Type} {read : Json → Except InputError α} {v : Json}
    (h : v ≠ .null) : v.optional read = some <$> read v := by
  cases v with
  | null => exact absurd rfl h
  | _ => rfl

namespace Respelling

variable {φ ρ γ : Type}

/-- Two values that are there, and are read alike. -/
structure SameValue (read : Json → Except InputError ρ) (flat : ρ → γ) (v v' : Json) : Prop where
  ne_null : v ≠ .null
  ne_null' : v' ≠ .null
  alike : Alike flat (read v) (read v')

/-- Two objects whose fields are read alike. -/
def SameRecord (read : List (String × Json) → Except InputError ρ) (flat : ρ → γ)
    (v v' : Json) : Prop :=
  ∃ fields fields', v = .object fields ∧ v' = .object fields' ∧
    Alike flat (read fields) (read fields')

/-- Two values that are read the same at a place. -/
def SameAt : Place → Json → Json → Prop
  | .record .query => SameRecord (QueryInput.layout.readFields QueryInput.put [] {})
      QueryInput.listed
  | .record .filter => SameRecord (FilterInput.readFields [] {}) FilterInput.listed
  | .record .order => SameRecord (OrderInput.layout.readFields OrderInput.put [] {})
      OrderInput.listed
  | .record .page => SameRecord (PageInput.layout.readFields PageInput.put [] {}) id
  | .filterSection => SameValue FilterInput.ofSection FilterInput.listed
  | .orderSection => SameValue OrderInput.ofSection OrderInput.listedSection
  | .entries => SameValue FilterInput.readEntries FilterInput.listedEntries
  | .names => SameValue OneOrMany.ofJson OneOrMany.listed

theorem SameValue.optional {read : Json → Except InputError ρ} {flat : ρ → γ} {v v' : Json}
    (h : SameValue read flat v v') :
    Alike (Option.map flat) (v.optional read) (v'.optional read) := by
  rw [Json.optional_of_ne_null h.ne_null, Json.optional_of_ne_null h.ne_null']
  exact h.alike.map fun a b hab => by rw [Option.map_some, Option.map_some, hab]

/-- Where an object is read by its fields, two objects whose fields are read alike are. -/
theorem SameRecord.value {read : List (String × Json) → Except InputError ρ}
    {readValue : Json → Except InputError ρ} {flat : ρ → γ} {v v' : Json}
    (h : SameRecord read flat v v') (hread : ∀ fields, readValue (.object fields) = read fields) :
    SameValue readValue flat v v' := by
  obtain ⟨fields, fields', rfl, rfl, hfields⟩ := h
  refine ⟨Json.noConfusion, Json.noConfusion, ?_⟩
  rw [hread, hread]
  exact hfields

/-- A field of a record is read as the slot says that stands for it. -/
structure Fits (layout : Layout φ) (put : φ → Json → ρ → Except InputError ρ) (empty : ρ)
    (flat : ρ → γ) (slot : Slot) (field : φ) : Prop where
  keys : slot.keys = layout.names field
  null : slot.nullable → put field .null empty = .ok empty
  inside : ∀ place v v', slot.place = some place → SameAt place v v' →
    Alike flat (put field v empty) (put field v' empty)

/-- The fields of a record are those that its slots stand for, and what is put into one does not
depend on what stands in another. -/
structure Respellable (record : Record) (layout : Layout φ)
    (put : φ → Json → ρ → Except InputError ρ) (empty : ρ) (flat : ρ → γ) : Prop where
  faithful : layout.Faithful
  field_of_slot : ∀ slot ∈ slots record, ∃ field, Fits layout put empty flat slot field
  slot_of_field : ∀ field, ∃ slot ∈ slots record, slot.keys = layout.names field
  commutes : ∀ f g v w r, f ≠ g →
    Alike id (put f v r >>= fun r => put g w r) (put g w r >>= fun r => put f v r)
  looks : ∀ field v a b, flat a = flat b → Alike flat (put field v a) (put field v b)

namespace Respellable

variable [DecidableEq φ] {record : Record} {layout : Layout φ}
  {put : φ → Json → ρ → Except InputError ρ} {empty : ρ} {flat : ρ → γ} {slot : Slot}
  {key key' : String} {v v' : Json} {rest fields fields' : List (String × Json)}

theorem of_perm (h : Respellable record layout put empty flat) (hfields : fields.Perm fields') :
    Alike flat (layout.readFields put [] empty fields) (layout.readFields put [] empty fields') :=
  .of_id (Layout.readFields_perm h.commutes hfields [] empty)

/-- Two first fields may stand for one another if they are put into the empty record alike. -/
theorem of_first (h : Respellable record layout put empty flat) {field : φ}
    (hkey : key ∈ layout.names field) (hkey' : key' ∈ layout.names field)
    (hput : Alike flat (put field v empty) (put field v' empty))
    (hfields : fields.Perm ((key, v) :: rest)) (hfields' : fields'.Perm ((key', v') :: rest)) :
    Alike flat (layout.readFields put [] empty fields)
      (layout.readFields put [] empty fields') := by
  refine (h.of_perm hfields).trans (.trans ?_ (h.of_perm hfields'.symm))
  simp only [Layout.readFields, h.faithful.field?_of_mem field key hkey,
    h.faithful.field?_of_mem field key' hkey']
  refine alike_bind fun given => ?_
  exact hput.bind fun a b hab => Layout.alike_readFields h.looks hab

theorem rename (h : Respellable record layout put empty flat) (hslot : slot ∈ slots record)
    (hkey : key ∈ slot.keys) (hkey' : key' ∈ slot.keys)
    (hfields : fields.Perm ((key, v) :: rest)) (hfields' : fields'.Perm ((key', v) :: rest)) :
    Alike flat (layout.readFields put [] empty fields)
      (layout.readFields put [] empty fields') := by
  obtain ⟨field, hfits⟩ := h.field_of_slot slot hslot
  rw [hfits.keys] at hkey hkey'
  exact h.of_first hkey hkey' (.refl _) hfields hfields'

theorem inside (h : Respellable record layout put empty flat) (hslot : slot ∈ slots record)
    (hkey : key ∈ slot.keys) {place : Place} (hplace : slot.place = some place)
    (hv : SameAt place v v') (hfields : fields.Perm ((key, v) :: rest))
    (hfields' : fields'.Perm ((key, v') :: rest)) :
    Alike flat (layout.readFields put [] empty fields)
      (layout.readFields put [] empty fields') := by
  obtain ⟨field, hfits⟩ := h.field_of_slot slot hslot
  rw [hfits.keys] at hkey
  exact h.of_first hkey hkey (hfits.inside place v v' hplace hv) hfields hfields'

theorem unknown (h : Respellable record layout put empty flat)
    (hkey : ∀ slot ∈ slots record, key ∉ slot.keys)
    (hfields' : fields'.Perm ((key, v) :: fields)) :
    Alike flat (layout.readFields put [] empty fields)
      (layout.readFields put [] empty fields') := by
  have hnone : layout.field? key = none := by
    cases hfield : layout.field? key with
    | none => rfl
    | some field =>
        obtain ⟨slot, hslot, hkeys⟩ := h.slot_of_field field
        have hmem : key ∈ slot.keys := hkeys ▸ h.faithful.field?_eq_some_iff.mp hfield
        exact absurd hmem (hkey slot hslot)
  refine .trans ?_ (h.of_perm hfields'.symm)
  simp only [Layout.readFields, hnone]
  exact .refl _

theorem null (h : Respellable record layout put empty flat) (hslot : slot ∈ slots record)
    (hnullable : slot.nullable) (hkey : key ∈ slot.keys) (habsent : Absent slot.keys fields)
    (hfields' : fields'.Perm ((key, .null) :: fields)) :
    Alike flat (layout.readFields put [] empty fields)
      (layout.readFields put [] empty fields') := by
  obtain ⟨field, hfits⟩ := h.field_of_slot slot hslot
  have hmem : field ∉ layout.named fields := by
    intro hmem
    obtain ⟨f, hf, hfield⟩ := List.mem_filterMap.mp hmem
    exact habsent f hf (hfits.keys ▸ h.faithful.field?_eq_some_iff.mp hfield)
  rw [hfits.keys] at hkey
  refine .trans ?_ (h.of_perm hfields'.symm)
  simp only [Layout.readFields, h.faithful.field?_of_mem field key hkey, Layout.claim,
    List.not_mem_nil, if_false, ok_bind, hfits.null hnullable]
  have hgiven : layout.readFields put [] empty fields =
      layout.readFields put [field] empty fields := by
    refine Layout.readFields_given fun g hg => ?_
    have hne : g ≠ field := by
      rintro rfl
      exact hmem hg
    simp [hne]
  rw [hgiven]
  exact .refl _

end Respellable

/-! ## The four records -/

/-- A slot that is no place. -/
theorem Fits.plain {layout : Layout φ} {put : φ → Json → ρ → Except InputError ρ} {empty : ρ}
    {flat : ρ → γ} {keys : List String} {nullable : Bool} {field : φ}
    (hkeys : keys = layout.names field) (hnull : nullable → put field .null empty = .ok empty) :
    Fits layout put empty flat ⟨keys, nullable, none⟩ field := by
  refine ⟨hkeys, hnull, ?_⟩
  rintro _ v v' ⟨⟩ hv

/-- A slot that is a place. -/
theorem Fits.nested {layout : Layout φ} {put : φ → Json → ρ → Except InputError ρ} {empty : ρ}
    {flat : ρ → γ} {keys : List String} {nullable : Bool} {place : Place} {field : φ}
    (hkeys : keys = layout.names field) (hnull : nullable → put field .null empty = .ok empty)
    (hplace : ∀ v v', SameAt place v v' → Alike flat (put field v empty) (put field v' empty)) :
    Fits layout put empty flat ⟨keys, nullable, some place⟩ field := by
  refine ⟨hkeys, hnull, ?_⟩
  rintro _ v v' ⟨⟩ hv
  exact hplace v v' hv

theorem query_respellable : Respellable .query QueryInput.layout QueryInput.put {}
    QueryInput.listed where
  faithful := QueryInput.layout_faithful
  field_of_slot := by
    simp only [slots, List.forall_mem_cons, List.not_mem_nil, false_imp_iff, implies_true, and_true]
    refine ⟨⟨.filter, .nested rfl (fun _ => rfl) fun v v' hv => ?_⟩,
      ⟨.order, .nested rfl (fun _ => rfl) fun v v' hv => ?_⟩,
      ⟨.page, .nested rfl (fun _ => rfl) fun v v' hv => ?_⟩⟩
    · have hread : SameValue FilterInput.ofSection FilterInput.listed v v' := hv
      refine hread.optional.bind fun a b hab => alike_ok.mpr ?_
      simp only [QueryInput.listed, hab]
    · have hread : SameValue OrderInput.ofSection OrderInput.listedSection v v' := hv
      refine hread.optional.bind fun a b hab => alike_ok.mpr ?_
      simp only [QueryInput.listed, hab]
    · have hread : SameValue PageInput.ofSection id v v' := SameRecord.value hv fun _ => rfl
      refine hread.optional.bind fun a b hab => alike_ok.mpr ?_
      rw [Option.map_id, id, id] at hab
      rw [hab]
  slot_of_field field := by cases field <;> decide
  commutes f g v w r h := by
    cases f <;> cases g <;> first | exact absurd rfl h | exact alike_swap fun _ _ => rfl
  looks field v a b hab := by
    obtain ⟨hfilter, horder, hpage⟩ := QueryInput.mk.inj hab
    cases field <;> refine alike_bind fun new => alike_ok.mpr ?_ <;>
      simp only [QueryInput.listed, hfilter, horder, hpage]

theorem filter_respellable : Respellable .filter FilterInput.layout
    (fun field v => FilterInput.put (FilterInput.readEntries v) field v) {}
    FilterInput.listed where
  faithful := FilterInput.layout_faithful
  field_of_slot := by
    simp only [slots, List.forall_mem_cons, List.not_mem_nil, false_imp_iff, implies_true, and_true]
    refine ⟨⟨.active, .plain rfl fun _ => rfl⟩, ⟨.condition, .plain rfl fun _ => rfl⟩,
      ⟨.filters, .nested rfl nofun fun v v' hv => ?_⟩,
      ⟨.property, .nested rfl (fun _ => rfl) fun v v' hv => ?_⟩, ⟨.value, .plain rfl fun _ => rfl⟩,
      ⟨.operator, .plain rfl fun _ => rfl⟩, ⟨.func, .plain rfl fun _ => rfl⟩,
      ⟨.operand, .plain rfl fun _ => rfl⟩⟩
    · have hread : SameValue FilterInput.readEntries FilterInput.listedEntries v v' := hv
      refine hread.alike.bind fun a b hab => alike_ok.mpr ?_
      simp only [FilterInput.listed, hab]
    · have hread : SameValue OneOrMany.ofJson OneOrMany.listed v v' := hv
      refine hread.optional.bind fun a b hab => alike_ok.mpr ?_
      simp only [FilterInput.listed, hab]
  slot_of_field field := by cases field <;> decide
  commutes f g v w r h := by
    cases f <;> cases g <;> first | exact absurd rfl h | exact alike_swap fun _ _ => rfl
  looks field v a b hab := by
    obtain ⟨active, condition, filters, property, value, operator, func, operand⟩ := a
    obtain ⟨active', condition', filters', property', value', operator', func', operand'⟩ := b
    obtain ⟨rfl, rfl, hfilters, hproperty, rfl, rfl, rfl, rfl⟩ := by
      simpa only [FilterInput.listed, FilterInput.mk.injEq] using hab
    cases field <;> refine alike_bind fun new => alike_ok.mpr ?_ <;>
      simp only [FilterInput.listed, hfilters, hproperty]

theorem order_respellable : Respellable .order OrderInput.layout OrderInput.put {}
    OrderInput.listed where
  faithful := OrderInput.layout_faithful
  field_of_slot := by
    simp only [slots, List.forall_mem_cons, List.not_mem_nil, false_imp_iff, implies_true, and_true]
    refine ⟨⟨.active, .plain rfl fun _ => rfl⟩, ⟨.condition, .plain rfl fun _ => rfl⟩,
      ⟨.mode, .plain rfl fun _ => rfl⟩, ⟨.property, .nested rfl (fun _ => rfl) fun v v' hv => ?_⟩,
      ⟨.values, .plain rfl nofun⟩, ⟨.direction, .plain rfl fun _ => rfl⟩⟩
    have hread : SameValue OneOrMany.ofJson OneOrMany.listed v v' := hv
    refine hread.optional.bind fun a b hab => alike_ok.mpr ?_
    simp only [OrderInput.listed, hab]
  slot_of_field field := by cases field <;> decide
  commutes f g v w r h := by
    cases f <;> cases g <;> first | exact absurd rfl h | exact alike_swap fun _ _ => rfl
  looks field v a b hab := by
    obtain ⟨active, condition, mode, property, values, direction⟩ := a
    obtain ⟨active', condition', mode', property', values', direction'⟩ := b
    obtain ⟨rfl, rfl, rfl, hproperty, rfl, rfl⟩ := OrderInput.mk.inj hab
    cases field <;> refine alike_bind fun new => alike_ok.mpr ?_ <;>
      simp only [OrderInput.listed, hproperty]

theorem page_respellable : Respellable .page PageInput.layout PageInput.put {} id where
  faithful := PageInput.layout_faithful
  field_of_slot := by
    simp only [slots, List.forall_mem_cons, List.not_mem_nil, false_imp_iff, implies_true, and_true]
    exact ⟨⟨.active, .plain rfl fun _ => rfl⟩, ⟨.number, .plain rfl fun _ => rfl⟩,
      ⟨.size, .plain rfl fun _ => rfl⟩⟩
  slot_of_field field := by cases field <;> decide
  commutes f g v w r h := by
    cases f <;> cases g <;> first | exact absurd rfl h | exact alike_swap fun _ _ => rfl
  looks field v a b hab := by
    obtain rfl : a = b := hab
    exact .refl _

/-- What holds of respellable records holds of objects as each of the four. -/
theorem sameAt_record (record : Record) {fields fields' : List (String × Json)}
    (h : ∀ {φ ρ γ : Type} [DecidableEq φ] {layout : Layout φ}
      {put : φ → Json → ρ → Except InputError ρ} {empty : ρ} {flat : ρ → γ},
      Respellable record layout put empty flat →
        Alike flat (layout.readFields put [] empty fields)
          (layout.readFields put [] empty fields')) :
    SameAt (.record record) (.object fields) (.object fields') := by
  refine match record with
    | .query => ⟨fields, fields', rfl, rfl, h query_respellable⟩
    | .filter => ⟨fields, fields', rfl, rfl, ?_⟩
    | .order => ⟨fields, fields', rfl, rfl, h order_respellable⟩
    | .page => ⟨fields, fields', rfl, rfl, h page_respellable⟩
  rw [FilterInput.readFields_eq, FilterInput.readFields_eq]
  exact h filter_respellable

/-! ## Documents -/

theorem readItems_eq (items : List Json) :
    FilterInput.readItems items = items.mapM FilterInput.readEntry := by
  induction items with
  | nil => rfl
  | cons item rest ih => rw [FilterInput.readItems, ih, List.mapM_cons]

/-- What one rewriting changes is read the same. -/
theorem Step.same {place : Place} {v v' : Json} (h : Step place v v') : SameAt place v v' := by
  -- The first four kinds are about any record; the others carry a step inside outwards.
  induction h with
  | rename hslot hold hnew _ hfields hfields' =>
      exact sameAt_record _ fun h => h.rename hslot hold hnew hfields hfields'
  | null hslot hnullable hkey habsent hfields' =>
      exact sameAt_record _ fun h => h.null hslot hnullable hkey habsent hfields'
  | unknown hkey hfields' => exact sameAt_record _ fun h => h.unknown hkey hfields'
  | inside hslot hkey hplace _ hfields hfields' ih =>
      exact sameAt_record _ fun h => h.inside hslot hkey hplace ih hfields hfields'
  | @filterOfEntries items =>
      refine ⟨Json.noConfusion, Json.noConfusion, ?_⟩
      have hobject : FilterInput.ofSection (.object [("filters", .list items)]) =
          FilterInput.ofSection (.list items) := by
        show FilterInput.readFields [] {} [("filters", .list items)] = _
        rw [FilterInput.readFields_eq]
        have hkey : FilterInput.layout.field? "filters" = some .filters := by decide
        simp only [Layout.readFields, hkey, Layout.claim, List.not_mem_nil, if_false, ok_bind,
          FilterInput.put, FilterInput.readEntries, FilterInput.ofSection]
        cases FilterInput.readItems items <;> rfl
      rw [hobject]
      exact .refl _
  | filter _ ih => exact SameRecord.value ih fun _ => rfl
  | entries h ih =>
      cases h with
      | entry before after h =>
          refine ⟨Json.noConfusion, Json.noConfusion, ?_⟩
          exact ih.alike.bind fun a b hab => alike_ok.mpr (by simp only [FilterInput.listed, hab])
  | @entry v v' before after _ ih =>
      have hentry : Alike FilterInput.listedEntry (FilterInput.readEntry v)
          (FilterInput.readEntry v') := by
        obtain ⟨fields, fields', rfl, rfl, hfields⟩ := ih
        refine Alike.map hfields fun a b hab => ?_
        rw [FilterInput.listedEntry, FilterInput.listedEntry, hab]
      refine ⟨Json.noConfusion, Json.noConfusion, ?_⟩
      simp only [FilterInput.readEntries, readItems_eq]
      rw [funext FilterInput.listedEntries_eq]
      exact alike_mapM_append hentry before after
  | @ordersOfOrder fields =>
      refine ⟨Json.noConfusion, Json.noConfusion, ?_⟩
      simp only [OrderInput.ofSection, List.mapM_cons, List.mapM_nil]
      cases OrderInput.ofObject (.object fields) with
      | error e => exact alike_error
      | ok order => exact alike_ok.mpr rfl
  | order _ ih =>
      obtain ⟨fields, fields', rfl, rfl, hfields⟩ := ih
      refine ⟨Json.noConfusion, Json.noConfusion, ?_⟩
      exact Alike.map hfields fun a b hab => by
        simp only [OrderInput.listedSection, OneOrMany.toList, List.map, hab]
  | @orderOf v v' before after _ ih =>
      have horder : SameValue OrderInput.ofObject OrderInput.listed v v' :=
        SameRecord.value ih fun _ => rfl
      refine ⟨Json.noConfusion, Json.noConfusion, ?_⟩
      refine (alike_mapM_append horder.alike before after).map fun a b hab => ?_
      exact congrArg OneOrMany.many hab
  | namesOfName => exact ⟨Json.noConfusion, Json.noConfusion, alike_ok.mpr rfl⟩

/-- Two documents that are respellings of each other are read the same, or both refused. -/
theorem alike_ofJson {d d' : Json} (h : Respelled d d') :
    Alike QueryInput.listed (QueryInput.ofJson d) (QueryInput.ofJson d') := by
  induction h with
  | rel d d' h =>
      obtain ⟨fields, fields', rfl, rfl, hfields⟩ := h.same
      exact hfields
  | refl d => exact .refl _
  | symm d d' _ ih => exact Eq.symm ih
  | trans d d' d'' _ _ ih ih' => exact ih.trans ih'

end Respelling

open Respelling

/-- Two documents compile to the same query, or fail with the same error of an expression, or are
both refused as documents. -/
def Compiler.CompilesAlike (c : Compiler) (d d' : Json) : Prop :=
  (∃ query, c.compileJson d = .ok query ∧ c.compileJson d' = .ok query) ∨
    (∃ e, c.compileJson d = .error (.expression e) ∧ c.compileJson d' = .error (.expression e)) ∨
    ∃ e e', c.compileJson d = .error (.input e) ∧ c.compileJson d' = .error (.input e')

/-- However a query document is spelled, it compiles alike. -/
theorem respelled_compile_alike (c : Compiler) {d d' : Json} (h : Respelled d d') :
    c.CompilesAlike d d' := by
  rcases alike_iff.mp (alike_ofJson h) with ⟨e, e', he, he'⟩ | ⟨a, b, ha, hb, hab⟩
  · right; right
    refine ⟨e, e', ?_, ?_⟩
    · rw [Compiler.compileJson, he]; rfl
    · rw [Compiler.compileJson, he']; rfl
  · have hcompile : c.compile a = c.compile b := by
      rw [← c.compile_listed a, hab, c.compile_listed b]
    have hd : c.compileJson d = (c.compile a).mapError .expression := by
      rw [Compiler.compileJson, ha]; rfl
    have hd' : c.compileJson d' = (c.compile a).mapError .expression := by
      rw [Compiler.compileJson, hb, hcompile]; rfl
    cases hquery : c.compile a with
    | ok query =>
        rw [hquery] at hd hd'
        exact .inl ⟨query, hd, hd'⟩
    | error e =>
        rw [hquery] at hd hd'
        exact .inr (.inl ⟨e, hd, hd'⟩)

/-- Every kind of rewriting at once: another key, a list for a name, a null and an unknown key in an
entry of the filter, then an object for the list of its entries, a list for the only order, and
other keys for both. -/
theorem respelled_compile_alike_of_each :
    let value : String × Json := ("value", .bool true)
    let order : Json := .object [("property", .string "b")]
    let entries (fields : List (String × Json)) : Json :=
      .list [.object fields, .string "c = 1"]
    let d : Json := .object
      [("filter", entries [("property", .string "a"), value]), ("order", order)]
    let d' : Json := .object
      [("orders", .list [order]),
        ("filters", .object [("filters", entries
          [("note", .null), ("func", .null), ("fields", .list [.string "a"]), value])])]
    Respelled d d' ∧ ∀ c : Compiler, c.CompilesAlike d d' := by
  intro value order entries d d'
  have hfilter : ⟨["filter", "filters"], true, some .filterSection⟩ ∈ slots .query := by
    simp [slots]
  have horder : ⟨["order", "orders"], true, some .orderSection⟩ ∈ slots .query := by
    simp [slots]
  have hproperty : ⟨["property", "fields"], true, some .names⟩ ∈ slots .filter := by
    simp [slots]
  have hfunc : ⟨["func", "function"], true, none⟩ ∈ slots .filter := by
    simp [slots]
  -- What is rewritten in the entry is rewritten in the document.
  have hentry (fields fields' : List (String × Json))
      (h : Step (.record .filter) (.object fields) (.object fields')) :
      Respelled (.object [("filter", entries fields), ("order", order)])
        (.object [("filter", entries fields'), ("order", order)]) := by
    have hentries : Step .entries (entries fields) (entries fields') :=
      .entry [] [.string "c = 1"] h
    exact .rel _ _ (.inside hfilter (by simp) rfl (.entries hentries) (.refl _) (.refl _))
  have hkey := hentry [("property", .string "a"), value] [("fields", .string "a"), value]
    (.rename hproperty (by simp) (by simp) (by simp [Absent, value]) (.refl _) (.refl _))
  have hlist := hentry [("fields", .string "a"), value] [("fields", .list [.string "a"]), value]
    (.inside hproperty (by simp) rfl .namesOfName (.refl _) (.refl _))
  have hnull := hentry [("fields", .list [.string "a"]), value]
    [("func", .null), ("fields", .list [.string "a"]), value]
    (.null hfunc rfl (by simp) (by simp [Absent, value]) (.refl _))
  have hnote := hentry [("func", .null), ("fields", .list [.string "a"]), value]
    [("note", .null), ("func", .null), ("fields", .list [.string "a"]), value]
    (.unknown (by simp [slots]) (.refl _))
  let inner := entries [("note", .null), ("func", .null), ("fields", .list [.string "a"]), value]
  have hobject : Respelled (.object [("filter", inner), ("order", order)])
      (.object [("filter", .object [("filters", inner)]), ("order", order)]) :=
    .rel _ _ (.inside hfilter (by simp) rfl .filterOfEntries (.refl _) (.refl _))
  have hfilters : Respelled
      (.object [("filter", .object [("filters", inner)]), ("order", order)])
      (.object [("order", order), ("filters", .object [("filters", inner)])]) :=
    .rel _ _ (.rename hfilter (by simp) (by simp) (by simp [Absent]) (.refl _) (.swap _ _ _))
  have hone : Respelled
      (.object [("order", order), ("filters", .object [("filters", inner)])])
      (.object [("order", .list [order]), ("filters", .object [("filters", inner)])]) :=
    .rel _ _ (.inside horder (by simp) rfl .ordersOfOrder (.refl _) (.refl _))
  have horders : Respelled
      (.object [("order", .list [order]), ("filters", .object [("filters", inner)])]) d' :=
    .rel _ _ (.rename horder (by simp) (by simp) (by simp [Absent]) (.refl _) (.refl _))
  have hrespelled : Respelled d d' :=
    hkey.trans _ _ _ (hlist.trans _ _ _ (hnull.trans _ _ _ (hnote.trans _ _ _
      (hobject.trans _ _ _ (hfilters.trans _ _ _ (hone.trans _ _ _ horders))))))
  exact ⟨hrespelled, fun c => respelled_compile_alike c hrespelled⟩

end Criteria
