/-
# `Criteria.Proofs.SortKeys` — the body of ORDER BY lists the keys of the orders

## What is proved

For every query whose orders have no text of the caller's own, and in either
mode: the body of ORDER BY, divided at the commas that no parenthesis is open
around, and read part by part, is the list of what the orders sort by
(`Order.items`), one order after the other; and these are the orders that the
query describes, each with the mode, the direction, the fields and the values
that its description has (`OrderInput.Describes`).  The values of a key are read
as literals with their contents, or as placeholders of which the values are
bound in the same sequence.

## Why the parts are the keys

Commas stand between orders, between the columns of an order, between a column
and its values, and between values; and a value may have any of them in its
literal.  The last kind is gone among tokens (`Template.Reads`).  What is left
is that a key is divided nowhere: wherever it stands, reading through it puts
all of its tokens behind what is read of the part, and leaves no parenthesis
open (`Reader.Whole`).  Lists of keys, joined and joined again, are one list of
all keys (`Template.joined_map_joined`), where an order without keys leaves no
comma behind.
-/
import Criteria.Order.Meaning
import Criteria.Proofs.OrderDescriptions
import Criteria.Proofs.Query
import Criteria.Proofs.Reading

namespace Criteria

open Outcome Sql

/-! ## Dividing -/

namespace Sql.Reader

variable {depth : Nat} {read ts rest : List Token} {t : Token}

theorem divide_cons (hcomma : t ≠ .comma) (hleft : t ≠ .leftParen) (hright : t ≠ .rightParen) :
    divide depth read (t :: rest) = divide depth (read ++ [t]) rest := by
  cases t with
  | comma => exact absurd rfl hcomma
  | leftParen => exact absurd rfl hleft
  | rightParen => exact absurd rfl hright
  | _ => rfl

/-- Tokens without commas and parentheses go into the part that is being read. -/
theorem divide_plain (h : ∀ t ∈ ts, t ≠ .comma ∧ t ≠ .leftParen ∧ t ≠ .rightParen) :
    divide depth read (ts ++ rest) = divide depth (read ++ ts) rest := by
  induction ts generalizing read with
  | nil => rw [List.nil_append, List.append_nil]
  | cons t ts ih =>
      obtain ⟨⟨hcomma, hleft, hright⟩, hts⟩ := List.forall_mem_cons.mp h
      rw [List.cons_append, divide_cons hcomma hleft hright, ih hts, List.append_assoc,
        List.singleton_append]

/-- In parentheses commas go into the part as well. -/
theorem divide_inside (h : ∀ t ∈ ts, t ≠ .leftParen ∧ t ≠ .rightParen) :
    divide (depth + 1) read (ts ++ rest) = divide (depth + 1) (read ++ ts) rest := by
  induction ts generalizing read with
  | nil => rw [List.nil_append, List.append_nil]
  | cons t ts ih =>
      obtain ⟨⟨hleft, hright⟩, hts⟩ := List.forall_mem_cons.mp h
      have hstep : divide (depth + 1) read (t :: (ts ++ rest)) =
          divide (depth + 1) (read ++ [t]) (ts ++ rest) := by
        by_cases hcomma : t = .comma
        · rw [hcomma, divide, if_neg (Nat.succ_ne_zero depth)]
        · exact divide_cons hcomma hleft hright
      rw [List.cons_append, hstep, ih hts, List.append_assoc, List.singleton_append]

/-- Where no parenthesis is open, the tokens go into one part, and leave none open. -/
def Whole (ts : List Token) : Prop :=
  ∀ read rest, divide 0 read (ts ++ rest) = divide 0 (read ++ ts) rest

theorem whole_plain (h : ∀ t ∈ ts, t ≠ .comma ∧ t ≠ .leftParen ∧ t ≠ .rightParen) : Whole ts := by
  intro read rest
  exact divide_plain h

theorem Whole.append {us : List Token} (hts : Whole ts) (hus : Whole us) : Whole (ts ++ us) := by
  intro read rest
  rw [List.append_assoc, hts, hus, List.append_assoc]

theorem whole_enclosed (h : ∀ t ∈ ts, t ≠ .leftParen ∧ t ≠ .rightParen) :
    Whole (.leftParen :: (ts ++ [.rightParen])) := by
  intro read rest
  calc divide 0 read (.leftParen :: (ts ++ [.rightParen]) ++ rest)
      = divide 1 (read ++ [.leftParen]) (ts ++ .rightParen :: rest) := by
        rw [List.cons_append, List.append_assoc]
        rfl
    _ = divide 1 (read ++ [.leftParen] ++ ts) (.rightParen :: rest) := divide_inside h
    _ = divide 0 (read ++ .leftParen :: (ts ++ [.rightParen])) rest := by
        rw [divide, List.append_assoc, List.append_assoc]
        rfl

/-- Parts with commas between are divided into these parts. -/
theorem divide_intercalate {parts : List (List Token)} (hne : parts ≠ [])
    (h : ∀ part ∈ parts, Whole part) : divide 0 [] ([Token.comma].intercalate parts) = parts := by
  induction parts with
  | nil => exact absurd rfl hne
  | cons part others ih =>
      obtain ⟨hpart, hothers⟩ := List.forall_mem_cons.mp h
      cases others with
      | nil =>
          have hend := hpart [] []
          rw [List.append_nil] at hend
          rw [List.intercalate_singleton, hend]
          rfl
      | cons other others =>
          rw [List.intercalate_cons_cons, List.append_assoc, hpart, List.nil_append,
            List.singleton_append, divide, if_pos rfl, ih (List.cons_ne_nil _ _) hothers]

end Sql.Reader

/-! ## Reading one key -/

/-- The name of a column is read to its end, and where no point follows it. -/
theorem FieldName.read_column (field : FieldName) {rest : List Token}
    (hrest : rest.head? ≠ some .point) : Reader.column (field.tokens ++ rest) =
      some ((field.qualifier.map Identifier.text, field.name.text), rest) := by
  cases rest with
  | cons t rest => exact field.read_tokens rest fun ht => hrest (by rw [ht]; rfl)
  | nil =>
      obtain ⟨qualifier, name⟩ := field
      cases qualifier with
      | none => simp [tokens, Reader.column, name.upper_notMem_reserved]
      | some qualifier => simp [tokens, Reader.column, qualifier.upper_notMem_reserved]

theorem FieldName.plain_tokens (field : FieldName) :
    ∀ t ∈ field.tokens, t ≠ .comma ∧ t ≠ .leftParen ∧ t ≠ .rightParen := by
  obtain ⟨qualifier, name⟩ := field
  cases qualifier <;> simp [tokens]

/-- Behind the first word of a name there is no parenthesis. -/
theorem FieldName.tokens_eq_cons (field : FieldName) (rest : List Token) :
    ∃ word others, field.tokens ++ rest = .word word :: others ∧
      (others.head? = some .leftParen → rest.head? = some .leftParen) := by
  obtain ⟨qualifier, name⟩ := field
  cases qualifier with
  | none => exact ⟨name.text, rest, rfl, id⟩
  | some qualifier => exact ⟨qualifier.text, .point :: .word name.text :: rest, rfl, by simp⟩

namespace SortKey

theorem plain_suffixTokens (direction : Option Direction) :
    ∀ t ∈ suffixTokens direction, t ≠ .comma ∧ t ≠ .leftParen ∧ t ≠ .rightParen := by
  cases direction <;> simp [suffixTokens]

theorem head?_suffixTokens (direction : Option Direction) :
    (suffixTokens direction).head? ≠ some .point ∧
      (suffixTokens direction).head? ≠ some .leftParen := by
  cases direction <;> simp [suffixTokens]

theorem read_direction (direction : Option Direction) :
    Reader.direction (suffixTokens direction) = some direction := by
  cases direction with
  | none => rfl
  | some d => cases d <;> decide

end SortKey

theorem Scalar.read_written (mode : BindMode) (v : Scalar) :
    Reader.writtenValue (Lexeme.write mode (.value v)) = some (v.written mode) := by
  cases mode <;> rfl

/-- The values of a key are read, with the parenthesis behind them. -/
theorem Scalar.read_writtenValues (mode : BindMode) {values : List Scalar} (hne : values ≠ [])
    (rest : List Token) :
    Reader.writtenValues ([Token.comma].intercalate
        (values.map fun v => [Lexeme.write mode (.value v)]) ++ .rightParen :: rest) =
      some (values.map (written mode), rest) := by
  induction values with
  | nil => exact absurd rfl hne
  | cons v others ih =>
      cases others with
      | nil =>
          rw [List.map_singleton, List.intercalate_singleton, List.singleton_append,
            Reader.writtenValues, read_written]
          rfl
      | cons w others =>
          have hothers := ih (List.cons_ne_nil _ _)
          rw [List.map_cons] at hothers
          rw [List.map_cons, List.map_cons, List.intercalate_cons_cons, List.append_assoc,
            List.append_assoc, List.singleton_append, List.singleton_append, Reader.writtenValues,
            read_written, hothers]
          rfl

namespace SortKey

/-- What a key that is no text of the caller's own sorts by; the values of a key may not be
missing. -/
def item? : SortKey → Option (SortItem Scalar)
  | random => some .random
  | raw _ => none
  | column c direction => some (.column (c.qualifier.map Identifier.text) c.name.text direction)
  | position _ [] _ => none
  | position c (v :: others) direction =>
    some (.position (c.qualifier.map Identifier.text) c.name.text (v :: others) direction)

theorem values_position (dialect : Dialect) (c : FieldName) (values : List Scalar)
    (direction : Option Direction) :
    ((position c values direction).template dialect).values = values := by
  cases dialect
  simp [template, Dialect.fieldOrder, Template.values_joined, List.flatMap_map]

theorem values_template {key : SortKey} {item : SortItem Scalar} (h : key.item? = some item)
    (dialect : Dialect) : (key.template dialect).values = item.values := by
  cases key with
  | random | column =>
      obtain rfl := Option.some.inj h
      rfl
  | raw text => cases h
  | position c values direction =>
      cases values with
      | nil => cases h
      | cons v others =>
          obtain rfl := Option.some.inj h
          exact values_position dialect c (v :: others) direction

theorem read_column (c : FieldName) (direction : Option Direction) :
    Reader.Whole (c.tokens ++ suffixTokens direction) ∧
      Reader.sortItem (c.tokens ++ suffixTokens direction) =
        some (.column (c.qualifier.map Identifier.text) c.name.text direction) := by
  obtain ⟨hpoint, hparen⟩ := head?_suffixTokens direction
  refine ⟨?_, ?_⟩
  · exact (Reader.whole_plain c.plain_tokens).append
      (Reader.whole_plain (plain_suffixTokens direction))
  · have hcolumn := c.read_column hpoint
    obtain ⟨word, others, htokens, hothers⟩ := c.tokens_eq_cons (suffixTokens direction)
    rw [htokens] at hcolumn ⊢
    unfold Reader.sortItem
    split
    · next heq =>
        obtain ⟨-, rfl⟩ := List.cons_eq_cons.mp heq
        exact absurd (hothers rfl) hparen
    · rw [hcolumn]
      simp only [Option.bind_eq_bind, Option.bind_some, read_direction]
      rfl

theorem read_position (c : FieldName) {values : List Scalar} (hne : values ≠ [])
    (direction : Option Direction) (mode : BindMode) :
    let inner := c.tokens ++ .comma :: [Token.comma].intercalate
      (values.map fun v => [Lexeme.write mode (.value v)])
    let tokens := .word "FIELD" :: (.leftParen :: (inner ++ [.rightParen])) ++
      suffixTokens direction
    Reader.Whole tokens ∧
      Reader.sortItem tokens = some (.position (c.qualifier.map Identifier.text) c.name.text
        (values.map (Scalar.written mode)) direction) := by
  intro inner tokens
  constructor
  · have hvalues : ∀ t ∈ [Token.comma].intercalate
        (values.map fun v => [Lexeme.write mode (.value v)]), t ≠ .leftParen ∧ t ≠ .rightParen := by
      refine Parts.forall_mem_intercalate (by simp) (List.forall_mem_map.mpr fun v _ => ?_)
      cases mode <;> simp [Lexeme.write]
    have hinner : ∀ t ∈ inner, t ≠ .leftParen ∧ t ≠ .rightParen := by
      refine List.forall_mem_append.mpr ⟨?_, List.forall_mem_cons.mpr ⟨by simp, hvalues⟩⟩
      intro t ht
      exact (c.plain_tokens t ht).2
    have hword : Reader.Whole [.word "FIELD"] := Reader.whole_plain (by simp)
    exact (hword.append (Reader.whole_enclosed hinner)).append
      (Reader.whole_plain (plain_suffixTokens direction))
  · let behind := Token.comma :: ([Token.comma].intercalate
      (values.map fun v => [Lexeme.write mode (.value v)]) ++ .rightParen ::
        suffixTokens direction)
    have hpoint : behind.head? ≠ some .point := by simp [behind]
    have hcolumn := c.read_column hpoint
    have hvalues := Scalar.read_writtenValues mode hne (suffixTokens direction)
    have hrandom : Text.upper "FIELD" ≠ "RAND" := by decide
    have hfield : Text.upper "FIELD" = "FIELD" := by decide
    have htokens : tokens = .word "FIELD" :: .leftParen :: (c.tokens ++ behind) := by
      simp [tokens, inner, behind]
    rw [htokens, Reader.sortItem, if_neg hrandom, if_pos hfield, hcolumn]
    simp only [Option.bind_eq_bind, Option.bind_some, behind, hvalues, read_direction]
    rfl

/-- The tokens of a key are one part, which is read as what the key sorts by. -/
theorem read_item {key : SortKey} {item : SortItem Scalar} (h : key.item? = some item)
    (mode : BindMode) :
    Reader.Whole (key.lexemes.map (Lexeme.write mode)) ∧
      Reader.sortItem (key.lexemes.map (Lexeme.write mode)) =
        some (item.map (Scalar.written mode)) := by
  cases key with
  | random =>
      obtain rfl := Option.some.inj h
      have hword : Reader.Whole [.word "RAND"] := Reader.whole_plain (by simp)
      have hcall : Reader.Whole [.leftParen, .rightParen] :=
        Reader.whole_enclosed (List.forall_mem_nil _)
      exact ⟨hword.append hcall, rfl⟩
  | raw text => cases h
  | column c direction =>
      obtain rfl := Option.some.inj h
      simpa [lexemes, Function.comp_def, SortItem.map] using read_column c direction
  | position c values direction =>
      cases values with
      | nil => cases h
      | cons v others =>
          obtain rfl := Option.some.inj h
          have hread := read_position c (List.cons_ne_nil v others) direction mode
          simpa [lexemes, Function.comp_def, Parts.map_intercalate, SortItem.map] using hread

end SortKey

/-! ## The keys of an order -/

namespace Order

variable {order : Order} {resolver : Resolver} {keys : List SortKey}

theorem direction_eq (order : Order) : order.direction = order.commonDirection := by
  unfold direction commonDirection
  cases order.ownDirection with
  | some direction => rfl
  | none =>
      cases order.mode with
      | none => rfl
      | some mode => cases mode <;> rfl

theorem values_ne_nil_of_valueKeys (h : order.valueKeys resolver = .ok keys) :
    order.values ≠ [] := by
  intro hvalues
  unfold valueKeys at h
  by_cases hfields : order.fields.isEmpty <;> simp [hfields, hvalues] at h

/-- With values each column has a key of its own, for its place among them. -/
theorem item?_valueKeys (h : order.valueKeys resolver = .ok keys) :
    keys.map SortKey.item? =
      ((order.fields.flatMap resolver.resolve).map order.columnItem).map some := by
  have hvalues := values_ne_nil_of_valueKeys h
  obtain ⟨columns, hcolumns, rfl⟩ := valueKeys_eq_ok h
  obtain ⟨rfl, -⟩ := Resolver.columns_eq_ok.mp hcolumns
  rw [List.map_map, List.map_map]
  refine List.map_congr_left fun column _ => ?_
  obtain ⟨v, others, hcons⟩ := List.exists_cons_of_ne_nil hvalues
  simp [columnItem, hcons, SortKey.item?, direction_eq]

/-- Without values each column has a key of its own. -/
theorem item?_fieldKeys (hvalues : order.values = []) (h : order.fieldKeys resolver = .ok keys) :
    keys.map SortKey.item? =
      ((order.fields.flatMap resolver.resolve).map order.columnItem).map some := by
  obtain ⟨columns, hcolumns, rfl⟩ := fieldKeys_eq_ok h
  obtain ⟨rfl, -⟩ := Resolver.columns_eq_ok.mp hcolumns
  rw [List.map_map, List.map_map]
  refine List.map_congr_left fun column _ => ?_
  simp [columnItem, hvalues, SortKey.item?, direction_eq]

theorem customKeys_ne_ok (hown : ∀ s ∈ order.ownTexts, s = "") : order.customKeys ≠ .ok keys := by
  intro h
  obtain ⟨s, hs, hne, -⟩ := customKeys_eq_ok h
  exact hne (hown s hs)

/-- Where no mode decides, the values do, and then the fields. -/
theorem item?_undecidedKeys (hown : ∀ s ∈ order.ownTexts, s = "")
    (h : (if order.ownText?.isSome then order.customKeys
      else if !order.values.isEmpty then order.valueKeys resolver
      else if !order.fields.isEmpty then order.fieldKeys resolver
      else .ok []) = .ok keys) :
    keys.map SortKey.item? =
      ((order.fields.flatMap resolver.resolve).map order.columnItem).map some := by
  split at h
  · exact absurd h (customKeys_ne_ok hown)
  · split at h
    · exact item?_valueKeys h
    · next hvalues =>
        have hvalues : order.values = [] := by simpa using hvalues
        split at h
        · exact item?_fieldKeys hvalues h
        · next hfields =>
            have hfields : order.fields = [] := by simpa using hfields
            obtain rfl := Except.ok.inj h
            rw [hfields]
            rfl

/-- The keys of an order without a text of the caller's own are what the order sorts by. -/
theorem item?_keys (hown : ∀ s ∈ order.ownTexts, s = "") (h : order.keys resolver = .ok keys) :
    keys.map SortKey.item? = (order.items resolver).map some := by
  unfold items
  unfold Order.keys at h
  cases hactive : order.active with
  | false =>
      obtain rfl : keys = [] := by simpa [hactive] using h.symm
      rfl
  | true =>
      simp only [hactive, Bool.not_true, Bool.false_eq_true, if_false] at h
      rw [if_neg (by simp)]
      cases hmode : order.mode with
      | none =>
          rw [hmode] at h
          exact item?_undecidedKeys hown h
      | some mode =>
          rw [hmode] at h
          cases mode with
          | random =>
              obtain rfl := Except.ok.inj h
              rfl
          | custom => exact absurd h (customKeys_ne_ok hown)
          | values => exact item?_valueKeys h
          | asc | desc => exact item?_undecidedKeys hown h

end Order

/-! ## The keys of all orders -/

namespace Template

variable {between : String} {t : Template} {ts us : List Template} {tss : List (List Template)}

theorem isBlank_joined (hne : ts ≠ []) (h : ∀ t ∈ ts, t.isBlank = false) :
    (joined between ts).isBlank = false := by
  cases ts with
  | nil => exact absurd rfl hne
  | cons t rest =>
      have ht := h t List.mem_cons_self
      cases rest with
      | nil => simpa [joined] using ht
      | cons u rest =>
          rw [joined_cons_cons, isBlank, List.all_append]
          exact Bool.and_eq_false_imp.mpr fun hblank => absurd hblank (by rw [← isBlank, ht]; simp)

theorem joined_append (hts : ts ≠ []) (hus : us ≠ []) :
    joined between (ts ++ us) = joined between ts ++ (ofText between ++ joined between us) := by
  induction ts with
  | nil => exact absurd rfl hts
  | cons t rest ih =>
      cases rest with
      | nil =>
          obtain ⟨u, others, rfl⟩ := List.exists_cons_of_ne_nil hus
          simp [joined]
      | cons v rest =>
          have hrest := ih (List.cons_ne_nil _ _)
          rw [List.cons_append, List.cons_append, joined_cons_cons, ← List.cons_append, hrest,
            joined_cons_cons, List.append_assoc, List.append_assoc]

/-- Lists that are joined, and then joined again, are one list that is joined. -/
theorem joined_map_joined (h : ∀ ts ∈ tss, ts ≠ []) :
    joined between (tss.map (joined between)) = joined between tss.flatten := by
  induction tss with
  | nil => rfl
  | cons ts rest ih =>
      obtain ⟨hts, hrest⟩ := List.forall_mem_cons.mp h
      cases rest with
      | nil => simp [joined]
      | cons us rest =>
          have hus : (us :: rest).flatten ≠ [] := by
            rw [List.flatten_cons]
            exact fun hnil => hrest us List.mem_cons_self (List.append_eq_nil_iff.mp hnil).1
          rw [List.flatten_cons, joined_append hts hus, List.map_cons, List.map_cons,
            joined_cons_cons, ← List.map_cons, ih hrest]

/-- A list without members leaves no text behind, and is left out. -/
theorem joined_filter_joined (h : ∀ ts ∈ tss, ∀ t ∈ ts, t.isBlank = false) :
    joined between ((tss.map (joined between)).filter fun t => !t.isBlank) =
      joined between tss.flatten := by
  have hkept : (tss.map (joined between)).filter (fun t => !t.isBlank) =
      (tss.filter fun ts => !ts.isEmpty).map (joined between) := by
    rw [List.filter_map]
    refine congrArg _ (List.filter_congr fun ts hts => ?_)
    cases ts with
    | nil => rfl
    | cons t rest => simp [isBlank_joined (List.cons_ne_nil t rest) (h _ hts)]
  have hne : ∀ ts ∈ tss.filter fun ts => !ts.isEmpty, ts ≠ [] := by
    intro ts hts
    simpa using (List.mem_filter.mp hts).2
  rw [hkept, joined_map_joined hne, List.flatten_filter_not_isEmpty]

end Template

namespace SortKey

/-- A key is no text of the caller's own. -/
theorem ne_raw_of_item? {key : SortKey} {item : SortItem Scalar} (h : key.item? = some item) :
    ∀ text, key ≠ .raw text := by
  rintro text rfl
  cases h

theorem lexemes_ne_nil {key : SortKey} {item : SortItem Scalar} (h : key.item? = some item) :
    key.lexemes ≠ [] := by
  intro hnil
  have hread := (read_item h .inline).2
  rw [hnil] at hread
  cases hread

theorem isBlank_template {key : SortKey} {item : SortItem Scalar} (h : key.item? = some item)
    (dialect : Dialect) : (key.template dialect).isBlank = false := by
  refine Bool.eq_false_iff.mpr fun hblank => ?_
  have htext : (key.template dialect).sql .inline = "" := Template.sql_eq_empty_iff.mpr hblank
  have htokens := (key.reads dialect (ne_raw_of_item? h)).tokens?_sql .inline
  rw [htext] at htokens
  exact lexemes_ne_nil h (List.map_eq_nil_iff.mp (Option.some.inj htokens).symm)

variable {keys : List SortKey} {items : List (SortItem Scalar)}

theorem exists_item?_of_mem (h : keys.map item? = items.map some) :
    ∀ key ∈ keys, ∃ item, key.item? = some item := by
  intro key hkey
  have hmem : key.item? ∈ items.map some := h ▸ List.mem_map_of_mem hkey
  obtain ⟨item, -, hitem⟩ := List.mem_map.mp hmem
  exact ⟨item, hitem.symm⟩

theorem read_items (h : keys.map item? = items.map some) (mode : BindMode) :
    (keys.map fun key => key.lexemes.map (Lexeme.write mode)).mapM Reader.sortItem =
      some (items.map (SortItem.map (Scalar.written mode))) := by
  induction keys generalizing items with
  | nil =>
      obtain rfl := List.map_eq_nil_iff.mp h.symm
      rfl
  | cons key rest ih =>
      cases items with
      | nil => cases h
      | cons item others =>
          obtain ⟨hitem, hothers⟩ := List.cons_eq_cons.mp h
          rw [List.map_cons, List.mapM_cons, (read_item hitem mode).2, ih hothers]
          rfl

theorem flatMap_values (h : keys.map item? = items.map some) (dialect : Dialect) :
    (keys.map (template dialect)).flatMap Template.values = items.flatMap SortItem.values := by
  rw [List.flatMap_map, List.flatMap_def, List.flatMap_def]
  refine congrArg List.flatten (map_eq_map_of_map_eq_map h ?_)
  intro key _ item _ hitem
  exact values_template hitem dialect

/-- The text of keys that are no texts of the caller's own is read as what they sort by. -/
theorem sortItems?_joined (h : keys.map item? = items.map some) (dialect : Dialect)
    (mode : BindMode) :
    sortItems? ((Template.joined ", " (keys.map (template dialect))).sql mode) =
      some (items.map (SortItem.map (Scalar.written mode))) := by
  have hkeys := exists_item?_of_mem h
  let parts := keys.map fun key => key.lexemes.map (Lexeme.write mode)
  have htokens : tokens? ((Template.joined ", " (keys.map (template dialect))).sql mode) =
      some ([Token.comma].intercalate parts) := by
    have hreads : (Template.joined ", " (keys.map (template dialect))).Reads
        ([.token .comma].intercalate (keys.map lexemes)) := by
      refine Template.Reads.joined closed_comma (by simp) rfl (by decide) fun key hkey => ?_
      obtain ⟨item, hitem⟩ := hkeys key hkey
      exact key.reads dialect (ne_raw_of_item? hitem)
    rw [hreads.tokens?_sql mode, Parts.map_intercalate, List.map_map]
    rfl
  have hwhole : ∀ part ∈ parts, Reader.Whole part := by
    refine List.forall_mem_map.mpr fun key hkey => ?_
    obtain ⟨item, hitem⟩ := hkeys key hkey
    exact (read_item hitem mode).1
  have hread : parts.mapM Reader.sortItem = some (items.map (SortItem.map (Scalar.written mode))) :=
    read_items h mode
  unfold sortItems?
  rw [htokens, Option.bind_eq_bind, Option.bind_some]
  cases keys with
  | nil =>
      obtain rfl := List.map_eq_nil_iff.mp h.symm
      rfl
  | cons key rest =>
      have hdivided : Reader.divide 0 [] ([Token.comma].intercalate parts) = parts :=
        Reader.divide_intercalate (List.cons_ne_nil _ _) hwhole
      split
      · next hnil =>
          -- Without tokens there is one part, and it is empty, but no key is.
          rw [hnil] at hdivided
          obtain ⟨item, hitem⟩ := hkeys key List.mem_cons_self
          obtain ⟨hempty, -⟩ := List.cons_eq_cons.mp hdivided
          exact absurd (List.map_eq_nil_iff.mp hempty.symm) (lexemes_ne_nil hitem)
      · rw [hdivided, hread]

end SortKey

/-! ## Queries -/

namespace Compiler

variable {c : Compiler}

/-- Each order that is described compiles to its keys, joined. -/
theorem mapM_orderTemplate_eq_ok {inputs : List OrderInput} {ts : List Template}
    (h : inputs.mapM c.orderTemplate = .ok ts) :
    ∃ (orders : List Order) (keys : List (List SortKey)),
      inputs.map OrderInput.toOrder = orders.map .ok ∧
        orders.map (Order.keys · c.resolver) = keys.map .ok ∧
        ts = (keys.map (List.map (SortKey.template c.dialect))).map (Template.joined ", ") := by
  induction inputs generalizing ts with
  | nil =>
      obtain rfl := Except.ok.inj h
      exact ⟨[], [], rfl, rfl, rfl⟩
  | cons input rest ih =>
      rw [List.mapM_cons] at h
      obtain ⟨t, ht, h⟩ := bind_eq_ok.mp h
      obtain ⟨others, hothers, h⟩ := bind_eq_ok.mp h
      obtain rfl := Except.ok.inj h
      obtain ⟨order, horder, ht⟩ := bind_eq_ok.mp ht
      obtain ⟨orderKeys, hkeys, rfl⟩ := map_eq_ok.mp ht
      obtain ⟨orders, keys, horders, hrest, rfl⟩ := ih hothers
      have hkeys : order.keys c.resolver = .ok orderKeys := hkeys
      refine ⟨order :: orders, orderKeys :: keys, ?_, ?_, rfl⟩
      · rw [List.map_cons, horder, horders, List.map_cons]
      · rw [List.map_cons, hkeys, hrest, List.map_cons]

/-- The keys of orders without text of the caller's own are what the orders sort by. -/
theorem item?_flatten {orders : List Order} {keys : List (List SortKey)} {resolver : Resolver}
    (hown : ∀ order ∈ orders, ∀ s ∈ order.ownTexts, s = "")
    (h : orders.map (Order.keys · resolver) = keys.map .ok) :
    keys.flatten.map SortKey.item? = (orders.flatMap (Order.items resolver)).map some := by
  have hitems : orders.map (fun order => (order.items resolver).map some) =
      keys.map (List.map SortKey.item?) := by
    refine map_eq_map_of_map_eq_map h ?_
    intro order horder orderKeys _ hkeys
    exact (Order.item?_keys (hown order horder) hkeys).symm
  rw [List.map_flatten, ← hitems, List.map_flatMap, List.flatMap_def]

/-- The template of orders without text of the caller's own is that of one list of keys. -/
theorem ordersTemplate_eq_keys {inputs : List OrderInput} {t : Template}
    (hown : ∀ order ∈ inputs, ∀ s ∈ order.ownTexts, s = "") (h : c.ordersTemplate inputs = .ok t) :
    ∃ (orders : List Order) (keys : List SortKey), inputs.map OrderInput.toOrder = orders.map .ok ∧
      keys.map SortKey.item? = (orders.flatMap (Order.items c.resolver)).map some ∧
      t = Template.joined ", " (keys.map (SortKey.template c.dialect)) := by
  obtain ⟨ts, hts, rfl⟩ := map_eq_ok.mp h
  obtain ⟨orders, keys, horders, hkeys, rfl⟩ := mapM_orderTemplate_eq_ok hts
  have htexts : ∀ order ∈ orders, ∀ s ∈ order.ownTexts, s = "" := by
    intro order horder
    have hmem : Except.ok order ∈ inputs.map OrderInput.toOrder := by
      rw [horders]
      exact List.mem_map_of_mem horder
    obtain ⟨input, hinput, hread⟩ := List.mem_map.mp hmem
    rw [OrderInput.ownTexts_toOrder hread]
    exact hown input hinput
  have hitems := item?_flatten htexts hkeys
  refine ⟨orders, keys.flatten, horders, hitems, ?_⟩
  rw [Template.joined_filter_joined, List.map_flatten]
  refine List.forall_mem_map.mpr fun orderKeys horderKeys => List.forall_mem_map.mpr ?_
  intro key hkey
  have hmem : key ∈ keys.flatten := List.mem_flatten.mpr ⟨orderKeys, horderKeys, hkey⟩
  obtain ⟨item, hitem⟩ := SortKey.exists_item?_of_mem hitems key hmem
  exact SortKey.isBlank_template hitem c.dialect

theorem values_pageTemplate {input : PageInput} {t : Template} (h : c.pageTemplate input = .ok t) :
    t.values = [] := by
  obtain rfl := Except.ok.inj h
  split <;> rfl

end Compiler

/-- Divided at the commas outside of parentheses and literals, the body of ORDER BY is what the
orders sort by that the query describes, one order after the other; and the values are bound in the
same sequence. -/
theorem order_body_lists_keys {c : Compiler} {input : QueryInput} {query : CompiledQuery}
    (hown : ∀ order ∈ input.orders, ∀ s ∈ order.ownTexts, s = "")
    (h : c.compile input = .ok query) :
    OneOrMany.Lists input.order input.orders ∧
    ∃ (orders : List Order) (filter : Fragment),
      List.Forall₂ OrderInput.Describes input.orders orders ∧
      input.orders.map OrderInput.toOrder = orders.map .ok ∧
      Compiler.compileOptional c.compileFilter input.filter = .ok filter ∧
      let items := orders.flatMap (Order.items c.resolver)
      sortItems? query.orderBody =
          some (items.map (SortItem.map (Scalar.written c.config.bindMode))) ∧
        query.params =
          filter.params ++ c.config.bindMode.bound (items.flatMap SortItem.values) := by
  rw [Compiler.compile_eq] at h
  obtain ⟨clauses, hclauses, rfl⟩ := map_eq_ok.mp h
  obtain ⟨hfilter, horders, hpage⟩ := Compiler.clauses_eq_ok hclauses
  obtain ⟨orders, keys, hread, hitems, ht⟩ := Compiler.ordersTemplate_eq_keys hown horders
  have hlists : OneOrMany.Lists input.order input.orders := OneOrMany.lists_iff.mpr rfl
  refine ⟨hlists, orders, clauses.filter.fragment c.config.bindMode,
    OrderInput.forall₂_describes hread, hread, ?_, ?_, ?_⟩
  · rw [Compiler.compileOptional_eq c.compileFilter_eq, hfilter]
    rfl
  · show sortItems? (clauses.orders.sql c.config.bindMode) = _
    rw [ht]
    exact SortKey.sortItems?_joined hitems c.dialect c.config.bindMode
  · have hvalues : clauses.page.values = [] :=
      Compiler.of_optionalTemplate (P := fun t => t.values = []) hpage rfl
        fun page _ h => Compiler.values_pageTemplate h
    show c.config.bindMode.bound
      (clauses.filter.values ++ clauses.orders.values ++ clauses.page.values) = _
    rw [hvalues, List.append_nil, BindMode.bound_append, ht, Template.values_joined,
      SortKey.flatMap_values hitems]
    rfl

/-- Of four orders the second is switched off; the field of the first has two columns, and its
values have a comma, a parenthesis and a quote in them. -/
theorem order_body_lists_keys_of_four_orders :
    let title : FieldName := ⟨none, ⟨"title", by decide⟩⟩
    let english : FieldName := ⟨some ⟨"p", by decide⟩, ⟨"title_en", by decide⟩⟩
    let german : FieldName := ⟨none, ⟨"title_de", by decide⟩⟩
    let c : Compiler := ⟨{}, .mysql, .map [(title, [english, german])] .plain⟩
    let input : QueryInput :=
      { order := some (.many
          [{ mode := some "values", property := some (.one "title"), direction := some "asc"
             values := [.string ", )", .null, .string "'("] },
            { active := some false, property := some (.one "id") },
            { mode := some "rand", property := some (.one "id") },
            { mode := some "DESC", property := some (.one "id"), condition := some "" }]) }
    let body :=
      "FIELD(p.title_en, ', )','''(') ASC, FIELD(title_de, ', )','''(') ASC, RAND(), id DESC"
    (∀ order ∈ input.orders, ∀ s ∈ order.ownTexts, s = "") ∧
      c.compile input = .ok { orderBody := body } ∧
      sortItems? body = some
        [.position (some "p") "title_en" [.literal ", )", .literal "'("] (some .asc),
          .position none "title_de" [.literal ", )", .literal "'("] (some .asc), .random,
          .column none "id" (some .desc)] := by
  intro title english german c input body
  have hcompiled : c.compile input = .ok { orderBody := body } := rfl
  have hown : ∀ order ∈ input.orders, ∀ s ∈ order.ownTexts, s = "" := by
    simp [input, QueryInput.orders, OneOrMany.toList, OrderInput.ownTexts]
  obtain ⟨-, orders, filter, -, horders, -, hread, -⟩ := order_body_lists_keys hown hcompiled
  refine ⟨hown, hcompiled, hread.trans ?_⟩
  have hknown : orders =
      [{ mode := some .values, fields := [title], values := [.text ", )", .text "'("]
         ownDirection := some .asc },
        { active := false, fields := [⟨none, ⟨"id", by decide⟩⟩] },
        { mode := some .random, fields := [⟨none, ⟨"id", by decide⟩⟩] },
        { mode := some .desc, fields := [⟨none, ⟨"id", by decide⟩⟩], condition := some "" }] := by
    refine (List.map_inj_right fun a b hab => Except.ok.inj hab).mp (horders.symm.trans ?_)
    rfl
  rw [hknown]
  rfl

end Criteria
