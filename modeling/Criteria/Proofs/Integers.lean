/-
# `Criteria.Proofs.Integers` — whole numbers keep their value and have one form

## What is proved

A whole number of 64 bits, with or without a sign, has one scalar
(`Scalar.IsOf`), whether it comes from a document or from a word of any of the
four types: an integer up to 2 ^ 63 - 1, an unsigned number above.  The text of
the scalar is the canonical decimal of the number, is read as the number again,
and stands in a literal as it is; so two numbers are never written or bound
alike.  Of a list every scalar is kept, in its place
(`Scalar.integers_keep_value`).

## What carries it

That there is one canonical decimal is proved from the digits: a numeral
without a zero in front is, digit by digit from the last, what is written for
its number (`IsNumeral.eq_toDigits`).  A numeral of one zero is the case that
keeps zeros out of all longer ones.

The reader of documents takes digits for as long as they fit 64 bits, so a
number that fits is read to its last digit (`Json.parse?_toString`).

The ways to make a scalar test for the border at 2 ^ 63 in different terms.
They meet because each is compared with the one question whether a signed word
has the value (`Scalar.exists_word`).
-/
import Mathlib.Data.List.Induction
import Mathlib.Data.List.TakeWhile
import Criteria.Json.Reader
import Criteria.Number.Canonical
import Criteria.Proofs.Escaping

namespace Criteria

variable {cs : List Char} {n : Nat}

/-! ## Canonical decimals -/

/-- The digits of a number are folded from the first one on. -/
theorem Numeral.ofDigits_map (cs : List Char) :
    ofDigits (cs.map digitValue) = Nat.ofDigitChars 10 cs 0 := by
  rw [ofDigits, ofDigitsBase, List.foldl_map]
  rfl

theorem Numeral.ofDigits_concat (cs : List Char) (c : Char) :
    ofDigits ((cs ++ [c]).map digitValue) =
      10 * ofDigits (cs.map digitValue) + digitValue c := by
  rw [List.map_append, ofDigits, ofDigitsBase, List.foldl_append]
  rfl

theorem digitChar_digitValue {c : Char} (h : c.isDigit) :
    Nat.digitChar (Numeral.digitValue c) = c ∧ Numeral.digitValue c < 10 := by
  have hplace : 48 ≤ c.toNat ∧ c.toNat ≤ 57 := Char.isDigit_iff_toNat.mp h
  have hvalue : Numeral.digitValue c = c.toNat - 48 := rfl
  have hlt : Numeral.digitValue c < 10 := by omega
  have hchars : ∀ d < 10, Nat.digitChar d = Char.ofNat (d + 48) := by decide
  refine ⟨?_, hlt⟩
  rw [hchars _ hlt, hvalue, Nat.sub_add_cancel hplace.1, Char.ofNat_toNat]

theorem ne_of_isDigit {c d : Char} (hc : c.isDigit) (hd : d.isDigit = false) : c ≠ d := by
  rintro rfl
  exact absurd hc (Bool.eq_false_iff.mp hd)

/-- What is written for a number begins with a zero only when it is one zero. -/
theorem toDigits_of_head?_eq_zero (n : Nat) (hzero : (Nat.toDigits 10 n).head? = some '0') :
    Nat.toDigits 10 n = ['0'] := by
  induction n using Nat.strongRecOn with
  | _ n ih =>
      rcases Nat.lt_or_ge n 10 with hlt | hge
      · rw [Nat.toDigits_of_lt_base hlt] at hzero ⊢
        rw [Option.some.inj hzero]
      · obtain ⟨d, ds, hds⟩ := List.exists_cons_of_ne_nil (@Nat.toDigits_ne_nil (n / 10) 10)
        rw [Nat.toDigits_of_base_le (by decide) hge, hds] at hzero
        have hfront : Nat.toDigits 10 (n / 10) = ['0'] := ih (n / 10) (by omega) (hds ▸ hzero)
        have hvalue : Nat.ofDigitChars 10 (Nat.toDigits 10 (n / 10)) 0 = n / 10 :=
          Nat.ofDigitChars_toDigits (by decide) (by decide)
        rw [hfront] at hvalue
        have hnone : n / 10 = 0 := hvalue.symm
        omega

theorem isNumeral_toDigits (n : Nat) : IsNumeral (Nat.toDigits 10 n) n where
  nonempty := Nat.toDigits_ne_nil
  digits _ hc := Nat.isDigit_of_mem_toDigits (by decide) (by decide) hc
  leading := toDigits_of_head?_eq_zero n
  value := by
    rw [Numeral.ofDigits_map]
    exact Nat.ofDigitChars_toDigits (by decide) (by decide)

/-- What is in front of the last digit is a numeral by itself, and does not begin with a zero. -/
theorem IsNumeral.of_concat {front : List Char} {c : Char} (h : IsNumeral (front ++ [c]) n)
    (hne : front ≠ []) : front.head? ≠ some '0' ∧
      IsNumeral front (Numeral.ofDigits (front.map Numeral.digitValue)) := by
  have hhead : front.head? ≠ some '0' := by
    intro hzero
    have hone := congrArg List.length (h.leading (by rw [List.head?_append, hzero]; rfl))
    have hpos := List.length_pos_iff.mpr hne
    rw [List.length_append, List.length_singleton, List.length_singleton] at hone
    omega
  have hdigits : ∀ d ∈ front, d.isDigit := fun d hd => h.digits d (List.mem_append_left _ hd)
  exact ⟨hhead, hne, hdigits, fun hzero => absurd hzero hhead, rfl⟩

/-- A numeral is what is written for its number, digit by digit from the last. -/
theorem IsNumeral.eq_toDigits (h : IsNumeral cs n) : cs = Nat.toDigits 10 n := by
  induction cs using List.reverseRecOn generalizing n with
  | nil => exact absurd rfl h.nonempty
  | append_singleton front c ih =>
      obtain ⟨hchar, hlt⟩ := digitChar_digitValue (h.digits c (by simp))
      have hn := h.value
      rw [Numeral.ofDigits_concat] at hn
      rcases Decidable.eq_or_ne front [] with rfl | hne
      · have hc : Numeral.digitValue c = n := (Nat.zero_add _).symm.trans hn
        rw [← hc, Nat.toDigits_of_lt_base hlt, hchar]
        rfl
      · obtain ⟨hhead, hfront⟩ := h.of_concat hne
        have heq := ih hfront
        have hpos : Numeral.ofDigits (front.map Numeral.digitValue) ≠ 0 := by
          intro hzero
          rw [hzero] at heq
          exact hhead (by rw [heq]; rfl)
        have hconcat := Nat.toDigits_append_toDigits (by decide) (Nat.pos_of_ne_zero hpos) hlt
        rwa [Nat.toDigits_of_lt_base hlt, hchar, hn, ← heq] at hconcat

/-! ### Signs -/

theorem toList_toString_natural (n : Nat) : (toString (n : Int)).toList = Nat.toDigits 10 n := by
  rw [Int.toString_eq_repr, Int.repr_eq_if, if_pos (Int.natCast_nonneg n), Int.toNat_natCast,
    Nat.repr_eq_ofList_toDigits, String.toList_ofList]

theorem toList_toString_negative (hn : n ≠ 0) :
    (toString (-n : Int)).toList = '-' :: Nat.toDigits 10 n := by
  have hneg : ¬(0 : Int) ≤ -n := by omega
  rw [Int.toString_eq_repr, Int.repr_eq_if, if_neg hneg, Int.neg_neg, Int.toNat_natCast,
    Nat.repr_eq_ofList_toDigits, String.toList_append, String.toList_ofList, String.toList_ofList]
  rfl

theorem isDecimal_toString (z : Int) : IsDecimal (toString z).toList z := by
  rcases Int.lt_or_le z 0 with hneg | hnat
  · obtain ⟨n, rfl⟩ : ∃ n : Nat, z = -n := ⟨z.natAbs, by omega⟩
    have hn : n ≠ 0 := by omega
    rw [toList_toString_negative hn]
    exact .negative hn (isNumeral_toDigits n)
  · obtain ⟨n, rfl⟩ := Int.eq_ofNat_of_zero_le hnat
    rw [toList_toString_natural]
    exact .natural (isNumeral_toDigits n)

/-- A number has one canonical decimal, which is what is written for it. -/
theorem isDecimal_iff {text : String} {z : Int} :
    IsDecimal text.toList z ↔ text = toString z := by
  constructor
  · intro h
    rw [← String.toList_inj]
    generalize text.toList = cs at h
    cases h with
    | natural hn => rw [toList_toString_natural, hn.eq_toDigits]
    | negative hzero hn => rw [toList_toString_negative hzero, hn.eq_toDigits]
  · rintro rfl
    exact isDecimal_toString z

/-! ## Reading decimals -/

namespace Json

/-- What digits are added to is no greater than what they make of it. -/
theorem le_foldl_digits (digits : List Nat) (n : Nat) :
    n ≤ digits.foldl (fun n d => 10 * n + d) n := by
  induction digits generalizing n with
  | nil => exact Nat.le_refl n
  | cons d rest ih => exact Nat.le_trans (by omega) (ih (10 * n + d))

/-- Digits are all taken when the number that they make fits. -/
theorem takeFitting_eq {n : Nat} {digits : List Nat}
    (h : digits.foldl (fun n d => 10 * n + d) n < UInt64.size) :
    takeFitting n digits = (digits.foldl (fun n d => 10 * n + d) n, []) := by
  induction digits generalizing n with
  | nil => rfl
  | cons d rest ih =>
      have hfits : 10 * n + d < UInt64.size := Nat.lt_of_le_of_lt (le_foldl_digits rest _) h
      rw [takeFitting, if_pos hfits]
      exact ih h

theorem spanDigits_of_digits (h : ∀ c ∈ cs, c.isDigit) :
    Numeral.spanDigits cs = (cs.map Numeral.digitValue, []) := by
  have htake : cs.takeWhile Char.isDigit = cs := List.takeWhile_eq_self_iff.mpr h
  have hdrop : cs.dropWhile Char.isDigit = [] := List.dropWhile_eq_nil_iff.mpr h
  rw [Numeral.spanDigits, htake, hdrop]

/-- The digits of a numeral are read as a whole number where it fits one with its sign. -/
theorem integerOf_of_isNumeral {negative : Bool} {z : WideInt} (h : IsNumeral cs n)
    (hz : z.value = if negative then -(n : Int) else n) (hzero : negative → n ≠ 0) :
    integerOf negative (cs.map Numeral.digitValue) = some (.integer z) := by
  have hfits : Numeral.ofDigits (cs.map Numeral.digitValue) < UInt64.size := by
    have hleast := z.least_le
    have hgreatest := z.lt_greatest
    show _ < 18446744073709551616
    rw [h.value]
    cases negative <;> simp at hz <;> omega
  have htaken : takeFitting 0 (cs.map Numeral.digitValue) = (n, []) := by
    rw [takeFitting_eq hfits]
    exact congrArg (·, []) h.value
  have hsign : (negative && n = 0) = false := by
    cases negative with
    | false => rfl
    | true => simpa using hzero rfl
  have hwide : WideInt.ofInt? z.value = some z := dif_pos ⟨z.least_le, z.lt_greatest⟩
  rw [integerOf, htaken]
  simp [hsign, ← hz, hwide]

theorem spanNumber_of_isNumeral {negative : Bool} {z : WideInt} (h : IsNumeral cs n)
    (hz : z.value = if negative then -(n : Int) else n) (hzero : negative → n ≠ 0) :
    spanNumber negative cs = some (.integer z, []) := by
  have hinteger := integerOf_of_isNumeral h hz hzero
  rw [spanNumber, spanDigits_of_digits h.digits]
  split
  · next heq =>
      have hnil := List.map_eq_nil_iff.mp (Prod.mk.inj heq).1
      exact absurd hnil h.nonempty
  · next heq =>
      -- The first digit would be a zero in front of another one.
      obtain ⟨c, rest, rfl, hvalue, hrest⟩ := List.map_eq_cons_iff.mp (Prod.mk.inj heq).1
      obtain ⟨hchar, -⟩ := digitChar_digitValue (h.digits c List.mem_cons_self)
      rw [hvalue] at hchar
      have hone := h.leading (by rw [← hchar]; rfl)
      obtain rfl := (List.cons.inj hone).2
      cases hrest
  · next heq =>
      obtain ⟨rfl, rfl⟩ := Prod.mk.inj heq
      have hfraction : spanFraction [] = some ([], []) := rfl
      have hexponent : spanExponent [] = some (none, []) := rfl
      simp [hfraction, hexponent, hinteger]

/-- A character that a number begins with begins nothing else. -/
theorem first_of_digit {c : Char} {rest : List Char} (hc : c.isDigit) : Token.first (c :: rest) =
    (spanNumber false (c :: rest)).map fun (value, rest) => (.scalar value, rest) := by
  rw [Token.first]
  all_goals exact ne_of_isDigit hc (by decide)

/-- The decimal of a whole number is read as one token. -/
theorem first_of_isDecimal {z : WideInt} (h : IsDecimal cs z.value) :
    Token.first cs = some (.scalar (.integer z), []) := by
  generalize hz : z.value = value at h
  cases h with
  | natural hn =>
      obtain ⟨c, rest, hcs⟩ := List.exists_cons_of_ne_nil hn.nonempty
      have hc : c.isDigit := hn.digits c (hcs ▸ List.mem_cons_self)
      have hspan : spanNumber false cs = _ := spanNumber_of_isNumeral hn hz nofun
      rw [hcs] at hspan ⊢
      rw [first_of_digit hc, hspan]
      rfl
  | @negative cs n hzero hn =>
      have hspan : spanNumber true cs = _ := spanNumber_of_isNumeral hn hz fun _ => hzero
      show (spanNumber true cs).map _ = _
      rw [hspan]
      rfl

theorem isSpace_of_isDecimal {c : Char} {rest : List Char} {z : Int}
    (h : IsDecimal (c :: rest) z) : Token.isSpace c = false := by
  cases h with
  | natural hn =>
      have hne : ∀ d : Char, d.isDigit = false → c ≠ d := fun d hd =>
        ne_of_isDigit (hn.digits c List.mem_cons_self) hd
      simp [Token.isSpace, hne]
  | negative hzero hn => rfl

/-- The decimal of a whole number is read as the number. -/
theorem parse?_toString (z : WideInt) : parse? (toString z.value) = some (.integer z) := by
  have hdecimal := isDecimal_toString z.value
  have hfirst := first_of_isDecimal hdecimal
  have hscan : Token.scan (toString z.value).toList = some [.scalar (.integer z)] := by
    generalize (toString z.value).toList = cs at hdecimal hfirst
    cases cs with
    | nil => cases hfirst
    | cons c rest =>
        rw [Token.scan, isSpace_of_isDecimal hdecimal, if_neg Bool.false_ne_true]
        split
        · next h => cases hfirst.symm.trans h
        · next h =>
            obtain ⟨rfl, rfl⟩ := Prod.mk.inj (Option.some.inj (hfirst.symm.trans h))
            rw [Token.scan]
            rfl
  rw [parse?, hscan]
  rfl

end Json

/-! ## Scalars -/

namespace Scalar

/-- The scalar is that of the number, whichever way it is made, and it is written as the number. -/
structure IsOf (n : WideInt) (s : Scalar) : Prop where
  ofJson : ofJson? (.integer n) = some s
  ofInt64 : ∀ i : Int64, i.toInt = n.value → ofInt64 i = s
  ofInt32 : ∀ i : Int32, i.toInt = n.value → ofInt32 i = s
  ofUInt64 : ∀ i : UInt64, i.toNat = n.value → ofUInt64 i = s
  ofUInt32 : ∀ i : UInt32, i.toNat = n.value → ofUInt32 i = s
  /-- The scalar is the integer exactly up to 2 ^ 63 - 1. -/
  integer : (∃ i : Int64, s = .integer i ∧ i.toInt = n.value) ↔ n.value ≤ 9223372036854775807
  /-- The scalar is the unsigned number above. -/
  unsigned : (∃ i : UInt64, s = .unsigned i ∧ i.toNat = n.value) ↔ 9223372036854775807 < n.value
  /-- The text is the canonical decimal, and no other text is. -/
  decimal : ∀ text, IsDecimal text.toList n.value ↔ text = s.literal
  /-- The text is read as the number. -/
  reads : Json.parse? s.literal = some (.integer n)
  /-- Nothing in the text is escaped. -/
  plain : Sql.escape s.literal = s.literal

theorem toInt_toInt64 {u : UInt64} (h : u.toNat ≤ 9223372036854775807) :
    u.toInt64.toInt = u.toNat := by
  have hbits : u.toBitVec.toNat = u.toNat := rfl
  show u.toBitVec.toInt = u.toBitVec.toNat
  exact BitVec.toInt_eq_toNat_of_lt (by omega)

theorem ofWideInt_eq_integer {n : WideInt} (i : Int64) (h : i.toInt = n.value) :
    ofWideInt n = .integer i := by
  have hle : n.value ≤ Int64.maxValue.toInt := h ▸ i.toInt_le
  rw [ofWideInt, if_pos hle, ← h, Int64.ofInt_toInt]

theorem ofWideInt_eq_unsigned {n : WideInt} (u : UInt64) (h : u.toNat = n.value)
    (hlarge : 9223372036854775807 < u.toNat) : ofWideInt n = .unsigned u := by
  have hmax : Int64.maxValue.toInt = 9223372036854775807 := rfl
  have hgt : ¬n.value ≤ Int64.maxValue.toInt := by omega
  rw [ofWideInt, if_neg hgt, ← h, Int.toNat_natCast, UInt64.ofNat_toNat]

theorem ofUInt64_eq {u : UInt64} {n : WideInt} (h : u.toNat = n.value) :
    ofUInt64 u = ofWideInt n := by
  have hmax : Int64.maxValue.toUInt64.toNat = 9223372036854775807 := rfl
  unfold ofUInt64
  split
  · next hle =>
      have hle : u.toNat ≤ 9223372036854775807 := UInt64.le_iff_toNat_le.mp hle
      exact (ofWideInt_eq_integer _ ((toInt_toInt64 hle).trans h)).symm
  · next hgt =>
      have hlarge : 9223372036854775807 < u.toNat := by
        rw [UInt64.le_iff_toNat_le] at hgt
        omega
      exact (ofWideInt_eq_unsigned u h hlarge).symm

/-- The two words that a number fits. -/
theorem exists_word (n : WideInt) :
    (n.value ≤ 9223372036854775807 ∧ ∃ i : Int64, i.toInt = n.value) ∨
      (9223372036854775807 < n.value ∧ ∃ u : UInt64, (u.toNat : Int) = n.value) := by
  have hleast := n.least_le
  have hgreatest := n.lt_greatest
  rcases Int.lt_or_le 9223372036854775807 n.value with hlarge | hsmall
  · refine .inr ⟨hlarge, .ofNat n.value.toNat, ?_⟩
    rw [UInt64.toNat_ofNat']
    omega
  · exact .inl ⟨hsmall, .ofInt n.value, Int64.toInt_ofInt_of_le (by omega) (by omega)⟩

theorem literal_ofWideInt (n : WideInt) : (ofWideInt n).literal = toString n.value := by
  rcases exists_word n with ⟨-, i, hi⟩ | ⟨hlarge, u, hu⟩
  · rw [ofWideInt_eq_integer i hi, ← hi]
    rfl
  · rw [ofWideInt_eq_unsigned u hu (by omega), ← hu]
    rfl

/-- A decimal has digits in it and a minus, and a literal is a decimal as it is. -/
theorem escape_of_isDecimal {text : String} {z : Int} (h : IsDecimal text.toList z) :
    Sql.escape text = text := by
  rw [Sql.Quotation.escape_eq_self_iff]
  intro c hc
  have hdigits : ∀ {cs n}, IsNumeral cs n → c ∈ cs → Sql.Quotation.IsPlain c := by
    intro cs n hn hmem
    have hdigit := hn.digits c hmem
    exact ⟨ne_of_isDigit hdigit (by decide), ne_of_isDigit hdigit (by decide),
      ne_of_isDigit hdigit (by decide)⟩
  generalize text.toList = cs at h hc
  cases h with
  | natural hn => exact hdigits hn hc
  | negative _ hn =>
      rcases List.mem_cons.mp hc with rfl | hc
      · decide
      · exact hdigits hn hc

theorem isOf_ofWideInt (n : WideInt) : IsOf n (ofWideInt n) where
  ofJson := rfl
  ofInt64 i h := (ofWideInt_eq_integer i h).symm
  ofInt32 i h := (ofWideInt_eq_integer i.toInt64 ((Int32.toInt_toInt64 i).trans h)).symm
  ofUInt64 _ h := ofUInt64_eq h
  ofUInt32 i h := by
    have hhalf : i.toUInt64.toNat = i.toNat := UInt32.toNat_toUInt64 i
    have hlt : i.toNat < 4294967296 := UInt32.toNat_lt i
    have hword : i.toUInt64.toInt64.toInt = i.toUInt64.toNat := toInt_toInt64 (by omega)
    refine (ofWideInt_eq_integer _ ?_).symm
    rw [hword, hhalf, h]
  integer := by
    constructor
    · rintro ⟨i, -, hi⟩
      exact hi ▸ Int64.toInt_le i
    · intro hle
      rcases exists_word n with ⟨-, i, hi⟩ | ⟨hlarge, -⟩
      · exact ⟨i, ofWideInt_eq_integer i hi, hi⟩
      · exact absurd hle (Int.not_le.mpr hlarge)
  unsigned := by
    constructor
    · rintro ⟨u, hu, -⟩
      rcases exists_word n with ⟨-, i, hi⟩ | ⟨hlarge, -⟩
      · rw [ofWideInt_eq_integer i hi] at hu
        cases hu
      · exact hlarge
    · intro hlarge
      rcases exists_word n with ⟨hsmall, -⟩ | ⟨-, u, hu⟩
      · exact absurd hsmall (Int.not_le.mpr hlarge)
      · exact ⟨u, ofWideInt_eq_unsigned u hu (by omega), hu⟩
  decimal text := by
    rw [literal_ofWideInt]
    exact isDecimal_iff
  reads := by
    rw [literal_ofWideInt]
    exact Json.parse?_toString n
  plain := by
    rw [literal_ofWideInt]
    exact escape_of_isDecimal (isDecimal_toString n.value)

/-- Two numbers have two scalars, and two literals. -/
theorem IsOf.ne {m n : WideInt} {s t : Scalar} (hs : IsOf m s) (ht : IsOf n t) (hne : m ≠ n) :
    s.literal ≠ t.literal := by
  intro h
  have hsame : some (Json.integer m) = some (Json.integer n) := by rw [← hs.reads, h, ht.reads]
  exact hne (Json.integer.inj (Option.some.inj hsame))

/-- Of a list the scalars are kept, each by itself and in their order. -/
theorem listOfJson_forall₂ (values : List Json) :
    List.Forall₂ (fun json s => ofJson? json = some s) (values.filter Json.isScalar)
      (listOfJson values) := by
  induction values with
  | nil => exact .nil
  | cons json rest ih =>
      cases json with
      | null | list | object => exact ih
      | bool | integer | float | string => exact .cons rfl ih

/-- A whole number of 64 bits has one scalar, whichever way it is made, and is written by it as its
decimal; two numbers have two scalars and two literals; and of a list nothing but null, lists and
objects is left out. -/
theorem integers_keep_value :
    (∀ n : WideInt, ∃ s, IsOf n s) ∧
    (∀ m n s t, IsOf m s → IsOf n t → m ≠ n →
      s ≠ t ∧ ∀ dialect : Dialect, dialect.quote s ≠ dialect.quote t) ∧
    ∀ values : List Json, List.Forall₂ (fun json s => ofJson? json = some s)
      (values.filter Json.isScalar) (listOfJson values) := by
  refine ⟨fun n => ⟨ofWideInt n, isOf_ofWideInt n⟩, ?_, listOfJson_forall₂⟩
  intro m n s t hs ht hne
  have hliteral : s.literal ≠ t.literal := hs.ne ht hne
  refine ⟨fun h => hliteral (h ▸ rfl), fun dialect h => hliteral ?_⟩
  cases dialect
  exact Sql.Quotation.quote_injective h

/-- The two numbers at the border. -/
theorem integers_keep_value_at_border :
    let last : WideInt := ⟨9223372036854775807, by decide, by decide⟩
    let next : WideInt := ⟨9223372036854775808, by decide, by decide⟩
    IsOf last (.integer 9223372036854775807) ∧ IsOf next (.unsigned 9223372036854775808) ∧
      Dialect.mysql.quote (.integer 9223372036854775807) ≠
        Dialect.mysql.quote (.unsigned 9223372036854775808) := by
  intro last next
  obtain ⟨hforms, hdistinct, -⟩ := integers_keep_value
  obtain ⟨s, hs⟩ := hforms last
  obtain ⟨t, ht⟩ := hforms next
  obtain rfl : .integer 9223372036854775807 = s := Option.some.inj hs.ofJson
  obtain rfl : .unsigned 9223372036854775808 = t := Option.some.inj ht.ofJson
  have hne : last ≠ next := by decide
  exact ⟨hs, ht, (hdistinct last next _ _ hs ht hne).2 .mysql⟩

end Scalar

end Criteria
