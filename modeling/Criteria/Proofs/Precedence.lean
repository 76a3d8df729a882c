/-
# `Criteria.Proofs.Precedence` — truth values of chains put together

The truth value of a chain comes from the tree that precedence makes of it.
This module says when it can be computed from the truth values of two parts
of the chain with a connective between: always where that is OR, because no
connective binds looser; and where it is AND, when no other connective is
outside of the operands of the parts (`Chain.truth_append`).  NOT in front
of a chain is the negation of the chain when the chain is one operand.

Truth values are combined in the logic of three values, in which AND, XOR
and OR are associative and have a unit; that is all that is used of it.
-/
import Criteria.Sql.Outline

namespace Criteria.Sql

namespace Connective

variable {k : Connective} {a b c : Truth} {xs ys : List Truth}

theorem combine_assoc : k.combine (k.combine a b) c = k.combine a (k.combine b c) := by
  cases k <;> rcases a with _ | _ | _ <;> rcases b with _ | _ | _ <;> rcases c with _ | _ | _ <;>
    rfl

@[simp] theorem combine_unit : k.combine a k.unit = a := by
  cases k <;> rcases a with _ | _ | _ <;> rfl

@[simp] theorem unit_combine : k.combine k.unit a = a := by
  cases k <;> rcases a with _ | _ | _ <;> rfl

@[simp] theorem combineAll_nil : k.combineAll [] = k.unit := rfl

@[simp] theorem combineAll_cons : k.combineAll (a :: xs) = k.combine a (k.combineAll xs) := rfl

theorem combineAll_append :
    k.combineAll (xs ++ ys) = k.combine (k.combineAll xs) (k.combineAll ys) := by
  induction xs with
  | nil => simp
  | cons x xs ih => simp [ih, combine_assoc]

end Connective

namespace Outline

variable {value : List Symbol → Truth} {k : Connective} {os : List Outline}

theorem truths_eq : truths value os = os.map (truth value) := by
  induction os with
  | nil => rfl
  | cons o rest ih => simp [truths, ih]

theorem truth_junction : (junction k os).truth value = k.combineAll (os.map (truth value)) := by
  rw [truth, truths_eq]

theorem truth_join : (join k os).truth value = k.combineAll (os.map (truth value)) := by
  match os with
  | [] => exact truth_junction
  | [o] => simp [join]
  | o :: p :: rest => exact truth_junction

end Outline

namespace Chain

variable {value : List Symbol → Truth} {k : Connective} {c d : Chain} {o : Outline}
  {rest others : List (Connective × Outline)}

/-! ## Dividing -/

theorem divideFrom_append : divideFrom k c (rest ++ (k, o) :: others) =
    divideFrom k c rest ++ divideFrom k ⟨o, []⟩ others := by
  induction rest generalizing c with
  | nil => simp [divideFrom]
  | cons first rest ih =>
      obtain ⟨j, p⟩ := first
      by_cases hj : j = k <;> simp [divideFrom, hj, ih]

/-- A connective between two chains divides them. -/
theorem divide_append : (c.append k d).divide k = c.divide k ++ d.divide k :=
  divideFrom_append

theorem divideFrom_of_notMem (h : k ∉ rest.map Prod.fst) :
    divideFrom k c rest = [⟨c.first, c.rest ++ rest⟩] := by
  induction rest generalizing c with
  | nil => simp [divideFrom]
  | cons first rest ih =>
      obtain ⟨j, o⟩ := first
      rw [List.map_cons, List.mem_cons, not_or] at h
      rw [divideFrom, if_neg (Ne.symm h.1), ih h.2]
      simp

/-- A chain without a connective is not divided there. -/
theorem divide_of_notMem (h : k ∉ c.connectives) : c.divide k = [c] :=
  divideFrom_of_notMem h

/-! ## Truth values -/

/-- The truth value of a chain. -/
def truth (value : List Symbol → Truth) (c : Chain) : Truth :=
  c.outline.truth value

theorem truth_or : (c.append .or d).truth value =
    Connective.or.combine (c.truth value) (d.truth value) := by
  simp only [truth, outline, Outline.truth_join, divide_append, List.map_append,
    Connective.combineAll_append]

/-- A chain in which all connectives are AND is the AND of its operands. -/
theorem truth_of_and (h : ∀ k ∈ c.connectives, k = .and) : c.truth value =
    Connective.and.combineAll (c.operands.map (Outline.truth value)) := by
  have hor : Connective.or ∉ c.connectives := fun hor => nomatch h _ hor
  have hxor : Connective.xor ∉ c.connectives := fun hxor => nomatch h _ hxor
  rw [truth, outline, divide_of_notMem hor]
  simp only [List.map_cons, List.map_nil, divide_of_notMem hxor]
  show (Outline.join .and c.operands).truth value = _
  exact Outline.truth_join

theorem forall_connectives_append {j : Connective} (hk : k = j)
    (hc : ∀ l ∈ c.connectives, l = j) (hd : ∀ l ∈ d.connectives, l = j) :
    ∀ l ∈ (c.append k d).connectives, l = j := by
  have hconnectives : (c.append k d).connectives = c.connectives ++ k :: d.connectives := by
    simp [connectives, append]
  rw [hconnectives]
  exact List.forall_mem_append.mpr ⟨hc, List.forall_mem_cons.mpr ⟨hk, hd⟩⟩

theorem truth_and (hc : ∀ k ∈ c.connectives, k = .and) (hd : ∀ k ∈ d.connectives, k = .and) :
    (c.append .and d).truth value =
      Connective.and.combine (c.truth value) (d.truth value) := by
  have hoperands : (c.append .and d).operands = c.operands ++ d.operands := by
    simp [operands, append]
  rw [truth_of_and (forall_connectives_append rfl hc hd), truth_of_and hc, truth_of_and hd,
    hoperands, List.map_append, Connective.combineAll_append]

/-- Two chains with a connective between; AND takes both as a whole only where no connective in
them binds looser. -/
theorem truth_append (k : Conjunction)
    (h : k = .and → (∀ j ∈ c.connectives, j = .and) ∧ ∀ j ∈ d.connectives, j = .and) :
    (c.append k.connective d).truth value =
      k.connective.combine (c.truth value) (d.truth value) := by
  cases k with
  | and => exact truth_and (h rfl).1 (h rfl).2
  | or => exact truth_or

/-- NOT in front of a chain that is one operand. -/
theorem outline_negate (h : c.connectives = []) : c.negate.outline = .negation c.outline := by
  obtain ⟨first, rest⟩ := c
  obtain rfl : rest = [] := List.map_eq_nil_iff.mp h
  rfl

end Chain

end Criteria.Sql
