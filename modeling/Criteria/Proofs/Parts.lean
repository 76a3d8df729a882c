/-
# `Criteria.Proofs.Parts` — lists divided and joined at separators

A list is divided at separators into parts that have none of them, and parts are
joined with a separator between.  Neither looks at anything else, so a function
that keeps separators apart from other things may be applied before or after.
-/
import Mathlib.Data.List.Basic

namespace Criteria.Parts

variable {α β : Type} {p : α → Bool} {xs part : List α}

/-! ## Dividing -/

/-- No part has a separator in it. -/
theorem eq_false_of_mem_splitOnP (h : part ∈ xs.splitOnP p) : ∀ x ∈ part, p x = false := by
  induction xs generalizing part with
  | nil =>
      obtain rfl := List.mem_singleton.mp h
      exact List.forall_mem_nil _
  | cons x xs ih =>
      rw [List.splitOnP_cons_eq_if_modifyHead] at h
      split at h
      · rcases List.mem_cons.mp h with rfl | h
        · exact List.forall_mem_nil _
        · exact ih h
      · next hx =>
          obtain ⟨first, others, hparts⟩ := List.exists_cons_of_ne_nil (List.splitOnP_ne_nil p xs)
          rw [hparts, List.modifyHead_cons] at h
          rcases List.mem_cons.mp h with rfl | h
          · have hfirst : ∀ y ∈ first, p y = false := ih (hparts ▸ List.mem_cons_self)
            exact List.forall_mem_cons.mpr ⟨Bool.eq_false_iff.mpr hx, hfirst⟩
          · exact ih (hparts ▸ List.mem_cons_of_mem _ h)

/-- What a function does to the separators and to nothing else is what counts for the parts. -/
theorem splitOnP_map {f : α → β} {q : β → Bool} (hf : ∀ x, q (f x) = p x) :
    (xs.map f).splitOnP q = (xs.splitOnP p).map (List.map f) := by
  induction xs with
  | nil => rfl
  | cons x xs ih =>
      rw [List.map_cons, List.splitOnP_cons_eq_if_modifyHead,
        List.splitOnP_cons_eq_if_modifyHead, hf, ih]
      split
      · rfl
      · cases xs.splitOnP p <;> rfl

/-! ## Joining -/

theorem map_intercalate (f : α → β) (between : List α) (parts : List (List α)) :
    (between.intercalate parts).map f = (between.map f).intercalate (parts.map (List.map f)) := by
  induction parts with
  | nil => rfl
  | cons part others ih =>
      cases others with
      | nil => simp
      | cons other others => simp [List.intercalate_cons_cons, ih]

/-- What holds of all that is between and of all members of the parts holds of the parts joined. -/
theorem forall_mem_intercalate {P : α → Prop} {between : List α} {parts : List (List α)}
    (hbetween : ∀ x ∈ between, P x) (hparts : ∀ part ∈ parts, ∀ x ∈ part, P x) :
    ∀ x ∈ between.intercalate parts, P x := by
  induction parts with
  | nil => exact List.forall_mem_nil _
  | cons part others ih =>
      obtain ⟨hpart, hothers⟩ := List.forall_mem_cons.mp hparts
      cases others with
      | nil => simpa using hpart
      | cons other others =>
          rw [List.intercalate_cons_cons]
          exact List.forall_mem_append.mpr
            ⟨List.forall_mem_append.mpr ⟨hpart, hbetween⟩, ih hothers⟩

end Criteria.Parts
