/-
# `Criteria.Proofs.LetterCase` — texts in capitals

## What is proved

Turning the letters a to z of a text into capitals changes no letter into
anything but a letter, and nothing that is none (`isLetter_toUpper`,
`toUpper_eq_iff`).  The text keeps its length in bytes (`utf8ByteSize_upper`),
and turning it into capitals once more changes nothing (`upper_upper`).  All of
this is read off one description of what becomes of a character
(`toUpper_cases`).
-/
import Mathlib.Algebra.GroupWithZero.Nat
import Criteria.Field.Grammar

namespace Criteria.Text

open Identifier

/-! ## Characters -/

/-- A letter a to z becomes the letter 32 places in front of it, and nothing else changes. -/
theorem toUpper_cases (c : Char) :
    (97 ≤ c.toNat ∧ c.toNat ≤ 122 ∧ c.toUpper.toNat + 32 = c.toNat) ∨
      (¬(97 ≤ c.toNat ∧ c.toNat ≤ 122) ∧ c.toUpper = c) := by
  unfold Char.toUpper
  split
  · next h =>
      have hfirst : 97 ≤ c.val.toNat := UInt32.le_iff_toNat_le.mp h.1
      have hlast : c.val.toNat ≤ 122 := UInt32.le_iff_toNat_le.mp h.2
      refine .inl ⟨hfirst, hlast, ?_⟩
      show (c.val + ('A'.val - 'a'.val)).toNat + 32 = c.val.toNat
      -- The difference is below zero, so the sum goes once around.
      have hwrap : (c.val + ('A'.val - 'a'.val)).toNat = (c.val.toNat + 4294967264) % 2 ^ 32 :=
        UInt32.toNat_add _ _
      omega
  · next h => exact .inr ⟨h, rfl⟩

theorem toUpper_toUpper (c : Char) : c.toUpper.toUpper = c.toUpper := by
  rcases toUpper_cases c with ⟨-, hlast, hplace⟩ | ⟨-, hsame⟩
  · rcases toUpper_cases c.toUpper with ⟨hfirst, -, -⟩ | ⟨-, hsame⟩
    · omega
    · exact hsame
  · rw [hsame, hsame]

theorem isLetter_iff {c : Char} : IsLetter c ↔
    (65 ≤ c.toNat ∧ c.toNat ≤ 90) ∨ (97 ≤ c.toNat ∧ c.toNat ≤ 122) :=
  Iff.rfl

theorem isLetter_toUpper {c : Char} : IsLetter c.toUpper ↔ IsLetter c := by
  rcases toUpper_cases c with ⟨hfirst, hlast, hplace⟩ | ⟨-, hsame⟩
  · rw [isLetter_iff, isLetter_iff]
    omega
  · rw [hsame]

/-- What is no letter is the capital of itself only. -/
theorem toUpper_eq_iff {c d : Char} (hd : ¬IsLetter d) : c.toUpper = d ↔ c = d := by
  rcases toUpper_cases c with ⟨hfirst, hlast, -⟩ | ⟨-, hsame⟩
  · have hletter : IsLetter c := isLetter_iff.mpr (.inr ⟨hfirst, hlast⟩)
    constructor
    · rintro rfl
      exact absurd (isLetter_toUpper.mpr hletter) hd
    · rintro rfl
      exact absurd hletter hd
  · rw [hsame]

theorem isDigit_toUpper {c : Char} : IsDigit c.toUpper ↔ IsDigit c := by
  have hdigit : ∀ d : Char, IsDigit d ↔ 48 ≤ d.toNat ∧ d.toNat ≤ 57 := fun _ => Iff.rfl
  rcases toUpper_cases c with ⟨hfirst, hlast, hplace⟩ | ⟨-, hsame⟩
  · rw [hdigit, hdigit]
    omega
  · rw [hsame]

/-- A letter takes one byte in either case. -/
theorem utf8Size_toUpper (c : Char) : c.toUpper.utf8Size = c.utf8Size := by
  have hone : ∀ d : Char, d.toNat ≤ 127 → d.utf8Size = 1 := fun d hd =>
    Char.utf8Size_eq_one_iff.mpr (UInt32.le_iff_toNat_le.mpr hd)
  rcases toUpper_cases c with ⟨-, hlast, hplace⟩ | ⟨-, hsame⟩
  · rw [hone c (by omega), hone c.toUpper (by omega)]
  · rw [hsame]

/-! ## Texts -/

theorem toList_upper (text : String) : (upper text).toList = text.toList.map Char.toUpper :=
  String.toList_ofList

theorem upper_upper (text : String) : upper (upper text) = upper text := by
  apply String.toList_inj.mp
  rw [toList_upper, toList_upper, List.map_map]
  exact List.map_congr_left fun c _ => toUpper_toUpper c

theorem utf8ByteSize_ofList (cs : List Char) :
    (String.ofList cs).utf8ByteSize = (cs.map Char.utf8Size).sum := by
  induction cs with
  | nil => rfl
  | cons c rest ih => simp [String.ofList_cons, ih]

theorem utf8ByteSize_upper (text : String) : (upper text).utf8ByteSize = text.utf8ByteSize := by
  have hsizes : text.toList.map (Char.utf8Size ∘ Char.toUpper) = text.toList.map Char.utf8Size :=
    List.map_congr_left fun c _ => utf8Size_toUpper c
  rw [upper, utf8ByteSize_ofList, List.map_map, hsizes, ← utf8ByteSize_ofList,
    String.ofList_toList]

end Criteria.Text
