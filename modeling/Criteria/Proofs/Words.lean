/-
# `Criteria.Proofs.Words` — the words of a text

The words of a text are its runs of characters between blanks.  They are found
part by part: a blank between two parts keeps their words apart, and blanks at
the ends of a part have none (`runs_append_cons`, `runs_gap_append`,
`runs_append_gap`).  So words with a space between are the words of what is
written so (`words_intercalate`), and taking the blanks off the ends of a text
takes no word away (`words_trim`).

Capitals are no matter of blanks: the words of a text in capitals are its words
in capitals (`words_upper`).
-/
import Mathlib.Data.List.TakeWhile
import Criteria.Proofs.LetterCase
import Criteria.Proofs.Parts
import Criteria.Text.Blank

namespace Criteria.Text

open Parts

/-! ## Runs between blanks -/

variable {c : Char} {cs gap rest : List Char}

/-- The runs of characters between blanks, none of them empty. -/
def runs (cs : List Char) : List (List Char) :=
  (cs.splitOnP isBlank).filter fun run => !run.isEmpty

theorem words_eq (text : String) : words text = (runs text.toList).map String.ofList := rfl

/-- The characters are all blank. -/
abbrev IsGap (gap : List Char) : Prop :=
  ∀ c ∈ gap, isBlank c

theorem runs_append_cons (hc : isBlank c) : runs (cs ++ c :: rest) = runs cs ++ runs rest := by
  rw [runs, List.splitOnP_append_cons cs rest hc, List.filter_append]
  rfl

theorem runs_gap_append (hgap : IsGap gap) : runs (gap ++ cs) = runs cs := by
  induction gap with
  | nil => rfl
  | cons b gap ih =>
      obtain ⟨hb, hgap⟩ := List.forall_mem_cons.mp hgap
      have hsplit : runs ([] ++ b :: (gap ++ cs)) = runs [] ++ runs (gap ++ cs) :=
        runs_append_cons hb
      exact hsplit.trans (ih hgap)

theorem runs_of_gap (hgap : IsGap gap) : runs gap = [] := by
  have h : runs (gap ++ []) = runs [] := runs_gap_append hgap
  rwa [List.append_nil] at h

/-- A blank, or the end, keeps what is in front of it apart from what is behind. -/
theorem runs_append_of_head (hrest : ∀ c ∈ rest.head?, isBlank c) :
    runs (cs ++ rest) = runs cs ++ runs rest := by
  cases rest with
  | nil =>
      have hnil : runs [] = [] := rfl
      rw [List.append_nil, hnil, List.append_nil]
  | cons b rest =>
      have hb : isBlank b := hrest b rfl
      have hbehind : runs ([b] ++ rest) = runs rest :=
        runs_gap_append (List.forall_mem_singleton.mpr hb)
      rw [runs_append_cons hb, ← hbehind]
      rfl

theorem runs_append_gap (hgap : IsGap gap) : runs (cs ++ gap) = runs cs := by
  have hhead : ∀ c ∈ gap.head?, isBlank c := fun c hc => hgap c (List.mem_of_mem_head? hc)
  rw [runs_append_of_head hhead, runs_of_gap hgap, List.append_nil]

/-! ## Words -/

/-- Some characters, none of them blank. -/
def IsRun (cs : List Char) : Prop :=
  cs ≠ [] ∧ ∀ c ∈ cs, isBlank c = false

theorem runs_of_isRun (h : IsRun cs) : runs cs = [cs] := by
  obtain ⟨hne, hblank⟩ := h
  rw [runs, List.splitOnP_eq_singleton hblank]
  simp [hne]

theorem isRun_of_mem_runs {run : List Char} (h : run ∈ runs cs) : IsRun run := by
  obtain ⟨hmem, hne⟩ := List.mem_filter.mp h
  exact ⟨by simpa using hne, eq_false_of_mem_splitOnP hmem⟩

theorem isRun_of_mem_words {text word : String} (h : word ∈ words text) : IsRun word.toList := by
  rw [words_eq] at h
  obtain ⟨run, hrun, rfl⟩ := List.mem_map.mp h
  rw [String.toList_ofList]
  exact isRun_of_mem_runs hrun

/-- Words with a space between are read one by one. -/
theorem runs_intercalate {ws : List (List Char)} (h : ∀ w ∈ ws, IsRun w) :
    runs ([' '].intercalate ws) = ws := by
  induction ws with
  | nil => rfl
  | cons w ws ih =>
      obtain ⟨hw, hws⟩ := List.forall_mem_cons.mp h
      cases ws with
      | nil => rw [List.intercalate_singleton, runs_of_isRun hw]
      | cons v ws =>
          have hblank : isBlank ' ' := by decide
          rw [List.intercalate_cons_cons, List.append_assoc, List.singleton_append,
            runs_append_cons hblank, runs_of_isRun hw, ih hws]
          rfl

theorem words_intercalate {ws : List String} (h : ∀ w ∈ ws, IsRun w.toList) :
    words (" ".intercalate ws) = ws := by
  have hruns : ∀ w ∈ ws.map String.toList, IsRun w := by simpa using h
  rw [words_eq, String.toList_intercalate]
  show (runs ([' '].intercalate (ws.map String.toList))).map String.ofList = ws
  rw [runs_intercalate hruns, List.map_map]
  simp [Function.comp_def]

/-- What is not all blank has a first word, up to the end or a blank. -/
theorem isGap_or_exists_run (cs : List Char) : IsGap cs ∨ ∃ gap run rest, IsGap gap ∧ IsRun run ∧
    (∀ c ∈ rest.head?, isBlank c) ∧ cs = gap ++ (run ++ rest) := by
  induction cs with
  | nil => exact .inl (List.forall_mem_nil _)
  | cons c cs ih =>
      by_cases hc : isBlank c = true
      · rcases ih with hcs | ⟨gap, run, rest, hgap, hrun, hrest, rfl⟩
        · exact .inl (List.forall_mem_cons.mpr ⟨hc, hcs⟩)
        · exact .inr ⟨c :: gap, run, rest, List.forall_mem_cons.mpr ⟨hc, hgap⟩, hrun, hrest, rfl⟩
      · have hrun : ∀ d ∈ cs.takeWhile (!isBlank ·), isBlank d = false := by
          intro d hd
          have hall : (cs.takeWhile (!isBlank ·)).all (!isBlank ·) = true := List.all_takeWhile
          simpa using List.all_eq_true.mp hall d hd
        have hrest : ∀ d ∈ (cs.dropWhile (!isBlank ·)).head?, isBlank d := by
          intro d hd
          have hhead := List.head?_dropWhile_not (!isBlank ·) cs
          rw [Option.mem_def.mp hd] at hhead
          simpa using hhead
        refine .inr ⟨[], c :: cs.takeWhile (!isBlank ·), cs.dropWhile (!isBlank ·),
          List.forall_mem_nil _, ⟨List.cons_ne_nil _ _, ?_⟩, hrest, ?_⟩
        · exact List.forall_mem_cons.mpr ⟨Bool.eq_false_iff.mpr hc, hrun⟩
        · rw [List.nil_append, List.cons_append, List.takeWhile_append_dropWhile]

/-! ### Capitals -/

/-- A letter is not blank, and turning letters into capitals leaves blanks alone. -/
theorem isBlank_toUpper (c : Char) : isBlank c.toUpper = isBlank c := by
  rcases toUpper_cases c with ⟨hfirst, hlast, hplace⟩ | ⟨-, hsame⟩
  · have hletter : ∀ d : Char, 65 ≤ d.toNat → d.toNat ≤ 122 → isBlank d = false := by
      intro d hd hd'
      simp [isBlank, CodePoints.contains, whiteSpace]
      omega
    rw [hletter c (by omega) hlast, hletter c.toUpper (by omega) (by omega)]
  · rw [hsame]

theorem words_upper (text : String) : words (upper text) = (words text).map upper := by
  have hsplit : (text.toList.map Char.toUpper).splitOnP isBlank =
      (text.toList.splitOnP isBlank).map (List.map Char.toUpper) := splitOnP_map isBlank_toUpper
  rw [words_eq, words_eq, toList_upper, runs, hsplit, runs, List.filter_map, List.map_map,
    List.map_map]
  simp [Function.comp_def, upper]

theorem upper_intercalate (ws : List String) :
    upper (" ".intercalate ws) = " ".intercalate (ws.map upper) := by
  have hspace : (" ".toList).map Char.toUpper = " ".toList := by decide
  apply String.toList_inj.mp
  rw [toList_upper, String.toList_intercalate, String.toList_intercalate, map_intercalate, hspace,
    List.map_map, List.map_map]
  simp [Function.comp_def, upper]

/-! ### Blanks at the ends -/

/-- A text is trimmed by taking blanks off its two ends. -/
theorem exists_trim (text : String) : ∃ before behind, IsGap before ∧ IsGap behind ∧
    text.toList = before ++ ((trim text).toList ++ behind) := by
  have hgap : ∀ cs : List Char, IsGap (cs.takeWhile isBlank) := fun _ =>
    List.all_eq_true.mp List.all_takeWhile
  have hbehind : IsGap (((text.toList.dropWhile isBlank).reverse.takeWhile isBlank).reverse) :=
    fun c hc => hgap _ c (List.mem_reverse.mp hc)
  refine ⟨text.toList.takeWhile isBlank, _, hgap _, hbehind, ?_⟩
  rw [trim, String.toList_ofList, ← List.reverse_append, List.takeWhile_append_dropWhile,
    List.reverse_reverse, List.takeWhile_append_dropWhile]

/-- Trimming leaves nothing of a text exactly when it has nothing but blanks. -/
theorem trim_eq_empty_iff {text : String} : trim text = "" ↔ IsGap text.toList := by
  obtain ⟨before, behind, hbefore, hbehind, htext⟩ := exists_trim text
  constructor
  · intro h
    rw [htext, h]
    exact List.forall_mem_append.mpr ⟨hbefore, hbehind⟩
  · intro h
    have hnone : text.toList.dropWhile isBlank = [] := List.dropWhile_eq_nil_iff.mpr h
    rw [trim, hnone]
    rfl

theorem words_trim (text : String) : words (trim text) = words text := by
  obtain ⟨before, behind, hbefore, hbehind, htext⟩ := exists_trim text
  rw [words_eq, words_eq, htext, runs_gap_append hbefore, runs_append_gap hbehind]

end Criteria.Text
