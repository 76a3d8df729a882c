/-
# `Criteria.Proofs.Vocabularies` — vocabularies are closed, and letter case and blanks are free

## What is proved

Operators, functions, conjunctions, directions and modes are each read from
their own name and from a few aliases, and from nothing else
(`vocabularies_are_closed`).  A name may be written in any letter case, with any
blanks around it and between its words; what a document says is read the same,
but that a token of blanks is none, and that what is refused is shown without
the blanks around it.

## What carries it

"In any letter case and with any blanks" is said of the text as it is written
(`IsSpelling`), and the readers look up a normal form of it.  The two agree:
a token has the normal form of a text exactly when it spells the words of the
text (`normal_eq_normal_iff_isSpelling`).  From a spelling its words are read
off, part by part (`Spells.runs`); from words a spelling is put together again,
the first word first (`spells_of_runs`).

The rest is one lemma about tables (`IsTable.isClosed`).  The tables that are read
and the names that are written stand apart, so that they agree has to be proved
(`IsTable`).  A spelling that were not in normal form could never be read, and of
two equal ones only the first would be, so a table must have no such spellings;
nor may it have an empty one, which a token of blanks would spell
(`IsTable.token_eq_ok_iff_says`).  For the five tables all that is computed.

Letters other than a to z have no case here, so a dotless i is never taken for
an I.
-/
import Criteria.Input.Token
import Criteria.Proofs.Outcome
import Criteria.Proofs.Words
import Criteria.Vocabulary.Spelling

namespace Criteria.Vocabulary

open Outcome Text

variable {token a b spelling : String} {ws : List String} {cs : List Char}

/-! ## The normal form -/

theorem normal_eq (token : String) :
    normal token = " ".intercalate ((words token).map upper) :=
  upper_intercalate (words token)

/-- The words of a normal form are those of the token in capitals. -/
theorem words_normal (token : String) : words (normal token) = (words token).map upper := by
  rw [normal, words_upper, words_intercalate fun w hw => isRun_of_mem_words hw]

theorem normal_eq_normal_iff :
    normal a = normal b ↔ (words a).map upper = (words b).map upper := by
  constructor
  · intro h
    rw [← words_normal, h, words_normal]
  · intro h
    rw [normal_eq, h, normal_eq]

theorem normal_normal (token : String) : normal (normal token) = normal token := by
  rw [normal_eq_normal_iff, words_normal, List.map_map]
  exact List.map_congr_left fun w _ => upper_upper w

theorem normal_of_gap (h : IsGap token.toList) : normal token = "" := by
  rw [normal_eq, words_eq, runs_of_gap h]
  rfl

theorem normal_trim (token : String) : normal (trim token) = normal token := by
  rw [normal_eq_normal_iff, words_trim]

/-! ## Spellings -/

theorem isRun_of_upper_eq {written word : String} (h : upper written = upper word)
    (hword : IsRun word.toList) : IsRun written.toList := by
  obtain ⟨hne, hblank⟩ := hword
  have hchars : written.toList.map Char.toUpper = word.toList.map Char.toUpper := by
    rw [← toList_upper, h, toList_upper]
  constructor
  · intro hnil
    rw [hnil, List.map_nil, eq_comm, List.map_eq_nil_iff] at hchars
    exact hne hchars
  · intro c hc
    have hmem : c.toUpper ∈ word.toList.map Char.toUpper := hchars ▸ List.mem_map_of_mem hc
    obtain ⟨d, hd, hcd⟩ := List.mem_map.mp hmem
    rw [← isBlank_toUpper, ← hcd, isBlank_toUpper]
    exact hblank d hd

/-- What spells words has these words, but for the case of letters. -/
theorem Spells.runs (h : Spells ws cs) (hws : ∀ w ∈ ws, IsRun w.toList) :
    (Text.runs cs).map (upper ∘ String.ofList) = ws.map upper := by
  induction h with
  | nothing hgap => rw [runs_of_gap hgap]; rfl
  | @word word written words gap rest hgap hcase hrest _ ih =>
      obtain ⟨hword, hwords⟩ := List.forall_mem_cons.mp hws
      rw [runs_gap_append hgap, runs_append_of_head hrest,
        runs_of_isRun (isRun_of_upper_eq hcase hword), List.map_append, ih hwords, List.map_cons,
        List.map_cons, ← hcase]
      simp

/-- A text that has the words spells them. -/
theorem spells_of_runs (cs : List Char) {ws : List String}
    (h : (Text.runs cs).map (upper ∘ String.ofList) = ws.map upper) : Spells ws cs := by
  rcases isGap_or_exists_run cs with hgap | ⟨gap, run, rest, hgap, hrun, hrest, hcs⟩
  · rw [runs_of_gap hgap, List.map_nil, eq_comm, List.map_eq_nil_iff] at h
    rw [h]
    exact .nothing hgap
  · rw [hcs, runs_gap_append hgap, runs_append_of_head hrest, runs_of_isRun hrun] at h
    cases ws with
    | nil => cases h
    | cons word words =>
        obtain ⟨hword, hwords⟩ := List.cons.inj h
        have hbehind : Spells words rest := spells_of_runs rest hwords
        have hspells := Spells.word hgap hword hrest hbehind
        rwa [String.toList_ofList, ← hcs] at hspells
termination_by cs.length
decreasing_by
  have hne : 0 < run.length := List.length_pos_iff.mpr hrun.1
  have hlength := congrArg List.length hcs
  rw [List.length_append, List.length_append] at hlength
  omega

/-- The normal form of a token is that of a spelling exactly when the token spells it. -/
theorem normal_eq_normal_iff_isSpelling :
    normal token = normal spelling ↔ IsSpelling token spelling := by
  rw [normal_eq_normal_iff, words_eq token, List.map_map]
  constructor
  · exact spells_of_runs token.toList
  · intro h
    exact h.runs fun w hw => isRun_of_mem_words hw

/-! ## Tables of spellings -/

section

variable {α : Type} {table aliases : List (String × α)} {name : α → String}
  {unknown : String → ExpressionError} {meaning : α} {key : String}

/-- The table, which is written out, agrees with the names that are written out elsewhere, and with
the aliases. -/
structure IsTable (table : List (String × α)) (name : α → String) (aliases : List (String × α)) :
    Prop where
  /-- Every meaning has its name in the table. -/
  named : ∀ meaning, (name meaning, meaning) ∈ table
  /-- The aliases are in the table. -/
  aliased : ∀ entry ∈ aliases, entry ∈ table
  /-- Nothing else is. -/
  known : ∀ entry ∈ table, entry.1 = name entry.2 ∨ entry ∈ aliases
  /-- No spelling stands in the table twice. -/
  keys : (table.map Prod.fst).Nodup
  /-- Every spelling is its own normal form. -/
  canonical : ∀ entry ∈ table, normal entry.1 = entry.1
  /-- No spelling is empty. -/
  worded : ∀ entry ∈ table, entry.1 ≠ ""

/-- What a table without a repetition says of a key is what stands beside it. -/
theorem lookup_eq_some_iff (h : (table.map Prod.fst).Nodup) :
    table.lookup key = some meaning ↔ (key, meaning) ∈ table := by
  induction table with
  | nil => simp
  | cons entry table ih =>
      obtain ⟨first, value⟩ := entry
      rw [List.map_cons, List.nodup_cons] at h
      obtain ⟨hfirst, h⟩ := h
      by_cases hkey : key = first
      · have hnot : (first, meaning) ∉ table := fun h => hfirst (List.mem_map.mpr ⟨_, h, rfl⟩)
        rw [hkey, List.lookup_cons_self, List.mem_cons]
        simp [hnot, eq_comm]
      · rw [List.lookup_cons, beq_eq_false_iff_ne.mpr hkey, ih h, List.mem_cons]
        simp [hkey]

theorem toOption_read {find : String → Option α} (token : String) :
    (read find unknown token).toOption = find token := by
  unfold read
  split
  · next h => exact h.symm
  · next h => exact h.symm

theorem toOption_read_congr (h : normal a = normal b) :
    (read (find? table) unknown a).toOption = (read (find? table) unknown b).toOption := by
  rw [toOption_read, toOption_read, find?, find?, h]

/-! ### Tokens of documents -/

theorem token_of_gap {find : String → Option α} {text : Option String}
    (h : ∀ token ∈ text, IsGap token.toList) : Input.token find unknown text = .ok none := by
  cases text with
  | none => rfl
  | some token =>
      have htrim : trim token = "" := trim_eq_empty_iff.mpr (h token rfl)
      have hempty : ("" : String).isEmpty = true := rfl
      simp only [Input.token, Option.map_some, htrim, hempty, if_true]

theorem token_of_not_gap {find : String → Option α} (h : ¬IsGap token.toList) :
    Input.token find unknown (some token) = some <$> read find unknown (trim token) := by
  have htrim : (trim token).isEmpty = false := by
    rw [← Bool.not_eq_true, String.isEmpty_iff]
    exact fun hempty => h (trim_eq_empty_iff.mp hempty)
  simp only [Input.token, Option.map_some, htrim, Bool.false_eq_true, if_false]

/-! ### Closed vocabularies -/

namespace IsTable

theorem mem_iff (h : IsTable table name aliases) :
    (key, meaning) ∈ table ↔ key = name meaning ∨ (key, meaning) ∈ aliases := by
  constructor
  · exact h.known (key, meaning)
  · rintro (rfl | hmem)
    · exact h.named meaning
    · exact h.aliased _ hmem

theorem read_eq_ok (h : IsTable table name aliases) :
    read (find? table) unknown token = .ok meaning ↔
      normal token = name meaning ∨ (normal token, meaning) ∈ aliases := by
  rw [Vocabulary.read_eq_ok, find?, lookup_eq_some_iff h.keys, h.mem_iff]

/-- A spelling is its own normal form, so it is that of the tokens that spell it. -/
theorem normal_eq_iff (h : IsTable table name aliases) (hmem : (key, meaning) ∈ table) :
    normal token = key ↔ IsSpelling token key := by
  have hkey : normal key = key := h.canonical (key, meaning) hmem
  rw [← normal_eq_normal_iff_isSpelling, hkey]

theorem read_eq_ok_iff_isSpelling (h : IsTable table name aliases) :
    read (find? table) unknown token = .ok meaning ↔ IsSpelling token (name meaning) ∨
      ∃ other, (other, meaning) ∈ aliases ∧ IsSpelling token other := by
  rw [h.read_eq_ok, h.normal_eq_iff (h.named meaning)]
  refine or_congr_right ⟨fun hmem => ?_, ?_⟩
  · exact ⟨_, hmem, (h.normal_eq_iff (h.aliased _ hmem)).mp rfl⟩
  · rintro ⟨other, hmem, hspelled⟩
    rwa [(h.normal_eq_iff (h.aliased _ hmem)).mpr hspelled]

theorem exists_read_eq_ok_iff (h : IsTable table name aliases) :
    (∃ meaning, read (find? table) unknown token = .ok meaning) ↔
      (∃ meaning, normal token = name meaning) ∨ normal token ∈ aliases.map Prod.fst := by
  simp only [h.read_eq_ok, exists_or, List.mem_map, Prod.exists]
  refine or_congr_right ⟨?_, ?_⟩
  · rintro ⟨meaning, hmem⟩
    exact ⟨_, meaning, hmem, rfl⟩
  · rintro ⟨other, meaning, hmem, rfl⟩
    exact ⟨meaning, hmem⟩

/-- A spelling has a word in it, so a token that spells it is no gap. -/
theorem not_gap_of_isSpelling (h : IsTable table name aliases) (hmem : (key, meaning) ∈ table)
    (hspelled : IsSpelling token key) : ¬IsGap token.toList := by
  intro hgap
  have hkey : normal token = key := (h.normal_eq_iff hmem).mpr hspelled
  rw [normal_of_gap hgap] at hkey
  exact h.worded _ hmem hkey.symm

theorem read_trim_eq_ok (h : IsTable table name aliases) :
    read (find? table) unknown (trim token) = .ok meaning ↔ IsSpelling token (name meaning) ∨
      ∃ other, (other, meaning) ∈ aliases ∧ IsSpelling token other := by
  have htrim : read (find? table) unknown (trim token) = .ok meaning ↔
      read (find? table) unknown token = .ok meaning := by
    rw [h.read_eq_ok, h.read_eq_ok, normal_trim]
  rw [htrim, h.read_eq_ok_iff_isSpelling]

/-- In a document a token is read as what it says, and refused where it says nothing that is
known. -/
theorem token_eq_ok_iff_says (h : IsTable table name aliases) {text : Option String}
    {found : Option α} :
    Input.token (find? table) unknown text = .ok found ↔ Says name aliases text found := by
  constructor
  · intro hread
    by_cases hgap : ∀ token ∈ text, IsGap token.toList
    · rw [token_of_gap hgap] at hread
      obtain rfl := Except.ok.inj hread
      exact .nothing hgap
    · cases text with
      | none => exact absurd (fun _ hmem => nomatch hmem) hgap
      | some token =>
          have hword : ¬IsGap token.toList := fun hblank => hgap fun _ hmem =>
            Option.some.inj hmem ▸ hblank
          rw [token_of_not_gap hword] at hread
          obtain ⟨meaning, hmeaning, rfl⟩ := map_eq_ok.mp hread
          rcases h.read_trim_eq_ok.mp hmeaning with hname | ⟨other, hmem, hother⟩
          · exact .named hname
          · exact .aliased hmem hother
  · intro hsays
    cases hsays with
    | nothing hgap => exact token_of_gap hgap
    | named hname =>
        rw [token_of_not_gap (h.not_gap_of_isSpelling (h.named _) hname),
          h.read_trim_eq_ok.mpr (.inl hname)]
        rfl
    | aliased hmem hother =>
        rw [token_of_not_gap (h.not_gap_of_isSpelling (h.aliased _ hmem) hother),
          h.read_trim_eq_ok.mpr (.inr ⟨_, hmem, hother⟩)]
        rfl

/-- A vocabulary that is given by a table is closed. -/
theorem isClosed (h : IsTable table name aliases) (unknown : String → ExpressionError) :
    IsClosed (read (find? table) unknown) (Input.token (find? table) unknown) unknown name
      aliases where
  reads _ _ := h.read_eq_ok
  accepts _ := h.exists_read_eq_ok_iff
  agrees _ _ hnormal := toOption_read_congr hnormal
  spelled _ _ := h.read_eq_ok_iff_isSpelling
  refuses _ _ herror := (read_eq_error.mp herror).2.symm
  missing _ hblank := token_of_gap hblank
  trimmed token hblank := by
    obtain ⟨c, hc, hblank⟩ := hblank
    exact token_of_not_gap fun hgap => hblank (hgap c hc)
  outcome token := toOption_read_congr (normal_trim token)

end IsTable

end

/-! ## The vocabularies of a query -/

theorem isTable_operator : IsTable Operator.spellings Operator.sql [("!", .not)] where
  named op := by cases op <;> decide
  aliased := by decide
  known := by decide +kernel
  keys := by decide +kernel
  canonical := by decide +kernel
  worded := by decide +kernel

theorem isTable_function : IsTable Function.spellings Function.sql
    [("CEILING", .ceil), ("LCASE", .lower), ("UCASE", .upper), ("DAYOFMONTH", .day)] where
  named function := by cases function <;> decide
  aliased := by decide
  known := by decide +kernel
  keys := by decide +kernel
  canonical := by decide +kernel
  worded := by decide +kernel

theorem isTable_conjunction : IsTable Conjunction.spellings Conjunction.sql [] where
  named k := by cases k <;> decide
  aliased := by decide
  known := by decide
  keys := by decide
  canonical := by decide +kernel
  worded := by decide

theorem isTable_direction : IsTable Direction.spellings Direction.sql [] where
  named direction := by cases direction <;> decide
  aliased := by decide
  known := by decide
  keys := by decide
  canonical := by decide +kernel
  worded := by decide

theorem isTable_mode : IsTable OrderMode.spellings OrderMode.name [("RAND", .random)] where
  named mode := by cases mode <;> decide
  aliased := by decide
  known := by decide
  keys := by decide
  canonical := by decide +kernel
  worded := by decide

/-- The five vocabularies of a query are closed, and their tokens may be written in any letter
case and with any blanks. -/
theorem vocabularies_are_closed :
    IsClosed Operator.ofToken (Input.token Operator.ofToken? .unknownOperator) .unknownOperator
        Operator.sql [("!", .not)] ∧
      IsClosed Function.ofToken (Input.token Function.ofToken? .unknownFunction) .unknownFunction
        Function.sql
        [("CEILING", .ceil), ("LCASE", .lower), ("UCASE", .upper), ("DAYOFMONTH", .day)] ∧
      IsClosed Conjunction.ofToken (Input.token Conjunction.ofToken? .unknownConjunction)
        .unknownConjunction Conjunction.sql [] ∧
      IsClosed Direction.ofToken (Input.token Direction.ofToken? .unknownDirection)
        .unknownDirection Direction.sql [] ∧
      IsClosed OrderMode.ofToken (Input.token OrderMode.ofToken? .unknownMode) .unknownMode
        OrderMode.name [("RAND", .random)] ∧
      ∀ token, normal (normal token) = normal token := by
  have hoperator := isTable_operator.isClosed .unknownOperator
  have hfunction := isTable_function.isClosed .unknownFunction
  have hconjunction := isTable_conjunction.isClosed .unknownConjunction
  have hdirection := isTable_direction.isClosed .unknownDirection
  have hmode := isTable_mode.isClosed .unknownMode
  exact ⟨hoperator, hfunction, hconjunction, hdirection, hmode, normal_normal⟩

example : Operator.ofToken "\u3000is\tNull " = .ok .isNull ∧
    Operator.ofToken "ıs null" = .error (.unknownOperator "ıs null") := ⟨rfl, rfl⟩

end Criteria.Vocabulary
