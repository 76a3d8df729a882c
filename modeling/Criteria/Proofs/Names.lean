/-
# `Criteria.Proofs.Names` — which texts are names, and what is wrong with the others

## What is proved

* The first fault of a text is found by testing one rule after the other; it is
  that of the first rule that the text breaks, each rule taken by itself
  (`Identifier.fault?_eq_some_iff`), and a text without a fault follows all of
  them (`Identifier.fault?_eq_none_iff_isWord`).
* A text is read as the name of a field exactly when it is one word or two with
  a point between them (`FieldName.exists_ofText_iff`), and it is the written
  form of the name that is read (`FieldName.ofText_eq_ok`).
* Of a text that is no name more than one point is reported before anything
  else, and then the leftmost segment that is no word, with its first fault
  (`FieldName.name_or_first_fault`).

## Letter case

No rule looks at the case of letters, and a letter takes one byte in either
case.  So a text and the same text in capitals are names or both are none
(`FieldName.isName_upper`), which says so of any two texts that differ in the
case of letters only.
-/
import Criteria.Proofs.Describing
import Criteria.Proofs.LetterCase

namespace Criteria

open Outcome

namespace Identifier

/-! ## Rules by themselves -/

theorem isAlpha_iff {c : Char} : c.isAlpha ↔ IsLetter c := by
  have hcases : c.isAlpha = (decide (c.val ≥ 'A'.val ∧ c.val ≤ 'Z'.val) ||
      (decide (c.val ≥ 'a'.val) && decide (c.val ≤ 'z'.val))) := rfl
  simp [hcases, IsLetter, Char.le_def]

theorem isStart_iff {c : Char} : isStart c ↔ IsLetter c ∨ c = '_' := by
  simp [isStart, isAlpha_iff]

theorem isPart_iff {c : Char} : isPart c ↔ IsLetter c ∨ IsDigit c ∨ c = '_' := by
  simp [isPart, Char.isAlphanum, isAlpha_iff, Char.isDigit, IsDigit, Char.le_def,
    UInt32.le_iff_toNat_le, or_assoc]

theorem isKeyword_iff {text : String} : Sql.isKeyword text ↔ IsReserved text := by
  rw [Sql.isKeyword, List.contains_iff_mem]
  constructor
  · intro h
    exact ⟨Text.upper text, h, Sql.upper_of_mem_keywords _ h⟩
  · rintro ⟨word, hword, hsame⟩
    rw [SameWord, Sql.upper_of_mem_keywords word hword] at hsame
    exact hsame ▸ hword

/-- There is one first rule that a text breaks. -/
theorem Fault.IsFirstIn.unique {text : String} {fault other : Fault} (h : fault.IsFirstIn text)
    (hother : other.IsFirstIn text) : fault = other := by
  have hrank : fault.rank = other.rank :=
    Nat.le_antisymm (h.2 other hother.1) (hother.2 fault h.1)
  cases fault with
  | tooLong length =>
      cases other with
      | tooLong length' => rw [← h.1.1, ← hother.1.1]
      | empty | badStart | badCharacter | reserved => cases hrank
  | empty | badStart | badCharacter | reserved => cases other <;> first | rfl | cases hrank

/-! ## The reported fault -/

/-- No fault is reported exactly where each rule is followed. -/
theorem fault?_eq_none_iff_isWord {text : String} : fault? text = none ↔ IsWord text := by
  rw [fault?_eq_none_iff]
  constructor
  · rintro ⟨first, rest, hlist, hlength, hstart, hparts, hkeyword⟩
    refine ⟨hlength, ⟨first, by simp [hlist], isStart_iff.mp hstart⟩, ?_, ?_⟩
    · intro c hc
      exact isPart_iff.mp (List.all_eq_true.mp hparts c (hlist ▸ hc))
    · exact fun h => hkeyword (isKeyword_iff.mpr h)
  · rintro ⟨hlength, ⟨first, hfirst, hstart⟩, hparts, hreserved⟩
    obtain ⟨rest, hlist⟩ := List.head?_eq_some_iff.mp hfirst
    refine ⟨first, rest, hlist, hlength, isStart_iff.mpr hstart, ?_, ?_⟩
    · refine List.all_eq_true.mpr fun c hc => isPart_iff.mpr (hparts c (hlist ▸ hc))
    · exact fun h => hreserved (isKeyword_iff.mp h)

/-- The rule of the reported fault is broken. -/
theorem isIn_of_fault? {text : String} {fault : Fault} (h : fault? text = some fault) :
    fault.IsIn text := by
  unfold fault? at h
  split at h
  · next hlist =>
      obtain rfl := Option.some.inj h
      exact String.toList_eq_nil_iff.mp hlist
  · next first rest hlist =>
      split at h
      · next hlong =>
          obtain rfl := Option.some.inj h
          exact ⟨rfl, hlong⟩
      · split at h
        · next hstart =>
            obtain rfl := Option.some.inj h
            refine ⟨first, by simp [hlist], ?_⟩
            simpa [← isStart_iff] using hstart
        · split at h
          · next hparts =>
              obtain rfl := Option.some.inj h
              obtain ⟨c, hc, hpart⟩ : ∃ c ∈ first :: rest, ¬isPart c := by simpa using hparts
              exact ⟨c, hlist ▸ hc, fun h => hpart (isPart_iff.mpr h)⟩
          · split at h
            · next hkeyword =>
                obtain rfl := Option.some.inj h
                exact isKeyword_iff.mp hkeyword
            · cases h

/-- Where a rule is broken, its fault is reported or that of a rule in front of it. -/
theorem exists_fault?_of_isIn {text : String} {fault : Fault} (h : fault.IsIn text) :
    ∃ reported, fault? text = some reported ∧ reported.rank ≤ fault.rank := by
  unfold fault?
  split
  · exact ⟨_, rfl, Nat.zero_le _⟩
  · next first rest hlist =>
      have hhead : ∀ c ∈ text.toList.head?, c = first := by simp [hlist, eq_comm]
      cases fault with
      | empty => simp [show text = "" from h] at hlist
      | tooLong length =>
          have hlong : maxLength < text.utf8ByteSize := h.1 ▸ h.2
          exact ⟨_, if_pos hlong, Nat.le_refl _⟩
      | badStart =>
          obtain ⟨c, hc, hstart⟩ := h
          have hstart : (!isStart first) = true := by
            rw [hhead c hc, ← isStart_iff] at hstart
            simpa using hstart
          rw [if_pos hstart]
          split <;> exact ⟨_, rfl, by simp [Fault.rank]⟩
      | badCharacter =>
          obtain ⟨c, hc, hpart⟩ := h
          have hparts : (!(first :: rest).all isPart) = true := by
            rw [← isPart_iff] at hpart
            simpa [← hlist] using ⟨c, hc, by simpa using hpart⟩
          rw [if_pos hparts]
          repeat' split
          all_goals exact ⟨_, rfl, by simp [Fault.rank]⟩
      | reserved =>
          rw [if_pos (isKeyword_iff.mpr h)]
          repeat' split
          all_goals exact ⟨_, rfl, by simp [Fault.rank]⟩

/-- What is reported is the fault of the first rule that is broken. -/
theorem fault?_eq_some_iff {text : String} {fault : Fault} :
    fault? text = some fault ↔ fault.IsFirstIn text := by
  have hfirst : ∀ reported, fault? text = some reported → reported.IsFirstIn text := by
    intro reported h
    refine ⟨isIn_of_fault? h, ?_⟩
    intro other hother
    obtain ⟨reported', h', hrank⟩ := exists_fault?_of_isIn hother
    obtain rfl := Option.some.inj (h.symm.trans h')
    exact hrank
  constructor
  · exact hfirst fault
  · intro h
    obtain ⟨reported, hreported, -⟩ := exists_fault?_of_isIn h.1
    rw [hreported, (hfirst reported hreported).unique h]

/-! ## Words in capitals -/

/-- A text is a word in capitals where it is one at all. -/
theorem isWord_upper {text : String} : IsWord (Text.upper text) ↔ IsWord text := by
  have hlength := Text.utf8ByteSize_upper text
  have hstart : (∃ c ∈ (Text.upper text).toList.head?, IsLetter c ∨ c = '_') ↔
      ∃ c ∈ text.toList.head?, IsLetter c ∨ c = '_' := by
    rw [Text.toList_upper, List.head?_map]
    cases text.toList.head? with
    | none => simp
    | some c => simp [Text.isLetter_toUpper, Text.toUpper_eq_iff (d := '_') (by decide)]
  have hparts : (∀ c ∈ (Text.upper text).toList, IsLetter c ∨ IsDigit c ∨ c = '_') ↔
      ∀ c ∈ text.toList, IsLetter c ∨ IsDigit c ∨ c = '_' := by
    rw [Text.toList_upper, List.forall_mem_map]
    refine forall₂_congr fun c _ => ?_
    rw [Text.isLetter_toUpper, Text.isDigit_toUpper, Text.toUpper_eq_iff (by decide)]
  have hreserved : IsReserved (Text.upper text) ↔ IsReserved text := by
    simp only [IsReserved, SameWord, Text.upper_upper]
  constructor
  · rintro ⟨hsize, hfirst, hall, hkeyword⟩
    exact ⟨hlength ▸ hsize, hstart.mp hfirst, hparts.mp hall, mt hreserved.mpr hkeyword⟩
  · rintro ⟨hsize, hfirst, hall, hkeyword⟩
    exact ⟨hlength ▸ hsize, hstart.mpr hfirst, hparts.mpr hall, mt hreserved.mp hkeyword⟩

end Identifier

namespace FieldName

/-! ## Segments -/

theorem isWord_text (id : Identifier) : Identifier.IsWord id.text :=
  Identifier.fault?_eq_none_iff_isWord.mp id.faultless

theorem segment_eq_ok {cs : List Char} {id : Identifier} :
    segment cs = .ok id ↔ id.text.toList = cs := by
  have hread : segment cs = .ok id ↔ Identifier.ofText (String.ofList cs) = .ok id := by
    unfold segment
    cases Identifier.ofText (String.ofList cs) <;> simp
  rw [hread, Identifier.ofText_ok_iff]
  constructor
  · intro h
    rw [h, String.toList_ofList]
  · intro h
    rw [← h, String.ofList_toList]

theorem exists_segment_iff {cs : List Char} :
    (∃ id, segment cs = .ok id) ↔ Identifier.IsWord (String.ofList cs) := by
  simp only [segment_eq_ok]
  constructor
  · rintro ⟨id, rfl⟩
    rw [String.ofList_toList]
    exact isWord_text id
  · intro h
    have hfaultless := Identifier.fault?_eq_none_iff_isWord.mpr h
    exact ⟨⟨String.ofList cs, hfaultless⟩, String.toList_ofList⟩

/-- What is read from a text is the name that it writes. -/
theorem ofText_eq_ok {text : String} {field : FieldName} :
    ofText text = .ok field ↔ field.text = text := by
  constructor
  · intro h
    have hjoined : ['.'].intercalate (text.toList.splitOn '.') = text.toList :=
      List.intercalate_splitOn '.'
    unfold ofText at h
    split at h
    · next name hsplit =>
        obtain ⟨name, hname, h⟩ := bind_eq_ok.mp h
        obtain rfl := Except.ok.inj h
        rw [hsplit, ← segment_eq_ok.mp hname] at hjoined
        exact String.toList_inj.mp (by simpa [FieldName.text] using hjoined)
    · next qualifier name hsplit =>
        obtain ⟨qualifier, hqualifier, h⟩ := bind_eq_ok.mp h
        obtain ⟨name, hname, h⟩ := bind_eq_ok.mp h
        obtain rfl := Except.ok.inj h
        rw [hsplit, ← segment_eq_ok.mp hqualifier, ← segment_eq_ok.mp hname] at hjoined
        exact String.toList_inj.mp (by simpa [FieldName.text] using hjoined)
    · cases h
  · rintro rfl
    exact ofText_text field

/-- A text is read as the name of a field exactly when it follows the grammar. -/
theorem exists_ofText_iff {text : String} : (∃ field, ofText text = .ok field) ↔ IsName text := by
  unfold ofText IsName segments
  have hne : text.toList.splitOn '.' ≠ [] := List.splitOn_ne_nil '.' _
  rcases hsplit : text.toList.splitOn '.' with _ | ⟨first, _ | ⟨second, _ | ⟨third, rest⟩⟩⟩
  · exact absurd hsplit hne
  · simp only [List.map_cons, List.map_nil, List.forall_mem_singleton, ← exists_segment_iff]
    constructor
    · rintro ⟨field, h⟩
      obtain ⟨name, hname, -⟩ := bind_eq_ok.mp h
      exact ⟨by simp, name, hname⟩
    · rintro ⟨-, name, hname⟩
      exact ⟨⟨none, name⟩, by rw [hname]; rfl⟩
  · simp only [List.map_cons, List.map_nil, List.forall_mem_cons, ← exists_segment_iff]
    constructor
    · rintro ⟨field, h⟩
      obtain ⟨qualifier, hqualifier, h⟩ := bind_eq_ok.mp h
      obtain ⟨name, hname, -⟩ := bind_eq_ok.mp h
      exact ⟨by simp, ⟨qualifier, hqualifier⟩, ⟨name, hname⟩, by simp⟩
    · rintro ⟨-, ⟨qualifier, hqualifier⟩, ⟨name, hname⟩, -⟩
      exact ⟨⟨some qualifier, name⟩, by rw [hqualifier, hname]; rfl⟩
  · simp

/-! ## The two forms of a name -/

variable {text : String} {e : NameError}

/-- A word has no point in it. -/
theorem point_notMem_of_isWord (h : Identifier.IsWord text) : '.' ∉ text.toList := by
  intro hpoint
  exact absurd (h.parts '.' hpoint) (by decide)

theorem segments_of_isWord (h : Identifier.IsWord text) : segments text = [text] := by
  rw [segments, List.splitOn_eq_singleton (point_notMem_of_isWord h), List.map_singleton,
    String.ofList_toList]

theorem segments_of_words {qualifier name : String} (hqualifier : Identifier.IsWord qualifier)
    (hname : Identifier.IsWord name) :
    segments (qualifier ++ "." ++ name) = [qualifier, name] := by
  have hlist : (qualifier ++ "." ++ name).toList = qualifier.toList ++ '.' :: name.toList := by
    simp
  rw [segments, hlist,
    List.splitOn_append_cons_self_of_not_mem (point_notMem_of_isWord hqualifier),
    List.splitOn_eq_singleton (point_notMem_of_isWord hname)]
  simp

/-- A name has a table in front where its text is of the longer form. -/
theorem isQualified_iff {field : FieldName} : field.isQualified ↔ ∃ qualifier name,
    field.text = qualifier ++ "." ++ name ∧
      Identifier.IsWord qualifier ∧ Identifier.IsWord name := by
  obtain ⟨qualifier, name⟩ := field
  cases qualifier with
  | some qualifier =>
      have hform : ∃ q n, qualifier.text ++ "." ++ name.text = q ++ "." ++ n ∧
          Identifier.IsWord q ∧ Identifier.IsWord n :=
        ⟨qualifier.text, name.text, rfl, isWord_text qualifier, isWord_text name⟩
      exact ⟨fun _ => hform, fun _ => rfl⟩
  | none =>
      constructor
      · intro h
        cases h
      · rintro ⟨q, n, hform, -, -⟩
        have hform : name.text = q ++ "." ++ n := hform
        refine absurd ?_ (point_notMem_of_isWord (isWord_text name))
        rw [hform]
        simp

/-- A name is a word, or a word behind another with a point between them. -/
theorem isName_iff : IsName text ↔ Identifier.IsWord text ∨ ∃ qualifier name,
    text = qualifier ++ "." ++ name ∧
      Identifier.IsWord qualifier ∧ Identifier.IsWord name := by
  constructor
  · intro h
    obtain ⟨field, hfield⟩ := exists_ofText_iff.mpr h
    obtain rfl := ofText_eq_ok.mp hfield
    obtain ⟨qualifier, name⟩ := field
    cases qualifier with
    | none => exact .inl (isWord_text name)
    | some qualifier => exact .inr (isQualified_iff.mp rfl)
  · rintro (h | ⟨qualifier, name, rfl, hqualifier, hname⟩)
    · rw [IsName, segments_of_isWord h]
      exact ⟨by simp, List.forall_mem_singleton.mpr h⟩
    · rw [IsName, segments_of_words hqualifier hname]
      exact ⟨by simp, by simp [hqualifier, hname]⟩

/-! ## Names in capitals -/

theorem segments_upper (text : String) :
    segments (Text.upper text) = (segments text).map Text.upper := by
  have hsplit : ∀ cs : List Char,
      (cs.map Char.toUpper).splitOn '.' = (cs.splitOn '.').map (List.map Char.toUpper) := by
    intro cs
    induction cs with
    | nil => rfl
    | cons c rest ih =>
        have hpoint : (c.toUpper == '.') = (c == '.') := by
          rw [Bool.eq_iff_iff, beq_iff_eq, beq_iff_eq, Text.toUpper_eq_iff (by decide)]
        rw [List.map_cons, List.splitOn_cons_eq_if_modifyHead, List.splitOn_cons_eq_if_modifyHead,
          ih, hpoint]
        cases c == '.' with
        | true => rfl
        | false => cases rest.splitOn '.' <;> rfl
  rw [segments, segments, Text.toList_upper, hsplit, List.map_map, List.map_map]
  refine List.map_congr_left fun cs _ => ?_
  show String.ofList (cs.map Char.toUpper) = Text.upper (String.ofList cs)
  rw [Text.upper, String.toList_ofList]

theorem isName_upper : IsName (Text.upper text) ↔ IsName text := by
  rw [IsName, IsName, segments_upper, List.length_map, List.forall_mem_map]
  exact and_congr_right' (forall₂_congr fun _ _ => Identifier.isWord_upper)

/-- Texts that differ in the case of letters only are names or both are none. -/
theorem isName_congr {other : String} (h : Identifier.SameWord text other) :
    IsName text ↔ IsName other := by
  rw [← isName_upper, h, isName_upper]

/-! ## The reported error -/

/-- There is one segment more than there are points. -/
theorem length_segments (text : String) : (segments text).length = text.toList.count '.' + 1 := by
  have hsplit : ∀ cs : List Char, (cs.splitOn '.').length = cs.count '.' + 1 := by
    intro cs
    induction cs with
    | nil => rfl
    | cons c rest ih =>
        rw [List.splitOn_cons_eq_if_modifyHead, List.count_cons]
        split
        · rw [List.length_cons, ih]
        · rw [List.length_modifyHead, ih]
  rw [segments, List.length_map, hsplit]

theorem segment_eq_error {s : String} : segment s.toList = .error e ↔
    ∃ fault : Identifier.Fault, fault.IsFirstIn s ∧ e = .ofFault s fault := by
  simp only [← Identifier.fault?_eq_some_iff]
  unfold segment Identifier.ofText
  rw [String.ofList_toList]
  split
  · next h => simp [h]
  · next fault h => simp [h, eq_comm]

/-- Of more than two segments the whole text is reported. -/
theorem ofText_of_many (h : 2 < (segments text).length) :
    ofText text = .error (.tooManySegments text) := by
  unfold ofText
  split
  · next hsplit => simp [segments, hsplit] at h
  · next hsplit => simp [segments, hsplit] at h
  · rfl

/-- Of two segments at most one is read after the other, and the leftmost that is no word is
reported. -/
theorem ofText_of_few (h : (segments text).length ≤ 2) : ofText text = .error e ↔
    ∃ before segment after, segments text = before ++ segment :: after ∧
      (∀ s ∈ before, Identifier.IsWord s) ∧
      ∃ fault : Identifier.Fault, fault.IsFirstIn segment ∧ e = .ofFault segment fault := by
  have hread : ofText text = .error e ↔
      (segments text).mapM (fun s => segment s.toList) = .error e := by
    have hne : text.toList.splitOn '.' ≠ [] := List.splitOn_ne_nil '.' _
    unfold ofText segments
    rcases hsplit : text.toList.splitOn '.' with _ | ⟨first, _ | ⟨second, _ | ⟨third, rest⟩⟩⟩
    · exact absurd hsplit hne
    · simp only [List.map_cons, List.map_nil, List.mapM_cons, List.mapM_nil, String.toList_ofList]
      cases segment first <;> simp
    · simp only [List.map_cons, List.map_nil, List.mapM_cons, List.mapM_nil, String.toList_ofList]
      cases segment first with
      | error e => simp
      | ok qualifier => cases segment second <;> simp
    · simp [segments, hsplit] at h
  simp only [hread, mapM_eq_error, exists_segment_iff, String.ofList_toList, segment_eq_error]

/-- A text is read as a name, and kept as it is, exactly when it is a word or two words with a
point between them; the name has a table in the second case; letter case does not matter; and of a
text with two points or more the whole is reported, of any other that is no name the leftmost
segment that is no word, with the first rule that it breaks. -/
theorem name_or_first_fault (text : String) :
    ((∃ field, ofText text = .ok field ∧ field.text = text) ↔ Identifier.IsWord text ∨
      ∃ qualifier name, text = qualifier ++ "." ++ name ∧
        Identifier.IsWord qualifier ∧ Identifier.IsWord name) ∧
    (∀ field, ofText text = .ok field → field.text = text ∧
      (field.isQualified ↔ ∃ qualifier name, text = qualifier ++ "." ++ name ∧
        Identifier.IsWord qualifier ∧ Identifier.IsWord name)) ∧
    (∀ other, Identifier.SameWord text other →
      ((∃ field, ofText text = .ok field) ↔ ∃ field, ofText other = .ok field)) ∧
    ∀ e, ofText text = .error e ↔
      (1 < text.toList.count '.' ∧ e = .tooManySegments text) ∨
      (text.toList.count '.' ≤ 1 ∧ ∃ before segment after,
        segments text = before ++ segment :: after ∧ (∀ s ∈ before, Identifier.IsWord s) ∧
        ∃ fault : Identifier.Fault, fault.IsFirstIn segment ∧ e = .ofFault segment fault) := by
  have hlength := length_segments text
  refine ⟨?_, ?_, ?_, ?_⟩
  · rw [← isName_iff, ← exists_ofText_iff]
    exact exists_congr fun field => and_iff_left_of_imp ofText_eq_ok.mp
  · intro field h
    obtain rfl := ofText_eq_ok.mp h
    exact ⟨rfl, isQualified_iff⟩
  · intro other h
    rw [exists_ofText_iff, exists_ofText_iff, isName_congr h]
  · intro e
    by_cases hmany : 1 < text.toList.count '.'
    · have hread : ofText text = .error (.tooManySegments text) := ofText_of_many (by omega)
      constructor
      · intro h
        exact .inl ⟨hmany, Except.error.inj (h.symm.trans hread)⟩
      · rintro (⟨-, rfl⟩ | ⟨hfew, -⟩)
        · exact hread
        · omega
    · have hread := ofText_of_few (e := e) (show (segments text).length ≤ 2 by omega)
      constructor
      · intro h
        exact .inr ⟨by omega, hread.mp h⟩
      · rintro (⟨hmany, -⟩ | ⟨-, h⟩)
        · omega
        · exact hread.mpr h

/-- A name with a table in another letter case, and a text of two segments of which the second
starts with a digit and has a dash in it. -/
theorem name_or_first_fault_of_two_segments :
    let field : FieldName := ⟨some ⟨"p", by decide⟩, ⟨"Title", by decide⟩⟩
    ofText "p.Title" = .ok field ∧ field.isQualified ∧
      Identifier.SameWord "p.Title" "P.tITLE" ∧ (∃ other, ofText "P.tITLE" = .ok other) ∧
      ofText "p.1-" = .error (.badStart "1-") := by
  intro field
  have htext : field.text = "p.Title" := by decide
  have hread : ofText "p.Title" = .ok field := htext ▸ field.ofText_text
  have hsame : Identifier.SameWord "p.Title" "P.tITLE" := by
    unfold Identifier.SameWord
    decide
  obtain ⟨-, hqualified, hcase, -⟩ := name_or_first_fault "p.Title"
  obtain ⟨-, -, -, hfault⟩ := name_or_first_fault "p.1-"
  have hfirst : Identifier.Fault.badStart.IsFirstIn "1-" := by
    refine ⟨⟨'1', rfl, by decide⟩, ?_⟩
    intro other hother
    cases other with
    | empty => exact absurd (show "1-" = "" from hother) (by decide)
    | tooLong length => exact absurd (hother.1 ▸ hother.2) (by decide)
    | badStart | badCharacter | reserved => decide
  refine ⟨hread, ?_, hsame, (hcase _ hsame).mp ⟨field, hread⟩, ?_⟩
  · exact (hqualified field hread).2.mpr
      ⟨"p", "Title", rfl, isWord_text ⟨"p", by decide⟩, isWord_text ⟨"Title", by decide⟩⟩
  · refine (hfault _).mpr (.inr ⟨by decide, ["p"], "1-", [], rfl, ?_, .badStart, hfirst, rfl⟩)
    exact List.forall_mem_singleton.mpr (isWord_text ⟨"p", by decide⟩)

end FieldName

end Criteria
