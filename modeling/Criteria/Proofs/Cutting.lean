/-
# `Criteria.Proofs.Cutting` — clauses that were put together are found again

## What is proved

A compiled query of three bodies is written as one text, with the words of
each clause in front of its body and blanks between.  If no body has one of
these words among its tokens (`CompiledQuery.IsBounded`), the words of the
clauses are all there are of them in the text, in their sequence
(`IsBounded.starters?_suffix`), and cutting the text at them gives the three
bodies back, character for character (`IsBounded.bodies?_suffix`).

## How the cuts meet the seams

The scanner knows a word when the character behind it arrives, and from
then on it is between tokens, whatever the next segment is.  A segment is a
starter and a body with a blank on both of its sides: the first blank ends
the starter, and the second brings out the last token of the body
(`Scanner.run_blank`).  Between two such segments nothing is pending, and cutting
is the inverse of putting segments one behind the other (`Clause.cut_segments`).
-/
import Criteria.Compiler
import Criteria.Proofs.Scanning
import Criteria.Sql.Clauses

namespace Criteria

open Sql Sql.Clause

/-! ## Cutting what was put together -/

namespace Sql

namespace Scanner

variable {mode last : Mode} {cs : List Char} {ts : List Token}

theorem run_cons_of_step {c : Char} {out : List Token} (h : step mode c = some (out, last)) :
    run mode (c :: cs) = (fun behind => (out ++ behind.1, behind.2)) <$> run last cs := by
  have hstep : machine.step mode c = some (out, last) := h
  simp only [run, Machine.run, hstep, Option.bind_eq_bind, Option.bind_some]
  cases machine.run last cs <;> rfl

/-- A blank behind characters brings out all of their tokens. -/
theorem run_blank (h : scan mode cs = some ts) : run mode (cs ++ [' ']) = some (ts, .between) := by
  induction cs generalizing mode ts with
  | nil =>
      have hfinish : finish mode = some ts := h
      have hstep : step mode ' ' = endWith mode ' ' := step_delimiter hfinish (by decide)
      have hblank : start ' ' = some ([], .between) := rfl
      rw [endWith, hfinish, Option.bind_eq_bind, Option.bind_some, hblank] at hstep
      rw [List.nil_append, run_cons_of_step hstep]
      simp [run, Machine.run]
  | cons c cs ih =>
      simp only [scan, Option.bind_eq_bind, Option.bind_eq_some_iff] at h
      obtain ⟨⟨out, next⟩, hstep, others, hothers, hts⟩ := h
      obtain rfl := Option.some.inj hts
      rw [List.cons_append, run_cons_of_step hstep, ih hothers]
      rfl

end Scanner

namespace Clause

open Scanner

variable {starter word : String} {read cs rest : List Char} {mode last : Mode} {out : List Token}

/-- Characters among whose tokens there is no starter are read on. -/
theorem cut_run (h : run mode cs = some (out, last)) (hout : out.filterMap starter? = []) :
    cut starter read mode (cs ++ rest) = cut starter (read ++ cs) last rest := by
  induction cs generalizing mode read out with
  | nil =>
      obtain ⟨rfl, rfl⟩ := Prod.mk.inj (Option.some.inj h)
      simp
  | cons c cs ih =>
      simp only [run, Machine.run, Option.bind_eq_bind, Option.bind_eq_some_iff] at h
      obtain ⟨⟨first, next⟩, hstep, ⟨others, end_⟩, hothers, h⟩ := h
      obtain ⟨rfl, rfl⟩ := Prod.mk.inj (Option.some.inj h)
      have hstep : step mode c = some (first, next) := hstep
      rw [List.filterMap_append, List.append_eq_nil_iff] at hout
      have hnone : first.head?.bind starter? = none := by
        cases first with
        | nil => rfl
        | cons t first => exact List.filterMap_eq_nil_iff.mp hout.1 t List.mem_cons_self
      rw [List.cons_append, cut, hstep]
      simp only [Option.bind_eq_bind, Option.bind_some, hnone]
      rw [ih hothers hout.2, List.append_assoc]
      rfl

/-- A starter with a blank behind it begins a segment. -/
theorem cut_starter (hrun : run .between word.toList = some ([], .word word.toList))
    (hword : starter? (.word word) = some word) :
    cut starter read .between (word.toList ++ ' ' :: rest) =
      (⟨starter, read⟩ :: ·) <$> cut word [' '] .between rest := by
  have hstep : step (.word word.toList) ' ' = some ([.word word], .between) := by
    have hfinish : finish (.word word.toList) = some [.word word] := by
      rw [finish, String.ofList_toList]
    have hblank : start ' ' = some ([], .between) := rfl
    rw [step_delimiter hfinish (by decide), endWith, hfinish, hblank]
    rfl
  have hlength : (read ++ word.toList).length - word.toList.length = read.length := by
    rw [List.length_append, Nat.add_sub_cancel]
  rw [cut_run hrun rfl, cut, hstep]
  simp only [Option.bind_eq_bind, Option.bind_some, List.head?_cons, hword, hlength,
    List.take_left]
  cases cut word [' '] .between rest <;> rfl

/-- The characters of a segment. -/
def Segment.chars (segment : Segment) : List Char :=
  segment.starter.toList ++ segment.body

/-- A segment that is found again: a starter, then blanks around something without a starter. -/
structure Segment.Found (segment : Segment) : Prop where
  run : run .between segment.starter.toList = some ([], .word segment.starter.toList)
  starter : starter? (.word segment.starter) = some segment.starter
  body : segment.body = [' '] ∨ ∃ text, segment.body = ' ' :: (text.toList ++ [' ']) ∧
    starters? text = some []

theorem Segment.Found.chars_ne_nil {segment : Segment} (h : segment.Found) :
    segment.chars ≠ [] := by
  intro hnil
  obtain ⟨-, hbody⟩ := List.append_eq_nil_iff.mp hnil
  rcases h.body with hblank | ⟨text, htext, -⟩
  · exact absurd (hbody.symm.trans hblank) (List.cons_ne_nil _ _).symm
  · exact absurd (hbody.symm.trans htext) (List.cons_ne_nil _ _).symm

/-- Cutting gives back the segments that were put together. -/
theorem cut_segments : ∀ {segments : List Segment} {starter : String} {read : List Char},
    (∀ segment ∈ segments, segment.Found) →
      cut starter read .between (segments.flatMap Segment.chars) =
        some (⟨starter, read⟩ :: segments)
  | [], _, _, _ => rfl
  | ⟨word, body⟩ :: segments, starter, read, h => by
      obtain ⟨⟨hrun, hword, hbody⟩, hsegments⟩ := List.forall_mem_cons.mp h
      -- The blank that ends the starter is taken with it; the rest of the body is read on.
      obtain ⟨inner, rfl, hinner⟩ : ∃ inner, body = ' ' :: inner ∧
          cut word [' '] .between (inner ++ segments.flatMap Segment.chars) =
            cut word (' ' :: inner) .between (segments.flatMap Segment.chars) := by
        rcases hbody with rfl | ⟨text, rfl, htext⟩
        · exact ⟨[], rfl, rfl⟩
        · obtain ⟨ts, hts, hnone⟩ := Option.map_eq_some_iff.mp htext
          exact ⟨_, rfl, cut_run (run_blank hts) hnone⟩
      have hchars : (Segment.mk word (' ' :: inner) :: segments).flatMap Segment.chars =
          word.toList ++ ' ' :: (inner ++ segments.flatMap Segment.chars) := by
        simp [Segment.chars]
      rw [hchars, cut_starter hrun hword, hinner, cut_segments hsegments]
      rfl

end Clause
end Sql

/-! ## The starters of texts that are put together -/

namespace Sql

theorem Closed.starters?_append {a b : String} {ts : List Token} {us : List String}
    (ha : Closed a ts) (hb : starters? b = some us) :
    starters? (a ++ b) = some (ts.filterMap starter? ++ us) := by
  obtain ⟨tokens, htokens, rfl⟩ := Option.map_eq_some_iff.mp hb
  rw [starters?, ha.tokens?_append htokens, Option.map_some, List.filterMap_append]

theorem starters?_append {a b : String} {ts us : List String} (ha : starters? a = some ts)
    (hb : starters? b = some us) (hdelimited : Scanner.Delimited b.toList) :
    starters? (a ++ b) = some (ts ++ us) := by
  obtain ⟨first, hfirst, rfl⟩ := Option.map_eq_some_iff.mp ha
  obtain ⟨second, hsecond, rfl⟩ := Option.map_eq_some_iff.mp hb
  rw [starters?, tokens?_append hfirst hsecond hdelimited, Option.map_some,
    List.filterMap_append]

/-- Texts with blanks between have the starters of each. -/
theorem starters?_intercalate {texts : List String} {starters : List (List String)}
    (h : texts.map starters? = starters.map some) :
    starters? (" ".intercalate texts) = some starters.flatten := by
  induction texts generalizing starters with
  | nil =>
      obtain rfl : starters = [] := List.map_eq_nil_iff.mp h.symm
      rfl
  | cons text texts ih =>
      cases starters with
      | nil => exact absurd h (by simp)
      | cons first starters =>
          obtain ⟨hfirst, hothers⟩ := List.cons_eq_cons.mp h
          have hrest := ih hothers
          cases texts with
          | nil =>
              obtain rfl : starters = [] := List.map_eq_nil_iff.mp hothers.symm
              simpa using hfirst
          | cons other texts =>
              have hbehind := closed_blank.starters?_append hrest
              have hall := starters?_append hfirst hbehind (by simp)
              simpa [String.intercalate_cons_cons, String.append_assoc] using hall

end Sql

/-! ## What follows the SELECT -/

namespace CompiledQuery

/-- The words that the clauses of a query begin with. -/
def starters (query : CompiledQuery) : List String :=
  (if query.whereBody = "" then [] else ["WHERE"]) ++
    (if query.orderBody = "" then [] else ["ORDER", "BY"]) ++
    if query.limit = "" then [] else ["LIMIT"]

/-- The bodies of a query. -/
def bodies (query : CompiledQuery) : Bodies :=
  ⟨query.whereBody, query.orderBody, query.limit⟩

/-- Nothing, or the word in front of a limit with rows behind it in which nothing begins a clause. -/
def IsLimit (limit : String) : Prop :=
  limit = "" ∨ ∃ rows, limit = "LIMIT " ++ rows ∧ starters? rows = some []

/-- No body of a query has a word that a clause begins with, but the one in front of the limit. -/
structure IsBounded (query : CompiledQuery) : Prop where
  whereBody : starters? query.whereBody = some []
  orderBody : starters? query.orderBody = some []
  limit : IsLimit query.limit

variable {query : CompiledQuery}

theorem IsBounded.starters?_limit (h : query.IsBounded) :
    starters? query.limit = some (if query.limit = "" then [] else ["LIMIT"]) := by
  rcases h.limit with hlimit | ⟨rows, hlimit, hrows⟩
  · rw [hlimit]
    rfl
  · have hword : Closed "LIMIT " [.word "LIMIT"] := closed_of_run rfl
    have hne : "LIMIT " ++ rows ≠ "" := by simp
    rw [hlimit, if_neg hne]
    exact hword.starters?_append hrows

theorem clause_of_ne {words body : String} (h : body ≠ "") :
    clause words body = [words ++ body] := by
  simp [clause, h]

theorem map_starters?_clause {words body : String} {us : List String}
    (h : body ≠ "" → starters? (words ++ body) = some us) :
    (clause words body).map starters? = (if body = "" then [] else [us]).map some := by
  by_cases hempty : body = ""
  · rw [if_pos hempty, hempty]
    rfl
  · rw [if_neg hempty, clause_of_ne hempty]
    exact congrArg (fun u => [u]) (h hempty)

/-- The words that the clauses begin with are all there are of them in the text. -/
theorem IsBounded.starters?_suffix (h : query.IsBounded) :
    starters? query.suffix = some query.starters := by
  have hwhere : starters? ("WHERE " ++ query.whereBody) = some ["WHERE"] := by
    have hwords : Closed "WHERE " [.word "WHERE"] := closed_of_run rfl
    exact hwords.starters?_append h.whereBody
  have horder : starters? ("ORDER BY " ++ query.orderBody) = some ["ORDER", "BY"] := by
    have hwords : Closed "ORDER BY " [.word "ORDER", .word "BY"] := closed_of_run rfl
    exact hwords.starters?_append h.orderBody
  have hlimit : query.limit ≠ "" → starters? ("" ++ query.limit) = some ["LIMIT"] := by
    intro hne
    rw [String.empty_append, h.starters?_limit, if_neg hne]
  have hclauses : (clause "WHERE " query.whereBody ++ clause "ORDER BY " query.orderBody ++
      clause "" query.limit).map starters? =
        ((if query.whereBody = "" then [] else [["WHERE"]]) ++
          (if query.orderBody = "" then [] else [["ORDER", "BY"]]) ++
          if query.limit = "" then [] else [["LIMIT"]]).map some := by
    simp only [List.map_append, map_starters?_clause fun _ => hwhere,
      map_starters?_clause fun _ => horder, map_starters?_clause hlimit]
  rw [suffix, starters?_intercalate hclauses, starters]
  by_cases hw : query.whereBody = "" <;> by_cases ho : query.orderBody = "" <;>
    by_cases hl : query.limit = "" <;> simp only [hw, ho, hl, if_true, if_false] <;> rfl

/-- A body behind its starter, with a blank on both of its sides. -/
def segment (starter body : String) : Segment :=
  ⟨starter, ' ' :: (body.toList ++ [' '])⟩

/-- The segments of the condition. -/
def whereSegments (body : String) : List Segment :=
  if body = "" then [] else [segment "WHERE" body]

/-- The segments of the sort keys, of which the first is the blank between the two words. -/
def orderSegments (body : String) : List Segment :=
  if body = "" then [] else [⟨"ORDER", [' ']⟩, segment "BY" body]

theorem starter_segment (starter body : String) : (segment starter body).starter = starter := rfl

theorem inner_segment (starter body : String) : (segment starter body).inner = body := by
  simp [segment, Segment.inner]

theorem whole_segment (starter body : String) :
    (segment starter body).whole = starter ++ " " ++ body := by
  apply String.toList_inj.mp
  simp [segment, Segment.whole, List.dropLast_cons_of_ne_nil]

theorem found_segment {starter body : String} (hstarter : starter ∈ Clause.starters)
    (hbody : starters? body = some []) : (segment starter body).Found := by
  have hrun : ∀ word ∈ Clause.starters,
      Scanner.run .between word.toList = some ([], .word word.toList) := by
    simp only [Clause.starters, List.forall_mem_cons]
    exact ⟨rfl, rfl, rfl, rfl, nofun⟩
  have hword : ∀ word ∈ Clause.starters, starter? (.word word) = some word := by decide
  exact ⟨hrun starter hstarter, hword starter hstarter, .inr ⟨body, rfl, hbody⟩⟩

theorem found_whereSegments {body : String} (h : starters? body = some []) :
    ∀ segment ∈ whereSegments body, segment.Found := by
  unfold whereSegments
  split
  · exact List.forall_mem_nil _
  · exact List.forall_mem_singleton.mpr (found_segment (by decide) h)

theorem found_orderSegments {body : String} (h : starters? body = some []) :
    ∀ segment ∈ orderSegments body, segment.Found := by
  have horder : (Segment.mk "ORDER" [' ']).Found := ⟨rfl, rfl, .inl rfl⟩
  unfold orderSegments
  split
  · exact List.forall_mem_nil _
  · exact List.forall_mem_cons.mpr
      ⟨horder, List.forall_mem_singleton.mpr (found_segment (by decide) h)⟩

/-- The characters of a text, and a blank. -/
def ended (text : String) : List Char :=
  text.toList ++ [' ']

theorem ended_intercalate : ∀ {texts : List String}, texts ≠ [] →
    ended (" ".intercalate texts) = texts.flatMap ended
  | [], h => absurd rfl h
  | [text], _ => by simp [ended]
  | text :: other :: texts, _ => by
      have hrest := ended_intercalate (List.cons_ne_nil other texts)
      rw [List.flatMap_cons, ← hrest]
      simp [ended, String.intercalate_cons_cons]

theorem ended_whereSegments (body : String) :
    (clause "WHERE " body).flatMap ended = (whereSegments body).flatMap Segment.chars := by
  by_cases h : body = ""
  · rw [h]
    rfl
  · simp [clause_of_ne h, whereSegments, h, ended, segment, Segment.chars]

theorem ended_orderSegments (body : String) :
    (clause "ORDER BY " body).flatMap ended = (orderSegments body).flatMap Segment.chars := by
  by_cases h : body = ""
  · rw [h]
    rfl
  · simp [clause_of_ne h, orderSegments, h, ended, segment, Segment.chars]

/-- The segments of a limit, which brings its starter along. -/
theorem IsBounded.exists_limitSegments (h : query.IsBounded) : ∃ segments : List Segment,
    (query.limit = "" ∧ segments = [] ∨
      ∃ rows, query.limit = "LIMIT " ++ rows ∧ segments = [segment "LIMIT" rows]) ∧
    (∀ segment ∈ segments, segment.Found) ∧
    (clause "" query.limit).flatMap ended = segments.flatMap Segment.chars := by
  rcases h.limit with hlimit | ⟨rows, hlimit, hrows⟩
  · exact ⟨[], .inl ⟨hlimit, rfl⟩, List.forall_mem_nil _, by rw [hlimit]; rfl⟩
  · have hfound : (segment "LIMIT" rows).Found := found_segment (by decide) hrows
    refine ⟨[segment "LIMIT" rows], .inr ⟨rows, hlimit, rfl⟩,
      List.forall_mem_singleton.mpr hfound, ?_⟩
    simp [clause, hlimit, ended, segment, Segment.chars]

/-- Cut at its starters, what follows the SELECT of a query falls into the segments of its
bodies. -/
theorem IsBounded.cut_suffix (h : query.IsBounded) {limitSegments : List Segment}
    (hfound : ∀ segment ∈ limitSegments, segment.Found)
    (hchars : (clause "" query.limit).flatMap ended = limitSegments.flatMap Segment.chars) :
    ∃ first, cut "" [] .between (ended query.suffix) = some (⟨"", first⟩ ::
      (whereSegments query.whereBody ++ (orderSegments query.orderBody ++ limitSegments))) := by
  let texts := clause "WHERE " query.whereBody ++ clause "ORDER BY " query.orderBody ++
    clause "" query.limit
  let segments := whereSegments query.whereBody ++ (orderSegments query.orderBody ++ limitSegments)
  have htexts : texts.flatMap ended = segments.flatMap Segment.chars := by
    simp only [texts, segments, List.flatMap_append, ended_whereSegments, ended_orderSegments,
      hchars, List.append_assoc]
  have hsegments : ∀ segment ∈ segments, segment.Found :=
    List.forall_mem_append.mpr ⟨found_whereSegments h.whereBody,
      List.forall_mem_append.mpr ⟨found_orderSegments h.orderBody, hfound⟩⟩
  by_cases hempty : texts = []
  · -- Nothing is left but the blank that was put behind.
    have hnone : segments = [] := by
      refine List.eq_nil_iff_forall_not_mem.mpr fun segment hsegment => ?_
      rw [hempty, List.flatMap_nil] at htexts
      exact (hsegments segment hsegment).chars_ne_nil
        (List.flatMap_eq_nil_iff.mp htexts.symm segment hsegment)
    refine ⟨[' '], ?_⟩
    rw [show query.suffix = "" from congrArg (" ".intercalate ·) hempty]
    exact congrArg (fun segments => some (Segment.mk "" [' '] :: segments)) hnone.symm
  · have hsuffix : ended query.suffix = segments.flatMap Segment.chars :=
      (ended_intercalate hempty).trans htexts
    exact ⟨[], by rw [hsuffix]; exact cut_segments hsegments⟩

theorem IsBounded.bodies?_suffix (h : query.IsBounded) :
    bodies? query.suffix = some query.bodies := by
  obtain ⟨limitSegments, hlimit, hfound, hchars⟩ := h.exists_limitSegments
  obtain ⟨first, hcut⟩ := h.cut_suffix hfound hchars
  have hempty : Text.upper "" = "" := by decide
  have hwhere : Text.upper "WHERE" = "WHERE" := by decide
  have horder : Text.upper "ORDER" = "ORDER" := by decide
  have hby : Text.upper "BY" = "BY" := by decide
  have hrows : Text.upper "LIMIT" = "LIMIT" := by decide
  rw [bodies?, show query.suffix.toList ++ [' '] = ended query.suffix from rfl, hcut, bodies]
  by_cases hw : query.whereBody = "" <;> by_cases ho : query.orderBody = "" <;>
    rcases hlimit with ⟨hl, rfl⟩ | ⟨rows, hl, rfl⟩
  all_goals
    simp [whereSegments, orderSegments, Clause.find?, hw, ho, hl, hempty, hwhere, horder, hby,
      hrows, starter_segment, inner_segment, whole_segment]

end CompiledQuery

end Criteria
