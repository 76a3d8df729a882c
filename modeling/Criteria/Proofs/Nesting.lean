/-
# `Criteria.Proofs.Nesting` — outlines of texts put together

What is read from a text that is put together from parts is known from what
is read from the parts: in front of a delimiter the symbols of a part are
those it has by itself; items nest in the same way wherever a part stands,
because a part that is read by itself closes all that it opens; and chains
are divided where a connective stands between the parts.

The invariant for nesting (`Nesting.inside`) is that of a part that has
opened something and not closed it yet: the items in front of the part, and
all that is open around it, lie below what the part itself has put there.
-/
import Criteria.Sql.Outline

namespace Criteria.Sql

/-! ## Symbols of parts -/

namespace Symbol

theorem yields : machine.Yields .between where
  finish_idle := rfl
  step_delimiter := fun {mode ts c} hmode hc => by
    have hbetween : machine.step .between c = start c := rfl
    have hended : endWith mode c = (fun next => (ts ++ next.1, next.2)) <$> start c := by
      have hmode : finish mode = some ts := hmode
      rw [endWith, hmode]
      cases start c <;> rfl
    rw [hbetween, ← hended]
    rw [Scanner.mem_delimiters] at hc
    cases mode with
    | between =>
        simp only [endWith, finish, Option.bind_eq_bind, Option.bind_some]
        rcases hc with rfl | rfl | rfl | rfl <;> rfl
    | word read => rcases hc with rfl | rfl | rfl | rfl <;> rfl
    | quotedQuote quote read =>
        cases quote <;> rcases hc with rfl | rfl | rfl | rfl <;> rfl
    | sign first =>
        have hdashes : ¬ (first = '-' ∧ c = '-') := by
          rcases hc with rfl | rfl | rfl | rfl <;> simp
        have hcomment : ¬ (first = '/' ∧ c = '*') := by
          rcases hc with rfl | rfl | rfl | rfl <;> simp
        have htwice : ¬ ((first = '&' ∨ first = '|') ∧ c = first) := by
          rintro ⟨rfl | rfl, rfl⟩ <;> simp at hc
        simp only [machine, step, if_neg hdashes, if_neg hcomment, if_neg htwice]
    | quoted quote read => exact absurd hmode (by simp [machine, finish])
    | quotedBackslash quote read => exact absurd hmode (by simp [machine, finish])
    | dashes => exact absurd hmode (by simp [machine, finish])

end Symbol

theorem symbols?_append {a b : String} {ss ts : List Symbol} (ha : symbols? a = some ss)
    (hb : symbols? b = some ts) (hdelimited : Scanner.Delimited b.toList) :
    symbols? (a ++ b) = some (ss ++ ts) := by
  have hb' : Symbol.machine.scan .between b.toList = some ts := hb
  rw [symbols?, String.toList_append, Symbol.yields.scan_append ha hdelimited, hb']
  rfl

/-! ## Items of parts -/

namespace Nesting

variable {base nesting next : Nesting} {items more : List Item}
  {outer : List (Bracket × List Item)} {s : Symbol} {ss : List Symbol}

/-- What a part has read, where the part stands inside of something that was read before. -/
def inside (base : Nesting) (items : List Item) : List (Bracket × List Item) → Nesting
  | [] => ⟨base.items ++ items, base.outer⟩
  | (bracket, before) :: outer =>
    let around := inside base before outer
    ⟨items, (bracket, around.items) :: around.outer⟩

theorem inside_append : inside base (items ++ more) outer =
    ⟨(inside base items outer).items ++ more, (inside base items outer).outer⟩ := by
  cases outer <;> simp [inside]

/-- The innermost bracket that is open is not a CASE, which the word END would close. -/
def Free (base : Nesting) : Prop :=
  ∀ open_ ∈ base.outer.head?, open_.1 = .parenthesis

theorem step_inside (hbase : base.Free) (h : step nesting s = some next) :
    step (inside base nesting.items nesting.outer) s =
      some (inside base next.items next.outer) := by
  obtain ⟨items, outer⟩ := nesting
  cases hedge : s.edge with
  | opening bracket =>
      simp only [step, hedge] at h ⊢
      obtain rfl := Option.some.inj h
      rfl
  | neither =>
      simp only [step, hedge] at h ⊢
      obtain rfl := Option.some.inj h
      rw [inside_append]
  | closing bracket =>
      match bracket, outer with
      | .parenthesis, [] => simp [step, hedge] at h
      | .parenthesis, (.case, before) :: outer => simp [step, hedge] at h
      | .parenthesis, (.parenthesis, before) :: outer =>
          simp only [step, hedge, inside] at h ⊢
          obtain rfl := Option.some.inj h
          rw [inside_append]
      | .case, (.case, before) :: outer =>
          simp only [step, hedge, inside] at h ⊢
          obtain rfl := Option.some.inj h
          rw [inside_append]
      | .case, (.parenthesis, before) :: outer =>
          simp only [step, hedge, inside] at h ⊢
          obtain rfl := Option.some.inj h
          rfl
      | .case, [] =>
          simp only [step, hedge] at h
          obtain rfl := Option.some.inj h
          obtain ⟨before, open_⟩ := base
          match open_ with
          | [] => simp [step, hedge, inside]
          | (.parenthesis, _) :: _ => simp [step, hedge, inside]
          | (.case, around) :: _ => exact absurd (hbase _ rfl) (by simp)

/-- A part is read in the same way wherever it stands. -/
theorem run_inside (hbase : base.Free) (h : run nesting ss = some next) :
    run (inside base nesting.items nesting.outer) ss =
      some (inside base next.items next.outer) := by
  induction ss generalizing nesting with
  | nil =>
      obtain rfl := Option.some.inj h
      rfl
  | cons s ss ih =>
      simp only [run, List.foldlM_cons, Option.bind_eq_bind, Option.bind_eq_some_iff] at h ⊢
      obtain ⟨middle, hstep, h⟩ := h
      exact ⟨_, step_inside hbase hstep, ih h⟩

theorem run_append {ts : List Symbol} (h : run nesting ss = some next) :
    run nesting (ss ++ ts) = run next ts := by
  have h' : ss.foldlM step nesting = some next := h
  simp [run, List.foldlM_append, h']

/-- A part that closes all that it opens puts its items behind those before it. -/
theorem run_closed (hbase : base.Free) (h : run {} ss = some ⟨items, []⟩) :
    run base ss = some ⟨base.items ++ items, base.outer⟩ := by
  have hinside := run_inside hbase h
  have hbase : inside base [] [] = base := by simp [inside]
  rw [hbase] at hinside
  exact hinside

end Nesting

section Items

variable {a b : String} {is js : List Item} {ss : List Symbol}

theorem items?_eq_some : items? a = some is ↔
    ∃ ss, symbols? a = some ss ∧ Nesting.run {} ss = some ⟨is, []⟩ := by
  simp only [items?, Option.bind_eq_bind, Option.bind_eq_some_iff]
  refine exists_congr fun ss => and_congr_right fun _ => ⟨?_, fun h => ⟨_, h, rfl⟩⟩
  rintro ⟨⟨items, outer⟩, hrun, h⟩
  cases outer with
  | nil =>
      obtain rfl := Option.some.inj h
      exact hrun
  | cons _ _ => exact absurd h (by simp)

/-- The items of two parts, of which the second begins with a delimiter. -/
theorem items?_append (ha : items? a = some is) (hb : items? b = some js)
    (hdelimited : Scanner.Delimited b.toList) : items? (a ++ b) = some (is ++ js) := by
  obtain ⟨ss, hss, hrun⟩ := items?_eq_some.mp ha
  obtain ⟨ts, hts, hrun'⟩ := items?_eq_some.mp hb
  have hfree : Nesting.Free ⟨is, []⟩ := by simp [Nesting.Free]
  refine items?_eq_some.mpr ⟨ss ++ ts, symbols?_append hss hts hdelimited, ?_⟩
  rw [Nesting.run_append hrun, Nesting.run_closed hfree hrun']

/-- The text gives these items, and has come to its end whatever follows. -/
def Completes (a : String) (is : List Item) : Prop :=
  ∃ ss, Symbol.machine.run .between a.toList = some (ss, .between) ∧
    Nesting.run {} ss = some ⟨is, []⟩

theorem Completes.items?_append (ha : Completes a is) (hb : items? b = some js) :
    items? (a ++ b) = some (is ++ js) := by
  obtain ⟨ss, hss, hrun⟩ := ha
  obtain ⟨ts, hts, hrun'⟩ := items?_eq_some.mp hb
  have hts' : Symbol.machine.scan .between b.toList = some ts := hts
  have hfree : Nesting.Free ⟨is, []⟩ := by simp [Nesting.Free]
  refine items?_eq_some.mpr ⟨ss ++ ts, ?_, ?_⟩
  · rw [symbols?, String.toList_append, Machine.scan_run hss, hts']
    rfl
  · rw [Nesting.run_append hrun, Nesting.run_closed hfree hrun']

/-- A text in parentheses is one item. -/
theorem items?_enclosed (ha : items? a = some is) :
    items? ("(" ++ a ++ ")") = some [.enclosed is] := by
  obtain ⟨ss, hss, hrun⟩ := items?_eq_some.mp ha
  have hclosing : symbols? ")" = some [.sign ")"] := rfl
  have hopening : Symbol.machine.run .between "(".toList = some ([.sign "("], .between) := rfl
  have hsymbols := symbols?_append hss hclosing (by simp)
  have hsymbols' : Symbol.machine.scan .between (a ++ ")").toList = some (ss ++ [.sign ")"]) :=
    hsymbols
  have hfree : Nesting.Free ⟨[], [(.parenthesis, [])]⟩ := by simp [Nesting.Free]
  have hinner : Nesting.run ⟨[], [(.parenthesis, [])]⟩ ss = some ⟨is, [(.parenthesis, [])]⟩ :=
    Nesting.run_closed hfree hrun
  refine items?_eq_some.mpr ⟨.sign "(" :: (ss ++ [.sign ")"]), ?_, ?_⟩
  · rw [String.append_assoc, symbols?, String.toList_append, Machine.scan_run hopening, hsymbols']
    rfl
  · have hopen : Nesting.run {} [.sign "("] = some ⟨[], [(.parenthesis, [])]⟩ := rfl
    rw [← List.singleton_append, Nesting.run_append hopen, Nesting.run_append hinner]
    rfl

end Items

/-! ## Chains of parts -/

namespace Item

variable {is js first first' : List Item} {i : Item} {k : Connective} {n : Nat}
  {others others' : List (Connective × List Item)} {c d : Chain}

/-- The item joins what stands in front of it and behind it. -/
def Joins (i : Item) (k : Connective) : Prop :=
  i.divides? 0 = some (some k, 0)

theorem segments_append (hi : i.Joins k) (his : segments n is = some (first, others))
    (hjs : segments 0 js = some (first', others')) :
    segments n (is ++ i :: js) = some (first, others ++ (k, first') :: others') := by
  induction is generalizing n first others with
  | nil =>
      cases n with
      | succ n => exact absurd his (by simp [segments])
      | zero =>
          obtain ⟨rfl, rfl⟩ := Prod.mk.inj (Option.some.inj his)
          have hi : i.divides? 0 = some (some k, 0) := hi
          simp [segments, hi, hjs]
  | cons x is ih =>
      simp only [segments, Option.bind_eq_bind, Option.bind_eq_some_iff] at his
      obtain ⟨⟨divider, m⟩, hx, ⟨first₀, others₀⟩, his, h⟩ := his
      rw [List.cons_append]
      simp only [segments, hx, ih his, Option.bind_eq_bind, Option.bind_some]
      cases divider with
      | none =>
          obtain ⟨rfl, rfl⟩ := Prod.mk.inj (Option.some.inj h)
          rfl
      | some j =>
          obtain ⟨rfl, rfl⟩ := Prod.mk.inj (Option.some.inj h)
          rfl

theorem chain?_eq_some : chain? is = some c ↔ ∃ first others,
    segments 0 is = some (first, others) ∧ operand? first = some c.first ∧
      others.mapM (fun segment => (segment.1, ·) <$> operand? segment.2) = some c.rest := by
  simp only [chain?, Option.bind_eq_bind, Option.bind_eq_some_iff]
  constructor
  · rintro ⟨⟨first, others⟩, hsegments, o, ho, os, hos, h⟩
    obtain rfl := Option.some.inj h
    exact ⟨first, others, hsegments, ho, hos⟩
  · rintro ⟨first, others, hsegments, ho, hos⟩
    exact ⟨(first, others), hsegments, c.first, ho, c.rest, hos, rfl⟩

theorem chain?_append (hi : i.Joins k) (his : chain? is = some c) (hjs : chain? js = some d) :
    chain? (is ++ i :: js) = some (c.append k d) := by
  obtain ⟨first, others, hsegments, ho, hos⟩ := chain?_eq_some.mp his
  obtain ⟨first', others', hsegments', ho', hos'⟩ := chain?_eq_some.mp hjs
  refine chain?_eq_some.mpr ⟨_, _, segments_append hi hsegments hsegments', ho, ?_⟩
  rw [List.mapM_append, List.mapM_cons, hos, hos', ho']
  rfl

theorem chain?_negation (hi : i.role = .negation) (his : chain? is = some c) :
    chain? (i :: is) = some c.negate := by
  obtain ⟨role, symbols⟩ := i
  obtain rfl : role = .negation := hi
  obtain ⟨first, others, hsegments, ho, hos⟩ := chain?_eq_some.mp his
  refine chain?_eq_some.mpr ⟨⟨.negation, symbols⟩ :: first, others, ?_, ?_, hos⟩
  · simp [segments, divides?, hsegments]
  · simp [operand?, ho, Chain.negate]

/-- What stands in parentheses is one operand. -/
theorem chain?_enclosed (his : chain? is = some c) :
    chain? [.enclosed is] = some ⟨c.outline, []⟩ := by
  refine chain?_eq_some.mpr ⟨[.enclosed is], [], ?_, ?_, rfl⟩
  · simp [segments, divides?, enclosed]
  · simp [operand?, enclosed, his]

end Item

/-! ## Texts put together -/

namespace Chain

variable {a b : String} {c d : Chain}

theorem ofText?_eq_some : ofText? a = some c ↔
    ∃ is, items? a = some is ∧ Item.chain? is = some c :=
  Option.bind_eq_some_iff

/-- A connective of the language with a blank on either side. -/
theorem completes_conjunction (k : Conjunction) :
    ∃ i : Item, i.Joins k.connective ∧ Completes (" " ++ k.sql ++ " ") [i] := by
  cases k with
  | and => exact ⟨.ofSymbol (.word "AND"), rfl, _, rfl, rfl⟩
  | or => exact ⟨.ofSymbol (.word "OR"), rfl, _, rfl, rfl⟩

/-- Two texts with a connective between are read as one chain behind the other. -/
theorem ofText?_conjunction (k : Conjunction) (ha : ofText? a = some c) (hb : ofText? b = some d) :
    ofText? (a ++ (" " ++ k.sql ++ " ") ++ b) = some (c.append k.connective d) := by
  obtain ⟨is, his, hc⟩ := ofText?_eq_some.mp ha
  obtain ⟨js, hjs, hd⟩ := ofText?_eq_some.mp hb
  obtain ⟨i, hi, hcompletes⟩ := completes_conjunction k
  have hdelimited : Scanner.Delimited ((" " ++ k.sql ++ " ") ++ b).toList := by simp
  refine ofText?_eq_some.mpr ⟨is ++ ([i] ++ js), ?_, Item.chain?_append hi hc hd⟩
  rw [String.append_assoc]
  exact items?_append his (hcompletes.items?_append hjs) hdelimited

/-- NOT in front of a text belongs to its first operand. -/
theorem ofText?_negation (ha : ofText? a = some c) : ofText? ("NOT " ++ a) = some c.negate := by
  obtain ⟨is, his, hc⟩ := ofText?_eq_some.mp ha
  have hcompletes : Completes "NOT " [.ofSymbol (.word "NOT")] := ⟨_, rfl, rfl⟩
  exact ofText?_eq_some.mpr ⟨_, hcompletes.items?_append his, Item.chain?_negation rfl hc⟩

/-- A text in parentheses is one operand, whatever is in it. -/
theorem ofText?_enclosed (ha : ofText? a = some c) :
    ofText? ("(" ++ a ++ ")") = some ⟨c.outline, []⟩ := by
  obtain ⟨is, his, hc⟩ := ofText?_eq_some.mp ha
  exact ofText?_eq_some.mpr ⟨_, items?_enclosed his, Item.chain?_enclosed hc⟩

end Chain

end Criteria.Sql
