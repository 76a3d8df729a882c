/-
# `Criteria.Proofs.Lexemes` — a value is one literal, whatever is in it

## What is proved

For every filter and every order without text of the caller's own, the
tokens of its inline text are those of its bound text with the i-th
placeholder replaced by one literal, whose content is the text of the i-th
parameter.  No value ends its literal early, runs into another literal, or
adds, removes or changes any other token.

## How the boundaries are kept

A part of an expression is described by its lexemes, which are tokens and
values (`Template.Reads`): scanned in either mode, it gives the tokens of
its lexemes in that mode.  Words are set apart by blanks, and a value stands
behind a blank, a comma or a parenthesis and before a comma, a parenthesis,
a blank or the end; so all parts can be put together with `Reads.append`,
whose condition is on the first character of the second part only.  The two
texts of an expression have the same lexemes, and that is all that
injection safety says.
-/
import Criteria.Proofs.Scanning
import Criteria.Proofs.Writing

namespace Criteria

open Outcome Sql

/-- A token, or a value that becomes one. -/
inductive Lexeme where
  | token (token : Token)
  | value (value : Scalar)

namespace Lexeme

/-- The token of a lexeme: a value is a literal, or a placeholder. -/
def write (mode : BindMode) : Lexeme → Token
  | token t => t
  | value v =>
    match mode with
    | .inline => .literal v.literal
    | .parameterized => .placeholder

/-- The value of a lexeme that has one. -/
def value? : Lexeme → Option Scalar
  | token _ => none
  | value v => some v

@[simp] theorem write_token (mode : BindMode) (t : Token) : (token t).write mode = t := rfl

@[simp] theorem value?_token (t : Token) : (token t).value? = none := rfl

@[simp] theorem value?_value (v : Scalar) : (value v).value? = some v := rfl

/-- The lexemes of members in parentheses with a word between; one alone stands as it is. -/
def group (word : String) : List (List Lexeme) → List Lexeme
  | [alone] => alone
  | members =>
    token .leftParen :: ([token (.word word)].intercalate members ++ [token .rightParen])

end Lexeme

/-! ## Filling placeholders among tokens -/

/-- Puts literals with the given contents in the place of placeholders, from left to right;
without a content a placeholder stays. -/
def Sql.fillTokens : List Token → List String → List Token
  | [], _ => []
  | .placeholder :: rest, content :: others => .literal content :: fillTokens rest others
  | t :: rest, contents => t :: fillTokens rest contents

section

variable {ls : List Lexeme}

/-- The tokens of lexemes in one mode are those in the other with the placeholders filled. -/
theorem fillTokens_write (h : .token .placeholder ∉ ls) :
    fillTokens (ls.map (Lexeme.write .parameterized))
        ((ls.filterMap Lexeme.value?).map Scalar.literal) =
      ls.map (Lexeme.write .inline) := by
  induction ls with
  | nil => rfl
  | cons l ls ih =>
      obtain ⟨hl, hls⟩ := not_or.mp (fun h' => h (List.mem_cons.mpr h'))
      cases l with
      | token t =>
          have ht : t ≠ .placeholder := fun ht => hl (by rw [ht])
          have hfill : ∀ rest contents, fillTokens (t :: rest) contents =
              t :: fillTokens rest contents := by
            intro rest contents
            cases t <;> simp_all [fillTokens]
          simpa [hfill, List.filterMap_cons] using ih hls
      | value v => simpa [Lexeme.write, fillTokens] using ih hls

theorem count_write (h : .token .placeholder ∉ ls) :
    (ls.map (Lexeme.write .parameterized)).count .placeholder =
      (ls.filterMap Lexeme.value?).length := by
  induction ls with
  | nil => rfl
  | cons l ls ih =>
      obtain ⟨hl, hls⟩ := not_or.mp (fun h' => h (List.mem_cons.mpr h'))
      cases l with
      | token t =>
          have ht : t ≠ .placeholder := fun ht => hl (by rw [ht])
          simpa [List.count_cons, ht, List.filterMap_cons] using ih hls
      | value v => simpa [Lexeme.write] using ih hls

end

/-! ## Templates and their lexemes -/

namespace Template

/-- Scanned in either mode, the template gives the tokens of the lexemes in that mode, and the
values of the lexemes are its values. -/
structure Reads (t : Template) (ls : List Lexeme) : Prop where
  scan : ∀ mode, Scanner.scan .between (t.chars mode) = some (ls.map (Lexeme.write mode))
  values : ls.filterMap Lexeme.value? = t.values
  placeholder_notMem : .token .placeholder ∉ ls

/-- Nothing, or something that begins with a delimiter, in either mode. -/
def Delimited (t : Template) : Prop :=
  ∀ mode, Scanner.Delimited (t.chars mode)

variable {s : String} {t u : Template} {ts : List Token} {ls ms : List Lexeme}

theorem delimited_ofText_append {c : Char} {cs : List Char} (hs : s.toList = c :: cs)
    (hc : c ∈ Scanner.delimiters) : (ofText s ++ t).Delimited := by
  intro mode
  simpa [hs] using hc

theorem delimited_rightParen : (ofText ")").Delimited := by
  intro mode
  simp

namespace Reads

theorem nil : Reads [] [] :=
  ⟨fun _ => rfl, rfl, List.not_mem_nil⟩

/-- Only the characters and the values of a template count. -/
theorem congr (h : Reads t ls) (hchars : ∀ mode, u.chars mode = t.chars mode)
    (hvalues : u.values = t.values) : Reads u ls :=
  ⟨fun mode => (hchars mode).symm ▸ h.scan mode, hvalues ▸ h.values, h.placeholder_notMem⟩

theorem ofText (hs : tokens? s = some ts) (hts : .placeholder ∉ ts) :
    Reads (ofText s) (ts.map .token) where
  scan mode := by
    have hs' : Scanner.scan .between s.toList = some ts := hs
    simp [hs', Function.comp_def]
  values := by simp [Function.comp_def, List.filterMap_map]
  placeholder_notMem := by simpa using hts

theorem ofValue (v : Scalar) : Reads (ofValue v) [.value v] where
  scan mode := by
    cases mode with
    | inline =>
        have hquote : Scanner.scan .between (quote v.literal).toList = some [.literal v.literal] :=
          tokens?_quote v.literal
        simp [Piece.chars, Lexeme.write, hquote]
    | parameterized => rfl
  values := rfl
  placeholder_notMem := by simp

theorem append (ht : Reads t ls) (hu : Reads u ms) (hdelimited : u.Delimited) :
    Reads (t ++ u) (ls ++ ms) where
  scan mode := by
    rw [chars_append, Scanner.scan_append (ht.scan mode) (hdelimited mode), hu.scan mode]
    simp
  values := by simp [ht.values, hu.values]
  placeholder_notMem := by simp [ht.placeholder_notMem, hu.placeholder_notMem]

theorem closed_append (hs : Closed s ts) (hts : .placeholder ∉ ts) (ht : Reads t ls) :
    Reads (Template.ofText s ++ t) (ts.map .token ++ ls) where
  scan mode := by
    rw [chars_append, chars_ofText, hs, ht.scan mode]
    simp [Function.comp_def]
  values := by simp [ht.values, Function.comp_def, List.filterMap_map]
  placeholder_notMem := by simpa [ht.placeholder_notMem] using hts

/-- Members that are read one by one are read with a delimiting text between. -/
theorem joined {α : Type} {f : α → Template} {g : α → List Lexeme} {c : Char} {cs : List Char}
    (hs : Closed s ts) (hts : .placeholder ∉ ts) (hchars : s.toList = c :: cs)
    (hc : c ∈ Scanner.delimiters) {xs : List α} (h : ∀ x ∈ xs, Reads (f x) (g x)) :
    Reads (joined s (xs.map f)) ((ts.map Lexeme.token).intercalate (xs.map g)) := by
  induction xs with
  | nil => exact nil
  | cons x rest ih =>
      have hx := h x List.mem_cons_self
      have ihRest := ih fun y hy => h y (List.mem_cons_of_mem _ hy)
      cases rest with
      | nil => simpa [Template.joined] using hx
      | cons y rest =>
          simp only [List.map_cons, joined_cons_cons, List.intercalate_cons_cons] at ihRest ⊢
          have hbehind := closed_append hs hts ihRest
          have happend := hx.append hbehind (delimited_ofText_append hchars hc)
          simpa using happend

end Reads

theorem reads_rightParen : Reads (ofText ")") [.token .rightParen] := by
  have hscan : tokens? ")" = some [.rightParen] := rfl
  exact Reads.ofText hscan (by simp)

end Template

/-! ## Columns and tests -/

theorem FieldName.placeholder_notMem (field : FieldName) : .placeholder ∉ field.tokens := by
  obtain ⟨qualifier, name⟩ := field
  cases qualifier <;> simp [tokens]

namespace Target

/-- The tokens of a target. -/
def tokens (target : Target) : List Token :=
  match target.function with
  | none => target.column.tokens
  | some function => .word function.sql :: .leftParen :: (target.column.tokens ++ [.rightParen])

theorem tokens?_text (target : Target) (dialect : Dialect) :
    tokens? (target.text dialect) = some target.tokens := by
  obtain ⟨column, function⟩ := target
  cases function with
  | none => exact column.tokens?_text
  | some function =>
      have hclose : tokens? ")" = some [.rightParen] := rfl
      have hcolumn : tokens? (column.text ++ ")") = some (column.tokens ++ [.rightParen]) :=
        tokens?_append column.tokens?_text hclose (by simp)
      cases dialect
      simp only [text, Dialect.call, String.append_assoc]
      exact tokens?_append function.tokens?_sql (closed_leftParen.tokens?_append hcolumn) (by simp)

theorem placeholder_notMem (target : Target) : .placeholder ∉ target.tokens := by
  obtain ⟨column, function⟩ := target
  cases function <;> simp [tokens, column.placeholder_notMem]

end Target

namespace Test

/-- The lexemes of a test. -/
def lexemes : Test → List Lexeme
  | unary target op => (target.tokens ++ op.tokens).map .token
  | binary target op v => (target.tokens ++ op.tokens).map .token ++ [.value v]
  | list target op vs =>
    (target.tokens ++ op.tokens).map .token ++
      .token .leftParen :: ([.token .comma].intercalate (vs.map fun v => [.value v]) ++
        [.token .rightParen])
  | inSet target set =>
    .token (.word "FIND_IN_SET") :: .token .leftParen :: .value set :: .token .comma ::
      (target.tokens.map .token ++ [.token .rightParen])
  | constant holds =>
    [.token (.number "1"), .token (.operator "="), .token (.number (if holds then "1" else "0"))]

end Test

/-- Values with commas between are read as their literals with commas between. -/
theorem Template.reads_values (vs : List Scalar) :
    Reads (joined "," (vs.map ofValue)) ([.token .comma].intercalate (vs.map fun v => [.value v])) := by
  have hcomma : Closed "," [.comma] := closed_of_run rfl
  exact Reads.joined hcomma (by simp) rfl (by decide) fun v _ => Reads.ofValue v

namespace Test

open Template

/-- The text of a target with an operator behind it. -/
theorem tokens?_operator (dialect : Dialect) (target : Target) (op : Operator) :
    tokens? (target.text dialect ++ " " ++ op.sql) = some (target.tokens ++ op.tokens) := by
  rw [String.append_assoc]
  exact tokens?_append (target.tokens?_text dialect)
    (closed_blank.tokens?_append op.tokens?_sql) (by simp)

theorem operator_placeholder_notMem (target : Target) (op : Operator) :
    .placeholder ∉ target.tokens ++ op.tokens := by
  simp [target.placeholder_notMem, op.placeholder_notMem]

/-- A test is read as its lexemes. -/
theorem reads (dialect : Dialect) (test : Test) : (test.template dialect).Reads test.lexemes := by
  cases test with
  | unary target op =>
      exact Reads.ofText (tokens?_operator dialect target op) (operator_placeholder_notMem target op)
  | binary target op v =>
      have hoperator := Reads.ofText (tokens?_operator dialect target op)
        (operator_placeholder_notMem target op)
      have hvalue := Reads.closed_append closed_blank (by simp) (Reads.ofValue v)
      have hparts := hoperator.append hvalue (delimited_ofText_append rfl (by decide))
      exact hparts.congr (fun mode => by simp [template]) (by simp [template])
  | list target op vs =>
      have hopen : Closed " (" [.leftParen] := closed_of_run rfl
      have hoperator := Reads.ofText (tokens?_operator dialect target op)
        (operator_placeholder_notMem target op)
      have hvalues := (reads_values vs).append reads_rightParen delimited_rightParen
      have hparts := hoperator.append (Reads.closed_append hopen (by simp) hvalues)
        (delimited_ofText_append rfl (by decide))
      exact hparts.congr (fun mode => by simp [template]) (by simp [template])
  | inSet target set =>
      have hopen : Closed "FIND_IN_SET(" [.word "FIND_IN_SET", .leftParen] := closed_of_run rfl
      have htarget : tokens? (target.text dialect ++ ")") = some (target.tokens ++ [.rightParen]) :=
        tokens?_append (target.tokens?_text dialect) rfl (by simp)
      have hbehind := Reads.closed_append closed_comma (by simp)
        (Reads.ofText htarget (by simp [target.placeholder_notMem]))
      have hset := (Reads.ofValue set).append hbehind (delimited_ofText_append rfl (by decide))
      have hparts := Reads.closed_append hopen (by simp) hset
      cases dialect
      rw [List.map_append] at hparts
      exact hparts.congr (fun mode => by simp [template, Dialect.findInSet])
        (by simp [template, Dialect.findInSet])
  | constant holds =>
      cases holds with
      | false =>
          have hscan : tokens? "1=0" = some [.number "1", .operator "=", .number "0"] := rfl
          exact Reads.ofText hscan (by simp)
      | true =>
          have hscan : tokens? "1=1" = some [.number "1", .operator "=", .number "1"] := rfl
          exact Reads.ofText hscan (by simp)

end Test

/-! ## Conditions -/

namespace Condition

mutual

/-- The lexemes of a condition; a text of the caller's own has none that are known. -/
def lexemes : Condition → List Lexeme
  | .test t => t.lexemes
  | .raw _ => []
  | .enclosed inner => .token .leftParen :: (inner.lexemes ++ [.token .rightParen])
  | .negation inner => .token (.word "NOT") :: inner.lexemes
  | .junction k members => Lexeme.group k.sql (lexemesOf members)

/-- The lexemes of each condition. -/
def lexemesOf : List Condition → List (List Lexeme)
  | [] => []
  | c :: rest => c.lexemes :: lexemesOf rest

end

theorem lexemesOf_eq (cs : List Condition) : lexemesOf cs = cs.map lexemes := by
  induction cs with
  | nil => rfl
  | cons c rest ih => simp [lexemesOf, ih]

end Condition

namespace Template

variable {t : Template} {ls : List Lexeme}

theorem Reads.enclosed (h : Reads t ls) :
    Reads (Template.ofText "(" ++ t ++ Template.ofText ")")
      (.token .leftParen :: (ls ++ [.token .rightParen])) := by
  have hclosed := h.append reads_rightParen delimited_rightParen
  have hparts := Reads.closed_append closed_leftParen (by simp) hclosed
  rw [List.append_assoc]
  exact hparts

theorem Reads.group {α : Type} {f : α → Template} {g : α → List Lexeme} (k : Conjunction)
    {xs : List α} (h : ∀ x ∈ xs, Reads (f x) (g x)) :
    Reads (Template.group k.sql (xs.map f)) (Lexeme.group k.sql (xs.map g)) := by
  have hchars : (" " ++ k.sql ++ " ").toList = ' ' :: (k.sql ++ " ").toList := by simp
  have hjoined : Reads (Template.joined (" " ++ k.sql ++ " ") (xs.map f))
      ([Lexeme.token (.word k.sql)].intercalate (xs.map g)) :=
    Reads.joined k.closed (by simp) hchars (by simp) h
  match xs, h, hjoined with
  | [], _, hjoined => exact hjoined.enclosed
  | [x], h, _ => exact h x List.mem_cons_self
  | x :: y :: rest, _, hjoined => exact hjoined.enclosed

end Template

namespace Condition

open Template

/-- A condition without text of the caller's own is read as its lexemes. -/
theorem reads (dialect : Dialect) (c : Condition) :
    c.ownTexts = [] → (c.template dialect).Reads c.lexemes := by
  induction c with
  | test t => exact fun _ => t.reads dialect
  | raw s =>
      intro h
      exact absurd h (by simp [ownTexts])
  | enclosed c ih =>
      intro h
      exact (ih h).enclosed
  | negation c ih =>
      intro h
      have hnot : Closed (dialect.negation ++ " ") [.word "NOT"] := by
        cases dialect
        exact closed_of_run rfl
      exact Reads.closed_append hnot (by simp) (ih h)
  | junction k members ih =>
      intro h
      rw [ownTexts, ownTextsOf_eq, List.flatMap_eq_nil_iff] at h
      rw [template, templates_eq, lexemes, lexemesOf_eq]
      exact Reads.group k fun c hc => ih c hc (h c hc)

end Condition

/-! ## Sort keys -/

namespace SortKey

open Template

/-- The lexemes of a direction behind a key. -/
def suffixTokens (direction : Option Direction) : List Token :=
  direction.elim [] fun d => [.word d.sql]

/-- The lexemes of a sort key; a text of the caller's own has none that are known. -/
def lexemes : SortKey → List Lexeme
  | random => [.token (.word "RAND"), .token .leftParen, .token .rightParen]
  | raw _ => []
  | column c direction => (c.tokens ++ suffixTokens direction).map .token
  | position c values direction =>
    .token (.word "FIELD") :: .token .leftParen :: (c.tokens.map .token ++
      (.token .comma :: ([.token .comma].intercalate (values.map fun v => [.value v]) ++
        .token .rightParen :: (suffixTokens direction).map .token)))

theorem tokens?_suffix (direction : Option Direction) :
    tokens? (suffix direction) = some (suffixTokens direction) := by
  cases direction with
  | none => rfl
  | some d => cases d <;> rfl

theorem delimited_suffix (direction : Option Direction) :
    Scanner.Delimited (suffix direction).toList := by
  cases direction <;> simp [suffix]

theorem suffix_placeholder_notMem (direction : Option Direction) :
    .placeholder ∉ suffixTokens direction := by
  cases direction <;> simp [suffixTokens]

/-- A sort key that is no text of the caller's own is read as its lexemes. -/
theorem reads (dialect : Dialect) (key : SortKey) (h : ∀ s, key ≠ .raw s) :
    (key.template dialect).Reads key.lexemes := by
  cases key with
  | random =>
      cases dialect
      have hscan : tokens? "RAND()" = some [.word "RAND", .leftParen, .rightParen] := rfl
      exact Reads.ofText hscan (by simp)
  | raw s => exact absurd rfl (h s)
  | column c direction =>
      have htokens := tokens?_append c.tokens?_text (tokens?_suffix direction)
        (delimited_suffix direction)
      exact Reads.ofText htokens
        (by simp [c.placeholder_notMem, suffix_placeholder_notMem direction])
  | position c values direction =>
      have hopen : Closed "FIELD(" [.word "FIELD", .leftParen] := closed_of_run rfl
      have hclose : Closed ")" [.rightParen] := closed_of_run rfl
      have hsuffix := Reads.ofText (tokens?_suffix direction) (suffix_placeholder_notMem direction)
      have hbehind := Reads.closed_append hclose (by simp) hsuffix
      have hvalues := (reads_values values).append hbehind (delimited_ofText_append rfl (by decide))
      have hcolumn := (Reads.ofText c.tokens?_text c.placeholder_notMem).append
        (Reads.closed_append closed_comma (by simp) hvalues) (delimited_ofText_append rfl (by decide))
      have hparts := Reads.closed_append hopen (by simp) hcolumn
      cases dialect
      exact hparts.congr (fun mode => by simp [template, Dialect.fieldOrder])
        (by simp [template, Dialect.fieldOrder])

end SortKey

/-! ## Filters and orders -/

/-- A filter without text of the caller's own means a condition without any. -/
theorem Filter.ownTexts_eq_nil_of_meaning (f : Filter) {r : Resolver} {c : Condition}
    (h : ∀ s ∈ f.ownTexts, s = "") (hc : f.meaning r = .ok (some c)) : c.ownTexts = [] := by
  refine List.eq_nil_iff_forall_not_mem.mpr fun s hs => ?_
  obtain ⟨hmem, hne⟩ := f.ownTexts_of_meaning hc s hs
  exact hne (h s hmem)

/-- A filter without text of the caller's own is read as the condition that it means, or not at
all. -/
theorem Filter.reads_meaning {f : Filter} {context : Context} {t : Template}
    (h : ∀ s ∈ f.ownTexts, s = "") (ht : f.template context = .ok t) :
    ∃ m : Option Condition, t.Reads (m.elim [] Condition.lexemes) := by
  obtain ⟨m, hm, rfl⟩ := map_eq_ok.mp ht
  cases m with
  | none => exact ⟨none, .nil⟩
  | some c =>
      exact ⟨some c, c.reads context.dialect (f.ownTexts_eq_nil_of_meaning h hm)⟩

theorem Filter.reads {f : Filter} {context : Context} {t : Template}
    (h : ∀ s ∈ f.ownTexts, s = "") (ht : f.template context = .ok t) : ∃ ls, t.Reads ls := by
  obtain ⟨m, hm⟩ := Filter.reads_meaning h ht
  exact ⟨_, hm⟩

/-- An order without text of the caller's own is read as its keys. -/
theorem Order.reads_keys {order : Order} {context : Context} {t : Template}
    (h : ∀ s ∈ order.ownTexts, s = "") (ht : order.template context = .ok t) :
    ∃ keys : List SortKey,
      t.Reads ([.token .comma].intercalate (keys.map SortKey.lexemes)) := by
  obtain ⟨keys, hkeys, rfl⟩ := map_eq_ok.mp ht
  have hread : ∀ key ∈ keys, (key.template context.dialect).Reads key.lexemes := by
    refine fun key hkey => key.reads context.dialect fun s hs => ?_
    obtain ⟨hmem, hne⟩ := Order.raw_mem_keys hkeys (hs ▸ hkey)
    exact hne (h s hmem)
  exact ⟨keys, Template.Reads.joined closed_comma (by simp) rfl (by decide) hread⟩

theorem Order.reads {order : Order} {context : Context} {t : Template}
    (h : ∀ s ∈ order.ownTexts, s = "") (ht : order.template context = .ok t) :
    ∃ ls, t.Reads ls := by
  obtain ⟨keys, hkeys⟩ := Order.reads_keys h ht
  exact ⟨_, hkeys⟩

/-- Both ways to write an expression fail with the same error, or both give tokens: the bound
text has a placeholder for each of its parameters, and the inline text has the same tokens with a
literal of the text of the parameter in the place of each. -/
def LexesAlike {ε : Type} [Expression ε] (context : Context) (e : ε) : Prop :=
  (∃ error, Expression.sql e context = .error error ∧
    Expression.toFragment e context = .error error) ∨
  ∃ sql fragment ts, Expression.sql e context = .ok sql ∧
    Expression.toFragment e context = .ok fragment ∧
    tokens? fragment.sql = some ts ∧
    ts.count .placeholder = fragment.params.length ∧
    tokens? sql = some (fillTokens ts (fragment.params.map Scalar.literal))

theorem Template.Reads.tokens?_sql {t : Template} {ls : List Lexeme} (h : t.Reads ls)
    (mode : BindMode) : tokens? (t.sql mode) = some (ls.map (Lexeme.write mode)) := by
  rw [tokens?, Template.toList_sql]
  exact h.scan mode

theorem lexesAlike_of_reads {ε : Type} [Expression ε] [Templated ε] {context : Context} {e : ε}
    (h : ∀ t, Templated.template context e = .ok t → ∃ ls, t.Reads ls) :
    LexesAlike context e := by
  unfold LexesAlike
  rw [Expression.sql_eq, Expression.toFragment_eq]
  cases ht : Templated.template context e with
  | error error => exact .inl ⟨error, rfl, rfl⟩
  | ok t =>
      obtain ⟨ls, hls⟩ := h t ht
      refine .inr ⟨_, _, _, rfl, rfl, hls.tokens?_sql .parameterized, ?_, ?_⟩
      · simpa [Template.fragment, hls.values] using count_write hls.placeholder_notMem
      · rw [hls.tokens?_sql .inline, ← fillTokens_write hls.placeholder_notMem, hls.values]
        rfl

/-- No value of a filter or an order changes the tokens of its inline text but the one literal that
is its own. -/
theorem inline_lexes_alike (resolver : Resolver) :
    let context : Context := ⟨.mysql, resolver⟩
    (∀ f : Filter, (∀ s ∈ f.ownTexts, s = "") → LexesAlike context f) ∧
      ∀ order : Order, (∀ s ∈ order.ownTexts, s = "") → LexesAlike context order := by
  intro context
  refine ⟨?_, ?_⟩
  · exact fun f h => lexesAlike_of_reads fun t ht => f.reads h ht
  · exact fun order h => lexesAlike_of_reads fun t ht => order.reads h ht

/-- Quotes, backslashes and a NUL at the ends of a value stay in its literal. -/
theorem inline_lexes_alike_at_quotes :
    let context : Context := ⟨.mysql, .plain⟩
    let f : Filter := .predicate true
      { fields := [⟨none, ⟨"city", by decide⟩⟩], operator := .among
        comparand := some (.list [.text "'' OR 1=1 -- \\", .text "\x00'"]) }
    (∃ sql, Expression.sql f context = .ok sql ∧
      tokens? sql = some [.word "city", .word "IN", .leftParen, .literal "'' OR 1=1 -- \\",
        .comma, .literal "\x00'", .rightParen]) ∧
      LexesAlike context f :=
  ⟨⟨_, rfl, rfl⟩, (inline_lexes_alike .plain).1 _ (by simp [Filter.ownTexts])⟩

end Criteria
