/-
# `Criteria.Proofs.Operands` — a test is one operand

The text of a test, whether its values are quoted or bound, is one operand
of the condition that it stands in: it has no connective outside of its
literals and parentheses, and neither begins with NOT nor is only a pair of
parentheses.  So an outline that is read from it is the operand of its
symbols (`Test.ofText?_sql`).

The parts of a test are looked at one by one.  The name of a column is a
word and no keyword; an operator may have a NOT in it, but not in front; and
a literal is one quoted text, whatever it says.
-/
import Criteria.Proofs.Nesting
import Criteria.Proofs.Scanning
import Criteria.Proofs.Writing

namespace Criteria

open Sql

/-! ## Items that divide nothing -/

namespace Sql

namespace Item

variable {i : Item} {is : List Item}

/-- The item belongs to an operand, wherever it stands. -/
structure Plain (i : Item) : Prop where
  divides?_eq : ∀ n, i.divides? n = some (none, n)
  role_ne_query : i.role ≠ .query

theorem plain_of_other (h : i.role = .other) : i.Plain :=
  ⟨fun n => by simp [divides?, h], by simp [h]⟩

theorem plain_of_negation (h : i.role = .negation) : i.Plain :=
  ⟨fun n => by simp [divides?, h], by simp [h]⟩

theorem plain_enclosed : (enclosed is).Plain :=
  ⟨fun n => by simp [divides?, enclosed], by simp [enclosed]⟩

theorem segments_of_plain (h : ∀ x ∈ is, x.Plain) : segments 0 is = some (is, []) := by
  induction is with
  | nil => rfl
  | cons x is ih =>
      obtain ⟨hx, his⟩ := List.forall_mem_cons.mp h
      simp [segments, hx.divides?_eq, ih his]

theorem isQuery_of_plain (h : ∀ x ∈ is, x.Plain) : isQuery is = false := by
  rw [isQuery, List.any_eq_false]
  intro x hx hquery
  have hrole := (h x hx).role_ne_query
  cases hx : x.role <;> simp_all

/-- Items that divide nothing are one operand, if the first has no meaning of its own. -/
theorem chain?_of_plain (hi : i.role = .other) (his : ∀ x ∈ is, x.Plain) :
    chain? (i :: is) = some ⟨.operand ((i :: is).flatMap symbols), []⟩ := by
  have hall : ∀ x ∈ i :: is, x.Plain := List.forall_mem_cons.mpr ⟨plain_of_other hi, his⟩
  refine chain?_eq_some.mpr ⟨i :: is, [], segments_of_plain hall, ?_, rfl⟩
  have hquery := isQuery_of_plain hall
  obtain ⟨role, symbols⟩ := i
  obtain rfl : role = .other := hi
  simp [operand?, hquery]

end Item

/-- Behind the beginning of an operand the text goes on with the operand. -/
def Continues (s : String) : Prop :=
  ∃ is, items? s = some is ∧ ∀ x ∈ is, x.Plain

/-- The text is the beginning of an operand, or all of it. -/
def Begins (s : String) : Prop :=
  ∃ i is, items? s = some (i :: is) ∧ i.role = .other ∧ ∀ x ∈ is, x.Plain

section

variable {s t : String} {is : List Item}

theorem Begins.continues (h : Begins s) : Continues s := by
  obtain ⟨i, is, hitems, hi, his⟩ := h
  exact ⟨i :: is, hitems, List.forall_mem_cons.mpr ⟨Item.plain_of_other hi, his⟩⟩

theorem Begins.append (hs : Begins s) (ht : Continues t) (hdelimited : Scanner.Delimited t.toList) :
    Begins (s ++ t) := by
  obtain ⟨i, is, hitems, hi, his⟩ := hs
  obtain ⟨js, hitems', hjs⟩ := ht
  exact ⟨i, is ++ js, items?_append hitems hitems' hdelimited, hi,
    List.forall_mem_append.mpr ⟨his, hjs⟩⟩

theorem Continues.append (hs : Continues s) (ht : Continues t)
    (hdelimited : Scanner.Delimited t.toList) : Continues (s ++ t) := by
  obtain ⟨is, hitems, his⟩ := hs
  obtain ⟨js, hitems', hjs⟩ := ht
  exact ⟨is ++ js, items?_append hitems hitems' hdelimited,
    List.forall_mem_append.mpr ⟨his, hjs⟩⟩

theorem Completes.continues (hs : Completes s is) (his : ∀ x ∈ is, x.Plain) (ht : Continues t) :
    Continues (s ++ t) := by
  obtain ⟨js, hitems, hjs⟩ := ht
  exact ⟨is ++ js, hs.items?_append hitems, List.forall_mem_append.mpr ⟨his, hjs⟩⟩

theorem Continues.blank (hs : Continues s) : Continues (" " ++ s) :=
  Completes.continues ⟨[], rfl, rfl⟩ (by simp) hs

theorem Continues.enclosed (hs : Continues s) : Continues ("(" ++ s ++ ")") := by
  obtain ⟨is, hitems, -⟩ := hs
  exact ⟨[.enclosed is], items?_enclosed hitems, by simpa using Item.plain_enclosed⟩

theorem Continues.comma (hs : Continues s) : Continues ("," ++ s) :=
  Completes.continues ⟨[.sign ","], rfl, rfl⟩ (by simpa using Item.plain_of_other rfl) hs

/-- The beginning of an operand is all of it, if nothing follows. -/
theorem Begins.ofText? (h : Begins s) :
    ∃ symbols, Chain.ofText? s = some ⟨.operand symbols, []⟩ := by
  obtain ⟨i, is, hitems, hi, his⟩ := h
  exact ⟨_, Chain.ofText?_eq_some.mpr ⟨_, hitems, Item.chain?_of_plain hi his⟩⟩

end

/-! ## Words and literals -/

namespace Symbol

variable {cs rest : List Char} {text : String}

/-- The words that have a meaning outside of operands. -/
def meaningful : List String :=
  ["AND", "XOR", "OR", "NOT", "BETWEEN", "SELECT", "CASE", "END"]

theorem role_word (h : Text.upper text ∉ meaningful) : (word text).role = .other := by
  simp only [meaningful, List.mem_cons, List.not_mem_nil, or_false, not_or] at h
  unfold role
  split <;> simp_all

theorem edge_word (h : Text.upper text ∉ meaningful) : (word text).edge = .neither := by
  simp only [meaningful, List.mem_cons, List.not_mem_nil, or_false, not_or] at h
  simp [edge, h]

/-- The symbol is no bracket, and has no meaning outside of operands but that of NOT. -/
def isPlain (s : Symbol) : Bool :=
  s.edge matches .neither && (s.role matches .other || s.role matches .negation)

theorem isPlain_word (h : Text.upper text ∉ meaningful) : (word text).isPlain := by
  simp [isPlain, role_word h, edge_word h]

theorem plain_ofSymbol {s : Symbol} (h : s.isPlain) : (Item.ofSymbol s).Plain := by
  rcases Bool.or_eq_true_iff.mp (Bool.and_eq_true_iff.mp h).2 with hrole | hrole
  · refine Item.plain_of_other ?_
    cases hs : s.role <;> simp_all [Item.ofSymbol]
  · refine Item.plain_of_negation ?_
    cases hs : s.role <;> simp_all [Item.ofSymbol]

theorem run_isPlain {ss : List Symbol} (h : ∀ s ∈ ss, s.isPlain) (nesting : Nesting) :
    nesting.run ss = some ⟨nesting.items ++ ss.map .ofSymbol, nesting.outer⟩ := by
  induction ss generalizing nesting with
  | nil => simp [Nesting.run]
  | cons s ss ih =>
      obtain ⟨hs, hss⟩ := List.forall_mem_cons.mp h
      have hedge : s.edge = .neither := by
        have hs := (Bool.and_eq_true_iff.mp hs).1
        cases hs : s.edge <;> simp_all
      have hstep : nesting.step s = some ⟨nesting.items ++ [.ofSymbol s], nesting.outer⟩ := by
        simp [Nesting.step, hedge]
      have hrest := ih hss ⟨nesting.items ++ [.ofSymbol s], nesting.outer⟩
      simp only [Nesting.run] at hrest ⊢
      simp [hstep, hrest]

theorem scan_word {read : List Char} (hcs : ∀ c ∈ cs, isWordPart c) :
    machine.scan (.word read) (cs ++ rest) = machine.scan (.word (read ++ cs)) rest :=
  Machine.scan_of_readOn Mode.word fun c hc read => by simp [machine, step, hcs c hc]

/-- What stands for a character of a literal is read on in the literal. -/
theorem scan_escapeChar (read : List Char) (c : Char) :
    machine.scan (.quoted .apostrophe read) (escapeChar c ++ rest) =
      machine.scan (.quoted .apostrophe (read ++ escapeChar c)) rest := by
  have hbackslash : machine.step (.quoted .apostrophe read) '\\' =
      some ([], .quotedBackslash .apostrophe (read ++ ['\\'])) := rfl
  rcases Quotation.escapeChar_cases c with
    ⟨-, hc⟩ | ⟨-, hc⟩ | ⟨-, hc⟩ | ⟨⟨hquote, hback, -⟩, hc⟩ <;> rw [hc]
  · have hpair : machine.step (.quotedBackslash .apostrophe (read ++ ['\\'])) '\\' =
        some ([], .quoted .apostrophe (read ++ ['\\'] ++ ['\\'])) := rfl
    simp [Machine.scan_cons_of_step hbackslash, Machine.scan_cons_of_step hpair]
  · have hquote : machine.step (.quoted .apostrophe read) '\x27' =
        some ([], .quotedQuote .apostrophe (read ++ ['\x27'])) := rfl
    have hpair : machine.step (.quotedQuote .apostrophe (read ++ ['\x27'])) '\x27' =
        some ([], .quoted .apostrophe (read ++ ['\x27'] ++ ['\x27'])) := rfl
    simp [Machine.scan_cons_of_step hquote, Machine.scan_cons_of_step hpair]
  · have hpair : machine.step (.quotedBackslash .apostrophe (read ++ ['\\'])) '0' =
        some ([], .quoted .apostrophe (read ++ ['\\'] ++ ['0'])) := rfl
    simp [Machine.scan_cons_of_step hbackslash, Machine.scan_cons_of_step hpair]
  · have hself : machine.step (.quoted .apostrophe read) c =
        some ([], .quoted .apostrophe (read ++ [c])) := by
      simp [machine, step, Quote.char, hback, hquote]
    simp [Machine.scan_cons_of_step hself]

theorem scan_escape (read text : List Char) :
    machine.scan (.quoted .apostrophe read) (text.flatMap escapeChar ++ rest) =
      machine.scan (.quoted .apostrophe (read ++ text.flatMap escapeChar)) rest := by
  induction text generalizing read with
  | nil => simp
  | cons c text ih =>
      rw [List.flatMap_cons, List.append_assoc, scan_escapeChar, ih]
      simp

end Symbol

theorem items?_of_isPlain {s : String} {ss : List Symbol} (hs : symbols? s = some ss)
    (hss : ∀ x ∈ ss, x.isPlain) : items? s = some (ss.map .ofSymbol) :=
  items?_eq_some.mpr ⟨ss, hs, by simp [Symbol.run_isPlain hss]⟩

theorem continues_of_isPlain {s : String} {ss : List Symbol} (hs : symbols? s = some ss)
    (hss : ∀ x ∈ ss, x.isPlain) : Continues s := by
  refine ⟨_, items?_of_isPlain hs hss, ?_⟩
  intro i hi
  obtain ⟨x, hx, rfl⟩ := List.mem_map.mp hi
  exact Symbol.plain_ofSymbol (hss x hx)

theorem begins_of_isPlain {s : String} {x : Symbol} {xs : List Symbol}
    (hs : symbols? s = some (x :: xs)) (hx : x.role = .other) (hxs : ∀ y ∈ x :: xs, y.isPlain) :
    Begins s := by
  refine ⟨.ofSymbol x, xs.map .ofSymbol, items?_of_isPlain hs hxs, hx, ?_⟩
  intro i hi
  obtain ⟨y, hy, rfl⟩ := List.mem_map.mp hi
  exact Symbol.plain_ofSymbol (hxs y (List.mem_cons_of_mem _ hy))

/-- A word without a meaning of its own is the beginning of an operand. -/
theorem begins_of_word {s : String} (hs : symbols? s = some [.word s])
    (hupper : Text.upper s ∉ Symbol.meaningful) : Begins s :=
  begins_of_isPlain hs (Symbol.role_word hupper) (by simpa using Symbol.isPlain_word hupper)

/-- A text that begins like a name and goes on like one is a word. -/
theorem symbols?_word {text : String} {first : Char} {others : List Char}
    (htext : text.toList = first :: others) (hfirst : Identifier.isStart first)
    (hothers : ∀ c ∈ others, Symbol.isWordPart c) : symbols? text = some [.word text] := by
  have hstart : Scanner.isWordStart first := Scanner.isWordStart_of_isStart hfirst
  have hdigit : first.isDigit = false := by
    cases hdigit : first.isDigit with
    | false => rfl
    | true => exact absurd hstart (by simp [Scanner.isWordStart_of_isDigit hdigit])
  have hpoint : first ≠ '.' := by
    rintro rfl
    exact absurd hfirst (by decide)
  have hstep : Symbol.machine.step .between first = some ([], .word [first]) := by
    simp [Symbol.machine, Symbol.step, Symbol.start, Symbol.isWordPart, Scanner.isWordPart, hstart]
  have hscan : Symbol.machine.scan (.word [first]) (others ++ []) =
      Symbol.machine.scan (.word (first :: others)) [] := Symbol.scan_word hothers
  rw [List.append_nil] at hscan
  have hword : Symbol.ofWord? (first :: others) = some (.word text) := by
    rw [Symbol.ofWord?, if_neg (by simp [hdigit, hpoint]), ← htext, String.ofList_toList]
  rw [symbols?, htext, Machine.scan_cons_of_step hstep, hscan]
  simp [Machine.scan, Symbol.machine, Symbol.finish, hword]

/-- A quoted text is one symbol. -/
theorem symbols?_quote (text : String) : symbols? (quote text) = some [.quoted (quote text)] := by
  have hopening : Symbol.machine.step .between '\x27' =
      some ([], .quoted .apostrophe ['\x27']) := rfl
  have hchars : (quote text).toList =
      '\x27' :: (text.toList.flatMap escapeChar ++ ['\x27']) := by
    simp [quote, escape]
  rw [symbols?, hchars, Machine.scan_cons_of_step hopening, Symbol.scan_escape]
  simp [Machine.scan, Symbol.machine, Symbol.step, Symbol.finish, Symbol.Quote.char, ← hchars]

end Sql

/-! ## The parts of a test -/

section Parts

theorem FieldName.upper_text_notMem (field : FieldName) :
    Text.upper field.text ∉ Symbol.meaningful := by
  obtain ⟨qualifier, name⟩ := field
  cases qualifier with
  | none =>
      obtain ⟨_, _, -, -, -, -, hkeyword⟩ := Identifier.fault?_eq_none_iff.mp name.faultless
      have hsub : ∀ w ∈ Symbol.meaningful, keywords.contains w := by decide
      exact fun h => hkeyword (hsub _ h)
  | some qualifier =>
      have hsub : ∀ w ∈ Symbol.meaningful, '.' ∉ w.toList := by decide
      refine fun h => hsub _ h ?_
      have hpoint : '.' = Char.toUpper '.' := rfl
      rw [Text.upper, String.toList_ofList, hpoint]
      exact List.mem_map_of_mem (by simp [text])

theorem FieldName.symbols?_text (field : FieldName) :
    symbols? field.text = some [.word field.text] := by
  have hparts : ∀ c ∈ field.text.toList, Symbol.isWordPart c := fun c hc => by
    rcases FieldName.isPart_of_mem hc with h | rfl
    · simp [Symbol.isWordPart, Scanner.isWordPart_of_isPart h]
    · decide
  obtain ⟨first, others, htext, hfirst⟩ :
      ∃ first others, field.text.toList = first :: others ∧ Identifier.isStart first := by
    obtain ⟨qualifier, name⟩ := field
    cases qualifier with
    | none =>
        obtain ⟨first, others, htext, -, hstart, -, -⟩ :=
          Identifier.fault?_eq_none_iff.mp name.faultless
        exact ⟨first, others, htext, hstart⟩
    | some qualifier =>
        obtain ⟨first, others, htext, -, hstart, -, -⟩ :=
          Identifier.fault?_eq_none_iff.mp qualifier.faultless
        exact ⟨first, others ++ '.' :: name.text.toList, by simp [text, htext], hstart⟩
  rw [htext] at hparts
  exact symbols?_word htext hfirst fun c hc => hparts c (List.mem_cons_of_mem _ hc)

/-- The name of a column is the beginning of an operand. -/
theorem FieldName.begins (field : FieldName) : Begins field.text :=
  begins_of_word field.symbols?_text field.upper_text_notMem

theorem Function.begins (f : Function) : Begins f.sql := by
  have hsymbols : symbols? f.sql = some [.word f.sql] := by cases f <;> rfl
  have hupper : Text.upper f.sql ∉ Symbol.meaningful := by cases f <;> decide
  exact begins_of_word hsymbols hupper

theorem Operator.continues (op : Operator) : Continues op.sql := by
  have hsymbols : symbols? op.sql = some ((symbols? op.sql).getD []) := by cases op <;> rfl
  have hplain : ∀ s ∈ (symbols? op.sql).getD [], s.isPlain := by cases op <;> decide
  exact continues_of_isPlain hsymbols hplain

/-- A value is one symbol, quoted or bound. -/
theorem Scalar.continues (v : Scalar) (mode : BindMode) :
    Continues ((Template.ofValue v).sql mode) := by
  cases mode with
  | inline =>
      have htext : (Template.ofValue v).sql .inline = quote v.literal := by
        simp [Template.sql, Piece.chars]
      rw [htext]
      have hplain : (Symbol.quoted (quote v.literal)).isPlain := rfl
      exact continues_of_isPlain (symbols?_quote _) (by simpa using hplain)
  | parameterized =>
      have htext : (Template.ofValue v).sql .parameterized = "?" := by
        simp [Template.sql, Piece.chars]
      have hsymbols : symbols? "?" = some [.sign "?"] := rfl
      rw [htext]
      exact continues_of_isPlain hsymbols (by decide)

theorem Target.begins (target : Target) (dialect : Dialect) : Begins (target.text dialect) := by
  obtain ⟨column, function⟩ := target
  cases dialect with
  | mysql =>
      cases function with
      | none => exact column.begins
      | some f =>
          have hcall : text ⟨column, some f⟩ .mysql = f.sql ++ ("(" ++ column.text ++ ")") := by
            simp [text, Dialect.call, String.append_assoc]
          rw [hcall]
          exact f.begins.append column.begins.continues.enclosed (by simp)

/-- Values with commas between. -/
theorem Scalar.continues_joined (vs : List Scalar) (mode : BindMode) :
    Continues ((Template.joined "," (vs.map .ofValue)).sql mode) := by
  induction vs with
  | nil => exact ⟨[], rfl, by simp⟩
  | cons v rest ih =>
      cases rest with
      | nil => simpa [Template.joined] using v.continues mode
      | cons w rest =>
          simp only [List.map_cons, Template.joined_cons_cons, Template.sql_append,
            Template.sql_ofText] at ih ⊢
          exact (v.continues mode).append ih.comma (by simp)

/-- A test is one operand of the condition that it stands in. -/
theorem Test.begins (dialect : Dialect) (mode : BindMode) (t : Test) :
    Begins ((t.template dialect).sql mode) := by
  cases t with
  | unary target op =>
      have htext : ((unary target op).template dialect).sql mode =
          target.text dialect ++ (" " ++ op.sql) := by
        simp [template, String.append_assoc]
      rw [htext]
      exact (target.begins dialect).append op.continues.blank (by simp)
  | binary target op v =>
      have htext : ((binary target op v).template dialect).sql mode =
          target.text dialect ++ (" " ++ (op.sql ++ (" " ++ (Template.ofValue v).sql mode))) := by
        simp [template, String.append_assoc]
      have hop := op.continues.append (v.continues mode).blank (by simp)
      rw [htext]
      exact (target.begins dialect).append hop.blank (by simp)
  | list target op vs =>
      have htext : ((list target op vs).template dialect).sql mode =
          target.text dialect ++ (" " ++ (op.sql ++ (" " ++
            ("(" ++ (Template.joined "," (vs.map .ofValue)).sql mode ++ ")")))) := by
        have hparen : " (" = " " ++ "(" := rfl
        simp [template, hparen, String.append_assoc, -String.reduceAppend]
      have hvalues := (Scalar.continues_joined vs mode).enclosed.blank
      have hop := op.continues.append hvalues (by simp)
      rw [htext]
      exact (target.begins dialect).append hop.blank (by simp)
  | inSet target v =>
      cases dialect with
      | mysql =>
          have htext : ((inSet target v).template .mysql).sql mode =
              "FIND_IN_SET" ++ ("(" ++ ((Template.ofValue v).sql mode ++
                ("," ++ (" " ++ target.text .mysql))) ++ ")") := by
            have hopening : "FIND_IN_SET(" = "FIND_IN_SET" ++ "(" := rfl
            have hcomma : ", " = "," ++ " " := rfl
            simp [template, Dialect.findInSet, hopening, hcomma, String.append_assoc,
              -String.reduceAppend]
          have hword : Begins "FIND_IN_SET" := begins_of_word rfl (by decide)
          have htarget := (target.begins .mysql).continues.blank.comma
          have hargs := (v.continues mode).append htarget (by simp)
          rw [htext]
          exact hword.append hargs.enclosed (by simp)
  | constant holds =>
      rw [template, Template.sql_ofText]
      have hyes : symbols? "1=1" = some [.word "1", .sign "=", .word "1"] := rfl
      have hno : symbols? "1=0" = some [.word "1", .sign "=", .word "0"] := rfl
      cases holds with
      | true => exact begins_of_isPlain hyes rfl (by decide)
      | false => exact begins_of_isPlain hno rfl (by decide)

end Parts

end Criteria
