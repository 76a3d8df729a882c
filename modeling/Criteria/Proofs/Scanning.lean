/-
# `Criteria.Proofs.Scanning` — scanning a text in parts

A scanner that is handed a text in two parts gives the tokens of both parts
when the second part begins with a character that ends whatever the first
part is in the middle of (`Sql.Scanner.scan_append`).  The only things such
a character does not end are a literal and a point that waits for a name,
and neither is left open at the end of a part, because then the part has no
tokens by itself.

From here on the parts of a query are looked at one by one: quoted texts,
names, and the words of the vocabularies.
-/
import Criteria.Condition
import Criteria.Sql.Machine
import Criteria.Sql.Quotation
import Criteria.Sql.Token

namespace Criteria

/-! ## Scanning a text in parts -/

namespace Sql.Scanner

variable {mode : Mode} {c : Char} {cs rest : List Char} {ts : List Token}

/-- A delimiter ends what may end, and is then taken by itself. -/
theorem step_delimiter (hmode : finish mode = some ts) (hc : c ∈ delimiters) :
    step mode c = endWith mode c := by
  rw [mem_delimiters] at hc
  cases mode with
  | between => rcases hc with rfl | rfl | rfl | rfl <;> rfl
  | word read => rcases hc with rfl | rfl | rfl | rfl <;> rfl
  | number read => rcases hc with rfl | rfl | rfl | rfl <;> rfl
  | operator read => rcases hc with rfl | rfl | rfl | rfl <;> rfl
  | placeholder => rcases hc with rfl | rfl | rfl | rfl <;> rfl
  | literalQuote read => rcases hc with rfl | rfl | rfl | rfl <;> rfl
  | afterPoint => exact absurd hmode (by simp [finish])
  | literal read => exact absurd hmode (by simp [finish])
  | literalBackslash read => exact absurd hmode (by simp [finish])

/-- The scanner as a machine. -/
def machine : Machine Mode Token :=
  ⟨step, finish⟩

theorem scan_eq : scan mode cs = machine.scan mode cs := by
  induction cs generalizing mode with
  | nil => rfl
  | cons c cs ih => simp [scan, Machine.scan, machine, ih]

theorem yields : machine.Yields .between where
  finish_idle := rfl
  step_delimiter := fun {mode ts c} hmode hc => by
    have hstep : step mode c = endWith mode c := step_delimiter hmode hc
    have hfinish : finish mode = some ts := hmode
    have hidle : machine.step .between c = start c := rfl
    rw [hidle]
    refine hstep.trans ?_
    rw [endWith, hfinish]
    cases start c <;> rfl

/-- The tokens of two parts, of which the second begins with a delimiter. -/
theorem scan_append (hcs : scan mode cs = some ts) (hrest : Delimited rest) :
    scan mode (cs ++ rest) = (ts ++ ·) <$> scan .between rest := by
  rw [scan_eq] at hcs ⊢
  rw [scan_eq]
  exact yields.scan_append hcs hrest

theorem scan_cons_of_step {out : List Token} {next : Mode} (h : step mode c = some (out, next)) :
    scan mode (c :: rest) = (out ++ ·) <$> scan next rest := by
  rw [scan_eq, scan_eq]
  exact Machine.scan_cons_of_step h

/-- The tokens that come out while the characters are taken, and the mode behind them. -/
def run (mode : Mode) : List Char → Option (List Token × Mode) :=
  machine.run mode

theorem scan_run {out : List Token} {last : Mode} (h : run mode cs = some (out, last)) :
    scan mode (cs ++ rest) = (out ++ ·) <$> scan last rest := by
  rw [scan_eq, scan_eq]
  exact Machine.scan_run h

/-! ### Words -/

theorem isWordPart_of_isPart (h : Identifier.isPart c) : isWordPart c := by
  rcases Bool.or_eq_true_iff.mp h with h | h
  · rcases Bool.or_eq_true_iff.mp h with h | h
    · simp [isWordPart, isWordStart, h]
    · simp [isWordPart, h]
  · simp [isWordPart, isWordStart, h]

theorem isWordStart_of_isStart (h : Identifier.isStart c) : isWordStart c := by
  rcases Bool.or_eq_true_iff.mp h with h | h
  · simp [isWordStart, h]
  · simp [isWordStart, h]

/-- A digit begins no word. -/
theorem isWordStart_of_isDigit (hc : c.isDigit) : isWordStart c = false := by
  have hrange : 48 ≤ c.toNat ∧ c.toNat ≤ 57 := Char.isDigit_iff_toNat.mp hc
  have hval : c.val.toNat = c.toNat := rfl
  have hne : c ≠ '_' ∧ c ≠ '$' := by
    constructor <;> rintro rfl <;> simp at hrange
  have hascii : ¬ '\x7f' < c := by
    have : ('\x7f' : Char).val.toNat = 127 := rfl
    rw [Char.lt_def, UInt32.lt_iff_toNat_lt]
    omega
  have hletter : c.isAlpha = false := by
    have hcases : c.isAlpha = (decide (c.val ≥ 'A'.val ∧ c.val ≤ 'Z'.val) ||
        (decide (c.val ≥ 'a'.val) && decide (c.val ≤ 'z'.val))) := rfl
    simp [hcases, UInt32.le_iff_toNat_le]
    omega
  simp [isWordStart, hletter, hne, hascii]

theorem scan_word {read : List Char} (hcs : ∀ c ∈ cs, isWordPart c) :
    scan (.word read) (cs ++ rest) = scan (.word (read ++ cs)) rest := by
  rw [scan_eq, scan_eq]
  exact Machine.scan_of_readOn Mode.word fun c hc read => by simp [machine, step, hcs c hc]

/-! ### Literals -/

/-- What is written for a character is read as that character. -/
theorem scan_escapeChar (read : List Char) (c : Char) :
    scan (.literal read) (escapeChar c ++ rest) = scan (.literal (read ++ [c])) rest := by
  have hback : step (.literal read) '\\' = some ([], .literalBackslash read) := rfl
  rcases Quotation.escapeChar_cases c with
    ⟨rfl, hc⟩ | ⟨rfl, hc⟩ | ⟨rfl, hc⟩ | ⟨⟨hquote, hbackslash, -⟩, hc⟩
  · have hpair : step (.literalBackslash read) '\\' = some ([], .literal (read ++ ['\\'])) := rfl
    simp [scan_cons_of_step hback, scan_cons_of_step hpair, hc]
  · have hopen : step (.literal read) '\x27' = some ([], .literalQuote read) := rfl
    have hpair : step (.literalQuote read) '\x27' = some ([], .literal (read ++ ['\x27'])) := rfl
    simp [scan_cons_of_step hopen, scan_cons_of_step hpair, hc]
  · have hpair : step (.literalBackslash read) '0' = some ([], .literal (read ++ ['\x00'])) := rfl
    simp [scan_cons_of_step hback, scan_cons_of_step hpair, hc]
  · have hself : step (.literal read) c = some ([], .literal (read ++ [c])) := by
      simp [step, hbackslash, hquote]
    simp [scan_cons_of_step hself, hc]

theorem scan_escape (read text : List Char) :
    scan (.literal read) (text.flatMap escapeChar ++ rest) =
      scan (.literal (read ++ text)) rest := by
  induction text generalizing read with
  | nil => simp
  | cons c text ih =>
      rw [List.flatMap_cons, List.append_assoc, scan_escapeChar, ih]
      simp

end Sql.Scanner

namespace Sql

/-- A quoted text is one literal, whose content is the text. -/
theorem tokens?_quote (text : String) : tokens? (quote text) = some [.literal text] := by
  have hopen : Scanner.step .between '\x27' = some ([], .literal []) := rfl
  have hchars : (quote text).toList =
      '\x27' :: (text.toList.flatMap escapeChar ++ ['\x27']) := by
    simp [quote, escape]
  rw [tokens?, hchars, Scanner.scan_cons_of_step hopen, Scanner.scan_escape]
  simp [Scanner.scan, Scanner.step, Scanner.finish]

/-- The tokens of two texts, of which the second begins with a delimiter. -/
theorem tokens?_append {a b : String} {ts us : List Token} (ha : tokens? a = some ts)
    (hb : tokens? b = some us) (hdelimited : Scanner.Delimited b.toList) :
    tokens? (a ++ b) = some (ts ++ us) := by
  have hb' : Scanner.scan .between b.toList = some us := hb
  rw [tokens?, String.toList_append, Scanner.scan_append ha hdelimited, hb']
  rfl

/-- The text gives these tokens, and has come to its end whatever follows. -/
def Closed (s : String) (ts : List Token) : Prop :=
  ∀ rest, Scanner.scan .between (s.toList ++ rest) = (ts ++ ·) <$> Scanner.scan .between rest

theorem Closed.tokens?_append {a b : String} {ts us : List Token} (ha : Closed a ts)
    (hb : tokens? b = some us) : tokens? (a ++ b) = some (ts ++ us) := by
  have hb' : Scanner.scan .between b.toList = some us := hb
  rw [tokens?, String.toList_append, ha, hb']
  rfl

theorem closed_of_run {s : String} {ts : List Token}
    (h : Scanner.run .between s.toList = some (ts, .between)) : Closed s ts :=
  fun _ => Scanner.scan_run h

theorem closed_blank : Closed " " [] :=
  closed_of_run rfl

theorem closed_leftParen : Closed "(" [.leftParen] :=
  closed_of_run rfl

theorem closed_comma : Closed ", " [.comma] :=
  closed_of_run rfl

end Sql

/-! ## Names and words of the vocabularies -/

namespace Identifier

open Sql

theorem scan_text (id : Identifier) (rest : List Char) :
    Scanner.scan .between (id.text.toList ++ rest) = Scanner.scan (.word id.text.toList) rest ∧
      Scanner.scan .afterPoint (id.text.toList ++ rest) =
        Scanner.scan (.word id.text.toList) rest := by
  obtain ⟨first, others, htext, -, hstart, hall, -⟩ := fault?_eq_none_iff.mp id.faultless
  have hparts : ∀ c ∈ others, Scanner.isWordPart c := fun c hc =>
    Scanner.isWordPart_of_isPart (List.all_eq_true.mp hall c (List.mem_cons_of_mem _ hc))
  have hfirst : Scanner.isWordStart first := Scanner.isWordStart_of_isStart hstart
  have hbetween : Scanner.step .between first = some ([], .word [first]) := by
    simp [Scanner.step, Scanner.start, hfirst]
  have hpoint : Scanner.step .afterPoint first = some ([], .word [first]) := by
    simp [Scanner.step, hfirst]
  rw [htext, List.cons_append, Scanner.scan_cons_of_step hbetween,
    Scanner.scan_cons_of_step hpoint, Scanner.scan_word hparts]
  simp

end Identifier

namespace FieldName

open Sql

/-- The tokens of a name. -/
def tokens (field : FieldName) : List Token :=
  field.qualifier.elim [] (fun qualifier => [.word qualifier.text, .point]) ++
    [.word field.name.text]

theorem tokens?_text (field : FieldName) : tokens? field.text = some field.tokens := by
  obtain ⟨qualifier, name⟩ := field
  have hname : Scanner.scan (.word name.text.toList) [] = some [.word name.text] := by
    simp [Scanner.scan, Scanner.finish]
  cases qualifier with
  | none =>
      have hscan := (name.scan_text []).1
      rw [List.append_nil] at hscan
      simp [tokens?, text, tokens, hscan, hname]
  | some qualifier =>
      have hscan := (name.scan_text []).2
      rw [List.append_nil] at hscan
      have hpoint : Scanner.step (.word qualifier.text.toList) '.' =
          some ([.word qualifier.text, .point], .afterPoint) := by
        have hnone : Scanner.isWordPart '.' = false := by decide
        have hstart : Scanner.start '.' = some ([.point], .afterPoint) := rfl
        simp [Scanner.step, Scanner.endWith, Scanner.finish, hnone, hstart]
      simp [tokens?, text, tokens, (qualifier.scan_text _).1, Scanner.scan_cons_of_step hpoint,
        hscan, hname]

end FieldName

section Words

open Sql

/-- The tokens of an operator. -/
def Operator.tokens (op : Operator) : List Token :=
  (tokens? op.sql).getD []

theorem Operator.tokens?_sql (op : Operator) : tokens? op.sql = some op.tokens := by
  cases op <;> rfl

theorem Operator.placeholder_notMem (op : Operator) : .placeholder ∉ op.tokens := by
  cases op <;> decide

theorem Function.tokens?_sql (f : Function) : tokens? f.sql = some [.word f.sql] := by
  cases f <;> rfl

theorem Conjunction.closed (k : Conjunction) : Closed (" " ++ k.sql ++ " ") [.word k.sql] := by
  cases k <;> exact closed_of_run rfl

end Words

end Criteria
