/-
# `Criteria.Proofs.Escaping` — a literal is read back, and ends where it was ended

## What is proved

Whatever text is quoted, and whatever is written behind it, a reader that
begins at the opening quote has read exactly the text when it stops, and has
stopped right behind the closing quote, unless one more quote follows there.
So no two texts have one escaped form.  A text is its own escaped form exactly
when there is no quote, no backslash and no NUL in it, and the escaped forms
are exactly the texts in which quotes come in pairs and backslashes in front of
a backslash or a zero (`escaping_is_exact`).

The scanner that takes whole queries apart reads the same content and goes on
at the same place (`Scanner.scan_literal`), so that a quoted text is one token
there (`tokens?_quote_append`).

## What carries it

What is written for a character is read as that character in front of any rest
(`readBody_escapeChar`).  Nothing has to be remembered from one character to
the next, because what is written for one of them is never the beginning of
what is written for another.
-/
import Mathlib.Data.List.Basic
import Criteria.Proofs.Scanning
import Criteria.Sql.Quotation

namespace Criteria.Sql

namespace Quotation

variable {others : Char → List Char} {c : Char} {cs rest : List Char}

theorem escapeChar_of_isPlain (hc : IsPlain c) : escapeChar c = [c] := by
  obtain ⟨hquote, hback, hnul⟩ := hc
  rw [escapeChar, if_neg hback, if_neg hquote, if_neg hnul]

/-! ## Reading one character after the other -/

theorem readBody_plain (hc : IsPlain c) :
    readBody others (c :: rest) = prepend [c] (readBody others rest) := by
  obtain ⟨hquote, hback, -⟩ := hc
  rw [readBody]
  · exact fun _ h => absurd h hquote
  · exact hquote
  · exact fun h => absurd h hback
  · exact fun _ _ h => absurd h hback

/-- A quote without a second one behind it ends the literal. -/
theorem readBody_end (h : rest.head? ≠ some '\x27') :
    readBody others ('\x27' :: rest) = some ([], rest) := by
  rw [readBody]
  rintro tail rfl
  exact h rfl

theorem readBody_escapeChar (c : Char) (rest : List Char) :
    readBody others (escapeChar c ++ rest) = prepend [c] (readBody others rest) := by
  rcases escapeChar_cases c with ⟨rfl, h⟩ | ⟨rfl, h⟩ | ⟨rfl, h⟩ | ⟨hplain, h⟩
  · rw [h]
    rfl
  · rw [h]
    rfl
  · rw [h]
    rfl
  · rw [h]
    exact readBody_plain hplain

/-- A body is read as what was escaped, up to the quote that ends the literal. -/
theorem readBody_escaped (h : rest.head? ≠ some '\x27') :
    readBody others (cs.flatMap escapeChar ++ '\x27' :: rest) = some (cs, rest) := by
  induction cs with
  | nil => exact readBody_end h
  | cons c cs ih =>
      rw [List.flatMap_cons, List.append_assoc, readBody_escapeChar, ih]
      rfl

theorem toList_quote_append (text rest : String) : (quote text ++ rest).toList =
    '\x27' :: (text.toList.flatMap escapeChar ++ '\x27' :: rest.toList) := by
  simp [quote, escape]

theorem read?_quote {text rest : String} (h : rest.toList.head? ≠ some '\x27') :
    read? others (quote text ++ rest) = some (text, rest) := by
  have hbody : readBody others (text.toList.flatMap escapeChar ++ '\x27' :: rest.toList) =
      some (text.toList, rest.toList) := readBody_escaped h
  rw [read?, toList_quote_append]
  show (readBody others _).map _ = _
  rw [hbody]
  show some (String.ofList text.toList, String.ofList rest.toList) = some (text, rest)
  rw [String.ofList_toList, String.ofList_toList]

/-- The text of a literal is known once the literal is read. -/
theorem quote_injective : Function.Injective quote := by
  intro a b hquote
  have hempty : ("" : String).toList.head? ≠ some '\x27' := nofun
  have hread : ∀ text, read? (fun c => [c]) (quote text ++ "") = some (text, "") :=
    fun _ => read?_quote hempty
  have hsame : some (a, "") = some (b, "") := by rw [← hread a, hquote, hread b]
  exact congrArg Prod.fst (Option.some.inj hsame)

theorem escape_injective : Function.Injective escape := by
  intro a b h
  exact quote_injective (by rw [quote, h, quote])

/-! ## The texts that escaping gives -/

theorem isBody_escapeChar (c : Char) (hrest : IsBody rest) : IsBody (escapeChar c ++ rest) := by
  rcases escapeChar_cases c with ⟨-, h⟩ | ⟨-, h⟩ | ⟨-, h⟩ | ⟨hplain, h⟩
  · rw [h]
    exact .backslashes hrest
  · rw [h]
    exact .quotes hrest
  · rw [h]
    exact .zero hrest
  · rw [h]
    exact .plain hplain hrest

theorem isBody_escaped (cs : List Char) : IsBody (cs.flatMap escapeChar) := by
  induction cs with
  | nil => exact .nil
  | cons c cs ih => exact isBody_escapeChar c ih

/-- What may stand between quotes is the escaped form of something. -/
theorem exists_of_isBody (h : IsBody cs) : ∃ text : List Char, text.flatMap escapeChar = cs := by
  induction h with
  | nil => exact ⟨[], rfl⟩
  | @plain c rest hplain _ ih =>
      obtain ⟨text, rfl⟩ := ih
      refine ⟨c :: text, ?_⟩
      rw [List.flatMap_cons, escapeChar_of_isPlain hplain]
      rfl
  | quotes _ ih =>
      obtain ⟨text, rfl⟩ := ih
      exact ⟨'\x27' :: text, rfl⟩
  | backslashes _ ih =>
      obtain ⟨text, rfl⟩ := ih
      exact ⟨'\\' :: text, rfl⟩
  | zero _ ih =>
      obtain ⟨text, rfl⟩ := ih
      exact ⟨'\x00' :: text, rfl⟩

theorem exists_escape_iff {body : String} :
    (∃ text, escape text = body) ↔ IsBody body.toList := by
  constructor
  · rintro ⟨text, rfl⟩
    rw [escape, String.toList_ofList]
    exact isBody_escaped text.toList
  · intro h
    obtain ⟨text, htext⟩ := exists_of_isBody h
    refine ⟨String.ofList text, ?_⟩
    rw [escape, String.toList_ofList, htext, String.ofList_toList]

/-! ## The texts that escaping leaves as they are -/

/-- Every character that is not plain makes the text longer by one. -/
theorem length_escaped (cs : List Char) :
    (cs.flatMap escapeChar).length = cs.length + cs.countP (¬IsPlain ·) := by
  induction cs with
  | nil => rfl
  | cons c cs ih =>
      rw [List.flatMap_cons, List.length_append, ih, List.length_cons, List.countP_cons]
      by_cases hplain : IsPlain c
      · simp [escapeChar_of_isPlain hplain, hplain]
        omega
      · rcases escapeChar_cases c with ⟨-, h⟩ | ⟨-, h⟩ | ⟨-, h⟩ | ⟨hc, -⟩
        · simp [h, hplain]
          omega
        · simp [h, hplain]
          omega
        · simp [h, hplain]
          omega
        · exact absurd hc hplain

theorem escaped_eq_self_iff : cs.flatMap escapeChar = cs ↔ ∀ c ∈ cs, IsPlain c := by
  constructor
  · intro h
    have hlength := length_escaped cs
    rw [h] at hlength
    have hnone : cs.countP (¬IsPlain ·) = 0 := by omega
    intro c hc
    simpa using List.countP_eq_zero.mp hnone c hc
  · intro h
    rw [List.flatMap_congr fun c hc => escapeChar_of_isPlain (h c hc)]
    exact List.flatMap_singleton' cs

theorem escape_eq_self_iff {text : String} :
    escape text = text ↔ ∀ c ∈ text.toList, IsPlain c := by
  rw [← escaped_eq_self_iff, ← String.toList_inj, escape, String.toList_ofList]

end Quotation

/-! ## Literals in a query -/

namespace Scanner

open Quotation

variable {read cs : List Char} {text rest : String}

/-- The rule for a backslash that the scanner has is one of those that readers may have. -/
theorem unescape_unescape (c : Char) : Quotation.unescape unescape c = unescape c := by
  unfold Quotation.unescape
  split
  · next hc =>
      rw [hc]
      rfl
  · split
    · next hc =>
        rw [hc]
        rfl
    · rfl

/-- The literal of which some characters have been read before, and the tokens of what is left. -/
def literalBefore (read : List Char) (found : List Char × List Char) : Option (List Token) :=
  (.literal (String.ofList (read ++ found.1)) :: ·) <$> scan .between found.2

theorem bind_literalBefore_prepend (found : Option (List Char × List Char)) :
    (prepend cs found).bind (literalBefore read) = found.bind (literalBefore (read ++ cs)) := by
  cases found with
  | none => rfl
  | some found =>
      show literalBefore read (cs ++ found.1, found.2) = literalBefore (read ++ cs) found
      rw [literalBefore, literalBefore, List.append_assoc]

/-- Behind a quote that ends a literal the scanner goes on as if it had begun there. -/
theorem scan_literalQuote (h : cs.head? ≠ some '\x27') :
    scan (.literalQuote read) cs = literalBefore read ([], cs) := by
  cases cs with
  | nil => simp [scan, finish, literalBefore]
  | cons c rest =>
      have hc : c ≠ '\x27' := fun hc => h (congrArg some hc)
      have hstep : step (.literalQuote read) c = endWith (.literalQuote read) c := by
        rw [step, if_neg hc]
      have hbetween : step .between c = start c := rfl
      rw [literalBefore, List.append_nil, scan, scan, hstep, hbetween]
      cases hstart : start c with
      | none => simp [endWith, finish, hstart]
      | some begun => cases hrest : scan begun.2 rest <;> simp [endWith, finish, hstart, hrest]

/-- The scanner reads a literal to the same end, and goes on with what is left. -/
theorem scan_literal :
    scan (.literal read) cs = (readBody unescape cs).bind (literalBefore read) := by
  fun_induction readBody unescape cs generalizing read with
  | case1 => rfl
  | case2 rest ih =>
      have hquote : step (.literal read) '\x27' = some ([], .literalQuote read) := rfl
      have hpair : step (.literalQuote read) '\x27' = some ([], .literal (read ++ ['\x27'])) := rfl
      rw [bind_literalBefore_prepend, scan_cons_of_step hquote, scan_cons_of_step hpair, ih]
      simp
  | case3 rest h =>
      have hquote : step (.literal read) '\x27' = some ([], .literalQuote read) := rfl
      have hend : rest.head? ≠ some '\x27' := by
        intro hrest
        obtain ⟨tail, htail⟩ := List.head?_eq_some_iff.mp hrest
        exact h tail htail
      rw [scan_cons_of_step hquote, scan_literalQuote hend]
      simp
  | case4 => rfl
  | case5 c rest ih =>
      have hback : step (.literal read) '\\' = some ([], .literalBackslash read) := rfl
      have hpair : step (.literalBackslash read) c = some ([], .literal (read ++ unescape c)) := rfl
      rw [bind_literalBefore_prepend, scan_cons_of_step hback, scan_cons_of_step hpair, ih,
        unescape_unescape]
      simp
  | case6 c rest _ hquote hlast hpair ih =>
      have hback : c ≠ '\\' := by
        rintro rfl
        cases rest with
        | nil => exact hlast rfl rfl
        | cons d rest => exact hpair d rest rfl rfl
      have hself : step (.literal read) c = some ([], .literal (read ++ [c])) := by
        rw [step, if_neg hquote, if_neg hback]
      rw [bind_literalBefore_prepend, scan_cons_of_step hself, ih]
      simp

end Scanner

/-- A quoted text is one token in front of whatever does not begin with a quote. -/
theorem tokens?_quote_append {text rest : String} (h : rest.toList.head? ≠ some '\x27') :
    tokens? (quote text ++ rest) = (.literal text :: ·) <$> tokens? rest := by
  have hopen : Scanner.step .between '\x27' = some ([], .literal []) := rfl
  have hbody : Quotation.readBody Scanner.unescape
      (text.toList.flatMap escapeChar ++ '\x27' :: rest.toList) =
        some (text.toList, rest.toList) := Quotation.readBody_escaped h
  rw [tokens?, Quotation.toList_quote_append, Scanner.scan_cons_of_step hopen,
    Scanner.scan_literal, hbody, Option.bind_some, Scanner.literalBefore, List.nil_append,
    String.ofList_toList, tokens?]
  simp

/-! ## The code -/

/-- A quoted text is read back from whatever begins with it, to the quote that ends it and no
further, and is one token of a query; so no two texts have one escaped form, a text is its own
escaped form exactly when it is plain, and the escaped forms are the bodies of literals. -/
theorem escaping_is_exact :
    (∀ text rest : String, rest.toList.head? ≠ some '\x27' →
      (∀ others, Quotation.read? others (quote text ++ rest) = some (text, rest)) ∧
        tokens? (quote text ++ rest) = (.literal text :: ·) <$> tokens? rest) ∧
    Function.Injective escape ∧
    (∀ text, escape text = text ↔ ∀ c ∈ text.toList, Quotation.IsPlain c) ∧
    ∀ body, (∃ text, escape text = body) ↔ Quotation.IsBody body.toList :=
  ⟨fun _ _ h => ⟨fun _ => Quotation.read?_quote h, tokens?_quote_append h⟩,
    Quotation.escape_injective, fun _ => Quotation.escape_eq_self_iff,
    fun _ => Quotation.exists_escape_iff⟩

/-- A text with a backslash in front of a quote and with quotes at its end, in front of a comma. -/
theorem escaping_is_exact_at_quotes :
    let text := "\\'\x00''"
    let rest := ", 'b'"
    quote text = "'\\\\''\\0'''''" ∧ rest.toList.head? ≠ some '\x27' ∧
      Quotation.read? Scanner.unescape (quote text ++ rest) = some (text, rest) ∧
      tokens? (quote text ++ rest) = some [.literal text, .comma, .literal "b"] := by
  intro text rest
  have hrest : rest.toList.head? ≠ some '\x27' := by decide
  have hothers : tokens? rest = some [.comma, .literal "b"] := by decide
  obtain ⟨hread, htokens⟩ := escaping_is_exact.1 text rest hrest
  rw [hothers] at htokens
  exact ⟨by decide, hrest, hread Scanner.unescape, htokens⟩

end Criteria.Sql
