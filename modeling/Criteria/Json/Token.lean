/-
JSON tokens.

A text is cut into brackets, commas, colons, quoted texts and the other
scalars; blanks between them are left out.  Inside quotes a control
character must be escaped, and the two halves of a surrogate pair stand for
one character.
-/
import Criteria.Json.Numeral
import Criteria.Text.Hex

namespace Criteria.Json

/-- What a JSON text is made of. -/
inductive Token where
  | openList
  | closeList
  | openObject
  | closeObject
  | comma
  | colon
  | string (text : String)
  | scalar (value : Json)

namespace Token

/-- The character that follows a backslash stands for another one. -/
def shortEscape? : Char → Option Char
  | '"' => some '"'
  | '\\' => some '\\'
  | '/' => some '/'
  | 'b' => some '\x08'
  | 'f' => some '\x0c'
  | 'n' => some '\n'
  | 'r' => some '\r'
  | 't' => some '\t'
  | _ => none

/-- The code point of a surrogate pair. -/
def pairValue? (high low : Nat) : Option Nat :=
  if 0xD800 ≤ high ∧ high < 0xDC00 ∧ 0xDC00 ≤ low ∧ low < 0xE000 then
    some (0x10000 + (high - 0xD800) * 0x400 + (low - 0xDC00))
  else none

/-- Reads up to the closing quote; `seen` holds the characters before, the last one first. -/
def readString (seen : List Char) : List Char → Option (String × List Char)
  | '"' :: rest => some (String.ofList seen.reverse, rest)
  | '\\' :: 'u' :: a :: b :: c :: d :: rest =>
    match Text.hexNumber? [a, b, c, d] with
    | none => none
    | some code =>
      if code < 0xD800 ∨ 0xE000 ≤ code then readString (Char.ofNat code :: seen) rest
      else match rest with
        | '\\' :: 'u' :: a :: b :: c :: d :: rest =>
          match (Text.hexNumber? [a, b, c, d]).bind (pairValue? code) with
          | none => none
          | some pair => readString (Char.ofNat pair :: seen) rest
        | _ => none
  | '\\' :: c :: rest =>
    match shortEscape? c with
    | none => none
    | some meant => readString (meant :: seen) rest
  | c :: rest => if c.toNat < 0x20 ∨ c = '\\' then none else readString (c :: seen) rest
  | [] => none

theorem readString_length {cs : List Char} {seen : List Char} {text : String} {rest : List Char}
    (h : readString seen cs = some (text, rest)) : rest.length < cs.length := by
  fun_induction readString seen cs <;> simp_all only [List.length_cons, Option.some.injEq,
    Prod.mk.injEq, reduceCtorEq, forall_const] <;> omega

theorem spanDigits_length (cs : List Char) : (Numeral.spanDigits cs).2.length ≤ cs.length := by
  simpa [Numeral.spanDigits] using (List.dropWhile_suffix _).length_le

theorem spanDigits_length_lt {cs : List Char} (h : (Numeral.spanDigits cs).1 ≠ []) :
    (Numeral.spanDigits cs).2.length < cs.length := by
  cases cs with
  | nil => simp [Numeral.spanDigits] at h
  | cons c rest =>
    by_cases hc : c.isDigit
    · have := (List.dropWhile_suffix (l := rest) Char.isDigit).length_le
      simp [Numeral.spanDigits, hc]
      omega
    · simp [Numeral.spanDigits, hc] at h

theorem spanSign_length (cs : List Char) : (Numeral.spanSign cs).2.length ≤ cs.length := by
  unfold Numeral.spanSign
  split <;> simp

theorem spanFraction_length {cs : List Char} {fraction : List Nat} {rest : List Char}
    (h : spanFraction cs = some (fraction, rest)) : rest.length ≤ cs.length := by
  unfold spanFraction at h
  split at h
  · next tail =>
    have := spanDigits_length tail
    split at h
    · simp at h
    · simp_all
      omega
  · simp_all

theorem spanExponent_length {cs : List Char} {exponent : Option Int} {rest : List Char}
    (h : spanExponent cs = some (exponent, rest)) : rest.length ≤ cs.length := by
  unfold spanExponent at h
  split at h
  · simp_all
  · next c tail =>
    have h₁ := spanSign_length tail
    have h₂ := spanDigits_length (Numeral.spanSign tail).2
    split at h
    · simp_all
    · simp only at h
      split at h
      · simp at h
      · simp_all
        omega

theorem spanNumber_length {negative : Bool} {cs : List Char} {value : Json} {rest : List Char}
    (h : spanNumber negative cs = some (value, rest)) : rest.length < cs.length := by
  unfold spanNumber at h
  split at h
  · simp at h
  · simp at h
  · next whole tail h₁ h₂ hspan =>
    have hlt : tail.length < cs.length := by
      have := @spanDigits_length_lt cs (by grind)
      grind
    simp only [Option.bind_eq_some_iff, Option.map_eq_some_iff] at h
    obtain ⟨⟨fraction, rest₁⟩, hf, ⟨exponent, rest₂⟩, he, v, hv, hr⟩ := h
    have := spanFraction_length hf
    have := spanExponent_length he
    simp_all
    omega

/-- A word of a fixed spelling at the start of a text. -/
def readWord (word : List Char) (value : Json) (cs : List Char) : Option (Token × List Char) :=
  if word.isPrefixOf cs then some (.scalar value, cs.drop word.length) else none

/-- The first token of a text that does not start with a blank. -/
def first : List Char → Option (Token × List Char)
  | [] => none
  | c :: rest =>
    match c with
    | '[' => some (.openList, rest)
    | ']' => some (.closeList, rest)
    | '\x7b' => some (.openObject, rest)
    | '\x7d' => some (.closeObject, rest)
    | ',' => some (.comma, rest)
    | ':' => some (.colon, rest)
    | '"' => (readString [] rest).map fun (text, rest) => (.string text, rest)
    | '-' => (spanNumber true rest).map fun (value, rest) => (.scalar value, rest)
    | 'n' => readWord "ull".toList .null rest
    | 't' => readWord "rue".toList (.bool true) rest
    | 'f' => readWord "alse".toList (.bool false) rest
    | c => (spanNumber false (c :: rest)).map fun (value, rest) => (.scalar value, rest)

theorem readWord_length {word : List Char} {value : Json} {cs : List Char} {token : Token}
    {rest : List Char} (h : readWord word value cs = some (token, rest)) :
    rest.length ≤ cs.length := by
  unfold readWord at h
  split at h
  · simp only [Option.some.injEq, Prod.mk.injEq] at h
    simp [← h.2]
  · simp at h

theorem first_length {cs : List Char} {token : Token} {rest : List Char}
    (h : first cs = some (token, rest)) : rest.length < cs.length := by
  unfold first at h
  split at h
  · simp at h
  · next c tail =>
    split at h
    case h_7 =>
      obtain ⟨⟨text, left⟩, hread, heq⟩ := Option.map_eq_some_iff.1 h
      have := readString_length hread
      simp_all
      omega
    case h_8 =>
      obtain ⟨⟨value, left⟩, hspan, heq⟩ := Option.map_eq_some_iff.1 h
      have := spanNumber_length hspan
      simp_all
      omega
    case h_12 =>
      obtain ⟨⟨value, left⟩, hspan, heq⟩ := Option.map_eq_some_iff.1 h
      have := spanNumber_length hspan
      simp_all
    case h_9 | h_10 | h_11 =>
      have := readWord_length h
      simp
      omega
    all_goals
      simp only [Option.some.injEq, Prod.mk.injEq] at h
      simp [h.2]

/-- The blanks of JSON. -/
def isSpace (c : Char) : Bool :=
  c = ' ' || c = '\n' || c = '\t' || c = '\r'

/-- Cuts a text into tokens. -/
def scan (cs : List Char) : Option (List Token) :=
  match cs with
  | [] => some []
  | c :: rest =>
    if isSpace c then scan rest
    else
      match _h : first (c :: rest) with
      | none => none
      | some (token, left) => (scan left).map (token :: ·)
termination_by cs.length
decreasing_by
  · simp
  · exact first_length _h

end Token

end Criteria.Json
