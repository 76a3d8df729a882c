/-
Machines that read characters.

A machine takes one character after the other.  Its mode is what it is in
the middle of, and what it has read comes out when the character behind it
arrives, or at the end.

A machine that is handed a text in two parts gives what both parts give by
themselves when the second begins with a character that ends whatever the
machine is in the middle of (`Machine.Yields.scan_append`).
-/
namespace Criteria.Sql

/-! ## Delimiters -/

namespace Scanner

/-- The characters that end whatever a scanner is in the middle of, but a literal. -/
def delimiters : List Char :=
  [' ', '(', ')', ',']

/-- Nothing, or something that begins with a delimiter. -/
def Delimited (cs : List Char) : Prop :=
  ∀ c ∈ cs.head?, c ∈ delimiters

variable {c : Char} {cs rest : List Char}

@[simp] theorem mem_delimiters : c ∈ delimiters ↔ c = ' ' ∨ c = '(' ∨ c = ')' ∨ c = ',' := by
  simp [delimiters]

@[simp] theorem delimited_nil : Delimited [] := by simp [Delimited]

@[simp] theorem delimited_cons : Delimited (c :: rest) ↔ c ∈ delimiters := by simp [Delimited]

theorem Delimited.append (hcs : Delimited cs) (hrest : Delimited rest) :
    Delimited (cs ++ rest) := by
  cases cs with
  | nil => exact hrest
  | cons c cs => simpa using hcs

end Scanner

/-! ## Machines -/

/-- A machine with modes `σ` that gives values of `τ`; it may refuse a character, or the end. -/
structure Machine (σ τ : Type) where
  step : σ → Char → Option (List τ × σ)
  finish : σ → Option (List τ)

namespace Machine

variable {σ τ : Type} {m : Machine σ τ} {mode idle : σ} {c : Char} {cs rest : List Char}
  {out ts : List τ}

/-- Takes all characters, and ends. -/
def scan (m : Machine σ τ) (mode : σ) : List Char → Option (List τ)
  | [] => m.finish mode
  | c :: rest => do
    let (out, mode) ← m.step mode c
    let others ← m.scan mode rest
    return out ++ others

/-- What comes out while the characters are taken, and the mode behind them. -/
def run (m : Machine σ τ) (mode : σ) : List Char → Option (List τ × σ)
  | [] => some ([], mode)
  | c :: rest => do
    let (out, next) ← m.step mode c
    let (others, last) ← m.run next rest
    return (out ++ others, last)

/-- A delimiter ends what may end, and is then taken from the idle mode. -/
structure Yields (m : Machine σ τ) (idle : σ) : Prop where
  finish_idle : m.finish idle = some []
  step_delimiter : ∀ {mode ts c}, m.finish mode = some ts → c ∈ Scanner.delimiters →
    m.step mode c = (fun next => (ts ++ next.1, next.2)) <$> m.step idle c

theorem scan_cons_of_step {next : σ} (h : m.step mode c = some (out, next)) :
    m.scan mode (c :: rest) = (out ++ ·) <$> m.scan next rest := by
  simp only [scan, h, Option.bind_eq_bind, Option.bind_some]
  cases m.scan next rest <;> rfl

/-- Characters that are read on give nothing before the end. -/
theorem scan_of_readOn (mode : List Char → σ) {read : List Char}
    (h : ∀ c ∈ cs, ∀ read, m.step (mode read) c = some ([], mode (read ++ [c]))) :
    m.scan (mode read) (cs ++ rest) = m.scan (mode (read ++ cs)) rest := by
  induction cs generalizing read with
  | nil => simp
  | cons c cs ih =>
      obtain ⟨hc, hcs⟩ := List.forall_mem_cons.mp h
      rw [List.cons_append, scan_cons_of_step (hc read), ih hcs]
      simp

theorem scan_run {last : σ} (h : m.run mode cs = some (out, last)) :
    m.scan mode (cs ++ rest) = (out ++ ·) <$> m.scan last rest := by
  induction cs generalizing mode out with
  | nil =>
      obtain ⟨rfl, rfl⟩ := Prod.mk.inj (Option.some.inj h)
      simp
  | cons c cs ih =>
      simp only [run, Option.bind_eq_bind, Option.bind_eq_some_iff] at h
      obtain ⟨⟨first, next⟩, hstep, ⟨others, end_⟩, hothers, h⟩ := h
      obtain ⟨rfl, rfl⟩ := Prod.mk.inj (Option.some.inj h)
      rw [List.cons_append, scan_cons_of_step hstep, ih hothers]
      cases m.scan end_ rest <;> simp

theorem Yields.scan_delimited (hm : m.Yields idle) (hmode : m.finish mode = some ts)
    (hrest : Scanner.Delimited rest) : m.scan mode rest = (ts ++ ·) <$> m.scan idle rest := by
  cases rest with
  | nil => simp [scan, hmode, hm.finish_idle]
  | cons c rest =>
      have hc : c ∈ Scanner.delimiters := hrest c rfl
      simp only [scan, hm.step_delimiter hmode hc]
      cases m.step idle c with
      | none => rfl
      | some out => cases h : m.scan out.2 rest <;> simp [h]

/-- What two parts give, of which the second begins with a delimiter. -/
theorem Yields.scan_append (hm : m.Yields idle) (hcs : m.scan mode cs = some ts)
    (hrest : Scanner.Delimited rest) :
    m.scan mode (cs ++ rest) = (ts ++ ·) <$> m.scan idle rest := by
  induction cs generalizing mode ts with
  | nil => exact hm.scan_delimited hcs hrest
  | cons c cs ih =>
      simp only [scan, Option.bind_eq_bind, Option.bind_eq_some_iff] at hcs
      obtain ⟨⟨out, next⟩, hstep, others, hothers, hts⟩ := hcs
      obtain rfl := Option.some.inj hts
      rw [List.cons_append, scan_cons_of_step hstep, ih hothers]
      cases m.scan idle rest <;> simp

end Machine

end Criteria.Sql
