/-
# `Criteria.Proofs.Outcome` — taking apart what may fail

Reading, checking and compiling all end in a value or an error.  These are
the facts that take such a computation apart at its steps: what the steps
were when the whole succeeds, and which step failed when it does not.
-/
namespace Criteria.Outcome

variable {ε α β : Type} {a : α} {b : β} {e : ε} {x : Except ε α} {f : α → Except ε β}

@[simp] theorem ok_bind : (Except.ok a >>= f : Except ε β) = f a := rfl

@[simp] theorem error_bind : (Except.error e >>= f : Except ε β) = .error e := rfl

@[simp] theorem pure_eq : (pure a : Except ε α) = .ok a := rfl

@[simp] theorem throw_eq : (throw e : Except ε α) = .error e := rfl

@[simp] theorem map_ok (h : α → β) : (h <$> Except.ok a : Except ε β) = .ok (h a) := rfl

@[simp] theorem map_error (h : α → β) : (h <$> Except.error e : Except ε β) = .error e := rfl

@[simp] theorem mapError_ok {φ : Type} (h : ε → φ) :
    (Except.ok a : Except ε α).mapError h = .ok a := rfl

@[simp] theorem mapError_error {φ : Type} (h : ε → φ) :
    (Except.error e : Except ε α).mapError h = .error (h e) := rfl

theorem map_eq_ok {h : α → β} : h <$> x = .ok b ↔ ∃ a, x = .ok a ∧ h a = b := by
  cases x with
  | error e => simp
  | ok a => simp

theorem bind_eq_ok : x >>= f = .ok b ↔ ∃ a, x = .ok a ∧ f a = .ok b := by
  cases x with
  | error e => simp
  | ok a => simp

theorem bind_eq_error : x >>= f = .error e ↔ x = .error e ∨ ∃ a, x = .ok a ∧ f a = .error e := by
  cases x with
  | error e => simp
  | ok a => simp

/-- The computation ends in a value. -/
def Succeeds (x : Except ε α) : Prop :=
  ∃ a, x = .ok a

@[simp] theorem succeeds_ok : Succeeds (.ok a : Except ε α) := ⟨a, rfl⟩

@[simp] theorem not_succeeds_error : ¬Succeeds (.error e : Except ε α) := by
  simp [Succeeds]

theorem succeeds_bind : Succeeds (x >>= f) ↔ ∃ a, x = .ok a ∧ Succeeds (f a) := by
  cases x with
  | error e => simp
  | ok a => simp

@[simp] theorem succeeds_map (h : α → β) : Succeeds (h <$> x) ↔ Succeeds x := by
  cases x with
  | error e => simp
  | ok a => simp

@[simp] theorem succeeds_bind_ok (h : α → β) :
    Succeeds (x >>= fun a => .ok (h a)) ↔ Succeeds x :=
  succeeds_map h

variable {g : α → Except ε β} {xs : List α} {ys : List β}

theorem mapM_eq_ok : xs.mapM g = .ok ys ↔ xs.map g = ys.map .ok := by
  induction xs generalizing ys with
  | nil => cases ys <;> simp
  | cons x rest ih =>
      cases ys with
      | nil => simp [bind_eq_ok]
      | cons y ys => simp [bind_eq_ok, ih]

/-- Lists that agree member by member in one way do so in any way that follows from it. -/
theorem map_eq_map_of_map_eq_map {γ δ : Type} {xs : List α} {ys : List β} {f : α → γ} {g : β → γ}
    {h : α → δ} {k : β → δ} (hfg : xs.map f = ys.map g)
    (hhk : ∀ x ∈ xs, ∀ y ∈ ys, f x = g y → h x = k y) : xs.map h = ys.map k := by
  induction xs generalizing ys with
  | nil =>
      obtain rfl := List.map_eq_nil_iff.mp hfg.symm
      rfl
  | cons x xs ih =>
      cases ys with
      | nil => cases hfg
      | cons y ys =>
          obtain ⟨hxy, hrest⟩ := List.cons_eq_cons.mp hfg
          have htail : xs.map h = ys.map k := ih hrest fun a ha b hb =>
            hhk a (List.mem_cons_of_mem _ ha) b (List.mem_cons_of_mem _ hb)
          rw [List.map_cons, List.map_cons, htail,
            hhk x List.mem_cons_self y List.mem_cons_self hxy]

/-- A list fails with its first member that fails. -/
theorem mapM_eq_error : xs.mapM g = .error e ↔
    ∃ before x after, xs = before ++ x :: after ∧ (∀ y ∈ before, ∃ b, g y = .ok b) ∧
      g x = .error e := by
  induction xs with
  | nil => simp
  | cons x rest ih =>
      simp only [List.mapM_cons, bind_eq_error, ih]
      constructor
      · rintro (h | ⟨b, hb, ⟨before, y, after, rfl, hbefore, hy⟩ | ⟨_, _, h⟩⟩)
        · exact ⟨[], x, rest, rfl, by simp, h⟩
        · exact ⟨x :: before, y, after, rfl, by simpa using ⟨⟨b, hb⟩, hbefore⟩, hy⟩
        · simp at h
      · rintro ⟨before, y, after, hxs, hbefore, hy⟩
        cases before with
        | nil =>
            obtain ⟨rfl, rfl⟩ := List.cons_eq_cons.mp hxs
            exact .inl hy
        | cons z before =>
            obtain ⟨rfl, rfl⟩ := List.cons_eq_cons.mp hxs
            obtain ⟨b, hb⟩ := hbefore x List.mem_cons_self
            have hrest : ∀ y ∈ before, ∃ b, g y = .ok b := fun y hy =>
              hbefore y (List.mem_cons_of_mem _ hy)
            exact .inr ⟨b, hb, .inl ⟨before, y, after, rfl, hrest, hy⟩⟩

/-- A traversal succeeds where every member does. -/
theorem succeeds_mapM : Succeeds (xs.mapM g) ↔ ∀ x ∈ xs, Succeeds (g x) := by
  induction xs with
  | nil => simp
  | cons x rest ih =>
      rw [List.mapM_cons, List.forall_mem_cons, ← ih]
      cases g x with
      | error e => simp
      | ok b =>
          simp

section

variable {γ δ : Type} {y : Except ε α} {g : α → Except ε β} {h : α → γ} {k : β → δ}

/-- Of two computations whose values look alike both fail, with the same error, or neither does. -/
theorem map_eq_map_iff : h <$> x = h <$> y ↔
    (∃ e, x = .error e ∧ y = .error e) ∨ ∃ a b, x = .ok a ∧ y = .ok b ∧ h a = h b := by
  cases x with
  | error e => cases y <;> simp [eq_comm]
  | ok a => cases y <;> simp

/-- Two computations whose values look alike go on to values that look alike, if looking alike is
all that matters to what they go on with. -/
theorem map_bind_congr (hxy : h <$> x = h <$> y)
    (hfg : ∀ a b, h a = h b → k <$> f a = k <$> g b) : k <$> (x >>= f) = k <$> (y >>= g) := by
  rcases map_eq_map_iff.mp hxy with ⟨e, rfl, rfl⟩ | ⟨a, b, rfl, rfl, hab⟩
  · rfl
  · exact hfg a b hab

/-- Traversals look alike if they do so at each member. -/
theorem map_mapM_congr {u v : α → Except ε β} (xs : List α)
    (huv : ∀ a ∈ xs, k <$> u a = k <$> v a) :
    List.map k <$> xs.mapM u = List.map k <$> xs.mapM v := by
  induction xs with
  | nil => rfl
  | cons x rest ih =>
      rw [List.mapM_cons, List.mapM_cons]
      refine map_bind_congr (huv x List.mem_cons_self) fun a b hab => ?_
      refine map_bind_congr (ih fun a ha => huv a (List.mem_cons_of_mem _ ha)) fun as bs habs => ?_
      simp [hab, habs]

/-- Replacing the members before a traversal is replacing the values after it. -/
theorem mapM_map_comm {k : β → δ} {m : α → γ} {u : γ → Except ε δ} {v : α → Except ε β}
    (huv : ∀ a, u (m a) = k <$> v a) (xs : List α) :
    (xs.map m).mapM u = List.map k <$> xs.mapM v := by
  induction xs with
  | nil => rfl
  | cons x rest ih =>
      simp only [List.map_cons, List.mapM_cons, huv, ih]
      cases v x with
      | error e => rfl
      | ok b => cases rest.mapM v <;> rfl

end

section

variable {γ δ ρ : Type} {y z : Except ε α} {g : α → Except ε β} {h : α → γ} {k : β → δ}

/-- Both computations fail, in whatever way, or both end in values that look alike. -/
def Alike (h : α → γ) (x y : Except ε α) : Prop :=
  x.toOption.map h = y.toOption.map h

theorem alike_ok {a b : α} : Alike h (.ok a : Except ε α) (.ok b) ↔ h a = h b := by
  simp [Alike, Except.toOption]

theorem alike_error {e e' : ε} : Alike h (.error e : Except ε α) (.error e') :=
  rfl

theorem Alike.refl (x : Except ε α) : Alike h x x :=
  rfl

theorem Alike.trans (hxy : Alike h x y) (hyz : Alike h y z) : Alike h x z :=
  Eq.trans hxy hyz

theorem alike_iff : Alike h x y ↔
    (∃ e e', x = .error e ∧ y = .error e') ∨ ∃ a b, x = .ok a ∧ y = .ok b ∧ h a = h b := by
  cases x <;> cases y <;> simp [Alike, Except.toOption]

/-- Values that are the same look alike in every way. -/
theorem Alike.of_id (hxy : Alike id x y) : Alike h x y := by
  rcases alike_iff.mp hxy with ⟨e, e', rfl, rfl⟩ | ⟨a, b, rfl, rfl, hab⟩
  · exact alike_error
  · exact alike_ok.mpr (congrArg h hab)

theorem Alike.bind (hxy : Alike h x y) (hfg : ∀ a b, h a = h b → Alike k (f a) (g b)) :
    Alike k (x >>= f) (y >>= g) := by
  rcases alike_iff.mp hxy with ⟨e, e', rfl, rfl⟩ | ⟨a, b, rfl, rfl, hab⟩
  · exact alike_error
  · exact hfg a b hab

/-- What one and the same computation goes on with is looked at value by value. -/
theorem alike_bind (hfg : ∀ a, Alike k (f a) (g a)) : Alike k (x >>= f) (x >>= g) := by
  refine Alike.bind (h := id) (.refl x) ?_
  rintro a _ rfl
  exact hfg a

theorem Alike.map {u v : α → β} (hxy : Alike h x y) (huv : ∀ a b, h a = h b → k (u a) = k (v b)) :
    Alike k (u <$> x) (v <$> y) := by
  rcases alike_iff.mp hxy with ⟨e, e', rfl, rfl⟩ | ⟨a, b, rfl, rfl, hab⟩
  · exact alike_error
  · exact alike_ok.mpr (huv a b hab)

/-- Two computations that do not look at each other's value end alike in either sequence. -/
theorem alike_swap {x : Except ε α} {y : Except ε β} {s : α → ρ} {t : ρ → β → ρ} {s' : β → ρ}
    {t' : ρ → α → ρ} (hst : ∀ a b, t (s a) b = t' (s' b) a) :
    Alike id ((x >>= fun a => pure (s a)) >>= fun r => y >>= fun b => pure (t r b))
      ((y >>= fun b => pure (s' b)) >>= fun r => x >>= fun a => pure (t' r a)) := by
  cases x with
  | error e => cases y <;> exact alike_error
  | ok a =>
      cases y with
      | error e => exact alike_error
      | ok b => exact alike_ok.mpr (hst a b)

/-- Traversals of lists that differ in one member look alike if they do so there. -/
theorem alike_mapM_append {u : β → Except ε α} {b b' : β} (hb : Alike h (u b) (u b'))
    (before after : List β) :
    Alike (List.map h) ((before ++ b :: after).mapM u) ((before ++ b' :: after).mapM u) := by
  induction before with
  | nil =>
      simp only [List.nil_append, List.mapM_cons]
      refine hb.bind fun a a' haa' => alike_bind fun as => ?_
      exact alike_ok.mpr (by simp [haa'])
  | cons c before ih =>
      simp only [List.cons_append, List.mapM_cons]
      refine alike_bind fun a => ih.bind fun as as' hass' => ?_
      exact alike_ok.mpr (by simp [hass'])

end

section

variable {es fs : List ε} {g : α → Except ε β} {errors : α → List ε} {xs : List α}

/-- The computation ends in the first of the errors, and in a value if there is none. -/
def Reports (x : Except ε α) (es : List ε) : Prop :=
  (∀ e, x = .error e ↔ es.head? = some e) ∧ (Succeeds x ↔ es = [])

theorem reports_ok : Reports (.ok a : Except ε α) [] := by
  simp [Reports]

theorem reports_error : Reports (.error e : Except ε α) (e :: es) := by
  simp [Reports]

/-- What the first step does not report is reported by the second. -/
theorem Reports.bind (hx : Reports x es) (hf : ∀ a, x = .ok a → Reports (f a) fs) :
    Reports (x >>= f) (es ++ fs) := by
  cases x with
  | error e =>
      have hhead : es.head? = some e := (hx.1 e).mp rfl
      obtain ⟨rest, rfl⟩ : ∃ rest, es = e :: rest := List.head?_eq_some_iff.mp hhead
      exact reports_error
  | ok a =>
      obtain rfl : es = [] := hx.2.mp (succeeds_ok)
      exact hf a rfl

/-- Of what is reported only the first counts. -/
theorem Reports.of_head?_eq (hx : Reports x es) (h : es.head? = fs.head?) : Reports x fs := by
  refine ⟨fun e => (hx.1 e).trans (by rw [h]), hx.2.trans ?_⟩
  rw [← List.head?_eq_none_iff, h, List.head?_eq_none_iff]

theorem Reports.map {h : α → β} (hx : Reports x es) : Reports (h <$> x) es := by
  cases x with
  | error e => exact ⟨fun e' => by simpa using hx.1 e', by simpa using hx.2⟩
  | ok a => exact ⟨fun e' => by simpa using hx.1 e', by simpa using hx.2⟩

/-- A traversal reports what its members report, one after the other. -/
theorem reports_mapM (h : ∀ x ∈ xs, Reports (g x) (errors x)) :
    Reports (xs.mapM g) (xs.flatMap errors) := by
  induction xs with
  | nil => exact reports_ok
  | cons x rest ih =>
      obtain ⟨hx, hrest⟩ := List.forall_mem_cons.mp h
      rw [List.mapM_cons, List.flatMap_cons]
      refine hx.bind ?_
      intro b _
      exact (ih hrest).map

end

end Criteria.Outcome
