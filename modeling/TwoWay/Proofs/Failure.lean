import Mathlib.Data.List.Forall2

/-!
# Computations that may fail

When a computation put together from others succeeds, all of them have succeeded. Proofs take a
successful computation apart by these equivalences and never unfold it.
-/

namespace TwoWay

variable {ε α β : Type}

@[simp]
theorem ok_bind (a : α) (f : α → Except ε β) : (Except.ok a >>= f) = f a := rfl

@[simp]
theorem error_bind (e : ε) (f : α → Except ε β) : (Except.error e >>= f) = .error e := rfl

@[simp]
theorem map_ok (f : α → β) (a : α) : (f <$> (.ok a : Except ε α)) = .ok (f a) := rfl

@[simp]
theorem map_error (f : α → β) (e : ε) : (f <$> (.error e : Except ε α)) = .error e := rfl

@[simp]
theorem pure_eq_ok (a : α) : (pure a : Except ε α) = .ok a := rfl

theorem bind_eq_ok_iff {x : Except ε α} {f : α → Except ε β} {b : β} :
    (x >>= f) = .ok b ↔ ∃ a, x = .ok a ∧ f a = .ok b := by
  cases x <;> simp

theorem then_eq_ok_iff {x : Except ε Unit} {y : Except ε β} {b : β} :
    (do x; y) = .ok b ↔ x = .ok () ∧ y = .ok b := by
  cases x <;> simp

theorem map_eq_ok_iff {f : α → β} {x : Except ε α} {b : β} :
    f <$> x = .ok b ↔ ∃ a, x = .ok a ∧ f a = b := by
  cases x <;> simp

theorem exists_map_eq_ok_iff {f : α → β} {x : Except ε α} :
    (∃ b, f <$> x = .ok b) ↔ ∃ a, x = .ok a := by
  cases x <;> simp

@[simp]
theorem mapError_eq_ok_iff {ε' : Type} {f : ε → ε'} {x : Except ε α} {a : α} :
    x.mapError f = .ok a ↔ x = .ok a := by
  cases x <;> simp [Except.mapError]

/-- A list is mapped when each of its items is. -/
theorem mapM_eq_ok_iff {f : α → Except ε β} {items : List α} {results : List β} :
    items.mapM f = .ok results ↔
      List.Forall₂ (fun item result => f item = .ok result) items results := by
  induction items generalizing results with
  | nil => simp [eq_comm]
  | cons item rest ih =>
      rw [List.mapM_cons, bind_eq_ok_iff, List.forall₂_cons_left_iff]
      simp only [bind_eq_ok_iff, pure_eq_ok, Except.ok.injEq, ih]
      constructor
      · rintro ⟨result, hitem, results', hrest, rfl⟩
        exact ⟨result, results', hitem, hrest, rfl⟩
      · rintro ⟨result, results', hitem, hrest, rfl⟩
        exact ⟨result, hitem, results', hrest, rfl⟩

theorem exists_mapM_eq_ok {f : α → Except ε β} {items : List α}
    (hitems : ∀ item ∈ items, ∃ result, f item = .ok result) :
    ∃ results, items.mapM f = .ok results := by
  induction items with
  | nil => exact ⟨[], rfl⟩
  | cons item rest ih =>
      obtain ⟨⟨result, hresult⟩, hrest⟩ := List.forall_mem_cons.1 hitems
      obtain ⟨results, hresults⟩ := ih hrest
      exact ⟨result :: results, by simp [List.mapM_cons, hresult, hresults]⟩

theorem exists_mem_of_forall₂ {related : α → β → Prop} {items : List α} {results : List β}
    (hall : List.Forall₂ related items results) :
    ∀ result ∈ results, ∃ item ∈ items, related item result := by
  induction hall with
  | nil => exact fun _ hmem => nomatch hmem
  | @cons item result items results hfirst _ ih =>
      refine List.forall_mem_cons.2 ⟨⟨item, List.mem_cons_self, hfirst⟩, fun other hother => ?_⟩
      obtain ⟨source, hsource, hrelated⟩ := ih other hother
      exact ⟨source, List.mem_cons_of_mem item hsource, hrelated⟩

theorem forall_mem_of_forall₂ {related : α → β → Prop} {holds : β → Prop}
    (hrelated : ∀ item result, related item result → holds result) {items : List α}
    {results : List β} (hall : List.Forall₂ related items results) :
    ∀ result ∈ results, holds result := by
  intro result hmem
  obtain ⟨item, -, hitem⟩ := exists_mem_of_forall₂ hall result hmem
  exact hrelated item result hitem

theorem forall_mem_of_mapM {f : α → Except ε β} {holds : β → Prop}
    (hf : ∀ item result, f item = .ok result → holds result) {items : List α} {results : List β}
    (hmap : items.mapM f = .ok results) : ∀ result ∈ results, holds result :=
  forall_mem_of_forall₂ hf (mapM_eq_ok_iff.1 hmap)

/-! ### Results without their errors -/

theorem toOption_eq_some_iff {x : Except ε α} {a : α} : x.toOption = some a ↔ x = .ok a := by
  cases x <;> simp [Except.toOption]

@[simp]
theorem toOption_ok (a : α) : (.ok a : Except ε α).toOption = some a := rfl

@[simp]
theorem toOption_error (e : ε) : (.error e : Except ε α).toOption = none := rfl

@[simp]
theorem toOption_bind (x : Except ε α) (f : α → Except ε β) :
    (x >>= f).toOption = x.toOption.bind fun a => (f a).toOption := by
  cases x <;> rfl

@[simp]
theorem toOption_map (f : α → β) (x : Except ε α) : (f <$> x).toOption = x.toOption.map f := by
  cases x <;> rfl

theorem toOption_mapM (f : α → Except ε β) (items : List α) :
    (items.mapM f).toOption = items.mapM fun item => (f item).toOption := by
  induction items with
  | nil => rfl
  | cons item rest ih => simp [List.mapM_cons, ih]

/-- Two passes over a list are one pass that does both to each item. -/
theorem mapM_bind_mapM {γ : Type} (f : α → Option β) (g : β → Option γ) (items : List α) :
    ((items.mapM f).bind fun results => results.mapM g) =
      items.mapM fun item => (f item).bind g := by
  induction items with
  | nil => rfl
  | cons item rest ih =>
      -- A failure of the second pass at this item comes before one of the first pass behind it.
      rw [List.mapM_cons, List.mapM_cons, ← ih]
      cases f item with
      | none => rfl
      | some result =>
          cases rest.mapM f with
          | none => cases hresult : g result <;> simp [hresult]
          | some results => cases hresult : g result <;> simp [List.mapM_cons, hresult]

theorem map_mapM {γ : Type} (f : α → Option β) (g : β → γ) (items : List α) :
    (items.mapM f).map (List.map g) = items.mapM fun item => (f item).map g := by
  induction items with
  | nil => rfl
  | cons item rest ih =>
      rw [List.mapM_cons, List.mapM_cons, ← ih]
      cases f item <;> cases rest.mapM f <;> rfl

theorem bind_eq_of_rel {related : α → α → Prop} {f : α → Option β}
    (hf : ∀ a b, related a b → f a = f b) {x y : Option α} (hrel : Option.Rel related x y) :
    x.bind f = y.bind f := by
  cases hrel with
  | some hrelated => exact hf _ _ hrelated
  | none => rfl

theorem mapM_eq_of_forall₂ {related : α → α → Prop} {f : α → Option β}
    (hf : ∀ a b, related a b → f a = f b) {items others : List α}
    (hall : List.Forall₂ related items others) : items.mapM f = others.mapM f := by
  induction hall with
  | nil => rfl
  | cons hfirst _ ih => rw [List.mapM_cons, List.mapM_cons, hf _ _ hfirst, ih]

end TwoWay
