/-!
# Lists of steps that may fail

Steps are taken in order up to the first that fails. They give all results when every one gives its own,
and fail as the first one that fails.
-/

namespace Stencil.Traversal

variable {ε α β : Type} {f : α → Except ε β}

theorem mapM_cons_eq (f : α → Except ε β) (a : α) (as : List α) :
    (a :: as).mapM f = (f a).bind fun b => (as.mapM f).map (b :: ·) := by
  rw [List.mapM_cons]
  cases f a with
  | error e => rfl
  | ok b => cases as.mapM f <;> simp [bind, Except.bind, Except.map, pure, Except.pure]

theorem mapM_eq_ok_iff {as : List α} {bs : List β} :
    as.mapM f = .ok bs ↔ as.map f = bs.map .ok := by
  induction as generalizing bs with
  | nil => cases bs <;> simp [pure, Except.pure]
  | cons a as ih =>
    rw [mapM_cons_eq, List.map_cons]
    cases ha : f a with
    | error e => cases bs <;> simp [Except.bind]
    | ok b =>
      cases bs with
      | nil => cases as.mapM f <;> simp [Except.bind, Except.map]
      | cons b' bs =>
        rw [List.map_cons, List.cons.injEq, ← ih]
        cases as.mapM f <;> simp [Except.bind, Except.map]

/-- All steps succeed when each of them does. -/
theorem exists_mapM_eq_ok {as : List α} :
    (∃ bs, as.mapM f = .ok bs) ↔ ∀ a ∈ as, ∃ b, f a = .ok b := by
  simp only [mapM_eq_ok_iff]
  constructor
  · rintro ⟨bs, hbs⟩ a ha
    obtain ⟨b, -, hb⟩ := List.mem_map.1 (hbs ▸ List.mem_map_of_mem ha : f a ∈ bs.map .ok)
    exact ⟨b, hb.symm⟩
  · intro h
    induction as with
    | nil => exact ⟨[], rfl⟩
    | cons a as ih =>
      obtain ⟨b, hb⟩ := h a List.mem_cons_self
      obtain ⟨bs, hbs⟩ := ih fun a' ha' => h a' (List.mem_cons_of_mem _ ha')
      exact ⟨b :: bs, by rw [List.map_cons, List.map_cons, hb, hbs]⟩

theorem mapM_eq_error_iff {as : List α} {e : ε} : as.mapM f = .error e ↔
    ∃ before a after, as = before ++ a :: after ∧ (∀ a' ∈ before, ∃ b, f a' = .ok b) ∧
      f a = .error e := by
  constructor
  · intro h
    induction as with
    | nil => cases h
    | cons a as ih =>
      rw [mapM_cons_eq] at h
      cases ha : f a with
      | error e' =>
        rw [ha] at h
        cases h
        exact ⟨[], a, as, rfl, by simp, ha⟩
      | ok b =>
        rw [ha] at h
        cases has : as.mapM f with
        | ok bs =>
          rw [has] at h
          cases h
        | error e' =>
          rw [has] at h
          cases h
          obtain ⟨before, a', after, rfl, hbefore, ha'⟩ := ih has
          refine ⟨a :: before, a', after, rfl, ?_, ha'⟩
          rintro c (_ | ⟨_, hc⟩)
          · exact ⟨b, ha⟩
          · exact hbefore c hc
  · rintro ⟨before, a, after, rfl, hbefore, ha⟩
    induction before with
    | nil => rw [List.nil_append, mapM_cons_eq, ha, Except.bind]
    | cons a' before ih =>
      obtain ⟨b, hb⟩ := hbefore a' List.mem_cons_self
      rw [List.cons_append, mapM_cons_eq, hb, ih fun c hc => hbefore c (List.mem_cons_of_mem _ hc)]
      rfl

end Stencil.Traversal
