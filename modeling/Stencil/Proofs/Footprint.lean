import Stencil.Proofs.Outcome

/-!
# Footprints

Which of the objects that were there a computation has changed. New objects do not count, so a
computation that only reads has an empty footprint also when it makes iterators on its way.
-/

namespace Stencil

open World Evaluation

/-- Only the objects at some places differ between two worlds, and those that are new. -/
structure World.ChangesOnly (places : List Ref) (w u : World) : Prop where
  size : w.objects.size ≤ u.objects.size
  same : ∀ r : Nat, r < w.objects.size → r ∉ places → u.at' r = w.at' r
  classes : u.classes = w.classes
  enclosing : u.enclosing = w.enclosing

namespace World.ChangesOnly

variable {places : List Ref} {w u v : World}

theorem refl (places : List Ref) (w : World) : w.ChangesOnly places w :=
  ⟨Nat.le_refl _, fun _ _ _ => rfl, rfl, rfl⟩

theorem trans (h : w.ChangesOnly places u) (h' : u.ChangesOnly places v) :
    w.ChangesOnly places v where
  size := Nat.le_trans h.size h'.size
  same r hr hp := (h'.same r (Nat.lt_of_lt_of_le hr h.size) hp).trans (h.same r hr hp)
  classes := h'.classes.trans h.classes
  enclosing := h'.enclosing.trans h.enclosing

theorem mono {more : List Ref} (h : w.ChangesOnly places u) (hp : ∀ r ∈ places, r ∈ more) :
    w.ChangesOnly more u where
  size := h.size
  same r hr hm := h.same r hr fun hr' => hm (hp r hr')
  classes := h.classes
  enclosing := h.enclosing

/-- Changes of objects that were not there at first do not count. -/
theorem forget {r : Nat} (h : w.ChangesOnly (r :: places) u) (hr : w.objects.size ≤ r) :
    w.ChangesOnly places u where
  size := h.size
  same s hs hp := by
    refine h.same s hs fun hs' => ?_
    rcases List.mem_cons.1 hs' with rfl | hs'
    · omega
    · exact hp hs'
  classes := h.classes
  enclosing := h.enclosing

theorem push (places : List Ref) (w : World) (o : Object) : w.ChangesOnly places (w.push o) where
  size := by simp
  same _ hr _ := at'_push_of_lt hr
  classes := rfl
  enclosing := rfl

theorem put {r : Ref} (hr : r ∈ places) (w : World) (o : Object) :
    w.ChangesOnly places (w.put r o) where
  size := by simp
  same _ _ hs := at'_put_of_ne fun h => hs (h ▸ hr)
  classes := classes_put w r o
  enclosing := enclosing_put w r o

/-- A new object may change at once. -/
theorem push_then {o : Object} (h : (w.push o).ChangesOnly (w.objects.size :: places) u) :
    w.ChangesOnly places u :=
  ((push _ w o).trans h).forget (Nat.le_refl _)

end World.ChangesOnly

/-- What every round of a repetition keeps holds when it ends. -/
theorem repeatUntil_eq_ok {σ α : Type} {m : Interpreter} {step : σ → Action (Except α σ)}
    (holds : σ → World → Prop) (ends : α → World → Prop)
    (round : ∀ {s w r u}, holds s w → step s w = .ok r u →
      match r with
      | .ok s' => holds s' u
      | .error a => ends a u)
    {s : σ} {a : α} {w u : World} (hs : holds s w) (h : m.repeatUntil step s w = .ok a u) :
    ends a u := by
  unfold Interpreter.repeatUntil at h
  generalize m.rounds = left at h
  induction left generalizing s w with
  | zero => exact absurd h throw_eq_ok
  | succ left ih =>
    rw [Interpreter.repeatUntil.go, bind_eq_ok] at h
    obtain ⟨r, v, hr, h⟩ := h
    have hv := round hs hr
    cases r with
    | error b =>
      obtain ⟨rfl, rfl⟩ := pure_eq_ok.1 h
      exact hv
    | ok s' => exact ih hv h

/-- A repetition that each of its rounds brings closer to its end comes to the end if it may go around
often enough. -/
theorem repeatUntil_outcome {σ α : Type} {m : Interpreter} {step : σ → Action (Except α σ)}
    (left : Nat → σ → World → Prop) (ends : α → World → Prop)
    (round : 0 < m.rounds → ∀ {i s w}, left (i + 1) s w →
      ∃ s' u, step s w = .ok (.ok s') u ∧ left i s' u)
    (last : 0 < m.rounds → ∀ {s w}, left 0 s w → ∃ a u, step s w = .ok (.error a) u ∧ ends a u)
    {i : Nat} {s : σ} {w : World} (h : left i s w) :
    (i < m.rounds ∧ ∃ a u, m.repeatUntil step s w = .ok a u ∧ ends a u) ∨
      (m.rounds ≤ i ∧ ∃ u, m.repeatUntil step s w = .error .exhausted u) := by
  unfold Interpreter.repeatUntil
  rcases Nat.eq_zero_or_pos m.rounds with hzero | hpos
  · rw [hzero]
    exact .inr ⟨Nat.zero_le _, w, rfl⟩
  have round := @round hpos
  have last := @last hpos
  clear hpos
  generalize m.rounds = rounds
  induction rounds generalizing i s w with
  | zero => exact .inr ⟨Nat.zero_le _, w, rfl⟩
  | succ rounds ih =>
    rw [Interpreter.repeatUntil.go]
    cases i with
    | zero =>
      obtain ⟨a, u, ha, hends⟩ := last h
      exact .inl ⟨Nat.succ_pos _, a, u, bind_of_ok ha, hends⟩
    | succ i =>
      obtain ⟨s', u, hs, hu⟩ := round h
      rw [bind_of_ok hs]
      rcases ih hu with ⟨hi, hend⟩ | ⟨hi, hend⟩
      · exact .inl ⟨Nat.succ_lt_succ hi, hend⟩
      · exact .inr ⟨Nat.succ_le_succ hi, hend⟩

end Stencil
