import Stencil.Evaluation

/-!
# Outcomes of computations

A computation that gives a value has gone through each of its parts. The lemmas here take such a
computation apart, one operation at a time, and name the world in which it ends.
-/

namespace Stencil

open World Evaluation

namespace World

/-- The object at a reference; a place where nothing is counts as an empty list. -/
def at' (w : World) (r : Ref) : Object := w.objects.getD r default

/-- The world in which a computation ends, whether or not it gives a value. -/
def after {α : Type} (x : Action α) (w : World) : World :=
  match x w with
  | .ok _ u => u
  | .error _ u => u

/-- The value that a computation gives, if it gives one. -/
def value? {α : Type} (x : Action α) (w : World) : Option α :=
  match x w with
  | .ok a _ => some a
  | .error _ _ => none

/-- A world with another object in the place of one of the same type. -/
def put (w : World) (r : Ref) (o : Object) : World :=
  if (w.at' r).shape = o.shape then { w with objects := w.objects.setIfInBounds r o } else w

/-- A world with one more object. -/
def push (w : World) (o : Object) : World := { w with objects := w.objects.push o }

@[simp] theorem at'_push_size (w : World) (o : Object) : (w.push o).at' w.objects.size = o := by
  simp [at', push, Array.getD]

theorem at'_push_of_lt {w : World} {o : Object} {r : Nat} (h : r < w.objects.size) :
    (w.push o).at' r = w.at' r := by
  simp only [at', push, Array.getD_eq_getD_getElem?]
  rw [Array.getElem?_push_lt h, Array.getElem?_eq_getElem h]

@[simp] theorem size_push (w : World) (o : Object) :
    (w.push o).objects.size = w.objects.size + 1 := by
  simp [push]

@[simp] theorem size_put (w : World) (r : Ref) (o : Object) :
    (w.put r o).objects.size = w.objects.size := by
  unfold put
  split <;> simp

@[simp] theorem classes_put (w : World) (r : Ref) (o : Object) :
    (w.put r o).classes = w.classes := by
  unfold put
  split <;> rfl

@[simp] theorem enclosing_put (w : World) (r : Ref) (o : Object) :
    (w.put r o).enclosing = w.enclosing := by
  unfold put
  split <;> rfl

theorem at'_put_self {w : World} {r : Nat} {o p : Object} (h : r < w.objects.size)
    (hp : w.at' r = p) (ht : p.shape = o.shape) : (w.put r o).at' r = o := by
  rw [put, if_pos (hp ▸ ht)]
  simp [at', Array.getD_eq_getD_getElem?, h]

/-- An object of another type does not take the place. -/
theorem put_of_shape_ne {w : World} {r : Ref} {o : Object}
    (h : (w.at' r).shape ≠ o.shape) : w.put r o = w := by
  simp [put, h]

theorem at'_put_of_ne {w : World} {r s : Ref} {o : Object} (h : s ≠ r) :
    (w.put r o).at' s = w.at' s := by
  unfold put
  split
  · simp only [at', Array.getD_eq_getD_getElem?]
    rw [Array.getElem?_setIfInBounds_ne (Ne.symm h)]
  · rfl

theorem at'_of_size_le {w : World} {r : Nat} (h : w.objects.size ≤ r) : w.at' r = default := by
  simp [at', Array.getD_eq_getD_getElem?, h]

theorem lt_size_of_at' {w : World} {r : Nat} {o : Object} (h : w.at' r = o)
    (ho : o.shape ≠ (default : Object).shape) : r < w.objects.size := by
  refine Nat.lt_of_not_le fun hle => ho ?_
  rw [← h, at'_of_size_le hle]

end World

section

variable {α β : Type} {w u : World}

theorem bind_eq_ok {x : Action α} {f : α → Action β} {b : β} :
    (x >>= f) w = .ok b u ↔ ∃ a v, x w = .ok a v ∧ f a v = .ok b u := by
  change EStateM.bind x f w = _ ↔ _
  unfold EStateM.bind
  cases x w with
  | ok a v => exact ⟨fun h => ⟨a, v, rfl, h⟩, by rintro ⟨_, _, ⟨⟩, h⟩; exact h⟩
  | error e v => simp

/-- A computation goes on from what its first part gives. -/
theorem bind_of_ok {x : Action α} {f : α → Action β} {a : α} (h : x w = .ok a u) :
    (x >>= f) w = f a u := by
  change EStateM.bind x f w = _
  simp [EStateM.bind, h]

/-- A computation stops with its first part. -/
theorem bind_of_error {x : Action α} {f : α → Action β} {e : Stop} (h : x w = .error e u) :
    (x >>= f) w = .error e u := by
  change EStateM.bind x f w = _
  simp [EStateM.bind, h]

/-- The value of a computation and the world in which it ends, taken apart and put together. -/
theorem World.of_ok {x : Action α} {a : α} (h : x w = .ok a u) :
    w.value? x = some a ∧ w.after x = u := by
  simp [value?, after, h]

theorem World.ok_of_value? {x : Action α} {a : α} (h : w.value? x = some a) :
    x w = .ok a (w.after x) := by
  unfold value? at h
  unfold after
  cases hx : x w with
  | ok b u =>
    rw [hx] at h
    cases h
    rfl
  | error e u =>
    rw [hx] at h
    cases h

/-- A text can be told from what it is the same as. -/
theorem eq_str {v : Option Value} {s : String} (h : v.any (Value.same (.str s)) = true) :
    v = some (.str s) := by
  cases v with
  | none => cases h
  | some v =>
    cases v with
    | str t =>
      have ht : s = t := by simpa [Value.same] using h
      rw [ht]
    | _ => cases h

@[simp] theorem pure_eq_ok {a b : α} :
    (pure a : Action α) w = .ok b u ↔ a = b ∧ w = u := by
  change EStateM.Result.ok a w = .ok b u ↔ _
  simp

@[simp] theorem throw_eq_ok {e : Stop} {b : α} : ¬ (throw e : Action α) w = .ok b u := by
  change ¬ EStateM.Result.error e w = .ok b u
  simp

@[simp] theorem get_eq_ok {v : World} : (get : Action World) w = .ok v u ↔ w = v ∧ w = u := by
  change EStateM.Result.ok w w = .ok v u ↔ _
  simp

@[simp] theorem modify_eq_ok {f : World → World} {b : Unit} :
    (modify f : Action Unit) w = .ok b u ↔ f w = u := by
  change EStateM.Result.ok () (f w) = .ok b u ↔ _
  simp

@[simp] theorem load_eq_ok {r : Ref} {o : Object} :
    load r w = .ok o u ↔ w.at' r = o ∧ w = u := by
  change EStateM.Result.ok (w.at' r) w = .ok o u ↔ _
  simp

theorem load_ok (w : World) (r : Ref) : load r w = .ok (w.at' r) w := rfl

@[simp] theorem store_eq_ok {r : Ref} {o : Object} {b : Unit} :
    store r o w = .ok b u ↔ w.put r o = u := by
  change EStateM.Result.ok () (w.put r o) = .ok b u ↔ _
  simp

@[simp] theorem alloc_eq_ok {r : Ref} {o : Object} :
    alloc o w = .ok r u ↔ w.objects.size = r ∧ w.push o = u := by
  change EStateM.Result.ok w.objects.size (w.push o) = .ok r u ↔ _
  simp

@[simp] theorem allocValue_eq_ok {v : Value} {o : Object} :
    allocValue o w = .ok v u ↔ .ref w.objects.size = v ∧ w.push o = u := by
  simp only [allocValue, bind_eq_ok, alloc_eq_ok, pure_eq_ok]
  constructor
  · rintro ⟨_, _, ⟨rfl, rfl⟩, rfl, rfl⟩
    exact ⟨rfl, rfl⟩
  · rintro ⟨rfl, rfl⟩
    exact ⟨_, _, ⟨rfl, rfl⟩, rfl, rfl⟩

theorem object?_eq_ok {v : Value} {o : Option Object} (h : object? v w = .ok o u) : w = u := by
  cases v with
  | ref r =>
    simp only [object?, bind_eq_ok, load_eq_ok, pure_eq_ok] at h
    obtain ⟨_, _, ⟨-, rfl⟩, -, rfl⟩ := h
    rfl
  | _ => exact (pure_eq_ok.1 h).2

@[simp] theorem classAt_eq_ok {id : Nat} {c : ContextClass} :
    classAt id w = .ok c u ↔ w.classes.getD id default = c ∧ w = u := by
  change EStateM.Result.ok (w.classes.getD id default) w = .ok c u ↔ _
  simp

@[simp] theorem logMessage_eq_ok {source message : String} {b : Unit} :
    logMessage source message w = .ok b u ↔
      { w with log := w.log.push (source, message) } = u := by
  simp [logMessage]

@[simp] theorem raise_eq_ok {type : String} {args : List Value} {b : α} :
    ¬ (raise type args : Action α) w = .ok b u := by
  simp [raise, raiseValue, bind_eq_ok]

@[simp] theorem raiseText_eq_ok {type message : String} {b : α} :
    ¬ (raiseText type message : Action α) w = .ok b u := by
  simp [raiseText]

@[simp] theorem typeError_eq_ok {message : String} {b : α} :
    ¬ (typeError message : Action α) w = .ok b u := by
  simp [typeError]

@[simp] theorem valueError_eq_ok {message : String} {b : α} :
    ¬ (valueError message : Action α) w = .ok b u := by
  simp [valueError]

@[simp] theorem raiseFault_eq_ok {f : Fault} {b : α} :
    ¬ (raiseFault f : Action α) w = .ok b u := by
  simp [raiseFault, raiseValue, bind_eq_ok]

theorem attempt_of_ok {x : Action α} {a : α} (h : x w = .ok a u) :
    attempt x w = .ok (.ok a) u := by
  simp [attempt, h]

theorem attempt_of_error {x : Action α} {e : Stop} (h : x w = .error e u) :
    attempt x w = .ok (.error e) u := by
  simp [attempt, h]

/-- What an attempt gives is what its computation comes to. -/
theorem attempt_eq_ok {x : Action α} {r : Except Stop α} :
    attempt x w = .ok r u ↔
      (∃ a, x w = .ok a u ∧ r = .ok a) ∨ ∃ e, x w = .error e u ∧ r = .error e := by
  unfold attempt
  cases x w with
  | ok a v =>
    constructor
    · rintro ⟨⟩
      exact .inl ⟨a, rfl, rfl⟩
    · rintro (⟨_, ⟨⟩, rfl⟩ | ⟨_, ⟨⟩, _⟩)
      rfl
  | error e v =>
    constructor
    · rintro ⟨⟩
      exact .inr ⟨e, rfl, rfl⟩
    · rintro (⟨_, ⟨⟩, _⟩ | ⟨_, ⟨⟩, rfl⟩)
      rfl

@[simp] theorem resume_eq_ok {r : Except Stop α} {b : α} :
    resume r w = .ok b u ↔ r = .ok b ∧ w = u := by
  cases r <;> simp [resume]

end

end Stencil
