import Stencil.Proofs.Outcome

/-!
# Reading attributes

Where an attribute of a context comes from, as a function of the world. Reading an attribute that the
context has itself, or that its class has as plain data or as a method, gives that value and leaves the
world as it is.
-/

namespace Stencil

open World Evaluation

namespace World

/-- The class with a place. -/
def classAt' (w : World) (id : Nat) : ContextClass := w.classes.getD id default

theorem classAt'_of_size_le {w : World} {id : Nat} (h : w.classes.size ≤ id) :
    w.classAt' id = default := by
  simp [classAt', Array.getD_eq_getD_getElem?, h]

/-- The classes from a class up, a number of them at most. -/
def ancestors (w : World) : Nat → Nat → List Nat
  | 0, _ => []
  | fuel + 1, id =>
    match (w.classAt' id).base with
    | some b => id :: w.ancestors fuel b
    | none => [id]

/-- What a class or the nearest class above it has under a name. -/
def classValue (w : World) (id : Nat) (name : String) : Option Value :=
  (w.ancestors w.classes.size id).findSome? fun c => named? (w.classAt' c).attrs name

/-- The registry of a class or of the nearest class above it. -/
def classRegistry (w : World) (id : Nat) : Option Ref :=
  (w.ancestors w.classes.size id).findSome? fun c => (w.classAt' c).exposures

theorem ancestors_congr {w u : World} (h : u.classes = w.classes) (fuel id : Nat) :
    u.ancestors fuel id = w.ancestors fuel id := by
  induction fuel generalizing id with
  | zero => rfl
  | succ fuel ih => simp only [ancestors, classAt', h, ih]

theorem classValue_congr {w u : World} (h : u.classes = w.classes) (id : Nat) (name : String) :
    u.classValue id name = w.classValue id name := by
  simp only [classValue, h, ancestors_congr h, classAt']

end World

theorem classAt_ok (w : World) (id : Nat) : classAt id w = .ok (w.classAt' id) w := rfl

theorem classChain_eq (w : World) (fuel id : Nat) :
    classChain fuel id w = .ok (w.ancestors fuel id) w := by
  induction fuel generalizing id with
  | zero => rfl
  | succ fuel ih =>
    rw [classChain, bind_eq_ok]
    refine ⟨w.classAt' id, w, rfl, ?_⟩
    cases hb : (w.classAt' id).base with
    | none => simp [World.ancestors, hb]
    | some b =>
      dsimp only
      rw [bind_eq_ok]
      exact ⟨_, w, ih b, by simp [World.ancestors, hb]⟩

theorem chain_eq (w : World) (id : Nat) :
    chain id w = .ok (w.ancestors w.classes.size id) w := by
  simp [chain, bind_eq_ok, classChain_eq]

theorem classAttribute?_eq (w : World) (id : Nat) (name : String) :
    classAttribute? id name w = .ok (w.classValue id name) w := by
  unfold classAttribute?
  rw [bind_eq_ok]
  refine ⟨_, _, chain_eq w id, ?_⟩
  rw [World.classValue]
  generalize w.ancestors w.classes.size id = l
  induction l with
  | nil => rfl
  | cons c l ih =>
    rw [List.forIn_cons, List.findSome?_cons, bind_assoc]
    dsimp only
    rw [bind_assoc, bind_of_ok (classAt_ok w c), named?]
    cases (w.classAt' c).attrs.find? (·.1 == name) with
    | none => simpa using ih
    | some a => rfl

theorem registryOf?_eq (w : World) (id : Nat) :
    registryOf? id w = .ok (w.classRegistry id) w := by
  unfold registryOf?
  rw [bind_eq_ok]
  refine ⟨_, _, chain_eq w id, ?_⟩
  rw [World.classRegistry]
  generalize w.ancestors w.classes.size id = l
  induction l with
  | nil => rfl
  | cons c l ih =>
    rw [List.forIn_cons, List.findSome?_cons, bind_assoc]
    dsimp only
    rw [bind_assoc, bind_of_ok (classAt_ok w c)]
    cases (w.classAt' c).exposures with
    | none => simpa using ih
    | some a => rfl

/-! ## Attributes of objects -/

theorem attributeOf_succ (n : Nat) (v : Value) (name : String) :
    (interpreter (n + 1)).attributeOf v name = readAttribute (interpreter n) v name := rfl

theorem attributeOf_zero {v x : Value} {name : String} {w u : World} :
    ¬ (interpreter 0).attributeOf v name w = .ok x u := by
  exact throw_eq_ok

theorem object?_ref (w : World) (r : Ref) : object? (.ref r) w = .ok (some (w.at' r)) w := rfl

/-- The names that every object answers to in its own way. -/
def IsPlainName (name : String) : Prop := name ≠ "__class__" ∧ name ≠ "__dict__"

theorem readAttribute_instance {m : Interpreter} {w : World} {r : Ref} {cls : Nat}
    {attrs : List (String × Value)} {name : String} (hr : w.at' r = .instance cls attrs)
    (hname : IsPlainName name ∨ (w.classValue cls name).isSome) :
    readAttribute m (.ref r) name w = contextAttribute m (.ref r) cls attrs name w := by
  unfold readAttribute
  rw [bind_of_ok (object?_ref w r), hr]
  change instanceAttribute m (.ref r) cls attrs name w = _
  unfold instanceAttribute
  rw [bind_of_ok (classAttribute?_eq w cls name)]
  refine congrFun ?_ w
  generalize (w.classValue cls name).isSome = found at hname
  split
  · exact absurd rfl (hname.resolve_right (by simp)).1
  · exact absurd rfl (hname.resolve_right (by simp)).2
  · rfl

/-- Attributes of an object that is no context: its data, then its methods. -/
theorem readAttribute_object {m : Interpreter} {w : World} {r : Ref} {o : Object} {name : String}
    (hr : w.at' r = o) (ho : ∀ cls attrs, o ≠ .instance cls attrs) (hname : IsPlainName name) :
    readAttribute m (.ref r) name w =
      (objectAttribute? o name >>= fun data =>
        match data with
        | some x => pure x
        | none =>
          if (objectMethodNames o).contains name then pure (.method (.ref r) name)
          else missingAttribute (.ref r) name) w := by
  unfold readAttribute
  rw [bind_of_ok (object?_ref w r), hr]
  obtain ⟨h₁, h₂⟩ := hname
  refine congrFun ?_ w
  cases o with
  | «instance» cls attrs => exact absurd rfl (ho cls attrs)
  | _ =>
    simp only []
    rfl

section

variable {m : Interpreter} {n : Nat} {w u : World} {r : Ref} {cls : Nat}
  {attrs : List (String × Value)} {name : String} {v x : Value}

theorem contextAttribute_own (hclass : ∀ p, w.classValue cls name ≠ some (.property p))
    (hv : named? attrs name = some v) :
    contextAttribute m (.ref r) cls attrs name w = .ok v w := by
  obtain ⟨⟨_, _⟩, ha, rfl⟩ := Option.map_eq_some_iff.1 hv
  unfold contextAttribute
  rw [bind_of_ok (classAttribute?_eq w cls name), ha]
  cases hc : w.classValue cls name with
  | none => rfl
  | some d =>
    cases d with
    | property p => exact absurd hc (hclass p)
    | _ => rfl

theorem contextAttribute_property {p : String}
    (hclass : w.classValue cls name = some (.property p)) :
    contextAttribute m (.ref r) cls attrs name w = View.property m (.ref r) p w := by
  unfold contextAttribute
  rw [bind_of_ok (classAttribute?_eq w cls name), hclass]

theorem contextAttribute_class (hclass : w.classValue cls name = some v)
    (hp : ∀ p, v ≠ .property p) (hv : named? attrs name = none) :
    contextAttribute m (.ref r) cls attrs name w = bindAttribute m (.ref r) cls v w := by
  have ha : attrs.find? (fun e => e.1 == name) = none := Option.map_eq_none_iff.1 hv
  unfold contextAttribute
  rw [bind_of_ok (classAttribute?_eq w cls name), hclass, ha]
  cases v with
  | property p => exact absurd rfl (hp p)
  | _ => rfl

/-- An attribute that a context has itself is read from it, unless its class computes it. -/
theorem attributeOf_own (hr : w.at' r = .instance cls attrs) (hname : IsPlainName name)
    (hclass : ∀ p, w.classValue cls name ≠ some (.property p)) (hv : named? attrs name = some v)
    (h : (interpreter n).attributeOf (.ref r) name w = .ok x u) : v = x ∧ w = u := by
  cases n with
  | zero => exact absurd h attributeOf_zero
  | succ n =>
    rw [attributeOf_succ, readAttribute_instance hr (.inl hname), contextAttribute_own hclass hv] at h
    cases h
    exact ⟨rfl, rfl⟩

/-- A computed attribute of a view. -/
theorem attributeOf_property {p : String} (hr : w.at' r = .instance cls attrs)
    (hname : IsPlainName name) (hclass : w.classValue cls name = some (.property p)) :
    (interpreter (n + 1)).attributeOf (.ref r) name w = View.property (interpreter n) (.ref r) p w := by
  rw [attributeOf_succ, readAttribute_instance hr (.inl hname), contextAttribute_property hclass]

theorem attributeOf_class (hr : w.at' r = .instance cls attrs) (hname : IsPlainName name)
    (hclass : w.classValue cls name = some v) (hp : ∀ p, v ≠ .property p)
    (hv : named? attrs name = none) :
    (interpreter (n + 1)).attributeOf (.ref r) name w =
      bindAttribute (interpreter n) (.ref r) cls v w := by
  rw [attributeOf_succ, readAttribute_instance hr (.inl hname), contextAttribute_class hclass hp hv]

/-- A method of a class is bound to the context that it is read from. -/
theorem attributeOf_member {f : String} (hr : w.at' r = .instance cls attrs)
    (hname : IsPlainName name) (hclass : w.classValue cls name = some (.member f))
    (hv : named? attrs name = none)
    (h : (interpreter n).attributeOf (.ref r) name w = .ok x u) :
    .method (.ref r) f = x ∧ w = u := by
  cases n with
  | zero => exact absurd h attributeOf_zero
  | succ n =>
    rw [attributeOf_class hr hname hclass (by simp) hv] at h
    exact pure_eq_ok.1 h

/-- Data of a class is read as it is. -/
theorem attributeOf_data {k : Ref} (hr : w.at' r = .instance cls attrs) (hname : IsPlainName name)
    (hclass : w.classValue cls name = some (.ref k)) (hv : named? attrs name = none)
    (hk : ∀ f, w.at' k ≠ .function f)
    (h : (interpreter n).attributeOf (.ref r) name w = .ok x u) : .ref k = x ∧ w = u := by
  cases n with
  | zero => exact absurd h attributeOf_zero
  | succ n =>
    rw [attributeOf_class hr hname hclass (by simp) hv, bindAttribute, bind_of_ok (load_ok w k)] at h
    generalize w.at' k = o at h hk
    cases o with
    | function f => exact absurd rfl (hk f)
    | _ => exact pure_eq_ok.1 h

end

end Stencil
