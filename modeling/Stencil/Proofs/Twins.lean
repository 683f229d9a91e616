import Stencil.Proofs.OrderedUnions
import Stencil.Proofs.RenderSteps
import Stencil.Proofs.Snapshots

/-!
# Twins

Two worlds are twins when they differ at most in whether one configuration uses layouts, and in their logs.
What reads neither of these comes to the same in both of them, and leaves twins again. Here this is proved
of the parts of the program that work on assets.
-/

namespace Stencil

open World Evaluation

/-- A configuration apart from whether it uses layouts. -/
def ViewConfig.bare (k : ViewConfig) : ViewConfig := { k with useLayout := .none }

/-- Two worlds that differ at most in whether the configuration at a place uses layouts, and in their
logs. -/
structure World.Twin (c : Ref) (w w' : World) : Prop where
  size : w'.objects.size = w.objects.size
  same : ∀ r : Nat, r ≠ c → w'.at' r = w.at' r
  config : ∃ k k' : ViewConfig, w.at' c = .config k ∧ w'.at' c = .config k' ∧ k'.bare = k.bare
  classes : w'.classes = w.classes
  files : w'.files = w.files
  enclosing : w'.enclosing = w.enclosing
  handling : w'.handling = w.handling

/-- Two outcomes that differ only in the worlds, which are twins. -/
inductive Alike (c : Ref) {α : Type} : EStateM.Result Stop World α → EStateM.Result Stop World α → Prop
  | ok (a : α) {u u' : World} (h : u.Twin c u') : Alike c (.ok a u) (.ok a u')
  | error (s : Stop) {u u' : World} (h : u.Twin c u') : Alike c (.error s u) (.error s u')

/-- A computation comes to the same in every twin of a world. -/
def Unread {α : Type} (c : Ref) (x : Action α) (w : World) : Prop :=
  ∀ w', w.Twin c w' → Alike c (x w) (x w')

/-- A computation reads a value off a world, and the same one off its twins. -/
structure Sees {α : Type} (c : Ref) (x : Action α) (a : α) (w : World) : Prop where
  here : x w = .ok a w
  twins : ∀ w', w.Twin c w' → x w' = .ok a w'

section

variable {α β : Type} {c : Nat} {w w' u u' : World}

namespace World.Twin

theorem config_left (h : w.Twin c w') : ∃ k, w.at' c = .config k := by
  obtain ⟨k, -, hk, -⟩ := h.config
  exact ⟨k, hk⟩

theorem config_right (h : w.Twin c w') : ∃ k, w'.at' c = .config k := by
  obtain ⟨-, k, -, hk, -⟩ := h.config
  exact ⟨k, hk⟩

/-- What is no configuration is the same in both worlds. -/
theorem at'_eq {r : Nat} {o : Object} (h : w.Twin c w') (hr : w.at' r = o)
    (ho : ∀ k, o ≠ .config k) : w'.at' r = o := by
  by_cases hrc : r = c
  · obtain ⟨k, hk⟩ := h.config_left
    rw [← hrc, hr] at hk
    exact absurd hk (ho k)
  · rw [h.same r hrc, hr]

theorem ne_of_at' {r : Nat} {o : Object} (h : w.Twin c w') (hr : w.at' r = o)
    (ho : ∀ k, o ≠ .config k) : r ≠ c := by
  rintro rfl
  obtain ⟨k, hk⟩ := h.config_left
  exact ho k (hr.symm.trans hk)

theorem lt_size (h : w.Twin c w') : c < w.objects.size := by
  obtain ⟨k, hk⟩ := h.config_left
  exact lt_size_of_at' hk (by rintro ⟨⟩)

theorem push (h : w.Twin c w') (o : Object) : (w.push o).Twin c (w'.push o) where
  size := by
    have hsize := h.size
    simp only [size_push]
    omega
  same r hr := by
    rw [at'_push, at'_push, h.size, h.same r hr]
  config := by
    have hlt := h.lt_size
    have hsize := h.size
    rw [at'_push_of_lt hlt, at'_push_of_lt (by omega)]
    exact h.config
  classes := h.classes
  files := h.files
  enclosing := h.enclosing
  handling := h.handling

theorem put {r : Nat} (h : w.Twin c w') (hr : r ≠ c) (o : Object) : (w.put r o).Twin c (w'.put r o) where
  size := by
    rw [size_put, size_put, h.size]
  same s hs := by
    by_cases hsr : s = r
    · subst hsr
      by_cases hshape : (w.at' s).shape = o.shape
      · by_cases hlt : s < w.objects.size
        · have hlt' : s < w'.objects.size := by
            have hsize := h.size
            omega
          rw [at'_put_self hlt rfl hshape, at'_put_self hlt' (h.same s hs) hshape]
        · have hle : w.objects.size ≤ s := by omega
          have hle' : w'.objects.size ≤ s := by
            have hsize := h.size
            omega
          rw [at'_of_size_le (by rwa [size_put]), at'_of_size_le (by rwa [size_put])]
      · have hshape' : (w'.at' s).shape ≠ o.shape := by rwa [h.same s hs]
        rw [put_of_shape_ne hshape, put_of_shape_ne hshape', h.same s hs]
    · rw [at'_put_of_ne hsr, at'_put_of_ne hsr, h.same s hs]
  config := by
    rw [at'_put_of_ne (Ne.symm hr), at'_put_of_ne (Ne.symm hr)]
    exact h.config
  classes := by
    rw [classes_put, classes_put, h.classes]
  files := by
    unfold World.put
    split <;> split <;> exact h.files
  enclosing := by
    rw [enclosing_put, enclosing_put, h.enclosing]
  handling := by
    unfold World.put
    split <;> split <;> exact h.handling

/-- The logs may be any. -/
theorem logs (h : w.Twin c w') (log log' : Array (String × String)) :
    ({ w with log } : World).Twin c { w' with log := log' } :=
  ⟨h.size, h.same, h.config, h.classes, h.files, h.enclosing, h.handling⟩

theorem withEnclosing (h : w.Twin c w') (bundle : Option Ref) :
    (w.withEnclosing bundle).Twin c (w'.withEnclosing bundle) :=
  ⟨h.size, h.same, h.config, h.classes, h.files, rfl, h.handling⟩

end World.Twin

/-! ## Computations in sequence -/

theorem Alike.of_eq {x y : Action α} (h : Alike c (x w) (x w')) (hw : y w = x w) (hw' : y w' = x w') :
    Alike c (y w) (y w') := by
  rwa [hw, hw']

theorem Alike.bind {x y : Action α} {f g : α → Action β} (h : Alike c (x w) (y w'))
    (hf : ∀ a u u', x w = .ok a u → y w' = .ok a u' → u.Twin c u' → Alike c (f a u) (g a u')) :
    Alike c ((x >>= f) w) ((y >>= g) w') := by
  generalize hx : x w = outcome at h
  generalize hy : y w' = outcome' at h
  cases h with
  | ok a h =>
    rw [bind_of_ok hx, bind_of_ok hy]
    exact hf a _ _ hx hy h
  | error s h =>
    rw [bind_of_error hx, bind_of_error hy]
    exact .error s h

theorem Alike.attempt {x y : Action α} (h : Alike c (x w) (y w')) :
    Alike c (World.attempt x w) (World.attempt y w') := by
  generalize hx : x w = outcome at h
  generalize hy : y w' = outcome' at h
  cases h with
  | ok a h =>
    rw [attempt_of_ok hx, attempt_of_ok hy]
    exact .ok _ h
  | error s h =>
    rw [attempt_of_error hx, attempt_of_error hy]
    exact .ok _ h

theorem Unread.bind {x : Action α} {f : α → Action β} (hx : Unread c x w)
    (hf : ∀ a u, x w = .ok a u → Unread c (f a) u) : Unread c (x >>= f) w := by
  intro w' h
  refine (hx w' h).bind fun a u u' hu _ htwin => ?_
  exact hf a u hu u' htwin

/-- A computation goes on from what it has read. -/
theorem Sees.next {x : Action α} {f : α → Action β} {a : α} (hx : Sees c x a w)
    (hf : Unread c (f a) w) : Unread c (x >>= f) w := by
  intro w' h
  rw [bind_of_ok hx.here, bind_of_ok (hx.twins w' h)]
  exact hf w' h

theorem Sees.bind {x : Action α} {f : α → Action β} {a : α} {b : β} (hx : Sees c x a w)
    (hf : Sees c (f a) b w) : Sees c (x >>= f) b w where
  here := (bind_of_ok hx.here).trans hf.here
  twins w' h := (bind_of_ok (hx.twins w' h)).trans (hf.twins w' h)

theorem Sees.unread {x : Action α} {a : α} (h : Sees c x a w) : Unread c x w := by
  intro w' htwin
  rw [h.here, h.twins w' htwin]
  exact .ok a htwin

/-- What comes to the same in every world and its twins. -/
class Blind (c : Ref) (x : Action α) : Prop where
  unread : ∀ w, Unread c x w

instance blind_pure (a : α) : Blind c (pure a : Action α) := ⟨fun _ _ h => .ok a h⟩

instance blind_throw (s : Stop) : Blind c (throw s : Action α) := ⟨fun _ _ h => .error s h⟩

instance blind_bind {x : Action α} {f : α → Action β} [hx : Blind c x] [hf : ∀ a, Blind c (f a)] :
    Blind c (x >>= f) :=
  ⟨fun w => (hx.unread w).bind fun a u _ => (hf a).unread u⟩

instance blind_map {x : Action α} {f : α → β} [Blind c x] : Blind c (f <$> x) := by
  rw [map_eq_pure_bind]
  infer_instance

instance blind_alloc (o : Object) : Blind c (alloc o) := by
  refine ⟨fun w w' h => ?_⟩
  have halloc : alloc o w = .ok w.objects.size (w.push o) := rfl
  have halloc' : alloc o w' = .ok w.objects.size (w'.push o) := by
    rw [← h.size]
    rfl
  rw [halloc, halloc']
  exact .ok _ (h.push o)

instance blind_allocValue (o : Object) : Blind c (allocValue o) := by
  unfold allocValue
  infer_instance

instance blind_logMessage (source message : String) : Blind c (logMessage source message) :=
  ⟨fun _ _ h => .ok () (h.logs _ _)⟩

instance blind_raise (type : String) (args : List Value) : Blind c (raise type args : Action α) := by
  unfold raise raiseValue
  infer_instance

instance blind_raiseText (type message : String) : Blind c (raiseText type message : Action α) := by
  unfold raiseText
  infer_instance

instance blind_typeError (message : String) : Blind c (typeError message : Action α) := by
  unfold typeError
  infer_instance

instance blind_raiseFault (f : Fault) : Blind c (raiseFault f : Action α) := by
  unfold raiseFault raiseValue
  infer_instance

theorem unread_store {r : Nat} {p : Object} (hr : w.at' r = p) (hp : ∀ k, p ≠ .config k) (o : Object) :
    Unread c (store r o) w := by
  intro w' h
  exact .ok () (h.put (h.ne_of_at' hr hp) o)

/-! ## Reading -/

theorem sees_load {r : Nat} {o : Object} (hr : w.at' r = o) (ho : ∀ k, o ≠ .config k) :
    Sees c (load r) o w where
  here := by rw [load_ok, hr]
  twins w' h := by rw [load_ok, h.at'_eq hr ho]

theorem sees_object? {r : Nat} {o : Object} (hr : w.at' r = o) (ho : ∀ k, o ≠ .config k) :
    Sees c (object? (.ref r)) (some o) w where
  here := by rw [object?_ref, hr]
  twins w' h := by rw [object?_ref, h.at'_eq hr ho]

/-- What depends on an object, but not on whether a configuration uses layouts. -/
theorem unread_load_bind {f : Object → Action α} {r : Ref} (hf : Unread c (f (w.at' r)) w)
    (hconfig : ∀ k k' : ViewConfig, k'.bare = k.bare → f (.config k') = f (.config k)) :
    Unread c (load r >>= f) w := by
  intro w' h
  rw [bind_of_ok (load_ok w r), bind_of_ok (load_ok w' r)]
  by_cases hr : r = c
  · obtain ⟨k, k', hk, hk', hbare⟩ := h.config
    have hunread := hf w' h
    rw [hr, hk] at hunread ⊢
    rwa [hk', hconfig k k' hbare]
  · rw [h.same r hr]
    exact hf w' h

theorem blind_load_bind {f : Object → Action α} (r : Ref) (hf : ∀ o, Blind c (f o))
    (hconfig : ∀ k k' : ViewConfig, k'.bare = k.bare → f (.config k') = f (.config k)) :
    Blind c (load r >>= f) :=
  ⟨fun w => unread_load_bind ((hf _).unread w) hconfig⟩

instance blind_classAt (id : Nat) : Blind c (classAt id) := by
  refine ⟨fun w w' h => ?_⟩
  rw [classAt_ok, classAt_ok, World.classAt', World.classAt', h.classes]
  exact .ok _ h

instance blind_chain (id : Nat) : Blind c (chain id) := by
  refine ⟨fun w w' h => ?_⟩
  rw [chain_eq, chain_eq, World.ancestors_congr h.classes, h.classes]
  exact .ok _ h

instance blind_ite {p : Prop} [Decidable p] {x y : Action α} [Blind c x] [Blind c y] :
    Blind c (if p then x else y) := by
  split <;> assumption

instance blind_objectTypeName (o : Object) : Blind c (objectTypeName o) := by
  unfold objectTypeName
  repeat' first | infer_instance | split

instance blind_nameOfType (t : TypeRef) : Blind c (nameOfType t) := by
  unfold nameOfType
  split <;> infer_instance

instance blind_typeOf (v : Value) : Blind c (typeOf v) := by
  cases v with
  | ref r =>
    refine blind_load_bind r (fun o => ?_) fun _ _ _ => rfl
    split <;> infer_instance
  | method self name =>
    cases self with
    | ref r =>
      refine blind_load_bind r (fun o => ?_) fun _ _ _ => rfl
      split <;> infer_instance
    | _ => exact blind_pure _
  | type t =>
    cases t with
    | context id => exact blind_bind (f := fun cls => pure _)
    | _ => exact blind_pure _
  | _ => exact blind_pure _

instance blind_typeName (v : Value) : Blind c (typeName v) := by
  unfold typeName
  infer_instance

instance blind_isSubtype (t u : TypeRef) : Blind c (isSubtype t u) := by
  unfold isSubtype
  repeat' first | infer_instance | split

instance blind_isInstance (v : Value) (t : TypeRef) : Blind c (isInstance v t) := by
  unfold isInstance
  infer_instance

theorem Sees.of_blind {x : Action α} [hx : Blind c x] [hl : Looking x] (w : World) :
    ∃ a, Sees c x a w := by
  obtain ⟨a, ha⟩ := hl.looks w
  refine ⟨a, ha, fun w' h => ?_⟩
  have halike := hx.unread w w' h
  obtain ⟨a', ha'⟩ := hl.looks w'
  rw [ha, ha'] at halike
  cases halike
  exact ha'

instance blind_missingAttribute (v : Value) (name : String) :
    Blind c (missingAttribute v name : Action α) := by
  unfold missingAttribute
  split <;> infer_instance

/-! ## Going through values and sets -/

/-- A computation comes to the same in every twin of a world, and ends as a condition says. -/
structure Steady (c : Ref) (x : Action α) (w : World) (ends : α → World → Prop) : Prop where
  unread : Unread c x w
  ends : ∀ a u, x w = .ok a u → ends a u

namespace Steady

variable {x : Action α} {f : α → Action β} {P : α → World → Prop} {Q : β → World → Prop}

/-- What goes on may depend on what has been computed. -/
theorem go (hx : Steady c x w P) (hf : ∀ a u, x w = .ok a u → P a u → Steady c (f a) u Q) :
    Steady c (x >>= f) w Q where
  unread := hx.unread.bind fun a u hu => (hf a u hu (hx.ends a u hu)).unread
  ends b v h := by
    obtain ⟨a, u, hu, h⟩ := bind_eq_ok.1 h
    exact (hf a u hu (hx.ends a u hu)).ends b v h

theorem bind (hx : Steady c x w P) (hf : ∀ a u, P a u → Steady c (f a) u Q) :
    Steady c (x >>= f) w Q := hx.go fun a u _ => hf a u

theorem next {a : α} (hx : Sees c x a w) (hf : Steady c (f a) w Q) : Steady c (x >>= f) w Q where
  unread := hx.next hf.unread
  ends b v h := by
    rw [bind_of_ok hx.here] at h
    exact hf.ends b v h

theorem mono {R : α → World → Prop} (hx : Steady c x w P) (hR : ∀ a u, P a u → R a u) :
    Steady c x w R :=
  ⟨hx.unread, fun a u hu => hR a u (hx.ends a u hu)⟩

theorem pure {a : α} (h : P a w) : Steady c (pure a) w P := by
  refine ⟨(blind_pure a).unread w, fun b u hu => ?_⟩
  cases hu
  exact h

theorem load_bind {f : Object → Action β} {r : Ref} (hf : Steady c (f (w.at' r)) w Q)
    (hconfig : ∀ k k' : ViewConfig, k'.bare = k.bare → f (.config k') = f (.config k)) :
    Steady c (load r >>= f) w Q where
  unread := unread_load_bind hf.unread hconfig
  ends b u h := by
    rw [bind_of_ok (load_ok w r)] at h
    exact hf.ends b u h

theorem congr {y : Action α} (hx : Steady c x w P) (hw : y w = x w)
    (htwins : ∀ w', w.Twin c w' → y w' = x w') : Steady c y w P where
  unread := by
    intro w' h
    rw [hw, htwins w' h]
    exact hx.unread w' h
  ends a u hu := hx.ends a u (hw.symm.trans hu)

theorem stops (hx : Unread c x w) (h : ∀ a u, ¬ x w = .ok a u) : Steady c x w P :=
  ⟨hx, fun a u hu => absurd hu (h a u)⟩

theorem raiseText {type message : String} : Steady c (raiseText type message : Action α) w P := by
  refine .stops ((blind_raiseText type message).unread w) fun a u h => ?_
  cases h

theorem store {r : Nat} {p o : Object} {P : Unit → World → Prop} (hr : w.at' r = p)
    (hp : ∀ k, p ≠ .config k) (h : P () (w.put r o)) : Steady c (store r o) w P := by
  refine ⟨unread_store hr hp o, fun a u hu => ?_⟩
  cases hu
  exact h

theorem alloc {o : Object} {P : Ref → World → Prop} (h : P w.objects.size (w.push o)) :
    Steady c (alloc o) w P := by
  refine ⟨(blind_alloc o).unread w, fun a u hu => ?_⟩
  cases hu
  exact h

end Steady

variable {m : Interpreter}

/-- What holds before each round of a repetition, and reads nothing in a round. -/
theorem Steady.repeatUntil {σ : Type} {step : σ → Action (Except α σ)} {Q : α → World → Prop}
    (Inv : σ → World → Prop)
    (hstep : ∀ s w, Inv s w → Steady c (step s) w fun outcome u =>
      (∀ s', outcome = .ok s' → Inv s' u) ∧ ∀ a, outcome = .error a → Q a u)
    {s : σ} (h : Inv s w) : Steady c (m.repeatUntil step s) w Q := by
  unfold Interpreter.repeatUntil
  generalize m.rounds = left
  induction left generalizing s w with
  | zero => exact .stops ((blind_throw .exhausted).unread w) fun a u hu => throw_eq_ok hu
  | succ left ih =>
    rw [Interpreter.repeatUntil.go]
    refine (hstep s w h).bind fun outcome u hu => ?_
    cases outcome with
    | error a => exact .pure (hu.2 a rfl)
    | ok s' => exact ih (hu.1 s' rfl)

/-- An iterator that draws from values, or from a set of assets. -/
inductive World.Draws (w : World) (it : Nat) : Prop
  | values {items : List Value} (hit : w.at' it = .iterator (.values items none))
  | members {s i size : Nat} {kind : AssetKind} {refs : OrderedSet Value}
      (hit : w.at' it = .iterator (.members s i size)) (hs : w.at' s = .assets kind refs)

theorem World.Draws.lt_size {it : Nat} (h : w.Draws it) : it < w.objects.size := by
  cases h with
  | values hit => exact lt_size_of_at' hit (by rintro ⟨⟩)
  | members hit hs => exact lt_size_of_at' hit (by rintro ⟨⟩)

/-- An iterator goes on drawing when sets of assets change. -/
theorem World.Draws.put {it r : Nat} {kind : AssetKind} {refs : OrderedSet Value} (h : w.Draws it)
    (hr : w.at' r = .assets kind refs) (more : OrderedSet Value) :
    (w.put r (.assets kind more)).Draws it := by
  have hne (o : Iterator) (hit : w.at' it = .iterator o) : it ≠ r := by
    rintro rfl
    cases hit.symm.trans hr
  cases h with
  | values hit => exact .values ((at'_put_of_ne (hne _ hit)).trans hit)
  | @members s i size kind' refs' hit hs =>
    have hit' := (at'_put_of_ne (o := .assets kind more) (hne _ hit)).trans hit
    by_cases hsr : s = r
    · subst hsr
      exact .members hit' (at'_put_assets hr more)
    · exact .members hit' ((at'_put_of_ne hsr).trans hs)

/-- To draw an item reads nothing; the iterator can go on and nothing else has changed. -/
theorem advance_draws {it : Nat} (h : w.Draws it) : Steady c (advance m it) w fun _ u =>
    u.Draws it ∧ w.ChangesOnly [it] u := by
  unfold advance
  generalize m.rounds = depth
  cases depth with
  | zero => exact .stops ((blind_throw .exhausted).unread w) fun a u hu => throw_eq_ok hu
  | succ depth =>
    -- Whatever the iterator becomes next, it is stored in its place, and an item or none is given.
    have hgives {o : Iterator} (hit : w.at' it = .iterator o) (p : Iterator) (item : Option Value)
        (hp : (w.put it (.iterator p)).at' it = .iterator p → (w.put it (.iterator p)).Draws it) :
        Steady c (store it (.iterator p) >>= fun _ => pure item) w fun _ u =>
          u.Draws it ∧ w.ChangesOnly [it] u :=
      (Steady.store hit (by rintro k ⟨⟩) (P := fun _ u => u = w.put it (.iterator p)) rfl).bind
        fun _ u hu => .pure (hu ▸ ⟨hp (World.at'_put_self h.lt_size hit rfl), .put (by simp) _ _⟩)
    cases h with
    | @values items hit =>
      refine .next (sees_load hit (by rintro k ⟨⟩)) ?_
      cases items with
      | nil => exact .pure ⟨.values hit, .refl _ _⟩
      | cons v rest => exact hgives hit (.values rest none) (some v) .values
    | @members s i size kind refs hit hs =>
      have hne : s ≠ it := by
        rintro rfl
        cases hit.symm.trans hs
      have hstill (p : Iterator) : (w.put it (.iterator p)).at' s = .assets kind refs :=
        (at'_put_of_ne hne).trans hs
      refine .next (sees_load hit (by rintro k ⟨⟩)) (.next (sees_load hs (by rintro k ⟨⟩)) ?_)
      dsimp only
      split
      · exact .raiseText
      · split
        · exact hgives hit _ _ fun hp => .members hp (hstill _)
        · exact hgives hit _ _ .values

/-! ## Sets and bundles -/

namespace World

/-- Nothing but sets of assets has changed, apart from what is new. -/
structure Refills (w u : World) : Prop where
  size : w.objects.size ≤ u.objects.size
  same : ∀ r : Nat, r < w.objects.size → (∀ kind refs, w.at' r ≠ .assets kind refs) → u.at' r = w.at' r
  sets : ∀ r kind refs, w.at' r = .assets kind refs → ∃ more, u.at' r = .assets kind more
  classes : u.classes = w.classes
  enclosing : u.enclosing = w.enclosing

/-- A bundle whose parts are sets. -/
def HoldsSets (w : World) (b : Ref) : Prop :=
  ∃ (css js : Ref) (k l : AssetKind) (x y : OrderedSet Value),
    w.at' b = .bundle css js ∧ w.at' css = .assets k x ∧ w.at' js = .assets l y

namespace Refills

theorem refl (w : World) : w.Refills w :=
  ⟨Nat.le_refl _, fun _ _ _ => rfl, fun _ _ refs hr => ⟨refs, hr⟩, rfl, rfl⟩

theorem trans {v : World} (h : w.Refills u) (h' : u.Refills v) : w.Refills v where
  size := Nat.le_trans h.size h'.size
  same r hlt hr := by
    have hu := h.same r hlt hr
    rw [h'.same r (Nat.lt_of_lt_of_le hlt h.size) (by rwa [hu]), hu]
  sets r kind refs hr := by
    obtain ⟨more, hmore⟩ := h.sets r kind refs hr
    exact h'.sets r kind more hmore
  classes := h'.classes.trans h.classes
  enclosing := h'.enclosing.trans h.enclosing

theorem of_changesOnly (h : w.ChangesOnly [] u) : w.Refills u where
  size := h.size
  same r hlt _ := h.same r hlt (by simp)
  sets r kind refs hr := by
    have hlt : r < w.objects.size := lt_size_of_at' hr (by rintro ⟨⟩)
    exact ⟨refs, (h.same r hlt (by simp)).trans hr⟩
  classes := h.classes
  enclosing := h.enclosing

theorem push (w : World) (o : Object) : w.Refills (w.push o) := of_changesOnly (.push _ _ _)

theorem put {r : Nat} {kind : AssetKind} {refs : OrderedSet Value} (hr : w.at' r = .assets kind refs)
    (more : OrderedSet Value) : w.Refills (w.put r (.assets kind more)) where
  size := by simp
  same s _ hs := by
    refine at'_put_of_ne ?_
    rintro rfl
    exact hs kind refs hr
  sets s k x hs := by
    by_cases hsr : s = r
    · subst hsr
      cases hs.symm.trans hr
      exact ⟨more, at'_put_assets hr more⟩
    · exact ⟨x, (at'_put_of_ne hsr).trans hs⟩
  classes := classes_put _ _ _
  enclosing := enclosing_put _ _ _

theorem at'_eq {r : Nat} {o : Object} (h : w.Refills u) (hr : w.at' r = o)
    (ho : o.shape ≠ (default : Object).shape) (hset : ∀ kind refs, o ≠ .assets kind refs) :
    u.at' r = o := by
  rw [h.same r (lt_size_of_at' hr ho) (by rwa [hr]), hr]

theorem holdsSets {b : Nat} (h : w.Refills u) (hb : w.HoldsSets b) : u.HoldsSets b := by
  obtain ⟨css, js, k, l, x, y, hbundle, hcss, hjs⟩ := hb
  obtain ⟨x', hcss'⟩ := h.sets css k x hcss
  obtain ⟨y', hjs'⟩ := h.sets js l y hjs
  exact ⟨css, js, k, l, x', y', h.at'_eq hbundle (by rintro ⟨⟩) (by rintro _ _ ⟨⟩), hcss', hjs'⟩

end Refills

end World

theorem World.Refills.draw {it : Nat} {v : World} (h : w.Refills u) (hit : w.objects.size ≤ it)
    (hu : u.ChangesOnly [it] v) : w.Refills v where
  size := Nat.le_trans h.size hu.size
  same r hlt hr := by
    have hne : r ∉ [it] := by simpa using Nat.ne_of_lt (Nat.lt_of_lt_of_le hlt hit)
    rw [hu.same r (Nat.lt_of_lt_of_le hlt h.size) hne]
    exact h.same r hlt hr
  sets r kind refs hr := by
    have hlt : r < w.objects.size := lt_size_of_at' hr (by rintro ⟨⟩)
    have hne : r ∉ [it] := by simpa using Nat.ne_of_lt (Nat.lt_of_lt_of_le hlt hit)
    rw [hu.same r (Nat.lt_of_lt_of_le hlt h.size) hne]
    exact h.sets r kind refs hr
  classes := hu.classes.trans h.classes
  enclosing := hu.enclosing.trans h.enclosing

/-- Going through the values of a tuple. -/
theorem collect_tuple_steady (items : List Value) (w : World) :
    Steady c (collect m (.tuple items)) w fun _ u => w.Refills u := by
  have hiterate : iterate (.tuple items) = iteratorOf items := rfl
  unfold collect drain
  rw [hiterate]
  refine Steady.bind (Steady.alloc (P := fun it u => w.objects.size ≤ it ∧ w.Refills u ∧ u.Draws it)
    ⟨Nat.le_refl _, .push _ _, .values (World.at'_push_size _ _)⟩) fun it u hout => ?_
  obtain ⟨hit, hu, hdraws⟩ := hout
  refine Steady.bind (Steady.repeatUntil (Q := fun _ u => w.Refills u)
    (fun _ u => w.Refills u ∧ u.Draws it) (fun acc u hout => ?_) ⟨hu, hdraws⟩)
    fun _ u hu => .pure hu
  obtain ⟨hu, hdraws⟩ := hout
  refine (advance_draws hdraws).bind fun item v hout => ?_
  obtain ⟨hdraws, hchanges⟩ := hout
  have hv := hu.draw hit hchanges
  cases item with
  | some x => exact .pure ⟨fun _ _ => ⟨hv, hdraws⟩, by rintro _ ⟨⟩⟩
  | none => exact .pure ⟨by rintro _ ⟨⟩, fun _ _ => hv⟩

theorem sees_members {r : Nat} {kind : AssetKind} {refs : OrderedSet Value}
    (hr : w.at' r = .assets kind refs) : Sees c (AssetSet.members r) (kind, refs) w :=
  (sees_load hr (by rintro k ⟨⟩)).bind ⟨rfl, fun _ _ => rfl⟩

mutual

theorem checkKey_steady (v : Value) (w : World) : Steady c (checkKey v) w fun _ u => u = w := by
  cases v with
  | tuple items =>
    rw [checkKey]
    exact checkKeys_steady items w
  | ref r =>
    rw [checkKey]
    refine .load_bind ?_ fun _ _ _ => rfl
    split <;> first | exact .pure rfl | skip
    all_goals
      obtain ⟨name, hname⟩ := Sees.of_blind (c := c) (x := typeName (.ref r)) w
      exact .next hname .raiseText
  | slice _ _ _ =>
    rw [checkKey]
    exact .raiseText
  | _ =>
    simp only [checkKey]
    exact .pure rfl

theorem checkKeys_steady (items : List Value) (w : World) :
    Steady c (checkKey.go items) w fun _ u => u = w := by
  cases items with
  | nil =>
    rw [checkKey.go]
    exact .pure rfl
  | cons v rest =>
    rw [checkKey.go]
    refine (checkKey_steady v w).bind fun _ u hu => ?_
    subst hu
    exact checkKeys_steady rest u

end

theorem checkAll_steady (items : List Value) (w : World) :
    Steady c (items.forM checkKey) w fun _ u => u = w := by
  induction items with
  | nil => exact .pure rfl
  | cons v rest ih =>
    refine Steady.bind (f := fun _ => rest.forM checkKey) (checkKey_steady v w) fun _ u hu => ?_
    subst hu
    exact ih

/-- A new set of the values of a tuple. -/
theorem make_steady (kind : AssetKind) (items : List Value) (w : World) :
    Steady c (AssetSet.make m kind (.tuple items)) w fun s u =>
      (∃ refs, u.at' s = .assets kind refs) ∧ w.Refills u := by
  have htruth : Sees c (truth (.tuple items)) (items.length != 0) w := ⟨rfl, fun _ _ => rfl⟩
  refine .next htruth ?_
  split
  · refine (collect_tuple_steady items w).bind fun taken u hu => ?_
    refine (checkAll_steady taken u).bind fun _ v hv => ?_
    subst hv
    exact .alloc ⟨⟨_, World.at'_push_size _ _⟩, hu.trans (.push _ _)⟩
  · exact .alloc ⟨⟨_, World.at'_push_size _ _⟩, .push _ _⟩

theorem add_steady {r : Nat} {kind : AssetKind} {refs : OrderedSet Value}
    (hr : w.at' r = .assets kind refs) (v : Value) :
    Steady c (AssetSet.add r v) w fun _ u => ∃ more, u = w.put r (.assets kind more) := by
  refine (checkKey_steady v w).bind fun _ u hu => ?_
  subst hu
  refine .next (sees_members hr) ?_
  exact .store hr (by rintro k ⟨⟩) ⟨_, rfl⟩

/-- Adding the members of a set to a set. -/
theorem update_steady {r s : Nat} {kind kind' : AssetKind} {refs refs' : OrderedSet Value}
    (hr : w.at' r = .assets kind refs) (hs : w.at' s = .assets kind' refs') :
    Steady c (AssetSet.update m r (.ref s)) w fun _ u => w.Refills u := by
  have hiterate : Steady c (iterate (.ref s)) w fun it u =>
      w.objects.size ≤ it ∧ w.Refills u ∧ u.Draws it := by
    have hlt : s < w.objects.size := lt_size_of_at' hs (by rintro ⟨⟩)
    refine Steady.bind (P := fun found u => ∃ it, found = some it ∧ w.objects.size ≤ it ∧ w.Refills u ∧
      u.Draws it) ?_ ?_
    · refine .next (sees_load hs (by rintro k ⟨⟩)) (Steady.bind (Steady.alloc (P := fun it u =>
        w.objects.size ≤ it ∧ w.Refills u ∧ u.Draws it) ⟨Nat.le_refl _, .push _ _, ?_⟩) ?_)
      · exact .members (World.at'_push_size _ _) ((World.at'_push_of_lt hlt).trans hs)
      · exact fun it u h => .pure ⟨it, rfl, h⟩
    · rintro found u ⟨it, rfl, h⟩
      exact .pure h
  unfold AssetSet.update AssetSet.each findItem
  rw [bind_assoc]
  refine hiterate.bind fun it u hout => ?_
  obtain ⟨hit, hu, hdraws⟩ := hout
  refine Steady.bind (Steady.repeatUntil (Q := fun _ u => w.Refills u)
    (fun _ u => w.Refills u ∧ u.Draws it) (fun _ u hout => ?_) ⟨hu, hdraws⟩)
    fun _ u hu => .pure hu
  obtain ⟨hu, hdraws⟩ := hout
  refine (advance_draws hdraws).bind fun item v hout => ?_
  obtain ⟨hdraws, hchanges⟩ := hout
  have hv := hu.draw hit hchanges
  cases item with
  | none => exact .pure ⟨by rintro _ ⟨⟩, fun _ _ => hv⟩
  | some x =>
    obtain ⟨more, hmore⟩ := hv.sets r kind refs hr
    refine Steady.bind (P := fun (found : Option Unit) x => found = none ∧ w.Refills x ∧ x.Draws it) ?_ ?_
    · refine (add_steady hmore x).bind fun _ x hout => ?_
      obtain ⟨refs, hx⟩ := hout
      subst hx
      exact .pure ⟨rfl, hv.trans (.put hmore refs), hdraws.put hmore refs⟩
    · rintro found x ⟨rfl, hx, hdraws⟩
      exact .pure ⟨fun _ _ => ⟨hx, hdraws⟩, by rintro _ ⟨⟩⟩

/-- A new bundle. -/
theorem makeBundle_steady (css js : List Value) (w : World) :
    Steady c (Bundle.make m (.tuple css) (.tuple js)) w fun b u => u.HoldsSets b ∧ w.Refills u := by
  refine (make_steady .stylesheet css w).bind fun s u hout => ?_
  obtain ⟨⟨x, hs⟩, hu⟩ := hout
  refine (make_steady .script js u).bind fun t v hout => ?_
  obtain ⟨⟨y, ht⟩, hv⟩ := hout
  obtain ⟨x', hs'⟩ := hv.sets s _ x hs
  have hslt : s < v.objects.size := lt_size_of_at' hs' (by rintro ⟨⟩)
  have htlt : t < v.objects.size := lt_size_of_at' ht (by rintro ⟨⟩)
  refine .alloc ⟨⟨s, t, .stylesheet, .script, x', y, World.at'_push_size _ _, ?_, ?_⟩,
    (hu.trans hv).trans (.push _ _)⟩
  · exact (World.at'_push_of_lt hslt).trans hs'
  · exact (World.at'_push_of_lt htlt).trans ht

/-- Registering a bundle in a bundle. -/
theorem registerBundle_steady {b o : Nat} (hreads : m.Reads) (hb : w.HoldsSets b) (ho : w.HoldsSets o) :
    Steady c (Bundle.register m b (.ref o)) w fun _ u => w.Refills u := by
  have hpart {p css js : Nat} {w : World} (hp : w.at' p = .bundle css js) :
      Sees c (m.attributeOf (.ref p) "css") (.ref css) w ∧
        Sees c (m.attributeOf (.ref p) "js") (.ref js) w := by
    have hhere := attributeOf_part_eq hreads hp
    have hthere (w') (h : w.Twin c w') := attributeOf_part_eq hreads (h.at'_eq hp (by rintro k ⟨⟩))
    exact ⟨⟨hhere.1, fun w' h => (hthere w' h).1⟩, ⟨hhere.2, fun w' h => (hthere w' h).2⟩⟩
  obtain ⟨css, js, k, l, x, y, hbundle, hcss, hjs⟩ := hb
  obtain ⟨css', js', k', l', x', y', hother, hcss', hjs'⟩ := ho
  have hparts : Sees c (Bundle.parts b) (css, js) w :=
    (sees_load hbundle (by rintro k ⟨⟩)).bind ⟨rfl, fun _ _ => rfl⟩
  refine .next hparts (.next (hpart hother).1 ?_)
  refine (update_steady hcss hcss').bind fun _ u hu => ?_
  obtain ⟨y₁, hjs₁⟩ := hu.sets js l y hjs
  obtain ⟨y₁', hjs₁'⟩ := hu.sets js' l' y' hjs'
  refine .next (hpart (hu.at'_eq hother (by rintro ⟨⟩) (by rintro _ _ ⟨⟩))).2 ?_
  exact (update_steady hjs₁ hjs₁').mono fun _ v hv => hu.trans hv

/-- The method of a bundle that registers another one. -/
theorem callMethod_register_eq {b css js : Nat} (hb : w.at' b = .bundle css js) (v : Value) :
    callMethod m (.ref b) "register" { items := [v] } w =
      (Bundle.register m b v >>= fun _ => pure (.ref b)) w := by
  refine (bind_of_ok (load_ok w b)).trans ?_
  rw [hb]
  dsimp only
  unfold objectMethod
  rw [bind_of_ok (w.typeName_eq (.ref b))]
  exact bind_of_ok (matched_eq rfl rfl w)

/-- The method of a configuration that makes a bundle. -/
theorem callMethod_bundle_eq {k : Nat} {config : ViewConfig} (hk : w.at' k = .config config) :
    callMethod m (.ref k) "bundle" {} w =
      (Bundle.make m (.tuple config.css) (.tuple config.js) >>= fun b => pure (.ref b)) w := by
  refine (bind_of_ok (load_ok w k)).trans ?_
  rw [hk]
  dsimp only
  rw [if_neg (by decide)]
  unfold objectMethod
  rw [bind_of_ok (w.typeName_eq (.ref k))]
  exact bind_of_ok (matched_eq rfl rfl w)

end

end Stencil
