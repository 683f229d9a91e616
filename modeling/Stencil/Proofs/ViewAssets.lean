import Stencil.Proofs.Bundling
import Stencil.Proofs.NamedValues

/-!
# The assets of a view

A view holds two bundles: the references that were registered on it, and the ones that its last render
has collected. A render begins with a fresh bundle of what the configuration of its type lists, then of
what is registered on the view; the bundles that were there before stay as they were.
-/

namespace Stencil

open World Evaluation

/-- The attributes that the assets of a view are found by. -/
def assetAttributes : List String := ["config", "assets", "_assets", "_registered"]

namespace World

/-- The class of the context at a place. -/
def classOf? (w : World) (v : Ref) : Option Nat :=
  match w.at' v with
  | .instance cls _ => some cls
  | _ => none

/-- What a context has itself under a name. -/
def own? (w : World) (v : Ref) (name : String) : Option Value :=
  match w.at' v with
  | .instance _ attrs => named? attrs name
  | _ => none

/-- A view with the attributes of the built-in class that assets are found by. -/
structure IsView (w : World) (v : Ref) (cls : Nat) : Prop where
  classOf : w.classOf? v = some cls
  kind : (w.classAt' cls).kind = .view
  assets : w.classValue cls "assets" = some (.property "assets")
  computed : ∀ name ∈ ["_assets", "_registered"], ∀ p, w.classValue cls name ≠ some (.property p)

/-- The references in the configuration of a class. -/
def Configured (w : World) (cls : Nat) (refs : References) : Prop :=
  ∃ (k : Ref) (config : ViewConfig),
    w.classValue cls "config" = some (.ref k) ∧ w.at' k = .config config ∧ config.Lists refs

/-- The references in the bundle that is an attribute of a view. -/
def Bundled (w : World) (v : Ref) (name : String) (refs : References) : Prop :=
  ∃ b c j : Ref, w.own? v name = some (.ref b) ∧ w.IsBundle b c j refs

/-- A view with the references in its configuration, those that are registered on it, and those that it
has collected when it was rendered last. -/
structure ViewHolds (w : World) (v : Ref) (config registered collected : References) : Prop where
  view : ∃ cls, w.IsView v cls ∧ w.Configured cls config
  unshadowed : w.own? v "config" = none
  registered : w.Bundled v "_registered" registered
  collected : w.Bundled v "_assets" collected

theorem Bundled.unique {w : World} {v : Ref} {name : String} {refs more : References}
    (h : w.Bundled v name refs) (h' : w.Bundled v name more) : refs = more := by
  obtain ⟨b, c, j, hb, h⟩ := h
  obtain ⟨b', c', j', hb', h'⟩ := h'
  cases hb.symm.trans hb'
  exact h.unique h'

theorem classOf?_eq_some {w : World} {v : Ref} {cls : Nat} (h : w.classOf? v = some cls) :
    ∃ attrs, w.at' v = .instance cls attrs := by
  unfold classOf? at h
  split at h
  · rename_i c attrs hv
    cases h
    exact ⟨attrs, hv⟩
  · cases h

theorem own?_eq {w : World} {v : Ref} {cls : Nat} {attrs : List (String × Value)}
    (h : w.at' v = .instance cls attrs) (name : String) : w.own? v name = named? attrs name := by
  rw [own?, h]

end World

/-! ## Reading and setting attributes of views -/

section

variable {n : Nat} {w u : World} {v cls : Nat} {x y : Value} {name : String}

@[simp] theorem refuseProperty_eq_ok {α : Type} {a : α} {lacking : String} :
    ¬ (refuseProperty x name lacking : Action α) w = .ok a u := by
  simp [refuseProperty, bind_eq_ok]

theorem setAttribute_instance {attrs : List (String × Value)} {b : Unit}
    (hv : w.at' v = .instance cls attrs) (h : setAttribute (.ref v) name x w = .ok b u) :
    u = w.put v (.instance cls (setNamed attrs name x)) := by
  unfold setAttribute at h
  rw [bind_of_ok (object?_ref w v), hv] at h
  dsimp only at h
  rw [bind_of_ok (classAttribute?_eq w cls name)] at h
  generalize w.classValue cls name = found at h
  split at h
  · exact absurd h refuseProperty_eq_ok
  · exact (store_eq_ok.1 h).symm

/-- What a view has itself under a name that its class does not compute. -/
theorem attributeOf_own? (hv : w.classOf? v = some cls) (hname : IsPlainName name)
    (hclass : ∀ p, w.classValue cls name ≠ some (.property p)) (hx : w.own? v name = some x)
    (h : (interpreter n).attributeOf (.ref v) name w = .ok y u) : x = y ∧ w = u := by
  obtain ⟨attrs, hv⟩ := World.classOf?_eq_some hv
  rw [World.own?_eq hv] at hx
  exact attributeOf_own hv hname hclass hx h

theorem attributeOf__assets (hv : w.IsView v cls) (hx : w.own? v "_assets" = some x)
    (h : (interpreter n).attributeOf (.ref v) "_assets" w = .ok y u) : x = y ∧ w = u :=
  attributeOf_own? hv.classOf (by simp [IsPlainName]) (hv.computed _ (by simp)) hx h

theorem attributeOf__registered (hv : w.IsView v cls) (hx : w.own? v "_registered" = some x)
    (h : (interpreter n).attributeOf (.ref v) "_registered" w = .ok y u) : x = y ∧ w = u :=
  attributeOf_own? hv.classOf (by simp [IsPlainName]) (hv.computed _ (by simp)) hx h

/-- The assets of a view are the bundle that it has. -/
theorem attributeOf_assets (hv : w.IsView v cls) (hx : w.own? v "_assets" = some x)
    (h : (interpreter n).attributeOf (.ref v) "assets" w = .ok y u) : x = y ∧ w = u := by
  cases n with
  | zero => exact absurd h attributeOf_zero
  | succ n =>
    obtain ⟨attrs, ha⟩ := World.classOf?_eq_some hv.classOf
    rw [attributeOf_property ha (by simp [IsPlainName]) hv.assets] at h
    exact attributeOf__assets hv hx h

theorem isView_eq (hv : w.IsView v cls) : View.isView (.ref v) w = .ok true w := by
  obtain ⟨attrs, ha⟩ := World.classOf?_eq_some hv.classOf
  unfold View.isView
  rw [bind_of_ok (object?_ref w v), ha]
  dsimp only
  rw [bind_of_ok (classAt_ok w cls), hv.kind]
  rfl

/-- The bundle of a view's configuration is new and holds what the configuration lists. -/
theorem configuredBundle_eq_ok {refs : References} (hv : w.classOf? v = some cls)
    (hconfig : w.Configured cls refs) (hown : w.own? v "config" = none)
    (h : View.configuredBundle (interpreter n) (.ref v) w = .ok x u) :
    ∃ b : Nat, x = .ref b ∧
      (∃ c j, w.IsNewBundle u b c j refs.distinct ∧ u.BundleOf b c j refs.distinct) ∧
      w.ChangesOnly [] u := by
  obtain ⟨k, config, hk, hat, hrefs⟩ := hconfig
  obtain ⟨attrs, ha⟩ := World.classOf?_eq_some hv
  rw [World.own?_eq ha] at hown
  unfold View.configuredBundle at h
  rw [bind_eq_ok] at h
  obtain ⟨_, _, hc, h⟩ := h
  obtain ⟨rfl, rfl⟩ := attributeOf_data ha (by simp [IsPlainName]) hk hown (by simp [hat]) hc
  rw [bind_eq_ok] at h
  obtain ⟨_, _, hb, h⟩ := h
  obtain ⟨rfl, rfl⟩ := attributeOf_config_bundle hat hb
  cases n with
  | zero => exact absurd h apply_zero
  | succ n =>
    rw [apply_method] at h
    exact callMethod_config_bundle hat hrefs h

/-- What setting an attribute of a context changes. -/
theorem setAttribute_eq_ok {b : Unit} (hv : w.classOf? v = some cls)
    (h : setAttribute (.ref v) name x w = .ok b u) :
    w.ChangesOnly [v] u ∧ (∀ r, u.classOf? r = w.classOf? r) ∧
      ∀ r other, u.own? r other = if r = v ∧ other = name then some x else w.own? r other := by
  obtain ⟨attrs, ha⟩ := World.classOf?_eq_some hv
  obtain rfl := setAttribute_instance ha h
  have hlt : v < w.objects.size := by
    refine Nat.lt_of_not_le fun hle => ?_
    rw [World.at'_of_size_le hle] at ha
    cases ha
  have hput : (w.put v (.instance cls (setNamed attrs name x))).at' v =
      .instance cls (setNamed attrs name x) := World.at'_put_self hlt ha rfl
  refine ⟨.put (by simp) _ _, fun r => ?_, fun r other => ?_⟩
  · by_cases hr : r = v
    · subst hr
      rw [World.classOf?, hput, hv]
    · rw [World.classOf?, World.at'_put_of_ne hr]
      rfl
  · by_cases hr : r = v
    · subst hr
      rw [World.own?, hput, World.own?_eq ha]
      simp [named?_setNamed]
    · rw [World.own?, World.at'_put_of_ne hr]
      simp only [hr, false_and, if_false]
      rfl

end

end Stencil
