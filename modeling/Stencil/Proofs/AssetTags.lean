import Stencil.Proofs.RenderSteps
import Stencil.Proofs.Resolution

/-!
# The tags of a view's assets

A deferred expression that names one part of the assets of the view gives the live set of that part, and
shows its tags. Nothing changes in the world when it is read.
-/

namespace Stencil

open World Evaluation Script

/-- A part of the assets of a view: its stylesheets or its scripts. -/
inductive Part where
  | css
  | js
  deriving DecidableEq, Repr

namespace Part

/-- The name under which a view exposes a part. -/
def name : Part → String
  | css => "css"
  | js => "js"

/-- The set of a part, out of those of a bundle. -/
def set : Part → Ref → Ref → Ref
  | css, c, _ => c
  | js, _, j => j

/-- The references of a part. -/
def of : Part → References → List String
  | css, refs => refs.css
  | js, refs => refs.js

theorem isPlainName (p : Part) : IsPlainName p.name := by
  cases p <;> simp [name, IsPlainName]

theorem builtin?_name (p : Part) : builtin? p.name = none := by
  cases p <;> rfl

end Part

namespace World

/-- A name of a part of the assets stands for what the view exposes: neither the names of the run nor the
view itself have anything else under it, and the exposure is the one of the built-in class. -/
structure Exposes (w : World) (v globals : Ref) (p : Part) : Prop where
  names : ∃ n : Namespace, w.at' globals = .globals n ∧ named? n.values p.name = none ∧
    n.context = some (.ref v)
  own : w.own? v p.name = none
  exposed : ∃ cls, w.classOf? v = some cls ∧ w.classValue cls p.name = some (.exposed p.name) ∧
    ∃ r reg, w.classRegistry cls = some r ∧ w.at' r = .registry reg ∧
      (reg.resolve Value.str p.name).2 = some (.member p.name)

/-- A view whose assets are in a bundle with two sets of texts. -/
structure Collects (w : World) (v b c j : Ref) (refs : References) : Prop where
  view : ∃ cls, w.IsView v cls
  own : w.own? v "_assets" = some (.ref b)
  bundle : w.IsBundle b c j refs

/-- The tags of the references in a set. -/
def SetTags (w : World) (r : Ref) (s : String) : Prop :=
  ∃ (kind : AssetKind) (refs : List String),
    w.at' r = .assets kind ⟨texts refs⟩ ∧ s = Assets.render kind refs

/-- The tags of a part of the assets of a view. -/
def Tags (w : World) (v : Ref) (p : Part) (s : String) : Prop :=
  ∃ b c j : Ref, w.own? v "_assets" = some (.ref b) ∧ w.at' b = .bundle c j ∧
    w.SetTags (p.set c j) s

theorem Collects.holds {w : World} {v b c j : Ref} {refs : References} (h : w.Collects v b c j refs)
    (p : Part) : w.Holds (p.set c j) (p.of refs) := by
  cases p with
  | css => exact h.bundle.css
  | js => exact h.bundle.js

theorem Collects.undisturbed {w u : World} {v : Nat} {b c j : Ref} {refs : References}
    (h : w.Collects v b c j refs) (hu : w.Undisturbed [] [] u) : u.Collects v b c j refs := by
  obtain ⟨⟨cls, hv⟩, hown, hb⟩ := h
  refine ⟨⟨cls, hu.isView hv⟩, ?_, hu.isBundle hb⟩
  exact (hu.own v (lt_size_of_classOf? hv.classOf) _ (by simp [assetAttributes]) (by simp)).trans hown

end World

section

variable {n : Nat} {w u : World} {v globals b c j : Nat} {p : Part} {x : Value} {refs : References}

theorem onLine_eq_ok {α : Type} {env : Env} {line : Nat} {y : Action α} {a : α}
    (h : onLine env line y w = .ok a u) : y w = .ok a u := by
  unfold onLine at h
  by_cases henv : env.frames.isEmpty = true
  case neg => simpa [henv] using h
  simp only [henv, if_true] at h
  rw [bind_eq_ok] at h
  obtain ⟨r, w₁, hr, h⟩ := h
  rcases attempt_eq_ok.1 hr with ⟨a', ha, rfl⟩ | ⟨e, -, rfl⟩
  · obtain ⟨hr, rfl⟩ := resume_eq_ok.1 h
    cases hr
    exact ha
  · cases e with
    | raised r => exact absurd h throw_eq_ok
    | exhausted => cases (resume_eq_ok.1 h).1

/-- The marks of lines around a name do not matter. -/
theorem evaluate_name {name : String} {env : Env} {e : Expr} (he : e.core = .name name)
    (h : (interpreter n).evaluate env e w = .ok x u) :
    ∃ k, readName (interpreter k) env name w = .ok x u := by
  induction n generalizing e with
  | zero => exact absurd h throw_eq_ok
  | succ n ih =>
    change evaluateExpr (interpreter n) env e w = .ok x u at h
    unfold evaluateExpr at h
    cases e with
    | «at» line e => exact ih (e := e) he (onLine_eq_ok h)
    | name other =>
      cases he
      exact ⟨n, h⟩
    | _ => cases he

theorem method_part {value : Value} (hv : w.Collects v b c j refs)
    (h : View.method (interpreter n) (.ref v) p.name { items := [value] } w = .ok x u) :
    x = .ref (p.set c j) ∧ w = u := by
  obtain ⟨cls, hview⟩ := hv.view
  unfold View.method at h
  rw [bind_eq_ok] at h
  obtain ⟨args, w₁, hargs, h⟩ := h
  obtain rfl : w = w₁ := by
    cases p <;> exact (matched_positional rfl rfl hargs).2
  have hread : ∃ y w₂, (interpreter n).attributeOf (.ref v) "_assets" w = .ok y w₂ ∧
      (interpreter n).attributeOf y p.name w₂ = .ok x u := by
    cases p <;> exact bind_eq_ok.1 h
  obtain ⟨y, w₂, hy, hx⟩ := hread
  obtain ⟨rfl, rfl⟩ := attributeOf__assets hview hv.own hy
  cases p with
  | css =>
    obtain ⟨rfl, rfl⟩ := attributeOf_bundle_css hv.bundle.parts hx
    exact ⟨rfl, rfl⟩
  | js =>
    obtain ⟨rfl, rfl⟩ := attributeOf_bundle_js hv.bundle.parts hx
    exact ⟨rfl, rfl⟩

/-- What a view exposes under the name of a part is the live set. -/
theorem attributeOf_part (he : w.Exposes v globals p) (hv : w.Collects v b c j refs)
    (h : (interpreter n).attributeOf (.ref v) p.name w = .ok x u) :
    x = .ref (p.set c j) ∧ w = u := by
  obtain ⟨cls, hcls, hvalue, r, reg, hreg, hr, hblock⟩ := he.exposed
  obtain ⟨attrs, ha⟩ := classOf?_eq_some hcls
  cases n with
  | zero => exact absurd h attributeOf_zero
  | succ n =>
    have hown := he.own
    rw [own?_eq ha] at hown
    rw [attributeOf_class ha p.isPlainName hvalue (by simp) hown, bindAttribute, exposedValue,
      bind_of_ok (registryOf?_eq w cls), hreg] at h
    have hat : registryAt r w = .ok reg w := by
      unfold registryAt
      rw [bind_of_ok (load_ok w r), hr]
      rfl
    dsimp only at h
    rw [bind_of_ok hat] at h
    generalize hres : reg.resolve Value.str p.name = res at h hblock
    obtain ⟨value, block⟩ := res
    subst hblock
    cases n with
    | zero => exact absurd h apply_zero
    | succ n => exact method_part hv h

/-- The name of a part gives the live set. -/
theorem globalName_part (he : w.Exposes v globals p) (hv : w.Collects v b c j refs)
    (h : globalName (interpreter n) globals p.name w = .ok x u) : x = .ref (p.set c j) ∧ w = u := by
  obtain ⟨names, hat, hnamed, hcontext⟩ := he.names
  have hnames : namespaceAt globals w = .ok names w := by
    unfold namespaceAt
    rw [bind_of_ok (load_ok w globals), hat]
    rfl
  unfold globalName at h
  rw [bind_of_ok hnames, hnamed, hcontext] at h
  dsimp only at h
  rw [bind_eq_ok] at h
  obtain ⟨found, w₁, hfound, h⟩ := h
  -- Only the view has something under the name.
  cases found with
  | none =>
    rw [p.builtin?_name] at h
    exact absurd h raiseText_eq_ok
  | some y =>
    obtain ⟨rfl, rfl⟩ := pure_eq_ok.1 h
    unfold contextName? at hfound
    rw [bind_eq_ok] at hfound
    obtain ⟨r, w₂, hr, hfound⟩ := hfound
    rcases attempt_eq_ok.1 hr with ⟨z, hz, rfl⟩ | ⟨e, -, rfl⟩
    · obtain ⟨hy, rfl⟩ := pure_eq_ok.1 hfound
      cases hy
      exact attributeOf_part he hv hz
    · cases e with
      | exhausted => exact absurd hfound throw_eq_ok
      | raised r =>
        obtain ⟨_, w₃, -, hfound⟩ := bind_eq_ok.1 hfound
        split at hfound
        · exact absurd (pure_eq_ok.1 hfound).1 nofun
        · obtain ⟨_, w₄, -, hfound⟩ := bind_eq_ok.1 hfound
          split at hfound
          · exact absurd (pure_eq_ok.1 hfound).1 nofun
          · exact absurd hfound throw_eq_ok

theorem texts_mapM {l texts' : List String} (h : (texts l).mapM (interpreter n).text w = .ok texts' u) :
    texts' = l ∧ w = u := by
  induction l generalizing texts' u with
  | nil =>
    obtain ⟨rfl, rfl⟩ := pure_eq_ok.1 h
    exact ⟨rfl, rfl⟩
  | cons a l ih =>
    rw [texts_cons, List.mapM_cons, bind_eq_ok] at h
    obtain ⟨s, w₁, hs, h⟩ := h
    obtain ⟨rfl, rfl⟩ : s = a ∧ w = w₁ := by
      cases n with
      | zero => exact absurd hs throw_eq_ok
      | succ n =>
        obtain ⟨rfl, rfl⟩ := pure_eq_ok.1 hs
        exact ⟨rfl, rfl⟩
    rw [bind_eq_ok] at h
    obtain ⟨rest, w₂, hrest, h⟩ := h
    obtain ⟨rfl, rfl⟩ := ih hrest
    obtain ⟨rfl, rfl⟩ := pure_eq_ok.1 h
    exact ⟨rfl, rfl⟩

/-- The text of a set is made of the tags of its references. -/
theorem text_set {r : Nat} {kind : AssetKind} {l : List String} {s : String}
    (hr : w.at' r = .assets kind ⟨texts l⟩) (h : (interpreter n).text (.ref r) w = .ok s u) :
    s = Assets.render kind l ∧ w = u := by
  cases n with
  | zero => exact absurd h throw_eq_ok
  | succ n =>
    change textOf (interpreter n) (fun self => View.render (interpreter n) self .none) (.ref r) w =
      .ok s u at h
    simp only [textOf] at h
    rw [bind_of_ok (load_ok w r), hr] at h
    dsimp only at h
    unfold AssetSet.render at h
    rw [bind_of_ok (members_eq hr)] at h
    dsimp only at h
    rw [bind_eq_ok] at h
    obtain ⟨l', w₁, hl, h⟩ := h
    obtain ⟨rfl, rfl⟩ := texts_mapM hl
    obtain ⟨rfl, rfl⟩ := pure_eq_ok.1 h
    exact ⟨rfl, rfl⟩

/-- A deferred expression that names a part of the assets of the view shows its tags as they are at its
turn. Only the expression changes. -/
theorem evaluate_part {r : Nat} {e : Binding} (hr : w.at' r = .binding e) (hp : e.resolved = false)
    (hcode : e.code.core = .name p.name) (he : w.Exposes v e.globals p)
    (hv : w.Collects v b c j refs) (h : Binding.evaluate (interpreter n) r w = .ok x u) :
    ∃ s, w.SetTags (p.set c j) s ∧
      u = w.put r (.binding { e with value := some s, resolved := true }) := by
  obtain ⟨y, w₁, s, w₂, hy, hs, rfl⟩ := Binding.evaluate_eq_ok hr hp h
  obtain ⟨k, hname⟩ := evaluate_name hcode hy
  obtain ⟨rfl, rfl⟩ := globalName_part he hv (show globalName _ _ _ w = _ from hname)
  obtain ⟨kind, hset⟩ := hv.holds p
  obtain ⟨rfl, rfl⟩ := text_set hset hs
  exact ⟨_, ⟨kind, p.of refs, hset, rfl⟩, rfl⟩

/-- What a deferred expression takes as its value disturbs no assets. -/
theorem World.undisturbed_put_binding {r : Nat} {e e' : Binding} (hr : w.at' r = .binding e) :
    w.Undisturbed [] [] (w.put r (.binding e')) := by
  refine .put ?_ ?_ rfl (by simp)
  · rw [hr]
    rfl
  · rw [classOf?, hr]

end

end Stencil
