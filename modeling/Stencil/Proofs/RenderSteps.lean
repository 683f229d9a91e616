import Stencil.Proofs.Undisturbed

/-!
# Steps of a render

What the steps of a render do to assets: a view begins with a fresh bundle, takes over the bundle of a
view that it embeds before it is rendered, and gives its own bundle to the render around it at the end.
-/

namespace Stencil

open World Evaluation

section

variable {n : Nat} {w u : World} {v cls : Nat} {x : Value} {config registered collected refs more :
  References}

/-- A render begins with a fresh bundle of what is configured, then of what is registered. -/
theorem startBundle_eq_ok (hv : w.ViewHolds v config registered collected)
    (h : View.startBundle (interpreter n) (.ref v) w = .ok x u) :
    ∃ b c j : Nat, x = .ref b ∧ w.IsNewBundle u b c j (config ++ registered).distinct ∧
      u.own? v "_assets" = some (.ref b) ∧ w.Undisturbed [v] [] u ∧ u.enclosing = w.enclosing := by
  obtain ⟨⟨cls, hview, hconfig⟩, hun, ⟨rb, rc, rj, hr, hrb⟩, -⟩ := hv
  have hlt := World.lt_size_of_classOf? hview.classOf
  unfold View.startBundle at h
  -- The stage is set.
  rw [bind_eq_ok] at h
  obtain ⟨_, w₁, hstage, h⟩ := h
  have h₁ := setAttribute_undisturbed hview.classOf (.inl (by simp [assetAttributes])) hstage
  have e₁ := (setAttribute_eq_ok hview.classOf hstage).1.enclosing
  have ho₁ := (setAttribute_eq_ok hview.classOf hstage).2.2
  -- The bundle of the configuration is made.
  rw [bind_eq_ok] at h
  obtain ⟨_, w₂, hfresh, h⟩ := h
  obtain ⟨b, rfl, ⟨c, j, hb, -⟩, h₂⟩ := configuredBundle_eq_ok (h₁.isView hview).classOf
    (h₁.configured hconfig) (by rw [ho₁, if_neg (by simp), hun]) hfresh
  have h₂' := h₂.undisturbed (by simp)
  have hs₁ := h₁.size
  have hs₂ := h₂.size
  -- The registered references are added.
  rw [bind_eq_ok] at h
  obtain ⟨_, _, hreg, h⟩ := h
  have hown : w₂.own? v "_registered" = some (.ref rb) := by
    rw [h₂'.own v (by omega) _ (by simp [assetAttributes]) (by simp), ho₁, if_neg (by simp), hr]
  obtain ⟨rfl, rfl⟩ := attributeOf__registered (h₂'.isView (h₁.isView hview)) hown hreg
  rw [bind_eq_ok] at h
  obtain ⟨_, w₃, hcall, h⟩ := h
  have hrb₂ := h₂'.isBundle (h₁.isBundle hrb)
  have hrc := hrb.css.lt_size
  have hrj := hrb.js.lt_size
  have hbc := hb.newCss
  have hbj := hb.newJs
  obtain ⟨rfl, hb₃, h₃⟩ := callIn_register hb.bundle hrb₂ hb.apart (by omega) (by omega) (by omega)
    hcall
  have h₃' := h₃.undisturbed_bundle hb.bundle hb₃
  -- The bundle becomes that of the view.
  rw [bind_eq_ok] at h
  obtain ⟨_, w₄, hset, h⟩ := h
  obtain ⟨rfl, rfl⟩ := pure_eq_ok.1 h
  have hview₃ := (h₃'.isView (h₂'.isView (h₁.isView hview)))
  have h₄ := setAttribute_undisturbed hview₃.classOf (.inr rfl) hset
  have ho₄ := setAttribute_eq_ok hview₃.classOf hset
  have hw₂ : w.Undisturbed [v] [c, j] w₂ :=
    (h₁.trans (h₂'.mono (by simp) (by simp))).mono (by simp) (by simp)
  have hw₃ : w.Undisturbed [v] [] w₃ :=
    (hw₂.trans (h₃'.mono (by simp) (by simp))).forget (by omega) (by omega)
  refine ⟨b, c, j, rfl, ⟨h₄.isBundle hb₃, hb.apart, by have := hb.new; omega, by omega, by omega⟩,
    by rw [ho₄.2.2, if_pos ⟨rfl, rfl⟩], hw₃.trans h₄, ?_⟩
  rw [ho₄.1.enclosing, h₃.enclosing, h₂.enclosing, e₁]

/-- A view takes over the bundle of a view that it is about to embed. -/
theorem hook_eq_ok {c₁ c₂ b c j o c' j' : Nat} {y : Value} {child : Nat} (hv : w.IsView v c₁)
    (hb : w.own? v "_assets" = some (.ref b)) (hbundle : w.IsBundle b c j refs.distinct)
    (hx : w.IsView child c₂) (ho : w.own? child "_assets" = some (.ref o))
    (hother : w.IsBundle o c' j' more) (hne : child ≠ v)
    (hcj : c ≠ j) (hcc : c ≠ c') (hcj' : c ≠ j') (hjj : j ≠ j')
    (h : View.hook (interpreter n) (.ref v) (.ref child) w = .ok y u) :
    y = .ref child ∧ u.IsBundle b c j (refs ++ more).distinct ∧ w.ChangesOnly [c, j] u := by
  have hsame : (Value.ref child).same (.ref v) = false := by simp [Value.same, hne]
  unfold View.hook at h
  rw [bind_of_ok (isView_eq hx)] at h
  simp only [hsame, Bool.not_false, Bool.and_self, if_true] at h
  rw [bind_eq_ok] at h
  obtain ⟨_, _, ha, h⟩ := h
  obtain ⟨rfl, rfl⟩ := attributeOf__assets hv hb ha
  rw [bind_eq_ok] at h
  obtain ⟨f, _, hf, h⟩ := h
  rw [bind_eq_ok] at h
  obtain ⟨_, _, hown, h⟩ := h
  obtain ⟨rfl, rfl⟩ := attributeOf_bundle_register hbundle.parts hf
  obtain ⟨rfl, rfl⟩ := attributeOf_assets hx ho hown
  rw [bind_eq_ok] at h
  obtain ⟨z, w₁, hcall, h⟩ := h
  obtain ⟨rfl, rfl⟩ := pure_eq_ok.1 h
  have hcall' : View.callIn (interpreter n) (.ref b) "register" [.ref o] w = .ok z w₁ := by
    unfold View.callIn
    rw [bind_of_ok hf]
    exact hcall
  exact ⟨rfl, (callIn_register hbundle hother hcj hcc hcj' hjj hcall').2⟩

/-- A finished render gives its bundle to the render around it. -/
theorem giveAssets_eq_ok {b c j e c' j' : Nat} {y : Unit} (he : w.IsBundle e c j refs.distinct)
    (hb : w.IsBundle b c' j' more) (hne : b ≠ e)
    (hcj : c ≠ j) (hcc : c ≠ c') (hcj' : c ≠ j') (hjj : j ≠ j')
    (h : View.giveAssets (interpreter n) (some e) (.ref b) w = .ok y u) :
    u.IsBundle e c j (refs ++ more).distinct ∧ w.ChangesOnly [c, j] u := by
  have hsame : (Value.ref b).same (.ref e) = false := by simp [Value.same, hne]
  simp only [View.giveAssets, hsame, Bool.not_false, if_true] at h
  rw [bind_eq_ok] at h
  obtain ⟨_, w₁, hcall, h⟩ := h
  obtain ⟨-, rfl⟩ := pure_eq_ok.1 h
  exact (callIn_register he hb hcj hcc hcj' hjj hcall).2

end

/-! ## A render in parts -/

section

variable {m : Interpreter} {n : Nat} {w u : World} {self enc : Value} {out : String}

/-- A world in which renders give their assets to another bundle, or to none. -/
def World.withEnclosing (w : World) (bundle : Option Ref) : World := { w with enclosing := bundle }

theorem renderGuarded_eq_ok :
    View.renderGuarded m self enc w = .ok out u ↔ View.renderStages m self enc w = .ok out u := by
  unfold View.renderGuarded
  rw [bind_eq_ok]
  constructor
  · rintro ⟨r, w₁, hr, h⟩
    rcases attempt_eq_ok.1 hr with ⟨a, ha, rfl⟩ | ⟨e, ha, rfl⟩
    · obtain ⟨rfl, rfl⟩ := pure_eq_ok.1 h
      exact ha
    · cases e with
      | exhausted => exact absurd h throw_eq_ok
      | raised r =>
        -- An exception goes on after the view has been marked as failed.
        obtain ⟨_, w₂, -, h⟩ := bind_eq_ok.1 h
        split at h
        · obtain ⟨_, _, -, h⟩ := bind_eq_ok.1 h
          exact absurd h throw_eq_ok
        · exact absurd h throw_eq_ok
  · intro h
    exact ⟨_, _, attempt_of_ok h, rfl⟩

theorem enclosedBy_eq_ok {α : Type} {x : Action α} {a : α} {bundle : Option Ref} :
    View.enclosedBy bundle x w = .ok a u ↔
      ∃ w₁, x (w.withEnclosing bundle) = .ok a w₁ ∧ w₁.withEnclosing w.enclosing = u := by
  unfold View.enclosedBy
  simp only [bind_eq_ok, get_eq_ok, modify_eq_ok, resume_eq_ok]
  constructor
  · rintro ⟨_, _, ⟨rfl, rfl⟩, _, _, rfl, r, w₁, hr, _, _, rfl, rfl, rfl⟩
    rcases attempt_eq_ok.1 hr with ⟨b, hb, hr⟩ | ⟨e, -, hr⟩
    · cases hr
      exact ⟨w₁, hb, rfl⟩
    · cases hr
  · rintro ⟨w₁, h, rfl⟩
    exact ⟨w, w, ⟨rfl, rfl⟩, (), _, rfl, _, w₁, attempt_of_ok h, (), _, rfl, rfl, rfl⟩

/-- A render makes its bundle, goes through its stages and gives its assets away. -/
theorem render_eq_ok : View.render m self enc w = .ok out u ↔
    ∃ e w₁ x w₂ w₃ y,
      View.encodingFor m self enc w = .ok e w₁ ∧
      View.startBundle m self w₁ = .ok x w₂ ∧
      View.renderStages m self e (w₂.withEnclosing (View.reference? x)) = .ok out w₃ ∧
      View.giveAssets m w₁.enclosing x (w₃.withEnclosing w₂.enclosing) = .ok y u := by
  unfold View.render
  simp only [bind_eq_ok, get_eq_ok, pure_eq_ok, enclosedBy_eq_ok, renderGuarded_eq_ok]
  constructor
  · rintro ⟨e, w₁, he, _, _, ⟨rfl, rfl⟩, x, w₂, hx, o, _, ⟨w₃, ho, rfl⟩, y, _, hy, rfl, rfl⟩
    exact ⟨e, w₁, x, w₂, w₃, y, he, hx, ho, hy⟩
  · rintro ⟨e, w₁, x, w₂, w₃, y, he, hx, ho, hy⟩
    exact ⟨e, w₁, he, w₁, w₁, ⟨rfl, rfl⟩, x, w₂, hx, out, _, ⟨w₃, ho, rfl⟩, y, u, hy, rfl, rfl⟩

end

/-! ## Writing a view -/

section

variable {m : Interpreter} {n : Nat} {w u : World} {v r : Nat} {x y : Value} {b : Unit}

theorem apply_hook {cls : Nat} (hv : w.classOf? v = some cls)
    (h : (interpreter (n + 1)).apply (.method (.ref v) "hook") [x] w = .ok y u) :
    View.hook (interpreter n) (.ref v) x w = .ok y u := by
  obtain ⟨attrs, hv⟩ := World.classOf?_eq_some hv
  rw [apply_method] at h
  simp only [callMethod, Value.text?] at h
  rw [bind_of_ok (load_ok w v), hv] at h
  simp only [View.method, View.methodSignature] at h
  rw [bind_eq_ok] at h
  obtain ⟨args, _, ha, h⟩ := h
  obtain ⟨rfl, rfl⟩ := matched_positional rfl rfl ha
  exact h

/-- A value that is written goes through the hook first. -/
theorem emit_eq_ok {run : Run} {hook : Value} (hh : run.hook = some hook)
    (h : Run.emit m run x w = .ok b u) :
    ∃ z w₁, m.apply hook [x] w = .ok z w₁ ∧ Fragment.appendValue m run.fragment z w₁ = .ok b u := by
  unfold Run.emit Run.hooked at h
  rw [hh] at h
  exact bind_eq_ok.1 h

theorem append_eq_ok (h : Fragment.append r x w = .ok b u) :
    ∃ chunks, u = w.put r (.fragment chunks) := by
  unfold Fragment.append at h
  rw [bind_eq_ok] at h
  obtain ⟨cs, w₁, hcs, h⟩ := h
  have hw : w = w₁ := by
    unfold Fragment.chunks at hcs
    rw [bind_of_ok (load_ok w r)] at hcs
    generalize w.at' r = o at hcs
    cases o <;> exact (pure_eq_ok.1 hcs).2
  subst hw
  exact ⟨_, (store_eq_ok.1 h).symm⟩

/-- The text of a view is the output of its render. -/
theorem text_view {cls : Nat} {s : String} (hx : w.IsView v cls)
    (h : (interpreter (n + 1)).text (.ref v) w = .ok s u) :
    View.render (interpreter n) (.ref v) .none w = .ok s u := by
  obtain ⟨attrs, hv⟩ := World.classOf?_eq_some hx.classOf
  change textOf (interpreter n) (fun self => View.render (interpreter n) self .none) (.ref v) w =
    .ok s u at h
  simp only [textOf] at h
  rw [bind_of_ok (load_ok w v), hv] at h
  dsimp only at h
  rw [bind_of_ok (classAt_ok w cls), hx.kind] at h
  exact h

/-- A view is written as its text. -/
theorem appendValue_view {cls : Nat} (hx : w.IsView v cls)
    (h : Fragment.appendValue m r (.ref v) w = .ok b u) :
    ∃ s w₁, m.text (.ref v) w = .ok s w₁ ∧ Fragment.append r (.str s) w₁ = .ok b u := by
  obtain ⟨attrs, hv⟩ := World.classOf?_eq_some hx.classOf
  unfold Fragment.appendValue at h
  rw [bind_of_ok (object?_ref w v), hv] at h
  exact bind_eq_ok.1 h

end

end Stencil
