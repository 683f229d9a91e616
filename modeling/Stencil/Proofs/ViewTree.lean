import Stencil.Proofs.Inspection
import Stencil.Proofs.RenderSteps

/-!
# Trees of views

A tree of views is rendered from its root: each view embeds its children while its templates run. What
the render of a tree collects depends on the order in which the views are embedded, on whether the hook of
a view sees what it embeds, and on what the views collected before.
-/

namespace Stencil

open World Evaluation

/-- A view and the views that it embeds, in the order in which they are embedded. A view is hooked when
the hook of its parent sees it: a plain interpolation shows it there, a deferred expression does not. -/
inductive ViewTree where
  | node (view : Nat) (hooked : Bool) (children : List ViewTree)

namespace ViewTree

/-- The view at the root. -/
def view : ViewTree → Nat
  | node v _ _ => v

/-- Whether the hook of the view around sees the root. -/
def hooked : ViewTree → Bool
  | node _ h _ => h

mutual

/-- The views of a tree, each before those that it embeds. -/
def views : ViewTree → List Nat
  | node v _ ts => v :: viewsOf ts

/-- The views of several trees, one tree after another. -/
def viewsOf : List ViewTree → List Nat
  | [] => []
  | t :: ts => t.views ++ viewsOf ts

end

theorem view_mem_views (t : ViewTree) : t.view ∈ t.views := by
  cases t
  simp [view, views]

mutual

/-- The references of a tree of views, each view's own ones before those of the views that it embeds. -/
def references (own : Nat → References) : ViewTree → References
  | node v _ ts => own v ++ referencesOf own ts

/-- The references of several trees, one tree after another. -/
def referencesOf (own : Nat → References) : List ViewTree → References
  | [] => {}
  | t :: ts => t.references own ++ referencesOf own ts

end

/-- What the hook adds to the view around before the root of a tree is rendered. -/
def shown (last : Nat → References) (t : ViewTree) : References := if t.hooked then last t.view else {}

mutual

/-- What the render of a tree collects when every view still holds what it collected last. -/
def gathered (own last : Nat → References) : ViewTree → References
  | node v _ ts => own v ++ gatheredOf own last ts

/-- What the renders of several trees give to the view that embeds them. -/
def gatheredOf (own last : Nat → References) : List ViewTree → References
  | [] => {}
  | t :: ts => t.shown last ++ t.gathered own last ++ gatheredOf own last ts

end

end ViewTree

namespace ViewTree

variable {own last : Nat → References}

mutual

/-- What views collected before adds nothing when it is what they collect again. -/
theorem gathered_adds : ∀ t : ViewTree, (∀ v ∈ t.views, (last v).Adds (own v)) →
    (t.gathered own last).Adds (t.references own)
  | .node v _ ts, h => by
    rw [gathered, references]
    exact (References.Adds.refl _).append (gatheredOf_adds ts fun x hx => h x (by simp [views, hx]))

theorem gatheredOf_adds : ∀ ts : List ViewTree, (∀ v ∈ viewsOf ts, (last v).Adds (own v)) →
    (gatheredOf own last ts).Adds (referencesOf own ts)
  | [], _ => .refl _
  | t :: ts, h => by
    rw [gatheredOf, referencesOf]
    have ht := gathered_adds t fun v hv => h v (by simp [viewsOf, hv])
    have hroot := h t.view (by simp [viewsOf, t.view_mem_views])
    refine References.Adds.append ?_ (gatheredOf_adds ts fun v hv => h v (by simp [viewsOf, hv]))
    cases t with
    | node v hooked ts' =>
      cases hooked with
      | false => exact ht
      | true => exact (hroot.append ht).trans (.twice _ _)

end

mutual

theorem css_references : ∀ t : ViewTree,
    (t.references own).css = t.views.flatMap fun v => (own v).css
  | .node v _ ts => by
    rw [references, views, References.css_append, css_referencesOf ts, List.flatMap_cons]

theorem css_referencesOf : ∀ ts : List ViewTree,
    (referencesOf own ts).css = (viewsOf ts).flatMap fun v => (own v).css
  | [] => rfl
  | t :: ts => by
    rw [referencesOf, viewsOf, References.css_append, css_references t, css_referencesOf ts,
      List.flatMap_append]

end

mutual

theorem js_references : ∀ t : ViewTree,
    (t.references own).js = t.views.flatMap fun v => (own v).js
  | .node v _ ts => by
    rw [references, views, References.js_append, js_referencesOf ts, List.flatMap_cons]

theorem js_referencesOf : ∀ ts : List ViewTree,
    (referencesOf own ts).js = (viewsOf ts).flatMap fun v => (own v).js
  | [] => rfl
  | t :: ts => by
    rw [referencesOf, viewsOf, References.js_append, js_references t, js_referencesOf ts,
      List.flatMap_append]

end

end ViewTree

/-! ## Renders that embed trees -/

/-- Nothing that assets depend on has changed. -/
def World.Quiet (w u : World) : Prop := w.Undisturbed [] [] u ∧ u.enclosing = w.enclosing

/-- A view embeds another one: its templates have come to a world, the render of the other view begins in
the second one, and the third one is there when its output has been written. -/
inductive Embeds (v child level : Nat) : Bool → World → World → World → Prop
  /-- A run of a template of the view writes the value, which the hook sees first. -/
  | interpolation {run : Run} {chunks : Array Value} {z : Value} {w w₁ w₂ : World}
      (hook : run.hook = some (.method (.ref v) "hook"))
      (fragment : w.at' run.fragment = .fragment chunks)
      (seen : (interpreter (level + 1)).apply (.method (.ref v) "hook") [.ref child] w = .ok z w₁)
      (emit : Run.emit (interpreter (level + 1)) run (.ref child) w = .ok () w₂) :
      Embeds v child level true w w₁ w₂
  /-- The text of the value is taken, as for a deferred expression. -/
  | text {s : String} {w w₁ : World} (text : (interpreter (level + 1)).text (.ref child) w = .ok s w₁) :
      Embeds v child level false w w w₁

mutual

/-- A render that begins in a world embeds the views of a tree while templates run, and apart from that
nothing that assets depend on changes. -/
def ViewTree.Embedded : ViewTree → Nat → Value → World → Prop
  | .node v _ ts, n, enc, w =>
    ∀ e w₁, View.encodingFor (interpreter n) (.ref v) enc w = .ok e w₁ → w.Quiet w₁ ∧
    ∀ x w₂ out w₃, View.startBundle (interpreter n) (.ref v) w₁ = .ok x w₂ →
      View.renderStages (interpreter n) (.ref v) e (w₂.withEnclosing (View.reference? x)) =
        .ok out w₃ →
      ViewTree.EmbeddedIn v (w₂.withEnclosing (View.reference? x)) w₃ ts

/-- Between two worlds the templates of a view embed trees, one after another. -/
def ViewTree.EmbeddedIn (v : Nat) (w u : World) : List ViewTree → Prop
  | [] => w.Quiet u
  | t :: ts => ∃ level w₁ w₂ w₃, w.Quiet w₁ ∧ Embeds v t.view level t.hooked w₁ w₂ w₃ ∧
    t.Embedded level .none w₂ ∧ ViewTree.EmbeddedIn v w₃ u ts

end

/-! ## Checking that a render embeds a view -/

namespace Check

variable (n v : Nat) (w : World)

/-- The encoding of a render that is given none. -/
def encoding : Value := (w.value? (View.encodingFor (interpreter n) (.ref v) .none)).getD .none

/-- The world in which the encoding is known. -/
def opened : World := w.after (View.encodingFor (interpreter n) (.ref v) .none)

/-- The world in which the stages of a render begin. -/
def started : World :=
  ((opened n v w).after (View.startBundle (interpreter n) (.ref v))).withEnclosing
    (((opened n v w).value? (View.startBundle (interpreter n) (.ref v))).bind View.reference?)

/-- The world in which the stages of a render have ended. -/
def staged : World :=
  (started n v w).after (View.renderStages (interpreter n) (.ref v) (encoding n v w))

/-- The stages of a render up to the point at which the content template runs. -/
def contentRun (e : Value) : Action Run := do
  let pass ← alloc (.pass #[])
  let template ← View.loadContent (interpreter n) (.ref v) e
  View.transition (interpreter n) (.ref v) .contentExecuting
  match ← object? template with
  | some (.template t) => Template.startRun (interpreter n) t (.ref v) (some pass) .none []
  | _ => missingAttribute template "execute"

/-- The run of the content template. -/
def run : Run := ((started n v w).value? (contentRun n v (encoding n v w))).getD default

/-- The world in which the content template runs. -/
def writing : World := (started n v w).after (contentRun n v (encoding n v w))

/-- Whether a value is the hook of a view. -/
def isHook : Option Value → Bool
  | some (.method (.ref r) name) => r == v && name == "hook"
  | _ => false

/-- Whether an object is a fragment. -/
def isFragment : Object → Bool
  | .fragment _ => true
  | _ => false

/-- Whether the templates of a view embed nothing. -/
def leaf : Bool := w.quiet? (opened n v w) && (started n v w).quiet? (staged n v w)

/-- Whether the content template of a view does nothing but interpolate another view, which embeds
nothing itself. -/
def single (level child : Nat) : Bool :=
  let seen := (interpreter (level + 1)).apply (.method (.ref v) "hook") [.ref child]
  let emit := Run.emit (interpreter (level + 1)) (run n v w) (.ref child)
  let here := writing n v w
  w.quiet? (opened n v w) && (started n v w).quiet? here && isHook v (run n v w).hook &&
    isFragment (here.at' (run n v w).fragment) && (here.value? seen).isSome &&
    (here.value? emit).isSome && leaf level child (here.after seen) &&
    (here.after emit).quiet? (staged n v w)

variable {n v w}

theorem embedded_leaf {hooked : Bool} (h : leaf n v w = true) :
    (ViewTree.node v hooked []).Embedded n .none w := by
  obtain ⟨h₁, h₂⟩ := Bool.and_eq_true_iff.1 h
  intro e w₁ he
  obtain ⟨hev, rfl⟩ := World.of_ok he
  refine ⟨quiet_of_quiet? h₁, fun x w₂ out w₃ hx hout => ?_⟩
  obtain ⟨hxv, rfl⟩ := World.of_ok hx
  obtain ⟨-, rfl⟩ := World.of_ok hout
  have := quiet_of_quiet? h₂
  rw [started, staged, started, encoding, hev, opened, hxv] at this
  exact this

theorem eq_of_isHook {x : Option Value} (h : isHook v x = true) :
    x = some (.method (.ref v) "hook") := by
  unfold isHook at h
  split at h
  · simp only [Bool.and_eq_true, beq_iff_eq] at h
    rw [h.1, h.2]
  · cases h

theorem eq_of_isFragment {o : Object} (h : isFragment o = true) : ∃ chunks, o = .fragment chunks := by
  unfold isFragment at h
  split at h
  · exact ⟨_, rfl⟩
  · cases h

theorem embedded_single {hooked : Bool} {level child : Nat} (h : single n v w level child = true) :
    (ViewTree.node v hooked [.node child true []]).Embedded n .none w := by
  simp only [single, Bool.and_eq_true] at h
  obtain ⟨⟨⟨⟨⟨⟨⟨h₁, h₂⟩, hhook⟩, hfr⟩, hseen⟩, hemit⟩, hleaf⟩, h₃⟩ := h
  obtain ⟨z, hz⟩ := Option.isSome_iff_exists.1 hseen
  obtain ⟨y, hy⟩ := Option.isSome_iff_exists.1 hemit
  obtain ⟨chunks, hfr⟩ := eq_of_isFragment hfr
  intro e w₁ he
  obtain ⟨hev, rfl⟩ := World.of_ok he
  refine ⟨quiet_of_quiet? h₁, fun x w₂ out w₃ hx hout => ?_⟩
  obtain ⟨hxv, rfl⟩ := World.of_ok hx
  obtain ⟨-, rfl⟩ := World.of_ok hout
  have hstart : started n v w = (((w.after (View.encodingFor (interpreter n) (.ref v) .none)).after
      (View.startBundle (interpreter n) (.ref v))).withEnclosing (View.reference? x)) := by
    rw [started, opened, hxv]
    rfl
  have hend : staged n v w = (started n v w).after (View.renderStages (interpreter n) (.ref v) e) := by
    rw [staged, encoding, hev]
    rfl
  rw [hend, hstart] at h₃
  rw [hstart] at h₂
  refine ⟨level, _, _, _, quiet_of_quiet? h₂, ?_, embedded_leaf hleaf, quiet_of_quiet? h₃⟩
  exact .interpolation (eq_of_isHook hhook) hfr (World.ok_of_value? hz) (World.ok_of_value? hy)

end Check

end Stencil
