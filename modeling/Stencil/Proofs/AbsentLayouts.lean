import Stencil.Proofs.Reaching
import Stencil.Proofs.TwinTexts

/-!
# Absent layouts

A render forgives one thing only: that there is no file at the path of its layout. Then it comes to what it
would have come to if the configuration of its view used no layouts. Every other template that is missing,
and every fault in an existing layout, leaves the render as it is, and the view has failed.
-/

namespace Stencil

open World Evaluation

/-- Two computations agree when one gives a value as soon as the other one does, the same value, in worlds
that are twins. -/
structure Agree (c : Ref) {α : Type} (r r' : EStateM.Result Stop World α) : Prop where
  left : ∀ a u, r = .ok a u → ∃ u', r' = .ok a u' ∧ u.Twin c u'
  right : ∀ a u', r' = .ok a u' → ∃ u, r = .ok a u ∧ u.Twin c u'

/-- The configuration at a place uses no layouts. -/
def World.UsesNoLayout (w : World) (c : Ref) : Prop :=
  ∃ k : ViewConfig, w.at' c = .config k ∧ k.useLayout = .bool false

/-- A world in which the configuration at a place uses no layouts. -/
def World.withoutLayouts (w : World) (c : Ref) : World :=
  match w.at' c with
  | .config k => w.put c (.config { k with useLayout := .bool false })
  | _ => w

/-- Apart from the stage of a view and the log, two worlds are the same. -/
def World.SameButStage (v : Ref) (w u : World) : Prop :=
  ∀ log x, World.withOwn { u with log } v "stage" x = World.withOwn { w with log } v "stage" x

namespace View

/-- A view without a layout: there is no path of one, or the loader of the view has no file there. -/
def LacksLayout (m : Interpreter) (v : Ref) (w : World) : Prop :=
  ∃ (x : Value) (u : World) (r : Ref) (l : Loader), m.attributeOf (.ref v) "layout_path" w = .ok x u ∧
    w.Gives v "loader" (.ref r) ∧ w.at' r = .loader l ∧ ∀ path, x = .str path → l.find? w.files path = none

/-- The stages of a render come to its content template. -/
def ComesToContent (m : Interpreter) (v : Ref) (encoding : Value) (w : World) (t : Template) (u : World) :
    Prop :=
  ∃ q u₁, loadContent m (.ref v) encoding (w.push (.pass #[])) = .ok (.ref q) u₁ ∧
    transition m (.ref v) .contentExecuting u₁ = .ok () u ∧ u.at' q = .template t

/-- The stages of a render come to resolving what the content and the layout have deferred. -/
def ComesToDeferred (m : Interpreter) (v : Ref) (encoding : Value) (w : World) (fragment : Ref) (u : World) :
    Prop :=
  ∃ content u₁ u₂, runContent m (.ref v) encoding w.objects.size (w.push (.pass #[])) = .ok content u₁ ∧
    runLayout m (.ref v) encoding w.objects.size content u₁ = .ok fragment u₂ ∧
    transition m (.ref v) .deferredResolution u₂ = .ok () u

/-- What a render runs of its templates comes to the same whether or not the configuration uses layouts,
and whatever the logs are: its content, and what is deferred. -/
structure TemplatesUnread (m : Interpreter) (v c : Ref) (encoding : Value) (w : World) : Prop where
  content : ∀ t u, ComesToContent m v encoding w t u →
    Unread c (Template.execute m t (.ref v) (some w.objects.size) .none []) u
  deferred : ∀ fragment u, ComesToDeferred m v encoding w fragment u →
    Unread c (RenderPass.resolve m w.objects.size fragment) u

/-- Templates leave a view with its stage, with what its layout is looked up by, and with sets of assets
in the bundles that are there. -/
structure StaysOrdinary (m : Interpreter) (v : Ref) (encoding : Value) (w : World) (around : Option Ref) :
    Prop where
  ran : ∀ content u, runContent m (.ref v) encoding w.objects.size (w.push (.pass #[])) = .ok content u →
    u.AtStage v ∧ ∃ k, u.OrdinaryView v k
  resolved : ∀ fragment u out u', ComesToDeferred m v encoding w fragment u →
    RenderPass.resolve m w.objects.size fragment u = .ok out u' → u'.AtStage v
  ended : ∀ out u o b, renderStages m (.ref v) encoding w = .ok out u → around = some o →
    w.enclosing = some b → u.HoldsSets o ∧ u.HoldsSets b

end View

section

variable {α β : Type} {n : Nat} {c v k : Nat} {w w' u u' : World} {name : String} {x : Value} {cls : Nat}

/-! ## Agreement -/

theorem Alike.agree {r r' : EStateM.Result Stop World α} (h : Alike c r r') : Agree c r r' := by
  cases h with
  | ok a h =>
    constructor
    · rintro _ _ ⟨⟩
      exact ⟨_, rfl, h⟩
    · rintro _ _ ⟨⟩
      exact ⟨_, rfl, h⟩
  | error s h =>
    constructor
    · rintro _ _ ⟨⟩
    · rintro _ _ ⟨⟩

theorem Agree.bind {x y : Action α} {f g : α → Action β} (h : Agree c (x w) (y w'))
    (hf : ∀ a u u', x w = .ok a u → y w' = .ok a u' → u.Twin c u' → Agree c (f a u) (g a u')) :
    Agree c ((x >>= f) w) ((y >>= g) w') where
  left b v hb := by
    obtain ⟨a, u, hx, hb⟩ := bind_eq_ok.1 hb
    obtain ⟨u', hy, htwin⟩ := h.left a u hx
    rw [bind_of_ok hy]
    exact (hf a u u' hx hy htwin).left b v hb
  right b v' hb := by
    obtain ⟨a, u', hy, hb⟩ := bind_eq_ok.1 hb
    obtain ⟨u, hx, htwin⟩ := h.right a u' hy
    rw [bind_of_ok hx]
    exact (hf a u u' hx hy htwin).right b v' hb

/-- What agrees still does when exceptions of it are seen to. -/
theorem Agree.of_ok {x x' y y' : Action α} (h : Agree c (x w) (x' w'))
    (hy : ∀ a u, y w = .ok a u ↔ x w = .ok a u) (hy' : ∀ a u, y' w' = .ok a u ↔ x' w' = .ok a u) :
    Agree c (y w) (y' w') where
  left a u ha := by
    obtain ⟨u', hu', htwin⟩ := h.left a u ((hy a u).1 ha)
    exact ⟨u', (hy' a u').2 hu', htwin⟩
  right a u' ha := by
    obtain ⟨u, hu, htwin⟩ := h.right a u' ((hy' a u').1 ha)
    exact ⟨u, (hy a u).2 hu, htwin⟩

theorem Agree.enclosedBy {x y : Action α} {bundle : Option Ref} (henclosing : w'.enclosing = w.enclosing)
    (h : Agree c (x (w.withEnclosing bundle)) (y (w'.withEnclosing bundle))) :
    Agree c (View.enclosedBy bundle x w) (View.enclosedBy bundle y w') where
  left a u ha := by
    obtain ⟨u₁, hx, rfl⟩ := enclosedBy_eq_ok.1 ha
    obtain ⟨u₁', hy, htwin⟩ := h.left a u₁ hx
    refine ⟨_, enclosedBy_eq_ok.2 ⟨u₁', hy, rfl⟩, ?_⟩
    rw [henclosing]
    exact htwin.withEnclosing _
  right a u' ha := by
    obtain ⟨u₁', hy, rfl⟩ := enclosedBy_eq_ok.1 ha
    obtain ⟨u₁, hx, htwin⟩ := h.right a u₁' hy
    refine ⟨_, enclosedBy_eq_ok.2 ⟨u₁, hx, rfl⟩, ?_⟩
    rw [henclosing]
    exact htwin.withEnclosing _

/-! ## Assets in twins -/

namespace World.Twin

theorem symm (h : w.Twin c w') : w'.Twin c w := by
  obtain ⟨k, k', hk, hk', hbare⟩ := h.config
  exact ⟨h.size.symm, fun r hr => (h.same r hr).symm, ⟨k', k, hk', hk, hbare.symm⟩, h.classes.symm,
    h.files.symm, h.enclosing.symm, h.handling.symm⟩

theorem bundled (h : w.Twin c w') {refs : References} (hb : w.Bundled v name refs) :
    w'.Bundled v name refs := by
  obtain ⟨b, css, js, hown, hparts, ⟨kind, hcss⟩, ⟨kind', hjs⟩⟩ := hb
  exact ⟨b, css, js, (h.own? v name).trans hown, h.at'_eq hparts (by rintro k ⟨⟩),
    ⟨kind, h.at'_eq hcss (by rintro k ⟨⟩)⟩, ⟨kind', h.at'_eq hjs (by rintro k ⟨⟩)⟩⟩

/-- A view has the same references in its bundles in twins. -/
theorem bundled_iff (h : w.Twin c w') {refs : References} :
    w.Bundled v name refs ↔ w'.Bundled v name refs := ⟨h.bundled, h.symm.bundled⟩

end World.Twin

/-- Not using layouts makes a twin. -/
theorem World.twin_withoutLayouts {config : ViewConfig} (hc : w.at' c = .config config) :
    w.Twin c (w.withoutLayouts c) ∧ (w.withoutLayouts c).UsesNoLayout c := by
  let off : ViewConfig := { config with useLayout := .bool false }
  have hoff : w.withoutLayouts c = { w with objects := w.objects.setIfInBounds c (.config off) } := by
    have hput : w.put c (.config off) = { w with objects := w.objects.setIfInBounds c (.config off) } :=
      if_pos (by rw [hc]; rfl)
    rw [← hput, World.withoutLayouts, hc]
  have hat : (w.withoutLayouts c).at' c = .config off := by
    rw [World.withoutLayouts, hc]
    exact at'_put_self (lt_size_of_at' hc (by rintro ⟨⟩)) hc rfl
  refine ⟨⟨by simp [hoff], fun r hr => ?_, ⟨config, off, hc, hat, rfl⟩, ?_, ?_, ?_, ?_⟩, off, hat, rfl⟩
  · rw [World.withoutLayouts, hc]
    exact at'_put_of_ne hr
  all_goals rw [hoff]

/-! ## The stage does not matter -/

theorem setNamed_setNamed (attrs : List (String × Value)) (name : String) (x y : Value) :
    setNamed (setNamed attrs name x) name y = setNamed attrs name y := by
  by_cases h : attrs.any (·.1 == name) = true
  · have hany : (attrs.map fun e => if e.1 == name then (name, x) else e).any (·.1 == name) = true := by
      obtain ⟨e, he, hname⟩ := List.any_eq_true.1 h
      exact List.any_eq_true.2 ⟨_, List.mem_map_of_mem he, by simp [hname]⟩
    unfold setNamed
    rw [if_pos h, if_pos hany, if_pos h, List.map_map]
    refine List.map_congr_left fun e _ => ?_
    by_cases he : e.1 = name <;> simp [he]
  · have hany : (attrs ++ [(name, x)]).any (·.1 == name) = true := by simp
    have hkeep : (attrs.map fun e => if e.1 == name then (name, y) else e) = attrs := by
      refine (List.map_congr_left fun e he => ?_).trans (List.map_id _)
      have hne : ¬ (e.1 == name) = true := fun heq => h (List.any_eq_true.2 ⟨e, he, heq⟩)
      rw [if_neg hne, id]
    unfold setNamed
    rw [if_neg h, if_pos hany, if_neg h, List.map_append, hkeep]
    simp

namespace World

theorem put_put {r : Nat} {o p q : Object} (hr : w.at' r = o) (hp : o.shape = p.shape)
    (hq : o.shape = q.shape) :
    (w.put r p).put r q = w.put r q := by
  have hshape : ((w.put r p).at' r).shape = q.shape := by
    by_cases hlt : r < w.objects.size
    · rw [at'_put_self hlt hr hp, ← hp, hq]
    · have hle : w.objects.size ≤ r := Nat.le_of_not_lt hlt
      rw [at'_of_size_le (by rwa [size_put]), ← at'_of_size_le hle, hr, hq]
  have hfirst : w.put r p = { w with objects := w.objects.setIfInBounds r p } :=
    if_pos (by rw [hr, hp])
  have hlast : w.put r q = { w with objects := w.objects.setIfInBounds r q } :=
    if_pos (by rw [hr, hq])
  have hboth : (w.put r p).put r q =
      { w.put r p with objects := (w.put r p).objects.setIfInBounds r q } := if_pos hshape
  rw [hboth, hfirst, hlast]
  simp

theorem withOwn_withOwn (hv : w.classOf? v = some cls) (y : Value) :
    (w.withOwn v name x).withOwn v name y = w.withOwn v name y := by
  obtain ⟨attrs, hat⟩ := classOf?_eq_some hv
  rw [withOwn_eq (at'_withOwn hat), withOwn_eq hat, withOwn_eq hat, setNamed_setNamed]
  exact put_put hat rfl rfl

theorem withOwn_logs (log : Array (String × String)) :
    { w.withOwn v name x with log } = World.withOwn { w with log } v name x := by
  have hat : World.at' { w with log } v = w.at' v := rfl
  unfold World.withOwn World.put
  rw [hat]
  split
  · split <;> rfl
  · rfl

theorem files_withOwn (w : World) (v : Ref) (name : String) (x : Value) :
    (w.withOwn v name x).files = w.files := by
  unfold World.withOwn World.put
  split
  · split <;> rfl
  · rfl

namespace SameButStage

theorem refl (v : Ref) (w : World) : w.SameButStage v w := fun _ _ => rfl

theorem trans {x : World} (h : w.SameButStage v u) (h' : u.SameButStage v x) : w.SameButStage v x :=
  fun log x => (h' log x).trans (h log x)

theorem logs (v : Ref) (w : World) (log : Array (String × String)) : w.SameButStage v { w with log } :=
  fun _ _ => rfl

theorem withOwn (hv : w.classOf? v = some cls) : w.SameButStage v (w.withOwn v "stage" x) := by
  intro log y
  rw [withOwn_logs]
  exact withOwn_withOwn (w := { w with log }) hv y

end SameButStage

end World

/-! ## Rendering without a layout -/

namespace View

theorem lacksFile_eq {r : Nat} {l : Loader} {path e : String} (hr : w.at' r = .loader l) :
    lacksFile (.method (.ref r) "load") (.str path) (.str e) w =
      .ok (l.find? w.files path).isNone w := by
  refine (bind_of_ok (object?_ref w r)).trans ?_
  rw [hr]
  rfl

/-- A layout that the loader of a view does not find. -/
theorem loadLayout?_absent {r : Nat} {l : Loader} {path e : String} (hloader : w.Gives v "loader" (.ref r))
    (hr : w.at' r = .loader l) (hfind : l.find? w.files path = none) :
    loadLayout? (interpreter (n + 1)) (.ref v) (.str e) (.str path) w = .ok none w := by
  have hlacks : lacksFile (.method (.ref r) "load") (.str path) (.str e) w = .ok true w := by
    rw [lacksFile_eq hr, hfind]
    rfl
  unfold loadLayout?
  rw [bind_of_ok (read_gives (by simp [IsPlainName]) hloader), bind_of_ok (read_load hr), bind_of_ok hlacks]
  rfl

/-- Going on without a layout writes to the log. -/
theorem withoutLayout_eq (path : String) (content : Ref) : ∃ log,
    withoutLayout (interpreter (n + 1)) (.ref v) (.str path) content w = .ok content { w with log } := by
  have htext : (interpreter (n + 1)).text (.str path) w = .ok path w := rfl
  unfold withoutLayout
  rw [bind_of_ok htext, bind_of_ok (w.typeName_eq (.ref v))]
  exact ⟨_, rfl⟩

/-- Without a layout the content is all there is, and nothing but the stage and the log has changed. -/
theorem runLayout_absent {e : String} (pass content : Ref) (hv : w.OrdinaryView v k) (hs : w.AtStage v)
    (hl : LacksLayout (interpreter (n + 3)) v w) :
    ∃ u, runLayout (interpreter (n + 3)) (.ref v) (.str e) pass content w = .ok content u ∧
      w.SameButStage v u ∧ w.Advances v u ∧ u.AtStage v := by
  obtain ⟨x, u, r, l, hread, hloader, hr, hfind⟩ := hl
  obtain ⟨hu, hx⟩ := hv.layout_path_eq_ok hread
  subst hu
  have hwithout {b : Bool} (htruth : truth x u = .ok b u) (hb : b = false) :
      ∃ u', runLayout (interpreter (n + 3)) (.ref v) (.str e) pass content u = .ok content u' ∧
        u.SameButStage v u' ∧ u.Advances v u' ∧ u'.AtStage v := by
    subst hb
    exact ⟨u, (bind_of_ok hread).trans (bind_of_ok htruth), .refl v u, .refl v u, hs⟩
  cases hx with
  | none => exact hwithout rfl rfl
  | text path =>
    obtain ⟨b, htruth, -⟩ := (Value.IsName.text path).truth (c := k) (w := u)
    cases b with
    | false => exact hwithout htruth rfl
    | true =>
      obtain ⟨cls, hcls⟩ := hs.exists_classOf
      obtain ⟨log, hgoes⟩ := transition_eq (n := n + 2) hs .layoutCompiling
      generalize hw₁ : World.withOwn { u with log } v "stage" (.stage .layoutCompiling) = w₁ at hgoes
      have hadvances : u.Advances v w₁ := by
        rw [← hw₁]
        exact (World.Advances.logs u v log).trans (.withOwn hcls (by simp [progressNames]))
      have hsame : u.SameButStage v w₁ := by
        rw [← hw₁]
        exact (World.SameButStage.logs v u log).trans (.withOwn hcls)
      have hs₁ : w₁.AtStage v :=
        ((transition_steady (c := k) (n := n + 2) hs .layoutCompiling).ends _ _ hgoes).2
      have hfiles : w₁.files = u.files := by
        rw [← hw₁]
        exact World.files_withOwn _ _ _ _
      obtain ⟨hloader₁, hr₁⟩ := hadvances.gives (by simp [progressNames]) hloader hr (by rintro ⟨⟩)
        (by rintro _ _ ⟨⟩) (by rintro _ _ ⟨⟩)
      have hload := loadLayout?_absent (n := n + 2) (e := e) hloader₁ hr₁ (hfiles ▸ hfind path rfl)
      obtain ⟨log', hgoesOn⟩ := withoutLayout_eq (n := n + 2) (v := v) (w := w₁) path content
      refine ⟨_, (bind_of_ok hread).trans ((bind_of_ok htruth).trans ?_), hsame.trans (.logs v w₁ log'),
        hadvances.trans (.logs w₁ v log'), hs₁.congr rfl rfl rfl⟩
      exact (bind_of_ok hgoes).trans ((bind_of_ok (attempt_of_ok hload)).trans hgoesOn)

/-- A view is ordinary in a twin in which its configuration uses no layouts. -/
theorem ordinaryView_twin (hv : w.OrdinaryView v k) (h : w.Twin c w') (hoff : w'.UsesNoLayout c) :
    w'.OrdinaryView v k := by
  have hclass := World.classValue_congr (w := w) (u := w') h.classes
  obtain ⟨⟨cls, hcls, hcomputes⟩, hun, hoverrides, ⟨hconfig, config, hk, hordinary⟩,
    ⟨r, s, hsettings, hr, hs⟩, ⟨q, l, hloader, hq⟩⟩ := hv
  refine ⟨⟨cls, h.classOf? hcls, ?_, ?_, ?_⟩, (h.own? v _).trans hun, fun name hname => ?_,
    ⟨h.gives hconfig, ?_⟩, ⟨r, s, h.gives hsettings, h.at'_eq hr (by rintro k ⟨⟩), hs⟩,
    ⟨q, l, h.gives hloader, h.at'_eq hq (by rintro k ⟨⟩)⟩⟩
  · simpa only [hclass] using hcomputes.properties
  · simpa only [hclass] using hcomputes.directories
  · simpa only [hclass] using hcomputes.progress
  · obtain ⟨x, hx, hxname⟩ := hoverrides name hname
    exact ⟨x, h.gives hx, hxname⟩
  · by_cases hkc : k = c
    · obtain ⟨config₁, config₂, hleft, hright, hbare⟩ := h.config
      obtain ⟨config₃, hright', hfalse⟩ := hoff
      rw [← hkc, hk] at hleft
      cases hleft
      cases hright.symm.trans hright'
      refine ⟨config₂, hkc ▸ hright, fun name hname => ?_, false, hfalse⟩
      obtain ⟨x, hx, hxname⟩ := hordinary.names name hname
      refine ⟨x, ?_, hxname⟩
      rwa [ViewConfig.get?_of_bare hbare]
      rintro rfl
      simp at hname
    · exact ⟨config, (h.same k hkc).trans hk, hordinary⟩

/-- A view lacks its layout in a twin in which the configuration uses no layouts. -/
theorem lacksLayout_twin (hv : w.OrdinaryView v k) (hl : LacksLayout (interpreter (n + 3)) v w)
    (h : w.Twin c w') (hoff : w'.UsesNoLayout c) : LacksLayout (interpreter (n + 3)) v w' := by
  obtain ⟨x, u, r, l, hread, hloader, hr, hfind⟩ := hl
  have hloader' := h.gives hloader
  have hr' := h.at'_eq hr (by rintro k ⟨⟩)
  by_cases hkc : k = c
  · obtain ⟨config, hconfig, hfalse⟩ := hoff
    have hread' := (ordinaryView_twin hv h ⟨config, hconfig, hfalse⟩).layout_path_off (n := n) (hkc ▸ hconfig)
      hfalse
    exact ⟨.none, w', r, l, hread', hloader', hr', by rintro _ ⟨⟩⟩
  · have halike := (hv.layout_path (n := n) hkc).unread w' h
    rw [hread] at halike
    generalize hx : (interpreter (n + 3)).attributeOf (.ref v) "layout_path" w' = outcome at halike
    cases halike with
    | ok _ _ => exact ⟨x, _, r, l, hx, hloader', hr', by rwa [h.files]⟩

end View

theorem World.Evolves.usesNoLayout (h : w.Evolves u) (hoff : w.UsesNoLayout c) : u.UsesNoLayout c := by
  obtain ⟨k, hk, hfalse⟩ := hoff
  have hlt : c < w.objects.size := lt_size_of_at' hk (by rintro ⟨⟩)
  refine ⟨k, ?_, hfalse⟩
  rw [(h.objects c hlt).fixed (by rw [hk]; rfl), hk]

namespace View

/-- Running the content depends on what the content template depends on. -/
theorem runContent_steady {e : Value} {P : Ref → World → Prop} (hv : w.OrdinaryView v k) (hs : w.AtStage v)
    (hruns : ∀ t u, ComesToContent (interpreter (n + 3)) v e w t u →
      (w.push (.pass #[])).Advances v u ∧ u.AtStage v →
      Steady c (Template.execute (interpreter (n + 3)) t (.ref v) (some w.objects.size) .none []) u P) :
    Steady c (runContent (interpreter (n + 3)) (.ref v) e w.objects.size) (w.push (.pass #[])) P := by
  obtain ⟨cls, hcls⟩ := hs.exists_classOf
  have hpush := World.Refills.push w (.pass #[])
  have hpushed := World.Advances.of_refills hpush hcls
  have hload := (hpushed.ordinaryView hv).loadContent (n := n) (c := c) (hs.refills hpush) e
  refine hload.go fun template u hu hout => ?_
  obtain ⟨q, t, hx, hq, hadvances, hs₁⟩ := hout
  subst hx
  refine (transition_steady (n := n + 2) hs₁ .contentExecuting).go fun _ u₂ hu₂ hout => ?_
  obtain ⟨hadvances₂, hs₂⟩ := hout
  have hq₂ := hadvances₂.at'_eq ((hpushed.trans hadvances).classOf.trans hcls) hq (by rintro ⟨⟩)
    (by rintro _ _ ⟨⟩) (by rintro _ _ ⟨⟩)
  refine .next (sees_object? hq₂ (by rintro k ⟨⟩)) ?_
  exact hruns t u₂ ⟨q, u, hu, hu₂, hq₂⟩ ⟨hadvances.trans hadvances₂, hs₂⟩

/-- The stages of a render without a layout come to the same as those in a twin in which the configuration
uses no layouts. -/
theorem renderStages_alike {e : String} {around : Option Ref} (hv : w.OrdinaryView v c) (hs : w.AtStage v)
    (h : w.Twin c w') (hoff : w'.UsesNoLayout c)
    (hl : ∀ content u, runContent (interpreter (n + 3)) (.ref v) (.str e) w.objects.size
      (w.push (.pass #[])) = .ok content u → LacksLayout (interpreter (n + 3)) v u)
    (hunread : TemplatesUnread (interpreter (n + 3)) v c (.str e) w)
    (hstays : StaysOrdinary (interpreter (n + 3)) v (.str e) w around) :
    Alike c (renderStages (interpreter (n + 3)) (.ref v) (.str e) w)
      (renderStages (interpreter (n + 3)) (.ref v) (.str e) w') := by
  have halloc : alloc (.pass #[]) w = .ok w.objects.size (w.push (.pass #[])) := rfl
  have halloc' : alloc (.pass #[]) w' = .ok w.objects.size (w'.push (.pass #[])) := by
    rw [← h.size]
    rfl
  unfold renderStages
  rw [bind_of_ok halloc, bind_of_ok halloc']
  have hruns : Steady c (runContent (interpreter (n + 3)) (.ref v) (.str e) w.objects.size)
      (w.push (.pass #[])) fun _ _ => True :=
    runContent_steady hv hs fun t u ht _ => ⟨hunread.content t u ht, fun _ _ _ => trivial⟩
  refine (hruns.unread _ (h.push _)).bind fun content u u' hu hu' htwin => ?_
  obtain ⟨hsu, k, hvu⟩ := hstays.ran content u hu
  have hevolves : w'.Evolves u' :=
    (Evolving.of_ok inferInstance halloc').trans (Evolving.of_ok inferInstance hu')
  have hoff' := hevolves.usesNoLayout hoff
  -- Both go on with the content, and only the stage and the log are different then.
  obtain ⟨u₁, hlays, hsame, -, hs₁⟩ := runLayout_absent (e := e) w.objects.size content
    hvu hsu (hl content u hu)
  obtain ⟨u₁', hlays', hsame', -, hs₁'⟩ := runLayout_absent (e := e) w.objects.size content
    (ordinaryView_twin hvu htwin hoff') (htwin.atStage hsu) (lacksLayout_twin hvu (hl content u hu) htwin hoff')
  rw [bind_of_ok hlays, bind_of_ok hlays']
  obtain ⟨log, hgoes⟩ := transition_eq (n := n + 2) hs₁ .deferredResolution
  obtain ⟨log', hgoes'⟩ := transition_eq (n := n + 2) hs₁' .deferredResolution
  have hdeferred := (⟨content, u, u₁, hu, hlays, hgoes⟩ :
    ComesToDeferred (interpreter (n + 3)) v (.str e) w content _)
  rw [bind_of_ok hgoes, bind_of_ok hgoes']
  have htwin₂ : (World.withOwn { u₁ with log } v "stage" (.stage .deferredResolution)).Twin c
      (World.withOwn { u₁' with log := log' } v "stage" (.stage .deferredResolution)) := by
    obtain ⟨cls, hcls⟩ := hsu.exists_classOf
    rw [hsame, hsame']
    exact (htwin.logs log log').withOwn hcls
  refine (hunread.deferred _ _ hdeferred _ htwin₂).bind fun out u₃ u₃' hu₃ _ htwin₃ => ?_
  have hs₃ := hstays.resolved _ _ _ _ hdeferred hu₃
  refine ((transition_steady (n := n + 2) hs₃ .done).unread _ htwin₃).bind fun _ _ _ _ _ htwin₄ => ?_
  exact .ok out htwin₄

/-- What a render of an ordinary view begins with: an encoding, a bundle and a stage. -/
theorem Begins.starts {enc encoding : Value} {w₁ : World} (c : Ref)
    (hb : Begins (interpreter (n + 3)) (.ref v) enc w encoding w₁) (hv : w.OrdinaryView v k)
    (hr : w.HasRegistered v) (henc : enc.IsName) :
    ∃ (e : String) (b : Ref) (w₂ : World), encoding = .str e ∧
      Sees c (encodingFor (interpreter (n + 3)) (.ref v) enc) (.str e) w ∧
      startBundle (interpreter (n + 3)) (.ref v) w = .ok (.ref b) w₂ ∧
      w₁ = w₂.withEnclosing (reference? (.ref b)) ∧ w.Advances v w₁ ∧ w₁.AtStage v := by
  obtain ⟨w₀, bundle, w₂, hencoding, hbundle, rfl⟩ := hb.begins
  obtain ⟨e, hsees⟩ := hv.encodingFor_sees (n := n + 2) (c := c) henc
  cases hsees.here.symm.trans hencoding
  obtain ⟨b, rfl, -, hadvances, hs⟩ := (hv.startBundle (n := n + 1) (c := c) hr).ends _ _ hbundle
  exact ⟨e, b, w₂, rfl, hsees, hbundle, rfl, hadvances.trans (.withEnclosing w₂ v _), hs.congr rfl rfl rfl⟩

/-- A render without a layout agrees with one in a twin in which the configuration uses no layouts. -/
theorem render_agree {enc encoding : Value} {w₁ : World} (hv : w.OrdinaryView v c) (hr : w.HasRegistered v)
    (henc : enc.IsName) (h : w.Twin c w') (hoff : w'.UsesNoLayout c)
    (hb : Begins (interpreter (n + 3)) (.ref v) enc w encoding w₁)
    (hl : ∀ content u, runContent (interpreter (n + 3)) (.ref v) encoding w₁.objects.size
      (w₁.push (.pass #[])) = .ok content u → LacksLayout (interpreter (n + 3)) v u)
    (hunread : TemplatesUnread (interpreter (n + 3)) v c encoding w₁)
    (hstays : StaysOrdinary (interpreter (n + 3)) v encoding w₁ w.enclosing) :
    Agree c (render (interpreter (n + 3)) (.ref v) enc w) (render (interpreter (n + 3)) (.ref v) enc w') := by
  obtain ⟨e, b, w₂, rfl, hsees, hbundle, rfl, hadvances, hs⟩ := hb.starts c hv hr henc
  have hget (w : World) : (get : Action World) w = .ok w w := rfl
  unfold render
  rw [bind_of_ok hsees.here, bind_of_ok (hsees.twins w' h), bind_of_ok (hget w), bind_of_ok (hget w')]
  refine ((hv.startBundle (n := n + 1) hr).unread w' h).agree.bind fun x u u' hu hu' htwin => ?_
  cases hbundle.symm.trans hu
  have hevolves : w'.Evolves u' := Evolving.of_ok inferInstance hu'
  have hstages := renderStages_alike (hadvances.ordinaryView hv) hs
    (htwin.withEnclosing (reference? (.ref b))) (hevolves.usesNoLayout hoff) hl hunread hstays
  refine Agree.bind (Agree.enclosedBy htwin.enclosing ?_) fun out u₃ u₃' hu₃ _ htwin₃ => ?_
  · exact hstages.agree.of_ok (fun _ _ => renderGuarded_eq_ok) fun _ _ => renderGuarded_eq_ok
  · obtain ⟨w₃, hguarded, rfl⟩ := enclosedBy_eq_ok.1 hu₃
    have hgives : Steady c (giveAssets (interpreter (n + 3)) w.enclosing (.ref b))
        (w₃.withEnclosing w₂.enclosing) fun _ _ => True := by
      refine giveAssets_steady fun o ho => ?_
      exact hstays.ended out w₃ o b (renderGuarded_eq_ok.1 hguarded) ho rfl
    rw [h.enclosing]
    refine (hgives.unread _ htwin₃).agree.bind fun _ u₄ u₄' _ _ htwin₄ => ?_
    exact Alike.agree (.ok out htwin₄)

/-! ## Renders of text -/

/-- The content of a render is text, and there is no layout. -/
structure HasTextOnly (m : Interpreter) (v : Ref) (encoding : Value) (w : World) : Prop where
  content : ∀ t u, ComesToContent m v encoding w t u → ∃ texts, t.script = Script.writingStmts 1 texts
  layout : ∀ content u, runContent m (.ref v) encoding w.objects.size (w.push (.pass #[])) = .ok content u →
    LacksLayout m v u

namespace HasTextOnly

variable {e : String} {around : Option Ref}

/-- The content is written as text, and nothing is deferred. -/
theorem runs (h : HasTextOnly (interpreter (n + 4)) v (.str e) w) (hv : w.OrdinaryView v k)
    (hs : w.AtStage v) (hh : w.HooksItself v) :
    Steady c (runContent (interpreter (n + 4)) (.ref v) (.str e) w.objects.size) (w.push (.pass #[]))
      fun f u => ∃ texts : List String, u.at' f = .fragment (texts.map Value.str).toArray ∧
        u.at' w.objects.size = .pass #[] ∧ w.Advances v u ∧ u.AtStage v := by
  obtain ⟨cls, hcls⟩ := hs.exists_classOf
  have hpushed := World.Advances.of_refills (.push w (.pass #[])) hcls
  have hclsp := hpushed.classOf.trans hcls
  refine runContent_steady hv hs fun t u ht hout => ?_
  obtain ⟨hadvances, hs₁⟩ := hout
  obtain ⟨texts, htexts⟩ := h.content t u ht
  have hh₁ := (hpushed.trans hadvances).hooksItself hh
  refine (execute_text_steady hh₁ htexts w.objects.size .none).mono fun f u₁ hout => ?_
  obtain ⟨hf, hchanges⟩ := hout
  have hafter := hadvances.trans (.of_refills (.of_changesOnly hchanges) (hadvances.classOf.trans hclsp))
  refine ⟨texts, hf, ?_, hpushed.trans hafter, hs₁.refills (.of_changesOnly hchanges)⟩
  exact hafter.at'_eq hclsp (World.at'_push_size _ _) (by rintro ⟨⟩) (by rintro _ _ ⟨⟩)
    (by rintro _ _ ⟨⟩)

/-- When the deferred expressions have their turn there are none, and all that there is is text. -/
theorem deferred {fragment : Ref} (h : HasTextOnly (interpreter (n + 4)) v (.str e) w)
    (hv : w.OrdinaryView v k) (hs : w.AtStage v) (hh : w.HooksItself v)
    (hd : ComesToDeferred (interpreter (n + 4)) v (.str e) w fragment u) :
    ∃ texts : List String, u.at' fragment = .fragment (texts.map Value.str).toArray ∧
      u.at' w.objects.size = .pass #[] ∧ w.Advances v u ∧ u.AtStage v := by
  obtain ⟨content, u₁, u₂, hcontent, hlays, hgoes⟩ := hd
  obtain ⟨texts, hf, hp, hadvances, hs₁⟩ := (h.runs (c := k) hv hs hh).ends _ _ hcontent
  obtain ⟨u₂', hlays', -, hadvances', hs₂⟩ := runLayout_absent (n := n + 1) (e := e)
    w.objects.size content (hadvances.ordinaryView hv) hs₁ (h.layout content u₁ hcontent)
  cases hlays.symm.trans hlays'
  obtain ⟨hadvances₂, hs₃⟩ := (transition_steady (c := k) (n := n + 3) hs₂ .deferredResolution).ends _ _ hgoes
  have hafter := hadvances'.trans hadvances₂
  obtain ⟨cls, hcls⟩ := hs₁.exists_classOf
  refine ⟨texts, hafter.at'_eq hcls hf (by rintro ⟨⟩) (by rintro _ _ ⟨⟩) (by rintro _ _ ⟨⟩),
    hafter.at'_eq hcls hp (by rintro ⟨⟩) (by rintro _ _ ⟨⟩) (by rintro _ _ ⟨⟩), hadvances.trans hafter, hs₃⟩

/-- Text takes no notice of whether layouts are used. -/
theorem templatesUnread (h : HasTextOnly (interpreter (n + 4)) v (.str e) w) (hv : w.OrdinaryView v k)
    (hs : w.AtStage v) (hh : w.HooksItself v) : TemplatesUnread (interpreter (n + 4)) v c (.str e) w where
  content t u ht := by
    obtain ⟨texts, htexts⟩ := h.content t u ht
    obtain ⟨q, u₁, hload, hgoes, -⟩ := ht
    obtain ⟨cls, hcls⟩ := hs.exists_classOf
    have hpush := World.Refills.push w (.pass #[])
    have hpushed := World.Advances.of_refills hpush hcls
    obtain ⟨-, -, -, -, hadvances, hs₁⟩ := ((hpushed.ordinaryView hv).loadContent (n := n + 1) (c := k)
      (hs.refills hpush) (.str e)).ends _ _ hload
    obtain ⟨hadvances₂, -⟩ := (transition_steady (c := k) (n := n + 3) hs₁ .contentExecuting).ends _ _ hgoes
    have hh₁ := (hpushed.trans (hadvances.trans hadvances₂)).hooksItself hh
    exact (execute_text_steady hh₁ htexts w.objects.size .none).unread
  deferred fragment u hd := by
    obtain ⟨texts, hf, hp, -⟩ := h.deferred hv hs hh hd
    exact (resolve_text_sees hp hf).unread

/-- Text leaves a view ordinary. -/
theorem staysOrdinary (h : HasTextOnly (interpreter (n + 4)) v (.str e) w) (hv : w.OrdinaryView v k)
    (hs : w.AtStage v) (hh : w.HooksItself v)
    (hsets : ∀ o b, around = some o → w.enclosing = some b → w.HoldsSets o ∧ w.HoldsSets b) :
    StaysOrdinary (interpreter (n + 4)) v (.str e) w around where
  ran content u hcontent := by
    obtain ⟨-, -, -, hadvances, hs₁⟩ := (h.runs (c := k) hv hs hh).ends _ _ hcontent
    exact ⟨hs₁, k, hadvances.ordinaryView hv⟩
  resolved fragment u out u' hd hresolves := by
    obtain ⟨texts, hf, hp, -, hs₁⟩ := h.deferred hv hs hh hd
    have hsees := resolve_text_sees (c := k) (m := interpreter (n + 4)) hp hf
    cases hsees.here.symm.trans hresolves
    exact hs₁
  ended out u o b hstages ho hb := by
    unfold renderStages at hstages
    obtain ⟨_, _, halloc, hstages⟩ := bind_eq_ok.1 hstages
    obtain ⟨rfl, rfl⟩ := alloc_eq_ok.1 halloc
    obtain ⟨content, u₁, hcontent, hstages⟩ := bind_eq_ok.1 hstages
    obtain ⟨fragment, u₂, hlays, hstages⟩ := bind_eq_ok.1 hstages
    obtain ⟨_, u₃, hgoes, hstages⟩ := bind_eq_ok.1 hstages
    obtain ⟨texts, hf, hp, hadvances, hs₁⟩ := h.deferred hv hs hh ⟨content, u₁, u₂, hcontent, hlays, hgoes⟩
    rw [bind_of_ok (resolve_text_sees (c := k) hp hf).here] at hstages
    obtain ⟨_, u₄, hdone, hstages⟩ := bind_eq_ok.1 hstages
    obtain ⟨-, rfl⟩ := pure_eq_ok.1 hstages
    obtain ⟨hadvances', -⟩ := (transition_steady (c := k) (n := n + 3) hs₁ .done).ends _ _ hdone
    obtain ⟨cls, hcls⟩ := hs.exists_classOf
    obtain ⟨ho, hb⟩ := hsets o b ho hb
    have hall := hadvances.trans hadvances'
    exact ⟨hall.holdsSets hcls ho, hall.holdsSets hcls hb⟩

end HasTextOnly

end View

end

end Stencil
