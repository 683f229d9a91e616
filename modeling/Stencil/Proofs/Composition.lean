import Stencil.Proofs.ViewTree

/-!
# How renders compose assets

The references of a child that a template interpolates come to its parent twice: when the hook sees the
child, and when the child's render has ended. A first render of a tree collects the references of its
views in the order in which they are embedded. Later renders collect the same when what the hook sees of
each view, which is what that view collected last, adds nothing.
-/

namespace Stencil

open World Evaluation

/-- A view that is rendering: renders give their assets to its bundle. -/
structure World.Collecting (w : World) (v b c j : Nat) (refs : References) : Prop where
  view : ∃ cls, w.IsView v cls
  own : w.own? v "_assets" = some (.ref b)
  bundle : w.IsBundle b c j refs.distinct
  apart : c ≠ j
  enclosing : w.enclosing = some b

namespace World

variable {w u x : World} {v b c j : Nat} {refs more : References}

theorem Collecting.quiet (h : w.Collecting v b c j refs) (hq : w.Quiet u) :
    u.Collecting v b c j refs := by
  obtain ⟨⟨cls, hv⟩, hown, hb, hcj, he⟩ := h
  refine ⟨⟨cls, hq.1.isView hv⟩, ?_, hq.1.isBundle hb, hcj, hq.2.trans he⟩
  exact (hq.1.own v (lt_size_of_classOf? hv.classOf) _ (by simp [assetAttributes]) (by simp)).trans hown

/-- The bundle of a view that is rendering may grow. -/
theorem Collecting.grow {views : List Ref} (h : w.Collecting v b c j refs)
    (hu : w.Undisturbed views [c, j] u) (hv : v ∉ views) (hb : u.IsBundle b c j more.distinct)
    (he : u.enclosing = w.enclosing) : u.Collecting v b c j more := by
  obtain ⟨⟨cls, hview⟩, hown, -, hcj, he'⟩ := h
  refine ⟨⟨cls, hu.isView hview⟩, ?_, hb, hcj, he.trans he'⟩
  exact (hu.own v (lt_size_of_classOf? hview.classOf) _ (by simp [assetAttributes]) (.inl hv)).trans hown

/-- A view that is rendering takes over what a view that it embeds has collected before. -/
theorem Collecting.hook {n : Nat} {z : Value} {child cls o c' j' : Nat} (h : w.Collecting v b c j refs)
    (hx : w.IsView child cls) (ho : w.own? child "_assets" = some (.ref o))
    (hother : w.IsBundle o c' j' more) (hne : child ≠ v) (hcc : c ≠ c') (hcj : c ≠ j') (hjj : j ≠ j')
    (hz : (interpreter (n + 1)).apply (.method (.ref v) "hook") [.ref child] w = .ok z u) :
    z = .ref child ∧ u.Collecting v b c j (refs ++ more) ∧ w.ChangesOnly [c, j] u ∧
      w.Undisturbed [] [c, j] u := by
  obtain ⟨cls', hv⟩ := h.view
  obtain ⟨rfl, hb, hf⟩ := hook_eq_ok hv h.own h.bundle hx ho hother hne h.apart hcc hcj hjj
    (apply_hook hv.classOf hz)
  have hu := hf.undisturbed_bundle h.bundle hb
  exact ⟨rfl, h.grow hu (by simp) hb hf.enclosing, hf, hu⟩

/-- A fragment that is still one after a render takes the output and disturbs nothing. -/
theorem Undisturbed.append {views : List Ref} {r : Nat} {chunks : Array Value} {s : Value} {y : Unit}
    (h : w.Undisturbed views [c, j] u) (hr : w.at' r = .fragment chunks) (hc : r ≠ c) (hj : r ≠ j)
    (ha : Fragment.append r s u = .ok y x) : u.Undisturbed [] [] x ∧ x.enclosing = u.enclosing := by
  have hlt : r < w.objects.size := by
    refine Nat.lt_of_not_le fun hle => ?_
    rw [at'_of_size_le hle] at hr
    cases hr
  have hasset : (u.at' r).isAsset = false := Bool.eq_false_iff.2 fun hu => by
    rw [h.assets r hlt (by simp [hc, hj]) (.inr hu), hr] at hu
    cases hu
  have hclass : u.classOf? r = none := by
    rw [h.classOf r hlt, classOf?, hr]
  obtain ⟨more, rfl⟩ := append_eq_ok ha
  exact ⟨.put hasset hclass rfl (by simp), enclosing_put _ _ _⟩

end World

/-- The hook, if it sees the child, adds what the child collected last. Then the child is rendered, and
writing its output disturbs nothing. -/
theorem Embeds.collects {v child level b c j o c' j' cls : Nat} {hooked : Bool} {refs more : References}
    {w w₁ w₂ : World} (h : Embeds v child level hooked w w₁ w₂) (hw : w.Collecting v b c j refs)
    (hx : w.IsView child cls) (ho : w.own? child "_assets" = some (.ref o))
    (hother : w.IsBundle o c' j' more) (hne : child ≠ v) (hcc : c ≠ c') (hcj : c ≠ j') (hjj : j ≠ j') :
    w₁.Collecting v b c j (refs ++ if hooked then more else {}) ∧ w.Undisturbed [] [c, j] w₁ ∧
      ∃ s x, View.render (interpreter level) (.ref child) .none w₁ = .ok s x ∧
        ∀ views, w₁.Undisturbed views [c, j] x → x.Quiet w₂ := by
  cases h with
  | text ht =>
    rw [if_neg (by simp), References.append_empty]
    exact ⟨hw, .refl _ _ _, _, _, text_view hx ht, fun _ _ => ⟨.refl _ _ _, rfl⟩⟩
  | @interpolation run chunks z _ _ _ hhook hfr hz hemit =>
    rw [if_pos rfl]
    obtain ⟨rfl, hw₁, hf, hu⟩ := hw.hook hx ho hother hne hcc hcj hjj hz
    obtain ⟨_, _, hz', happ⟩ := emit_eq_ok hhook hemit
    cases hz.symm.trans hz'
    obtain ⟨s, x, hs, happend⟩ := appendValue_view (hu.isView hx) happ
    refine ⟨hw₁, hu, s, x, text_view (hu.isView hx) hs, fun views hx => ?_⟩
    -- The fragment of the run is none of the two sets.
    have hfc : run.fragment ≠ c := fun h => by
      have := hw.bundle.css.isAsset
      rw [← h, hfr] at this
      cases this
    have hfj : run.fragment ≠ j := fun h => by
      have := hw.bundle.js.isAsset
      rw [← h, hfr] at this
      cases this
    have hlt : (run.fragment : Nat) < w.objects.size := by
      refine Nat.lt_of_not_le fun hle => ?_
      rw [World.at'_of_size_le hle] at hfr
      cases hfr
    exact hx.append ((hf.same run.fragment hlt (by simp [hfc, hfj])).trans hfr) hfc hfj happend

namespace ViewTree

/-- A world in which no render is going on, or one that collects references in two sets. -/
def OpenWorld (w : World) : Prop :=
  ∀ e, w.enclosing = some e →
    ∃ (c j : Nat) (refs : References), w.IsBundle e c j refs.distinct ∧ c ≠ j

/-- What is known of the world after the render of a tree: the bundle of the root, and the bundle of the
render around it, which has taken it over. -/
structure Rendered (t : ViewTree) (collected : References) (w u : World) : Prop where
  own : ∃ b c j : Nat, u.own? t.view "_assets" = some (.ref b) ∧ w.IsNewBundle u b c j collected.distinct
  enclosing : u.enclosing = w.enclosing
  alone : w.enclosing = none → w.Undisturbed t.views [] u
  around : ∀ e c j refs, w.enclosing = some e → w.IsBundle e c j (References.distinct refs) → c ≠ j →
    u.IsBundle e c j (refs ++ collected).distinct ∧ w.Undisturbed t.views [c, j] u

/-- The end of a render: the bundle that the stages have filled goes to the render around it. -/
theorem Rendered.ofStages {t : ViewTree} {n b c j : Nat} {refs : References} {w w₃ u : World} {y : Unit}
    (hw : w₃.Collecting t.view b c j refs) (hu : w.Undisturbed t.views [] w₃)
    (hb : w.objects.size ≤ b) (hc : w.objects.size ≤ c) (hj : w.objects.size ≤ j) (hopen : OpenWorld w)
    (hg : View.giveAssets (interpreter n) w.enclosing (.ref b) (w₃.withEnclosing w.enclosing) = .ok y u) :
    t.Rendered refs w u := by
  have hu' := hu.enclosing_right (e := w.enclosing)
  have hbundle : (w₃.withEnclosing w.enclosing).IsBundle b c j refs.distinct := hw.bundle.congr rfl rfl rfl
  cases he : w.enclosing with
  | none =>
    rw [he] at hg hbundle
    obtain ⟨-, rfl⟩ := pure_eq_ok.1 hg
    exact ⟨⟨b, c, j, hw.own, hbundle, hw.apart, hb, hc, hj⟩, he.symm, fun _ => by rwa [he] at hu',
      fun e _ _ _ h => by simp [he] at h⟩
  | some e =>
    rw [he] at hg hbundle hu'
    -- The bundle is added to that of the render around.
    have key (c' j' : Nat) (more : References) (hm : w.IsBundle e c' j' more.distinct) (hne : c' ≠ j') :
        u.IsBundle e c' j' (more ++ refs).distinct ∧
          (w₃.withEnclosing (some e)).Undisturbed [] [c', j'] u ∧ u.enclosing = some e ∧
          u.IsBundle b c j refs.distinct := by
      have hm' := hu'.isBundle hm
      have h₁ := hm.css.lt_size
      have h₂ := hm.js.lt_size
      have h₃ := hm.lt_size
      obtain ⟨hm₁, hf⟩ := giveAssets_eq_ok hm' hbundle (by omega) hne (by omega) (by omega) (by omega) hg
      rw [References.distinct_append_distinct] at hm₁
      refine ⟨hm₁, hf.undisturbed_bundle hm' hm₁, hf.enclosing, hbundle.congr ?_ ?_ ?_⟩
      · exact hf.same b hbundle.lt_size (by simp; omega)
      · exact hf.same c hbundle.css.lt_size (by simp; omega)
      · exact hf.same j hbundle.js.lt_size (by simp; omega)
    obtain ⟨c₀, j₀, more, hm, hne⟩ := hopen e he
    obtain ⟨-, hf, hue, hub⟩ := key c₀ j₀ more hm hne
    obtain ⟨cls, hview⟩ := hw.view
    have hlt : t.view < w₃.objects.size := World.lt_size_of_classOf? hview.classOf
    refine ⟨⟨b, c, j, ?_, hub, hw.apart, hb, hc, hj⟩, hue.trans he.symm, fun h => by simp [he] at h, ?_⟩
    · exact (hf.own t.view hlt _ (by simp [assetAttributes]) (by simp)).trans hw.own
    · intro e' c' j' more' he' hm' hne'
      obtain rfl := Option.some.inj (he.symm.trans he')
      obtain ⟨hm₁, hf', -, -⟩ := key c' j' more' hm' hne'
      exact ⟨hm₁, (hu'.mono (by simp) (by simp)).trans (hf'.mono (by simp) (by simp))⟩

variable {config registered last : Nat → References}

mutual

/-- The render of a tree of views collects the references of the views in it. -/
theorem Embedded.rendered : ∀ (t : ViewTree) {n : Nat} {enc : Value} {out : String} {w u : World},
    t.Embedded n enc w → t.views.Nodup →
    (∀ v ∈ t.views, w.ViewHolds v (config v) (registered v) (last v)) → OpenWorld w →
    View.render (interpreter n) (.ref t.view) enc w = .ok out u →
    t.Rendered (t.gathered (fun v => config v ++ registered v) last) w u
  | .node v _ ts, n, enc, out, w, u, ht, hd, hv, hopen, h => by
    obtain ⟨e, w₁, x, w₂, w₃, y, he, hs, hst, hg⟩ := render_eq_ok.1 h
    obtain ⟨hq, hsub⟩ := ht e w₁ he
    replace hsub := hsub x w₂ out w₃ hs hst
    rw [views] at hd hv
    obtain ⟨hvt, hd⟩ := List.nodup_cons.1 hd
    -- A fresh bundle begins with the view's own references.
    have hv₁ := hq.1.viewHolds (hv v List.mem_cons_self) (by simp)
    obtain ⟨b, c, j, rfl, hb, hown, hu, henc⟩ := startBundle_eq_ok hv₁ hs
    have hview₁ : ∃ cls, w₁.IsView v cls := hv₁.view.imp fun _ h => h.1
    have hu' := hu.enclosing_right (e := some b)
    have hcoll : (w₂.withEnclosing (some b)).Collecting v b c j (config v ++ registered v) :=
      ⟨hview₁.imp fun _ h => hu'.isView h, hown, hb.bundle.congr rfl rfl rfl, hb.apart, rfl⟩
    -- The stages add what the children give.
    obtain ⟨hw₃, hu₃⟩ := EmbeddedIn.collects ts hsub hcoll hu' hb.newCss hb.newJs hvt hd
      fun x hx => ⟨fun h => hvt (List.mem_singleton.1 h ▸ hx),
        hq.1.viewHolds (hv x (List.mem_cons_of_mem _ hx)) (by simp)⟩
    have hfloor := hq.1.size
    have hdone : w.Undisturbed (v :: viewsOf ts) [] w₃ :=
      (((hq.1.mono (by simp) (by simp)).trans (hu'.mono (by simp) (by simp))).trans
        (hu₃.mono (fun _ => List.mem_cons_of_mem _) (by simp))).forget
          (Nat.le_trans hfloor hb.newCss) (Nat.le_trans hfloor hb.newJs)
    rw [henc, hq.2] at hg
    exact Rendered.ofStages hw₃ hdone (Nat.le_trans hfloor hb.new) (Nat.le_trans hfloor hb.newCss)
      (Nat.le_trans hfloor hb.newJs) hopen hg

/-- While the templates of a view embed trees, the view collects their references. -/
theorem EmbeddedIn.collects : ∀ (ts : List ViewTree) {v b c j : Nat} {refs : References}
    {past : List Ref} {w₀ w u : World}, EmbeddedIn v w u ts → w.Collecting v b c j refs →
    w₀.Undisturbed past [] w → w₀.objects.size ≤ c → w₀.objects.size ≤ j → v ∉ viewsOf ts →
    (viewsOf ts).Nodup →
    (∀ x ∈ viewsOf ts, x ∉ past ∧ w₀.ViewHolds x (config x) (registered x) (last x)) →
    u.Collecting v b c j (refs ++ gatheredOf (fun v => config v ++ registered v) last ts) ∧
      w.Undisturbed (viewsOf ts) [c, j] u
  | [], v, b, c, j, refs, past, w₀, w, u, ht, hw, _, _, _, _, _, _ => by
    rw [gatheredOf, References.append_empty]
    exact ⟨hw.quiet ht, ht.1.mono (by simp) (by simp)⟩
  | t :: ts, v, b, c, j, refs, past, w₀, w, u, ht, hw, hpast, hc, hj, hvt, hd, hx => by
    obtain ⟨level, w₁, w₂, w₃, hq, hi, hsub, hrest⟩ := ht
    rw [viewsOf] at hvt hd hx ⊢
    rw [List.mem_append, not_or] at hvt
    obtain ⟨hd₁, hd₂, hdisj⟩ := List.nodup_append.1 hd
    have hroot := t.view_mem_views
    have hne : t.view ≠ v := fun h => hvt.1 (h ▸ hroot)
    obtain ⟨hfresh, hchild⟩ := hx t.view (List.mem_append_left _ hroot)
    -- Up to the child nothing has changed.
    have hw₁ := hw.quiet hq
    have hpast₁ : w₀.Undisturbed past [] w₁ := hpast.trans (hq.1.mono (by simp) (by simp))
    obtain ⟨⟨cls, hview, -⟩, -, -, -⟩ := hpast₁.viewHolds hchild hfresh
    obtain ⟨o, c', j', hc', hj', ho, hother⟩ := hpast₁.collected hchild hfresh
    -- The hook adds what the child collected last.
    obtain ⟨hw₂, hu₂, s, x, hrender, hwrite⟩ :=
      hi.collects hw₁ hview ho hother hne (by omega) (by omega) (by omega)
    have hpast₂ : w₀.Undisturbed past [] w₂ :=
      ((hpast₁.mono (by simp) (by simp)).trans (hu₂.mono (by simp) (by simp))).forget hc hj
    -- The render of the child adds what it collects.
    have hr := Embedded.rendered t hsub hd₁
      (fun y hy => hpast₂.viewHolds (hx y (List.mem_append_left _ hy)).2
        (hx y (List.mem_append_left _ hy)).1)
      (fun e he => by
        obtain rfl := Option.some.inj (hw₂.enclosing.symm.trans he)
        exact ⟨c, j, _, hw₂.bundle, hw₂.apart⟩) hrender
    obtain ⟨hb₃, hu₃⟩ := hr.around b c j _ hw₂.enclosing hw₂.bundle hw₂.apart
    have hwritten := hwrite _ hu₃
    have hw₃ := (hw₂.grow hu₃ hvt.1 hb₃ hr.enclosing).quiet hwritten
    have hu₃' : w₂.Undisturbed t.views [c, j] w₃ := hu₃.trans (hwritten.1.mono (by simp) (by simp))
    have hpast₃ : w₀.Undisturbed (past ++ t.views) [] w₃ :=
      ((hpast₂.mono (fun _ => List.mem_append_left _) (by simp)).trans
        (hu₃'.mono (fun _ => List.mem_append_right _) (by simp))).forget hc hj
    -- The other trees follow.
    obtain ⟨hw₄, hu₄⟩ := EmbeddedIn.collects ts hrest hw₃ hpast₃ hc hj hvt.2 hd₂ fun y hy => by
      have := hx y (List.mem_append_right _ hy)
      refine ⟨?_, this.2⟩
      rw [List.mem_append, not_or]
      exact ⟨this.1, fun h => hdisj y h y hy rfl⟩
    refine ⟨?_, ?_⟩
    · rw [gatheredOf, shown, ← References.append_assoc, ← References.append_assoc]
      exact hw₄
    · have hu₁₂ : w.Undisturbed (t.views ++ viewsOf ts) [c, j] w₂ :=
        (hq.1.mono (by simp) (by simp)).trans (hu₂.mono (by simp) (by simp))
      exact (hu₁₂.trans (hu₃'.mono (fun _ => List.mem_append_left _) (by simp))).trans
        (hu₄.mono (fun _ => List.mem_append_right _) (by simp))

end

/-- The bundle at the root of a tree after its render. -/
theorem Embedded.bundled {t : ViewTree} {n : Nat} {enc : Value} {out : String} {w u : World}
    (hd : t.views.Nodup) (hv : ∀ v ∈ t.views, w.ViewHolds v (config v) (registered v) (last v))
    (hw : OpenWorld w) (ht : t.Embedded n enc w)
    (h : View.render (interpreter n) (.ref t.view) enc w = .ok out u) :
    u.Bundled t.view "_assets" (t.gathered (fun v => config v ++ registered v) last).distinct := by
  obtain ⟨b, c, j, hb, hbundle⟩ := (Embedded.rendered t ht hd hv hw h).own
  exact ⟨b, c, j, hb, hbundle.bundle⟩

/-- The first render of a tree of views collects, each once and where it first occurs, the references of
every view of the tree in the order in which the views are embedded: what the configuration of its type
lists, then what is registered on it. -/
theorem first_render_collects_preorder {t : ViewTree} {n : Nat} {enc : Value} {out : String}
    {w u : World} (hd : t.views.Nodup)
    (hv : ∀ v ∈ t.views, w.ViewHolds v (config v) (registered v) (config v ++ registered v).distinct)
    (hw : w.enclosing = none) (ht : t.Embedded n enc w)
    (h : View.render (interpreter n) (.ref t.view) enc w = .ok out u) :
    u.Bundled t.view "_assets"
      ⟨(t.views.flatMap fun v => (config v).css ++ (registered v).css).eraseDups,
        (t.views.flatMap fun v => (config v).js ++ (registered v).js).eraseDups⟩ := by
  have hopen : OpenWorld w := fun e he => by simp [hw] at he
  have hb := Embedded.bundled hd hv hopen ht h
  have hadds : (t.gathered (fun v => config v ++ registered v)
      fun v => (config v ++ registered v).distinct).Adds
        (t.references fun v => config v ++ registered v) := gathered_adds t fun v _ => .distinct _
  rw [hadds.distinct_eq, References.distinct, css_references, js_references,
    OrderedSet.toList_ofList, OrderedSet.toList_ofList] at hb
  exact hb

end ViewTree

/-! ## A page that embeds a card -/

/-- Templates by name. -/
def sourceFiles (sources : List (String × String)) : Files :=
  { files := sources.map fun s =>
      ⟨["templates", s.1 ++ ".html.tpl"], s.2.toList.map fun c => c.toNat.toUInt8⟩ }

/-- A class of views with a template and stylesheets. -/
def defineView (name template : String) (css : List String) : Action Nat :=
  ContextClass.define machine name ContextClass.view [] []
    [("template", .str template), ("css", .tuple (texts css))]

/-- A page that holds a card, which holds something else. -/
def openPage (source : String) (inner : Value) : Action Value := do
  ContextClass.setUp
  modify fun w =>
    { w with files := sourceFiles [("page", source), ("card", "<%= kid %>"), ("note", "note")] }
  let page ← defineView "Page" "page" ["base.css", "page.css"]
  let card ← defineView "Card" "card" ["card.css", "base.css"]
  let c ← View.create machine card { named := [("kid", inner)] }
  let _ ← View.create machine page { named := [("kid", c)] }
  return c

/-- A page and a card that have not been rendered. -/
def freshPage : World := World.after (openPage "<%= kid %>" (.str "text")) {}

/-- The page at its place and the card that it embeds. -/
def pageTree : ViewTree := .node 21 true [.node 11 true []]

/-- The references of the two classes, by the places of the views. -/
def pageConfig (v : Nat) : References :=
  if v = 21 then ⟨["base.css", "page.css"], []⟩ else ⟨["card.css", "base.css"], []⟩

theorem freshPage_holds : ∀ v ∈ pageTree.views, freshPage.ViewHolds v (pageConfig v) {}
    (pageConfig v ++ {}).distinct := by
  have h : freshPage.viewHolds? 21 = some (pageConfig 21, {}, (pageConfig 21 ++ {}).distinct) ∧
      freshPage.viewHolds? 11 = some (pageConfig 11, {}, (pageConfig 11 ++ {}).distinct) := by
    decide +kernel
  intro v hv
  have hv' : v = 21 ∨ v = 11 := by simpa [pageTree, ViewTree.views, ViewTree.viewsOf] using hv
  rcases hv' with rfl | rfl
  · exact viewHolds?_eq_some h.1
  · exact viewHolds?_eq_some h.2

theorem freshPage_checks : Check.single 6000 21 freshPage 100 11 = true ∧
    freshPage.enclosing = none ∧
    (freshPage.value? (View.render (interpreter 6000) (.ref 21) .none)).isSome = true := by
  decide +kernel

/-- The first render of the page collects the references of the page, then those of the card. -/
theorem freshPage_collects : ∃ out u,
    View.render (interpreter 6000) (.ref 21) .none freshPage = .ok out u ∧
      u.Bundled 21 "_assets" ⟨["base.css", "page.css", "card.css"], []⟩ := by
  obtain ⟨hsingle, hroot, hout⟩ := freshPage_checks
  obtain ⟨out, hout⟩ := Option.isSome_iff_exists.1 hout
  have h := World.ok_of_value? hout
  refine ⟨out, _, h, ?_⟩
  exact ViewTree.first_render_collects_preorder (t := pageTree) (by decide) freshPage_holds hroot
    (Check.embedded_single hsingle) h

/-- A page whose template changes a set of assets itself before it embeds the card. -/
def changingPage : World :=
  World.after (openPage "<% assets.css.add('late.css') %><%= kid %>" (.str "text")) {}

/-- What a template adds to a set itself is collected too, although nothing is registered by it. -/
theorem changed_set_is_collected :
    changingPage.viewHolds? 21 = some (pageConfig 21, {}, (pageConfig 21 ++ {}).distinct) ∧
      changingPage.viewHolds? 11 = some (pageConfig 11, {}, (pageConfig 11 ++ {}).distinct) ∧
      changingPage.value? (View.render machine (.ref 21) .none) = some "text" ∧
      (changingPage.after (View.render machine (.ref 21) .none)).bundled? 21 "_assets" ≠
        some ⟨(pageTree.views.flatMap fun v => (pageConfig v).css).eraseDups, []⟩ := by
  decide +kernel

/-! ## Later renders -/

namespace ViewTree

variable {config registered last : Nat → References}

/-- Rendering a tree again gives the assets that a tree of new views would have collected exactly if what
the views collected when they were rendered last adds nothing to them. -/
theorem render_eq_fresh_iff {t t' : ViewTree} {n n' : Nat} {enc enc' : Value} {out out' : String}
    {w u w' u' : World} {config' registered' : Nat → References} {refs refs' : References}
    -- The views have been rendered before, in any way.
    (hd : t.views.Nodup) (hv : ∀ v ∈ t.views, w.ViewHolds v (config v) (registered v) (last v))
    (hw : w.enclosing = none) (ht : t.Embedded n enc w)
    (h : View.render (interpreter n) (.ref t.view) enc w = .ok out u)
    -- The other ones have not, and have the same references of their own.
    (hd' : t'.views.Nodup)
    (hv' : ∀ v ∈ t'.views,
      w'.ViewHolds v (config' v) (registered' v) (config' v ++ registered' v).distinct)
    (hw' : w'.enclosing = none) (ht' : t'.Embedded n' enc' w')
    (h' : View.render (interpreter n') (.ref t'.view) enc' w' = .ok out' u')
    (hsame : t'.references (fun v => config' v ++ registered' v) =
      t.references fun v => config v ++ registered v)
    -- What the two renders have collected.
    (hr : u.Bundled t.view "_assets" refs) (hr' : u'.Bundled t'.view "_assets" refs') :
    refs = refs' ↔ (t.gathered (fun v => config v ++ registered v) last).distinct =
      (t.references fun v => config v ++ registered v).distinct := by
  have hb := Embedded.bundled hd hv (fun e he => by simp [hw] at he) ht h
  have hb' := Embedded.bundled hd' hv' (fun e he => by simp [hw'] at he) ht' h'
  rw [(gathered_adds t' fun v _ => .distinct _).distinct_eq, hsame] at hb'
  rw [hr.unique hb, hr'.unique hb']

end ViewTree

/-- The page after the card was rendered once with a note in it. -/
def usedPage : World := World.after (do
  let c ← openPage "<%= kid %>" (.str "text")
  let note ← View.create machine (← defineView "Note" "note" ["note.css"]) {}
  setAttribute c "kid" note
  let _ ← View.render machine c .none
  setAttribute c "kid" (.str "text")) {}

/-- What the two views of the page collected last. -/
def usedLast (v : Nat) : References :=
  if v = 21 then ⟨["base.css", "page.css"], []⟩ else ⟨["card.css", "base.css", "note.css"], []⟩

theorem usedPage_holds : ∀ v ∈ pageTree.views,
    usedPage.ViewHolds v (pageConfig v) {} (usedLast v) := by
  have h : usedPage.viewHolds? 21 = some (pageConfig 21, {}, usedLast 21) ∧
      usedPage.viewHolds? 11 = some (pageConfig 11, {}, usedLast 11) := by
    decide +kernel
  intro v hv
  have hv' : v = 21 ∨ v = 11 := by simpa [pageTree, ViewTree.views, ViewTree.viewsOf] using hv
  rcases hv' with rfl | rfl
  · exact viewHolds?_eq_some h.1
  · exact viewHolds?_eq_some h.2

theorem usedPage_checks : Check.single 6000 21 usedPage 100 11 = true ∧
    usedPage.enclosing = none ∧
    (usedPage.value? (View.render (interpreter 6000) (.ref 21) .none)).isSome = true := by
  decide +kernel

/-- The render of the used page collects the note, which is embedded no more. -/
theorem usedPage_collects_note : ∃ out u out' u' refs refs',
    View.render (interpreter 6000) (.ref 21) .none usedPage = .ok out u ∧
      View.render (interpreter 6000) (.ref 21) .none freshPage = .ok out' u' ∧
      u.Bundled 21 "_assets" refs ∧ u'.Bundled 21 "_assets" refs' ∧ refs ≠ refs' := by
  obtain ⟨hsingle, hroot, hout⟩ := usedPage_checks
  obtain ⟨hsingle', hroot', hout'⟩ := freshPage_checks
  obtain ⟨out, hout⟩ := Option.isSome_iff_exists.1 hout
  obtain ⟨out', hout'⟩ := Option.isSome_iff_exists.1 hout'
  have h := World.ok_of_value? hout
  have h' := World.ok_of_value? hout'
  have ht : pageTree.Embedded 6000 .none usedPage := Check.embedded_single hsingle
  have ht' : pageTree.Embedded 6000 .none freshPage := Check.embedded_single hsingle'
  have hr := ViewTree.Embedded.bundled (t := pageTree) (by decide) usedPage_holds
    (fun e he => by simp [hroot] at he) ht h
  have hr' := ViewTree.Embedded.bundled (t := pageTree) (by decide) freshPage_holds
    (fun e he => by simp [hroot'] at he) ht' h'
  refine ⟨out, _, out', _, _, _, h, h', hr, hr', ?_⟩
  rw [ne_eq, ViewTree.render_eq_fresh_iff (by decide) usedPage_holds hroot ht h (by decide) freshPage_holds hroot' ht' h' rfl hr hr']
  decide

end Stencil
