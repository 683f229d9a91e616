import Mathlib.Logic.Relation
import Stencil.Proofs.Composition
import Stencil.Proofs.Ledgers

/-!
# Registrations and renders in turn

Views are created, rendered and registered on each other, also while other views render. What is
registered on a view is only ever added to, by the calls of `register` on that view, and each of its
renders begins with the references of its configuration, then with those. No two views share a bundle, so
what happens to one of them leaves the others alone.
-/

namespace Stencil

open World Evaluation

/-! ## Beginning a render -/

section

variable {n : Nat} {w u : World} {v : Nat} {val : Value} {r : BundlePlaces} {config refs : References}

/-- How a render begins: the view is idle, a new bundle is filled, and it becomes that of the view. -/
theorem View.begin_eq_ok (hv : w.IsInstance v config) (hr : w.bundleIn? v "_registered" = some r)
    (hrefs : w.BundleAt r refs.distinct)
    (h : View.startBundle (interpreter n) (.ref v) w = .ok val u) :
    ∃ w₁ w₂ p, val = .ref p.bundle ∧ setAttribute (.ref v) "stage" (.stage .idle) w = .ok () w₁ ∧
      w₁.ChangesOnly [] w₂ ∧ w₁.NewAt p ∧ w₂.BundleAt p (config ++ refs).distinct ∧
      setAttribute (.ref v) "_assets" (.ref p.bundle) w₂ = .ok () u := by
  have hcls : ∃ cls, w.classOf? v = some cls := by
    obtain ⟨cls, hview, -⟩ := hv.view
    exact ⟨cls, hview.classOf⟩
  obtain ⟨cls, hcls⟩ := hcls
  unfold View.startBundle at h
  -- The stage is set.
  obtain ⟨⟨⟩, w₁, hstage, h⟩ := bind_eq_ok.1 h
  have hchanges₁ := (setAttribute_eq_ok hcls hstage).1
  have hv₁ := hv.set hcls (by simp) hstage
  have hrefs₁ := hrefs.keep_context hcls hchanges₁
  have hown₁ : w₁.own? v "_registered" = some (.ref r.bundle) := by
    rw [(setAttribute_eq_ok hcls hstage).2.2, if_neg (by simp)]
    exact (World.bundleIn?_eq_some hr).1
  -- The bundle of the configuration is made.
  obtain ⟨_, w₂, hfresh, h⟩ := bind_eq_ok.1 h
  obtain ⟨cls₁, hview₁, hconfig₁, -⟩ := hv₁.view
  obtain ⟨o, rfl, ⟨c, j, hnew, hbundle⟩, hchanges₂⟩ :=
    configuredBundle_eq_ok hview₁.classOf hconfig₁ hv₁.unshadowed hfresh
  have hv₂ := hv₁.keep_sets hchanges₂ (by simp)
  have hown₂ := hv₁.own_keep_sets hchanges₂ (by simp) "_registered"
  rw [hown₁] at hown₂
  have hrefs₂ := hrefs₁.keep hchanges₂ (by simp) (by simp) (by simp)
  -- What is registered is added.
  obtain ⟨_, _, hread, h⟩ := bind_eq_ok.1 h
  obtain ⟨cls₂, hview₂, -⟩ := hv₂.view
  obtain ⟨rfl, rfl⟩ := attributeOf__registered hview₂ hown₂ hread
  obtain ⟨_, w₃, hcall, h⟩ := bind_eq_ok.1 h
  let p : BundlePlaces := ⟨o, c, j⟩
  obtain ⟨rfl, hfilled, hchanges₃, -⟩ := callIn_bundle_eq_ok (p := p) hbundle hrefs₂ hcall
  rw [References.distinct_adding, References.distinct_append_distinct] at hfilled
  have hchanges : w₁.ChangesOnly [] w₃ := by
    have hboth : w₁.ChangesOnly [c, j] w₃ := (hchanges₂.mono (by simp)).trans hchanges₃
    exact (hboth.forget hnew.newCss).forget hnew.newJs
  obtain ⟨⟨⟩, w₄, hset, h⟩ := bind_eq_ok.1 h
  obtain ⟨rfl, rfl⟩ := pure_eq_ok.1 h
  exact ⟨w₁, w₃, p, rfl, hstage, hchanges, ⟨hnew.new, hnew.newCss, hnew.newJs⟩, hfilled, hset⟩

end

/-! ## What the calls do -/

/-- What a call of `register` on a view does: the references are added to what is registered on the view
and to what its current render has collected. The bundles of other views, the one that it is handed and
the configurations stay as they are. -/
structure View.Registers (L : Ledger) (w : World) (v : Ref) (place : Option BundlePlaces)
    (refs more : References) (val : Value) (u : World) : Prop where
  registered : ∃ r, L.Has u v "_registered" r ∧ u.BundleAt r (refs ++ more).distinct
  current : ∃ (a : BundlePlaces) (held : References), val = .ref a.bundle ∧
    L.Has w v "_assets" a ∧ w.BundleAt a held.distinct ∧
    L.Has u v "_assets" a ∧ u.BundleAt a (held ++ more).distinct
  others : ∀ x name p held, x ≠ v → L.Has w x name p → w.BundleAt p held →
    L.Has u x name p ∧ u.BundleAt p held
  argument : ∀ p ∈ place, u.BundleAt p more
  instances : ∀ x config, w.IsInstance x config → u.IsInstance x config
  configurations : ∀ (k : Nat) config, w.at' k = .config config → u.at' k = .config config
  classes : u.classes = w.classes

namespace Ledger

variable {L L' : Ledger} {w u : World} {n v x cls : Nat} {name : String} {p : BundlePlaces}
  {place : Option BundlePlaces} {refs more : References} {other val : Value} {b : Unit}

theorem Carries.congr {names : List String} (h : L.Carries names w u)
    (hL : ∀ x, (L' x).isSome = (L x).isSome) : L'.Carries names w u where
  instances v config hv hi := h.instances v config ((hL v).symm.trans hv) hi
  places v name hv hname := h.places v name ((hL v).symm.trans hv) hname
  distinct := h.distinct

/-- Registering something on a view keeps the ledger that it is entered in. -/
theorem Kept.register (h : L.Kept w) (hv : L v = some refs) (ho : w.Offers other place more)
    (hcall : View.register (interpreter n) (.ref v) other w = .ok val u) :
    (L.add v more).Kept u ∧ L.Carries bundleNames w u ∧ u.enclosing = w.enclosing ∧
      View.Registers L w v place refs more val u := by
  have hsome : (L v).isSome := by simp [hv]
  rw [View.register_eq] at hcall
  -- First there is a bundle of what is offered.
  obtain ⟨_, w₀, hoffered, hcall⟩ := bind_eq_ok.1 hcall
  obtain ⟨q, rfl, hq, hchanges₀, hplace⟩ := offered_eq_ok ho hoffered
  have hleaves₀ := Leaves.of_new h hchanges₀
  have hkept₀ := h.leaves hleaves₀
  obtain ⟨r, hr, hrefs⟩ := hkept₀.registered hv
  obtain ⟨a, ha, held, hheld⟩ := hkept₀.exists_has hsome assets_mem
  obtain ⟨config, hi⟩ := hkept₀.isInstance hsome
  have hra : r.Apart a := hkept₀.apart hr ha (by simp)
  obtain ⟨w₁, hval, hrefs₁, hheld₁, hq₁, hchanges₁, hrefs₂, hheld₂, hq₂, hchanges₂⟩ :=
    registerBundle_eq_ok hi hr.place hrefs ha.place hheld hra hq hcall
  rw [References.distinct_adding] at hrefs₁ hrefs₂ hheld₂
  -- Then the bundle for what is registered is filled, as it is noted.
  have hcarries₁ := Carries.of_fill hkept₀ hrefs hrefs₁ hchanges₁
  have hkept₁ : (L.add v more).Kept w₁ := by
    apply hkept₀.carry hcarries₁ fun _ => isSome_add
    intro x all p hx hp
    by_cases hxv : x = v
    · subst hxv
      rw [Ledger.add, if_pos rfl, hv] at hx
      cases hx
      obtain rfl := Option.some.inj (hp.place.symm.trans hr.place)
      exact hrefs₁
    · rw [Ledger.add, if_neg hxv] at hx
      obtain ⟨p', hp', hall⟩ := hkept₀.registered hx
      obtain rfl := Option.some.inj (hp.place.symm.trans hp'.place)
      exact hall.keep_apart hrefs (hkept₀.apart hp hr (by simp [hxv])) hchanges₁
  -- Then the one for what the current render collects.
  have ha₁ : (L.add v more).Has w₁ v "_assets" a := ((hcarries₁.has_iff assets_mem).2 ha).congr isSome_add
  have haway : (L.add v more).AwayFrom w₁ a := fun x p hp => hkept₁.apart ha₁ hp (by simp)
  have hleaves₂ := Leaves.of_fill hkept₁ hheld₁ haway hheld₂ hchanges₂
  have hcarries : L.Carries bundleNames w u :=
    (hleaves₀.toCarries.trans hcarries₁).trans (hleaves₂.toCarries.congr fun _ => isSome_add.symm)
  have hsets {r : Nat} (hlt : r < w.objects.size) (hr : ∀ kind refs, w.at' r ≠ .assets kind refs) :
      u.at' r = w.at' r := by
    have hlt₀ := Nat.lt_of_lt_of_le hlt hchanges₀.size
    have hsame₀ := hchanges₀.same r hlt (by simp)
    have hsame₁ := hchanges₁.same_of_ne_assets hrefs.sets hlt₀ (by rw [hsame₀]; exact hr)
    have hsame₂ := hchanges₂.same_of_ne_assets hheld₁.sets (Nat.lt_of_lt_of_le hlt₀ hchanges₁.size)
      (by rw [hsame₁, hsame₀]; exact hr)
    exact hsame₂.trans (hsame₁.trans hsame₀)
  refine ⟨hkept₁.leaves hleaves₂, hcarries, ?_, ?_⟩
  · rw [hchanges₂.enclosing, hchanges₁.enclosing, hchanges₀.enclosing]
  have has {x : Ref} {name : String} {p : BundlePlaces} (hp : L.Has w x name p) : L.Has u x name p :=
    (hcarries.has_iff hp.named).2 hp
  have has₀ {x : Ref} {name : String} {p : BundlePlaces} (hp : L.Has w₀ x name p) : L.Has w x name p :=
    (hleaves₀.toCarries.has_iff hp.named).1 hp
  constructor
  · exact ⟨r, has (has₀ hr), hrefs₂⟩
  · refine ⟨a, held, hval, has₀ ha, ?_, has (has₀ ha), hheld₂⟩
    obtain ⟨_, hthere⟩ := h.distinct (has₀ ha)
    rw [hheld.unique (hthere.keep hchanges₀ (by simp) (by simp) (by simp))]
    exact hthere
  · intro x name p more hx hp hmore
    have hp₀ := (hleaves₀.toCarries.has_iff hp.named).2 hp
    have hmore₀ := hmore.keep hchanges₀ (by simp) (by simp) (by simp)
    have hmore₁ := hmore₀.keep_apart hrefs (hkept₀.apart hp₀ hr (by simp [hx])) hchanges₁
    exact ⟨has hp, hmore₁.keep_apart hheld₁ (hkept₀.apart hp₀ ha (by simp [hx])) hchanges₂⟩
  · intro p hp
    exact hplace p hp ▸ hq₂
  · intro x config hx
    exact ((hx.keep_sets hchanges₀ (by simp)).keep_sets hchanges₁ hrefs.sets).keep_sets hchanges₂
      hheld₁.sets
  · intro k config hk
    rw [hsets (World.lt_size_of_at' hk (by rintro ⟨⟩)) (by simp [hk]), hk]
  · rw [hchanges₂.classes, hchanges₁.classes, hchanges₀.classes]

/-- A view that takes over the assets of another one leaves what is registered. -/
theorem Leaves.of_hook {y : Value} (h : L.Kept w) (hv : (L v).isSome) (hx : (L x).isSome)
    (hcall : View.hook (interpreter n) (.ref v) (.ref x) w = .ok y u) : L.Leaves w u := by
  obtain ⟨_, hi⟩ := h.isInstance hv
  obtain ⟨_, hix⟩ := h.isInstance hx
  obtain ⟨cls, hview, -⟩ := hi.view
  obtain ⟨clsx, hviewx, -⟩ := hix.view
  obtain ⟨a, ha, held, hheld⟩ := h.exists_has hv assets_mem
  obtain ⟨p, hp, more, hmore⟩ := h.exists_has hx assets_mem
  unfold View.hook at hcall
  rw [bind_of_ok (isView_eq hviewx)] at hcall
  by_cases hsame : (Value.ref x).same (.ref v) = true
  · simp only [hsame, Bool.not_true, Bool.and_false, Bool.false_eq_true, if_false] at hcall
    obtain ⟨-, rfl⟩ := pure_eq_ok.1 hcall
    exact .of_new h (.refl _ _)
  · simp only [hsame, Bool.not_false, Bool.and_self, if_true] at hcall
    obtain ⟨_, _, hread, hcall⟩ := bind_eq_ok.1 hcall
    obtain ⟨rfl, rfl⟩ := attributeOf__assets hview (World.bundleIn?_eq_some ha.place).1 hread
    obtain ⟨f, _, hf, hcall⟩ := bind_eq_ok.1 hcall
    obtain ⟨_, _, hread, hcall⟩ := bind_eq_ok.1 hcall
    obtain ⟨rfl, rfl⟩ := attributeOf_bundle_register hheld.parts hf
    obtain ⟨rfl, rfl⟩ := attributeOf_assets hviewx (World.bundleIn?_eq_some hp.place).1 hread
    obtain ⟨z, w₁, happly, hcall⟩ := bind_eq_ok.1 hcall
    obtain ⟨rfl, rfl⟩ := pure_eq_ok.1 hcall
    have hcallIn : View.callIn (interpreter n) (.ref a.bundle) "register" [.ref p.bundle] w =
        .ok z w₁ := (bind_of_ok hf).trans happly
    obtain ⟨-, hfilled, hchanges, -⟩ := callIn_bundle_eq_ok hheld hmore hcallIn
    rw [References.distinct_adding] at hfilled
    exact .of_fill h hheld (fun _ _ hq => h.apart ha hq (by simp)) hfilled hchanges

/-- A finished render that gives its assets to the one around it leaves what is registered. -/
theorem Leaves.of_giveAssets {o : Ref} {around : Option Ref} {y : Unit} (h : L.Kept w)
    (hb : L.Collects w o) (ha : ∀ e ∈ around, L.Collects w e)
    (hcall : View.giveAssets (interpreter n) around (.ref o) w = .ok y u) : L.Leaves w u := by
  cases around with
  | none =>
    obtain ⟨-, rfl⟩ := pure_eq_ok.1 hcall
    exact .of_new h (.refl _ _)
  | some e =>
    obtain ⟨p, rfl, ⟨held, hheld⟩, haway⟩ := ha e rfl
    obtain ⟨q, rfl, ⟨more, hmore⟩, -⟩ := hb
    by_cases hsame : (Value.ref q.bundle).same (.ref p.bundle) = true
    · simp only [View.giveAssets, hsame, Bool.not_true, Bool.false_eq_true, if_false] at hcall
      obtain ⟨-, rfl⟩ := pure_eq_ok.1 hcall
      exact .of_new h (.refl _ _)
    · simp only [View.giveAssets, hsame, Bool.not_false, if_true] at hcall
      obtain ⟨z, w₁, hregister, hcall⟩ := bind_eq_ok.1 hcall
      obtain ⟨-, rfl⟩ := pure_eq_ok.1 hcall
      obtain ⟨-, hfilled, hchanges, -⟩ := callIn_bundle_eq_ok hheld hmore hregister
      rw [References.distinct_adding] at hfilled
      exact .of_fill h hheld haway hfilled hchanges

/-- A view that begins to render has a new bundle of what is configured, then of what is registered. -/
theorem Kept.begin (h : L.Kept w) (hv : L v = some refs) {config : References}
    (hi : w.IsInstance v config) (hcall : View.startBundle (interpreter n) (.ref v) w = .ok val u) :
    L.Kept u ∧ L.Carries ["_registered"] w u ∧ u.enclosing = w.enclosing ∧
      ∃ p, val = .ref p.bundle ∧ w.NewAt p ∧ L.Has u v "_assets" p ∧
        u.BundleAt p (config ++ refs).distinct := by
  have hsome : (L v).isSome := by simp [hv]
  obtain ⟨r, hr, hrefs⟩ := h.registered hv
  obtain ⟨w₁, w₂, p, rfl, hstage, hchanges, hnew, hfilled, hset⟩ :=
    View.begin_eq_ok hi hr.place hrefs hcall
  have hcls : ∃ cls, w.classOf? v = some cls := by
    obtain ⟨cls, hview, -⟩ := hi.view
    exact ⟨cls, hview.classOf⟩
  obtain ⟨cls, hcls⟩ := hcls
  have hleaves₁ := Leaves.of_set h hcls (by simp [bundleNames]) hstage
  have hkept₁ := h.leaves hleaves₁
  have hleaves₂ := Leaves.of_new hkept₁ hchanges
  have hkept₂ := hkept₁.leaves hleaves₂
  have hcls₂ : ∃ cls, w₂.classOf? v = some cls := by
    obtain ⟨config₂, hi₂⟩ := hkept₂.isInstance hsome
    obtain ⟨cls, hview, -⟩ := hi₂.view
    exact ⟨cls, hview.classOf⟩
  obtain ⟨cls₂, hcls₂⟩ := hcls₂
  have hapart : ∀ x name q, L.Has w₂ x name q → p.Apart q := by
    intro x name q hq
    obtain ⟨held, hheld⟩ := hkept₁.distinct ((hleaves₂.toCarries.has_iff hq.named).1 hq)
    exact hnew.apart hheld
  have hkept := hkept₂.renew hsome hcls₂ hfilled hapart hset
  have hchanges₁ := (setAttribute_eq_ok hcls hstage).1
  have hchanges₃ := (setAttribute_eq_ok hcls₂ hset).1
  refine ⟨hkept, ?_, ?_, p, rfl, hnew.of_le hchanges₁.size, ?_, hfilled.keep_context hcls₂ hchanges₃⟩
  · exact (hleaves₁.toCarries.registered.trans hleaves₂.toCarries.registered).trans
      (.of_renewal hkept₂ hcls₂ hset)
  · rw [hchanges₃.enclosing, hchanges.enclosing, hchanges₁.enclosing]
  · exact ⟨hsome, assets_mem, bundleIn?_renewed hcls₂ hfilled hset⟩

theorem Carries.withEnclosing (L : Ledger) (names : List String) (w : World) (bundle : Option Ref) :
    L.Carries names w (w.withEnclosing bundle) where
  instances v config _ hi := by
    obtain ⟨⟨cls, ⟨hclassOf, hkind, hassets, hcomputed⟩, hconfig, hstage⟩, hun⟩ := hi
    have hclass (name : String) : (w.withEnclosing bundle).classValue cls name = w.classValue cls name :=
      World.classValue_congr (w := w) (u := w.withEnclosing bundle) rfl cls name
    obtain ⟨k, c, hk, hat, hlists⟩ := hconfig
    refine ⟨config, ⟨cls, ⟨hclassOf, hkind, ?_, ?_⟩, ⟨k, c, ?_, hat, hlists⟩, ?_⟩, hun⟩
    · rw [hclass, hassets]
    · intro name hname
      rw [hclass]
      exact hcomputed name hname
    · rw [hclass, hk]
    · rw [hclass]
      exact hstage
  places _ _ _ _ := rfl
  distinct p hp := by
    obtain ⟨refs, hp⟩ := hp
    exact ⟨refs, hp.parts, hp.css, hp.js⟩

theorem Kept.withEnclosing (h : L.Kept w) (bundle : Option Ref) : L.Kept (w.withEnclosing bundle) := by
  apply h.carry (.withEnclosing L _ w bundle) fun _ => rfl
  intro v refs p hv hp
  obtain ⟨q, hq, hrefs⟩ := h.registered hv
  obtain rfl := Option.some.inj (hp.place.symm.trans hq.place)
  exact ⟨hrefs.parts, hrefs.css, hrefs.js⟩

/-! ### New views -/

/-- A view is made in three steps. -/
theorem create_eq_ok {m : Interpreter} {args : Arguments} :
    View.create m cls args w = .ok val u ↔ val = .ref w.objects.size ∧
      ∃ w₁, View.fillIn m cls args (.ref w.objects.size) (w.push (.instance cls [])) = .ok () w₁ ∧
        View.equip m (.ref w.objects.size) w₁ = .ok () u := by
  unfold View.create allocValue
  simp only [bind_eq_ok, alloc_eq_ok, pure_eq_ok]
  constructor
  · rintro ⟨_, _, ⟨_, _, ⟨rfl, rfl⟩, rfl, rfl⟩, ⟨⟩, w₁, hfill, ⟨⟩, w₂, hequip, rfl, rfl⟩
    exact ⟨rfl, w₁, hfill, hequip⟩
  · rintro ⟨rfl, w₁, hfill, hequip⟩
    exact ⟨_, _, ⟨_, _, ⟨rfl, rfl⟩, rfl, rfl⟩, (), w₁, hfill, (), u, hequip, rfl, rfl⟩

theorem make_empty_bundle {m : Interpreter} {o : Ref} (h : Bundle.make m .none .none w = .ok o u) :
    ∃ p : BundlePlaces, o = p.bundle ∧ w.NewAt p ∧ u.BundleAt p {} ∧ w.ChangesOnly [] u := by
  have hnothing : Bundle.make m .none .none w =
      Bundle.make m (.tuple (texts ({} : References).css)) (.tuple (texts ({} : References).js)) w := rfl
  rw [hnothing] at h
  obtain ⟨⟨c, j, hnew, hbundle⟩, hchanges⟩ := make_bundle h
  exact ⟨⟨o, c, j⟩, rfl, ⟨hnew.new, hnew.newCss, hnew.newJs⟩, hbundle, hchanges⟩

/-- A view that is not followed yet takes a new bundle under a name and keeps the one of the other name. -/
theorem Leaves.of_given {w' : World} {config : References} (h : L.Kept w) (hv : L v = none)
    (hi : w.IsInstance v config) (hchanges : w.ChangesOnly [] w') (hp : w'.BundleAt p refs)
    (hname : name ∈ bundleNames) (hset : setAttribute (.ref v) name (.ref p.bundle) w' = .ok b u) :
    L.Leaves w u ∧ u.IsInstance v config ∧ u.bundleIn? v name = some p ∧ u.BundleAt p refs ∧
      ∀ other q held, other ≠ name → w.bundleIn? v other = some q → w.BundleAt q held →
        u.bundleIn? v other = some q ∧ u.BundleAt q held := by
  have hleaves := Leaves.of_new h hchanges
  have hi' := hi.keep_sets hchanges (by simp)
  obtain ⟨cls, hview, -⟩ := hi'.view
  have hcls := hview.classOf
  obtain ⟨hchanged, -, hown⟩ := setAttribute_eq_ok hcls hset
  have hconfig : name ≠ "config" := by
    rintro rfl
    simp [bundleNames] at hname
  refine ⟨hleaves.trans (.of_set (h.leaves hleaves) hcls (by simp [hv]) hset), hi'.set hcls
    (fun _ => hconfig) hset, bundleIn?_renewed hcls hp hset, hp.keep_context hcls hchanged, ?_⟩
  intro other q held hother hq hheld
  have hheld' := (hheld.keep hchanges (by simp) (by simp) (by simp)).keep_context hcls hchanged
  refine ⟨World.bundleIn?_of_own ?_ hheld'.parts, hheld'⟩
  rw [hown, if_neg (by simp [hother]), hi.own_keep_sets hchanges (by simp)]
  exact (World.bundleIn?_eq_some hq).1

/-- A new view has an empty bundle for what is registered on it and one with the references of its
configuration. -/
theorem Kept.create {args : Arguments} (h : L.Kept w)
    (hfilled : ∀ w₁, View.fillIn (interpreter n) cls args (.ref w.objects.size)
      (w.push (.instance cls [])) = .ok () w₁ →
        L.Leaves w w₁ ∧ ∃ config, w₁.IsInstance w.objects.size config)
    (hcall : View.create (interpreter n) cls args w = .ok val u) :
    (L.enter w.objects.size).Kept u ∧ L.Leaves w u ∧
      ∀ p, w.DistinctBundle p → ∀ q, u.bundleIn? w.objects.size "_registered" = some q → p.Apart q := by
  obtain ⟨-, w₁, hfill, hequip⟩ := create_eq_ok.1 hcall
  obtain ⟨hleaves₁, config, hi₁⟩ := hfilled w₁ hfill
  generalize hview : w.objects.size = v at *
  have hnone : L v = none := by
    by_contra hv
    obtain ⟨config, hi⟩ := h.isInstance (Option.isSome_iff_ne_none.2 hv)
    obtain ⟨cls, hi, -⟩ := hi.view
    have hlt := World.lt_size_of_classOf? hi.classOf
    omega
  have hkept₁ := h.leaves hleaves₁
  -- An empty bundle becomes the one for what is registered.
  unfold View.equip at hequip
  obtain ⟨_, w₂, hmake, hequip⟩ := bind_eq_ok.1 hequip
  obtain ⟨r, rfl, hnewr, hempty, hchanges₂⟩ := make_empty_bundle hmake
  obtain ⟨⟨⟩, w₃, hset, hequip⟩ := bind_eq_ok.1 hequip
  obtain ⟨hleaves₃, hi₃, hr₃, hempty₃, -⟩ :=
    Leaves.of_given hkept₁ hnone hi₁ hchanges₂ hempty registered_mem hset
  have hkept₃ := hkept₁.leaves hleaves₃
  -- The bundle of the configuration becomes the one for what renders collect.
  obtain ⟨_, w₄, hfresh, hequip⟩ := bind_eq_ok.1 hequip
  obtain ⟨cls₃, hview₃, hconfig₃, -⟩ := hi₃.view
  obtain ⟨o, rfl, ⟨c, j, hnew₄, hbundle⟩, hchanges₄⟩ :=
    configuredBundle_eq_ok hview₃.classOf hconfig₃ hi₃.unshadowed hfresh
  let a : BundlePlaces := ⟨o, c, j⟩
  have hnewa : w₃.NewAt a := ⟨hnew₄.new, hnew₄.newCss, hnew₄.newJs⟩
  obtain ⟨hleaves₅, hi₅, ha₅, hheld₅, hkeep⟩ :=
    Leaves.of_given (p := a) hkept₃ hnone hi₃ hchanges₄ hbundle assets_mem hequip
  obtain ⟨hr₅, hempty₅⟩ := hkeep _ r {} (by simp) hr₃ hempty₃
  have hkept₅ := hkept₃.leaves hleaves₅
  -- Both are apart from everything that was there.
  have hapart : ∀ p, w₁.DistinctBundle p → r.Apart p ∧ a.Apart p := by
    intro p hp
    obtain ⟨held₃, hheld₃⟩ := hleaves₃.distinct p hp
    obtain ⟨held, hheld⟩ := hp
    exact ⟨hnewr.apart hheld, hnewa.apart hheld₃⟩
  have hcarries := (hleaves₃.trans hleaves₅).toCarries
  refine ⟨hkept₅.enter hnone ⟨⟨_, hi₅⟩, ⟨r, hr₅, hempty₅⟩, a, _, ha₅, hheld₅⟩ ?_ ?_,
    hleaves₁.trans (hleaves₃.trans hleaves₅), ?_⟩
  · intro name p hname hp x name' q hq
    obtain ⟨hrq, haq⟩ := hapart q (hkept₁.distinct ((hcarries.has_iff hq.named).1 hq))
    rcases mem_bundleNames.1 hname with rfl | rfl
    · obtain rfl := Option.some.inj (hr₅.symm.trans hp)
      exact hrq
    · obtain rfl := Option.some.inj (ha₅.symm.trans hp)
      exact haq
  · intro p q hp hq
    obtain rfl := Option.some.inj (hr₅.symm.trans hp)
    obtain rfl := Option.some.inj (ha₅.symm.trans hq)
    exact (hnewa.apart hempty₃).symm
  · intro p hp q hq
    obtain rfl := Option.some.inj (hr₅.symm.trans hq)
    exact (hapart p (hleaves₁.distinct p hp)).1.symm

/-! ### Calls that return -/

theorem Kept.exists_register (h : L.Kept w) (hv : L v = some refs) (ho : w.Offers other place more)
    (hfew : w.OffersFew other more) :
    ∃ x u, View.register (interpreter (n + 2)) (.ref v) other w = .ok x u := by
  have hsome : (L v).isSome := by simp [hv]
  obtain ⟨_, w₀, hoffered⟩ := exists_offered (n := n) ho hfew
  obtain ⟨q, rfl, hq, hchanges₀, -⟩ := offered_eq_ok ho hoffered
  have hkept₀ := h.leaves (.of_new h hchanges₀)
  obtain ⟨r, hr, hrefs⟩ := hkept₀.registered hv
  obtain ⟨a, ha, held, hheld⟩ := hkept₀.exists_has hsome assets_mem
  obtain ⟨config, hi⟩ := hkept₀.isInstance hsome
  obtain ⟨x, u, hu⟩ := exists_registerBundle (n := n) hi hr.place hrefs ha.place hheld
    (hkept₀.apart hr ha (by simp)) hq hfew.offered
  refine ⟨x, u, ?_⟩
  rw [View.register_eq, bind_of_ok hoffered]
  exact hu

theorem Kept.exists_begin (h : L.Kept w) (hv : L v = some refs) {config : References}
    (hi : w.IsInstance v config) (hconfig : config.Fits) (hrefs : refs.distinct.Fits) :
    ∃ x u, View.startBundle (interpreter (n + 2)) (.ref v) w = .ok x u := by
  have hsome : (L v).isSome := by simp [hv]
  obtain ⟨cls, hview, -, hstage⟩ := hi.view
  -- The stage is set.
  obtain ⟨w₁, hset⟩ := exists_setAttribute (x := .stage .idle) hview.classOf hstage
  have hkept₁ := h.leaves (.of_set h hview.classOf (by simp [bundleNames]) hset)
  have hi₁ := hi.set hview.classOf (by simp) hset
  obtain ⟨cls₁, hview₁, ⟨k, c, hk, hat, hlists⟩, -⟩ := hi₁.view
  -- The bundle of the configuration is made.
  obtain ⟨o, w₂, hfresh⟩ := exists_configuredBundle (n := n)
    (read_config hview₁.classOf hk hat hi₁.unshadowed) hat hlists hconfig
  obtain ⟨o, rfl, ⟨c', j', -, hbundle⟩, hchanges₂⟩ :=
    configuredBundle_eq_ok hview₁.classOf ⟨k, c, hk, hat, hlists⟩ hi₁.unshadowed hfresh
  have hkept₂ := hkept₁.leaves (.of_new hkept₁ hchanges₂)
  have hi₂ := hi₁.keep_sets hchanges₂ (by simp)
  obtain ⟨cls₂, hview₂, -⟩ := hi₂.view
  obtain ⟨r, hr, hheld⟩ := hkept₂.registered hv
  -- What is registered is added.
  let p : BundlePlaces := ⟨o, c', j'⟩
  obtain ⟨w₃, hcall⟩ := exists_callIn_bundle (n := n) (p := p) hbundle hheld hrefs.css hrefs.js
  obtain ⟨-, -, hchanges₃, -⟩ := callIn_bundle_eq_ok (p := p) hbundle hheld hcall
  -- The bundle becomes that of the view.
  obtain ⟨cls₃, hview₃, -⟩ := (hi₂.keep_sets hchanges₃ (World.BundleOf.sets (p := p) hbundle)).view
  obtain ⟨u, hrenewed⟩ := exists_setAttribute (x := .ref p.bundle) hview₃.classOf
    (hview₃.computed "_assets" (by simp))
  refine ⟨.ref p.bundle, u, ?_⟩
  unfold View.startBundle
  rw [bind_of_ok hset, bind_of_ok hfresh, bind_of_ok (read_bundle hview₂ registered_mem hr.place),
    bind_of_ok hcall, bind_of_ok hrenewed]
  rfl

end Ledger

/-! ## Moments of a run -/

/-- A moment of a run: the world, what has been registered so far, and the renders that are going on, the
latest first. Each of these has a bundle, and there may be another one around it. -/
structure Moment where
  world : World
  ledger : Ledger
  renders : List (Ref × Option Ref)

namespace Moment

/-- The bundles that renders collect their assets in. -/
def collecting (t : Moment) : List Ref :=
  t.world.enclosing.toList ++ t.renders.flatMap fun r => r.1 :: r.2.toList

/-- The views that are followed have what was registered on them, and renders collect their assets
elsewhere. -/
structure Sound (t : Moment) : Prop where
  kept : t.ledger.Kept t.world
  collects : ∀ e ∈ t.collecting, t.ledger.Collects t.world e

/-- What happens next. -/
inductive Step : Moment → Moment → Prop
  /-- Other code runs, and leaves what is registered as it is. -/
  | other {w u : World} {L : Ledger} {rs : List (Ref × Option Ref)} (h : L.Leaves w u) :
      Step ⟨w, L, rs⟩ ⟨u, L, rs⟩
  /-- A view is created. -/
  | created {n cls : Nat} {args : Arguments} {v : Value} {w u : World} {L : Ledger}
      {rs : List (Ref × Option Ref)} (h : View.create (interpreter n) cls args w = .ok v u)
      (hfilled : ∀ w₁, View.fillIn (interpreter n) cls args (.ref w.objects.size)
        (w.push (.instance cls [])) = .ok () w₁ →
          L.Leaves w w₁ ∧ ∃ config, w₁.IsInstance w.objects.size config) :
      Step ⟨w, L, rs⟩ ⟨u, L.enter w.objects.size, rs⟩
  /-- Something is registered on a view. -/
  | registered {n v : Nat} {other x : Value} {place : Option BundlePlaces} {more : References}
      {w u : World} {L : Ledger} {rs : List (Ref × Option Ref)} (hv : (L v).isSome)
      (ho : w.Offers other place more)
      (h : View.register (interpreter n) (.ref v) other w = .ok x u) :
      Step ⟨w, L, rs⟩ ⟨u, L.add v more, rs⟩
  /-- A view takes over the assets of one that it is about to embed. -/
  | hooked {n v x : Nat} {y : Value} {w u : World} {L : Ledger} {rs : List (Ref × Option Ref)}
      (hv : (L v).isSome) (hx : (L x).isSome)
      (h : View.hook (interpreter n) (.ref v) (.ref x) w = .ok y u) : Step ⟨w, L, rs⟩ ⟨u, L, rs⟩
  /-- A view begins to render. -/
  | begun {n v b : Nat} {w u : World} {L : Ledger} {rs : List (Ref × Option Ref)} (hv : (L v).isSome)
      (h : View.startBundle (interpreter n) (.ref v) w = .ok (.ref b) u) :
      Step ⟨w, L, rs⟩ ⟨u.withEnclosing (some b), L, (b, w.enclosing) :: rs⟩
  /-- A render succeeds and gives its assets to the one around it. -/
  | finished {n b : Nat} {around : Option Ref} {y : Unit} {w u : World} {L : Ledger}
      {rs : List (Ref × Option Ref)}
      (h : View.giveAssets (interpreter n) around (.ref b) (w.withEnclosing around) = .ok y u) :
      Step ⟨w, L, (b, around) :: rs⟩ ⟨u, L, rs⟩
  /-- A render is given up. -/
  | failed {b : Nat} {around : Option Ref} {w : World} {L : Ledger} {rs : List (Ref × Option Ref)} :
      Step ⟨w, L, (b, around) :: rs⟩ ⟨w.withEnclosing around, L, rs⟩

variable {s t : Moment}

/-- What carries the views keeps a moment sound, if it keeps the ledger and what renders collect their
assets in is not new. -/
theorem Sound.of_carries (h : s.Sound) (hkept : t.ledger.Kept t.world)
    (hc : s.ledger.Carries ["_registered"] s.world t.world)
    (hL : ∀ x, (t.ledger x).isSome = (s.ledger x).isSome)
    (hmem : ∀ e ∈ t.collecting, e ∈ s.collecting ∨ t.ledger.Collects t.world e) : t.Sound where
  kept := hkept
  collects e he := by
    rcases hmem e he with he | he
    · exact hc.collects hL (h.collects e he)
    · exact he

theorem Sound.leaves {w u : World} {L : Ledger} {rs : List (Ref × Option Ref)}
    (h : Sound ⟨w, L, rs⟩) (hl : L.Leaves w u) : Sound ⟨u, L, rs⟩ := by
  refine h.of_carries (t := ⟨u, L, rs⟩) (h.kept.leaves hl) hl.toCarries.registered (fun _ => rfl) ?_
  intro e he
  rw [collecting, hl.enclosing] at he
  exact .inl he

/-- When nothing renders and no view is followed yet, nothing is registered. -/
theorem Sound.start {w : World} (h : w.enclosing = none) : Sound ⟨w, .empty, []⟩ where
  kept := .empty w
  collects e he := by simp [collecting, h] at he

/-- A render that ends leaves the bundle around it in the place of its own. -/
theorem Sound.pop {b : Ref} {around : Option Ref} {w : World} {L : Ledger}
    {rs : List (Ref × Option Ref)} (h : Sound ⟨w, L, (b, around) :: rs⟩) :
    Sound ⟨w.withEnclosing around, L, rs⟩ ∧ L.Collects (w.withEnclosing around) b := by
  have hc := Ledger.Carries.withEnclosing L ["_registered"] w around
  constructor
  · refine h.of_carries (t := ⟨w.withEnclosing around, L, rs⟩) (h.kept.withEnclosing around) hc
      (fun _ => rfl) ?_
    intro e he
    left
    simp only [collecting, World.withEnclosing, List.mem_append] at he
    simp only [collecting, List.flatMap_cons, List.mem_append, List.mem_cons]
    rcases he with he | he
    · exact .inr (.inl (.inr he))
    · exact .inr (.inr he)
  · apply hc.collects fun _ => rfl
    apply h.collects
    simp [collecting]

/-- What happens next keeps a moment sound. -/
theorem Sound.step (h : s.Sound) (hstep : Step s t) : t.Sound := by
  cases hstep with
  | other hl => exact h.leaves hl
  | @created n cls args v w u L rs hcall hfilled =>
    obtain ⟨hkept, hleaves, hnew⟩ := h.kept.create hfilled hcall
    have hsound := h.leaves hleaves
    refine ⟨hkept, fun e he => ?_⟩
    obtain ⟨p, rfl, hp, haway⟩ := h.collects e (by rwa [collecting, hleaves.enclosing] at he)
    refine ⟨p, rfl, hleaves.distinct p hp, fun x q hq => ?_⟩
    by_cases hx : x = w.objects.size
    · exact hnew p hp q (hx ▸ hq.place)
    · have hfollowed : (L.enter w.objects.size x).isSome := hq.followed
      rw [Ledger.enter, if_neg hx] at hfollowed
      have hq' : L.Has u x "_registered" q := ⟨hfollowed, hq.named, hq.place⟩
      exact haway x q ((hleaves.toCarries.has_iff registered_mem).1 hq')
  | @registered n v other x place more w u L rs hv ho hcall =>
    obtain ⟨refs, hrefs⟩ := Option.isSome_iff_exists.1 hv
    obtain ⟨hkept, hcarries, henclosing, -⟩ := h.kept.register hrefs ho hcall
    refine h.of_carries (t := ⟨u, L.add v more, rs⟩) hkept hcarries.registered
      (fun _ => Ledger.isSome_add) ?_
    intro e he
    rw [collecting, henclosing] at he
    exact .inl he
  | hooked hv hx hcall => exact h.leaves (.of_hook h.kept hv hx hcall)
  | @begun n v b w u L rs hv hcall =>
    obtain ⟨refs, hrefs⟩ := Option.isSome_iff_exists.1 hv
    obtain ⟨config, hi⟩ := h.kept.isInstance hv
    obtain ⟨hkept, hcarries, -, p, hb, hnew, hp, hheld⟩ := h.kept.begin hrefs hi hcall
    cases hb
    have hc := Ledger.Carries.withEnclosing L ["_registered"] u (some p.bundle)
    refine h.of_carries (t := ⟨u.withEnclosing (some p.bundle), L, (p.bundle, w.enclosing) :: rs⟩)
      (hkept.withEnclosing _) (hcarries.trans hc) (fun _ => rfl) ?_
    intro e he
    have hcases : e = p.bundle ∨ e ∈ collecting ⟨w, L, rs⟩ := by
      simpa [collecting, World.withEnclosing] using he
    rcases hcases with rfl | he
    · right
      apply hc.collects fun _ => rfl
      exact ⟨p, rfl, ⟨_, hheld⟩, fun x q hq => hkept.apart hp hq (by simp)⟩
    · exact .inl he
  | @finished n b around y w u L rs hcall =>
    obtain ⟨hpopped, hb⟩ := h.pop
    refine hpopped.leaves (.of_giveAssets hpopped.kept hb (fun e he => ?_) hcall)
    apply hpopped.collects
    simp [collecting, World.withEnclosing, Option.mem_def.1 he]
  | failed => exact h.pop.1

/-- One thing happens after another. -/
abbrev Course : Moment → Moment → Prop := Relation.ReflTransGen Step

theorem Sound.course (h : s.Sound) (hcourse : Course s t) : t.Sound := by
  induction hcourse with
  | refl => exact h
  | tail _ hstep ih => exact ih.step hstep

/-- A render is a course that begins, goes through its stages and ends, if its stages are one. -/
theorem Sound.course_of_render {n v : Nat} {enc : Value} {out : String} {w u : World} {L L' : Ledger}
    {rs : List (Ref × Option Ref)} (h : Sound ⟨w, L, rs⟩) (hv : (L v).isSome)
    (hencoding : ∀ e w₁, View.encodingFor (interpreter n) (.ref v) enc w = .ok e w₁ → L.Leaves w w₁)
    (hstages : ∀ e w₁ b w₂ w₃, View.encodingFor (interpreter n) (.ref v) enc w = .ok e w₁ →
      View.startBundle (interpreter n) (.ref v) w₁ = .ok (.ref b) w₂ →
      View.renderStages (interpreter n) (.ref v) e (w₂.withEnclosing (some b)) = .ok out w₃ →
        Course ⟨w₂.withEnclosing (some b), L, (b, w₁.enclosing) :: rs⟩
          ⟨w₃, L', (b, w₁.enclosing) :: rs⟩)
    (hrender : View.render (interpreter n) (.ref v) enc w = .ok out u) :
    Course ⟨w, L, rs⟩ ⟨u, L', rs⟩ := by
  obtain ⟨e, w₁, x, w₂, w₃, y, he, hx, hout, hgive⟩ := render_eq_ok.1 hrender
  have hleaves := hencoding e w₁ he
  have hkept := h.kept.leaves hleaves
  obtain ⟨refs, hrefs⟩ := Option.isSome_iff_exists.1 hv
  obtain ⟨config, hi⟩ := hkept.isInstance hv
  obtain ⟨-, -, henclosing, p, rfl, -⟩ := hkept.begin hrefs hi hx
  rw [henclosing] at hgive
  have hbegun : Course ⟨w, L, rs⟩ ⟨w₂.withEnclosing (some p.bundle), L, (p.bundle, w₁.enclosing) :: rs⟩ :=
    .tail (.single (.other hleaves)) (.begun hv hx)
  exact .tail (hbegun.trans (hstages e w₁ p.bundle w₂ w₃ he hx hout)) (.finished hgive)

end Moment

/-- What the bundle of a render begins with: the references of the configuration, then everything that is
registered on the view, each once. -/
structure View.Starts (w : World) (v : Ref) (config refs : References) : Prop where
  returns : ∀ n, config.Fits → refs.distinct.Fits →
    ∃ x u, View.startBundle (interpreter (n + 2)) (.ref v) w = .ok x u
  bundle : ∀ n x u, View.startBundle (interpreter n) (.ref v) w = .ok x u →
    ∃ p : BundlePlaces, x = .ref p.bundle ∧ w.NewAt p ∧ u.bundleIn? v "_assets" = some p ∧
      u.BundleAt p (config ++ refs).distinct

/-- However views are created, rendered and registered on each other, every render of a view begins with
the references of its configuration and everything that has ever been registered on it; a call of
`register` leaves the configurations, the bundles of other views and the one that it is handed as they
are; and no two views have a bundle in common. -/
theorem registrations_stay {s t : Moment} (hs : s.Sound) (hcourse : Moment.Course s t) :
    (∀ v refs config, t.ledger v = some refs → t.world.IsInstance v config →
      View.Starts t.world v config refs) ∧
    (∀ v refs other place more, t.ledger v = some refs → t.world.Offers other place more →
      (∀ n, t.world.OffersFew other more → ∃ x u,
        View.register (interpreter (n + 2)) (.ref v) other t.world = .ok x u) ∧
      ∀ n x u, View.register (interpreter n) (.ref v) other t.world = .ok x u →
        View.Registers t.ledger t.world v place refs more x u) ∧
    (∀ v v' name name' p q, t.ledger.Has t.world v name p → t.ledger.Has t.world v' name' q → v ≠ v' →
      p.Apart q) := by
  have hkept := (hs.course hcourse).kept
  refine ⟨?_, ?_, ?_⟩
  · intro v refs config hv hi
    constructor
    · intro n hconfig hrefs
      exact hkept.exists_begin hv hi hconfig hrefs
    · intro n x u hcall
      obtain ⟨-, -, -, p, rfl, hnew, hp, hheld⟩ := hkept.begin hv hi hcall
      exact ⟨p, rfl, hnew, hp.place, hheld⟩
  · intro v refs other place more hv ho
    constructor
    · intro n hfew
      exact hkept.exists_register hv ho hfew
    · intro n x u hcall
      exact (hkept.register hv ho hcall).2.2.2
  · intro v v' name name' p q hp hq hne
    exact hkept.apart hp hq (by simp [hne])

/-- Two views of a class, on which nothing is registered. -/
def twoViews : World where
  objects := #[.config { css := texts ["page.css"] },
    .assets .stylesheet {}, .assets .script {}, .bundle 1 2,
    .assets .stylesheet ⟨texts ["page.css"]⟩, .assets .script {}, .bundle 4 5,
    .instance 0 [("stage", .stage .idle), ("_registered", .ref 3), ("_assets", .ref 6)],
    .assets .stylesheet {}, .assets .script {}, .bundle 8 9,
    .assets .stylesheet ⟨texts ["page.css", "card.css"]⟩, .assets .script {}, .bundle 11 12,
    .instance 0 [("stage", .stage .idle), ("_registered", .ref 10), ("_assets", .ref 13)]]
  classes := #[{ name := "Page", kind := .view
                 attrs := [("config", .ref 0), ("assets", .property "assets")] }]

theorem twoViews_instance {v : Nat} (hv : v = 7 ∨ v = 14) :
    twoViews.IsInstance v ⟨["page.css"], []⟩ := by
  have hpage : ∀ name ∈ ["_assets", "_registered"], ∀ p,
      twoViews.classValue 0 name ≠ some (.property p) := by
    intro name hname p
    simp only [List.mem_cons, List.not_mem_nil, or_false] at hname
    rcases hname with rfl | rfl <;> rintro ⟨⟩
  have hconfigured : twoViews.Configured 0 ⟨["page.css"], []⟩ := ⟨0, _, rfl, rfl, rfl, rfl⟩
  rcases hv with rfl | rfl
  · exact ⟨⟨0, ⟨rfl, rfl, rfl, hpage⟩, hconfigured, by rintro _ ⟨⟩⟩, rfl⟩
  · exact ⟨⟨0, ⟨rfl, rfl, rfl, hpage⟩, hconfigured, by rintro _ ⟨⟩⟩, rfl⟩

theorem twoViews_sound : Moment.Sound ⟨twoViews, (Ledger.empty.enter 7).enter 14, []⟩ := by
  have hnone {x : Ref} {name : String} {q : BundlePlaces} : ¬ Ledger.empty.Has twoViews x name q := by
    rintro ⟨⟨⟩, -, -⟩
  have hpage : (Ledger.empty.enter 7).Kept twoViews := by
    apply (Ledger.Kept.empty twoViews).enter rfl
    · exact ⟨⟨_, twoViews_instance (.inl rfl)⟩, ⟨⟨3, 1, 2⟩, rfl, rfl, rfl, rfl⟩,
        ⟨6, 4, 5⟩, ⟨["page.css"], []⟩, rfl, rfl, rfl, rfl⟩
    · intro _ _ _ _ x name q hq
      exact absurd hq hnone
    · rintro p q ⟨⟩ ⟨⟩
      exact ⟨by decide, by decide, by decide⟩
  refine ⟨hpage.enter rfl ?_ ?_ ?_, by rintro _ ⟨⟩⟩
  · exact ⟨⟨_, twoViews_instance (.inr rfl)⟩, ⟨⟨10, 8, 9⟩, rfl, rfl, rfl, rfl⟩,
      ⟨13, 11, 12⟩, ⟨["page.css", "card.css"], []⟩, rfl, rfl, rfl, rfl⟩
  · intro name p hname hp x name' q hq
    have hx : x = 7 := by
      by_contra hx
      have hfollowed := hq.followed
      rw [Ledger.enter, if_neg hx] at hfollowed
      cases hfollowed
    subst hx
    obtain ⟨-, hname', hplace⟩ := hq
    rcases mem_bundleNames.1 hname with rfl | rfl <;>
      rcases mem_bundleNames.1 hname' with rfl | rfl <;> cases hp <;> cases hplace <;>
      exact ⟨by decide, by decide, by decide⟩
  · rintro p q ⟨⟩ ⟨⟩
    exact ⟨by decide, by decide, by decide⟩

/-- What one view has registered on it is there when it renders next. -/
theorem card_registered_on_page : ∃ (t : Moment) (u : World) (p : BundlePlaces),
    Moment.Course ⟨twoViews, (Ledger.empty.enter 7).enter 14, []⟩ t ∧
      t.ledger 7 = some ⟨["page.css", "card.css"], []⟩ ∧
      View.startBundle machine (.ref 7) t.world = .ok (.ref p.bundle) u ∧
      u.BundleAt p ⟨["page.css", "card.css"], []⟩ := by
  have hoffers : twoViews.Offers (.ref 14) (some ⟨13, 11, 12⟩) ⟨["page.css", "card.css"], []⟩ := by
    obtain ⟨cls, hview, -⟩ := (twoViews_instance (.inr rfl)).view
    exact .view hview rfl ⟨rfl, rfl, rfl⟩
  have hfew : twoViews.OffersFew (.ref 14) ⟨["page.css", "card.css"], []⟩ :=
    ⟨⟨by decide, by decide⟩, by rintro _ _ ⟨⟩⟩
  -- The card is registered on the page.
  have hledger : ((Ledger.empty.enter 7).enter 14) 7 = some {} := rfl
  obtain ⟨-, hregister, -⟩ := registrations_stay twoViews_sound .refl
  obtain ⟨hreturns, heffect⟩ := hregister 7 {} _ _ _ hledger hoffers
  obtain ⟨x, u, hcall⟩ := hreturns 5998 hfew
  have hi := (heffect _ x u hcall).instances 7 _ (twoViews_instance (.inl rfl))
  have hcourse : Moment.Course ⟨twoViews, (Ledger.empty.enter 7).enter 14, []⟩ _ :=
    .single (.registered (v := 7) rfl hoffers hcall)
  -- Then the page renders.
  obtain ⟨hstarts, -⟩ := registrations_stay twoViews_sound hcourse
  have hstart := hstarts 7 ⟨["page.css", "card.css"], []⟩ ⟨["page.css"], []⟩ rfl hi
  obtain ⟨y, w, hbegin⟩ := hstart.returns 5998 ⟨by decide, by decide⟩ ⟨by decide, by decide⟩
  obtain ⟨p, rfl, -, -, hheld⟩ := hstart.bundle _ y w hbegin
  exact ⟨_, w, p, hcourse, rfl, hbegin, hheld⟩

/-- A page whose template adds to what is registered itself. -/
def tamperedPage : World :=
  World.after (openPage "<% _registered.css.add('late.css') %>text" (.str "text")) {}

/-- What a template adds itself to the bundle for what is registered is there when the view renders again,
although it was never registered. -/
theorem tampered_page_starts_late :
    tamperedPage.viewHolds? 21 = some (pageConfig 21, {}, (pageConfig 21 ++ {}).distinct) ∧
      tamperedPage.value? (View.render machine (.ref 21) .none) = some "text" ∧
      (World.after (View.startBundle machine (.ref 21))
        (tamperedPage.after (View.render machine (.ref 21) .none))).bundled? 21 "_assets" ≠
          some (pageConfig 21 ++ {}).distinct := by
  decide +kernel

end Stencil
