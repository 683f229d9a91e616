import Stencil.Proofs.TwinNames

/-!
# Renders in twins

What a render does besides running templates: it sets the stage and the assets of its view, makes and
fills bundles, loads its content and gives its assets away. None of this depends on whether the
configuration of the view uses layouts, and all of it leaves the view as ordinary as it was.
-/

namespace Stencil

open World Evaluation

namespace World

/-- A world in which a context has something under a name. -/
def withOwn (w : World) (v : Ref) (name : String) (x : Value) : World :=
  match w.at' v with
  | .instance cls attrs => w.put v (.instance cls (setNamed attrs name x))
  | _ => w

/-- A render has gone on: nothing but sets of assets and the progress of its view has changed, apart from
what is new. -/
structure Advances (v : Ref) (w u : World) : Prop where
  size : w.objects.size ≤ u.objects.size
  same : ∀ r : Nat, r < w.objects.size → r ≠ v → (∀ kind refs, w.at' r ≠ .assets kind refs) →
    u.at' r = w.at' r
  sets : ∀ r kind refs, w.at' r = .assets kind refs → ∃ more, u.at' r = .assets kind more
  classOf : u.classOf? v = w.classOf? v
  own : ∀ name, name ∉ progressNames → u.own? v name = w.own? v name
  classes : u.classes = w.classes

end World

section

variable {n : Nat} {c v k : Nat} {w w' u : World} {name : String} {x : Value} {cls : Nat}
  {attrs : List (String × Value)}

namespace World

theorem withOwn_eq (hv : w.at' v = .instance cls attrs) :
    w.withOwn v name x = w.put v (.instance cls (setNamed attrs name x)) := by
  rw [withOwn, hv]

theorem at'_withOwn (hv : w.at' v = .instance cls attrs) :
    (w.withOwn v name x).at' v = .instance cls (setNamed attrs name x) := by
  rw [withOwn_eq hv]
  exact at'_put_self (lt_size_of_at' hv (by rintro ⟨⟩)) hv rfl

theorem own?_withOwn (hv : w.classOf? v = some cls) (other : String) :
    (w.withOwn v name x).own? v other = if other = name then some x else w.own? v other := by
  obtain ⟨attrs, hat⟩ := classOf?_eq_some hv
  rw [own?_eq (at'_withOwn hat), own?_eq hat, named?_setNamed]

theorem classOf?_withOwn (hv : w.classOf? v = some cls) : (w.withOwn v name x).classOf? v = some cls := by
  obtain ⟨attrs, hat⟩ := classOf?_eq_some hv
  rw [classOf?, at'_withOwn hat]

theorem classes_withOwn (w : World) (v : Ref) (name : String) (x : Value) :
    (w.withOwn v name x).classes = w.classes := by
  unfold withOwn
  split
  · exact classes_put _ _ _
  · rfl

theorem Twin.withOwn (h : w.Twin c w') (hv : w.classOf? v = some cls) :
    (w.withOwn v name x).Twin c (w'.withOwn v name x) := by
  obtain ⟨attrs, hat⟩ := classOf?_eq_some hv
  rw [withOwn_eq hat, withOwn_eq (h.at'_eq hat (by rintro k ⟨⟩))]
  exact h.put (h.ne_of_at' hat (by rintro k ⟨⟩)) _

/-- A context stays the same when sets change. -/
theorem Refills.same_context (h : w.Refills u) (hv : w.classOf? v = some cls) : u.at' v = w.at' v := by
  obtain ⟨attrs, hat⟩ := classOf?_eq_some hv
  rw [h.at'_eq hat (by rintro ⟨⟩) (by rintro _ _ ⟨⟩), hat]

namespace Advances

theorem refl (v : Ref) (w : World) : w.Advances v w :=
  ⟨Nat.le_refl _, fun _ _ _ _ => rfl, fun _ _ refs hr => ⟨refs, hr⟩, rfl, fun _ _ => rfl, rfl⟩

theorem trans {x : World} (h : w.Advances v u) (h' : u.Advances v x) : w.Advances v x where
  size := Nat.le_trans h.size h'.size
  same r hlt hne hr := by
    have hu := h.same r hlt hne hr
    rw [h'.same r (Nat.lt_of_lt_of_le hlt h.size) hne (by rwa [hu]), hu]
  sets r kind refs hr := by
    obtain ⟨more, hmore⟩ := h.sets r kind refs hr
    exact h'.sets r kind more hmore
  classOf := h'.classOf.trans h.classOf
  own name hname := (h'.own name hname).trans (h.own name hname)
  classes := h'.classes.trans h.classes

theorem of_refills (h : w.Refills u) (hv : w.classOf? v = some cls) : w.Advances v u := by
  have hvu := h.same_context hv
  refine ⟨h.size, fun r hlt _ hr => h.same r hlt hr, h.sets, ?_, fun name _ => ?_, h.classes⟩
  · rw [classOf?, hvu]
    rfl
  · rw [own?, hvu]
    rfl

theorem logs (w : World) (v : Ref) (log : Array (String × String)) :
    w.Advances v { w with log } :=
  ⟨Nat.le_refl _, fun _ _ _ _ => rfl, fun _ _ refs hr => ⟨refs, hr⟩, rfl, fun _ _ => rfl, rfl⟩

theorem withEnclosing (w : World) (v : Ref) (bundle : Option Ref) : w.Advances v (w.withEnclosing bundle) :=
  ⟨Nat.le_refl _, fun _ _ _ _ => rfl, fun _ _ refs hr => ⟨refs, hr⟩, rfl, fun _ _ => rfl, rfl⟩

theorem withOwn (hv : w.classOf? v = some cls) (hname : name ∈ progressNames) :
    w.Advances v (w.withOwn v name x) := by
  obtain ⟨attrs, hat⟩ := classOf?_eq_some hv
  have hsame (r : Nat) (hne : r ≠ v) : (w.withOwn v name x).at' r = w.at' r := by
    rw [withOwn_eq hat]
    exact at'_put_of_ne hne
  refine ⟨?_, fun r _ hne _ => hsame r hne, fun r kind refs hr => ⟨refs, ?_⟩, ?_, fun other hother => ?_,
    classes_withOwn _ _ _ _⟩
  · exact Nat.le_of_eq (by rw [withOwn_eq hat, size_put])
  · have hne : r ≠ v := by
      rintro rfl
      cases hat.symm.trans hr
    rw [hsame r hne, hr]
  · rw [classOf?_withOwn hv, hv]
  · rw [own?_withOwn hv, if_neg]
    rintro rfl
    exact hother hname

theorem at'_eq {r : Nat} {o : Object} (h : w.Advances v u) (hv : w.classOf? v = some cls)
    (hr : w.at' r = o) (ho : o.shape ≠ (default : Object).shape) (hset : ∀ kind refs, o ≠ .assets kind refs)
    (hinstance : ∀ cls attrs, o ≠ .instance cls attrs) : u.at' r = o := by
  obtain ⟨attrs, hat⟩ := classOf?_eq_some hv
  have hne : r ≠ v := by
    rintro rfl
    exact hinstance cls attrs (hr.symm.trans hat)
  rw [h.same r (lt_size_of_at' hr ho) hne (by rwa [hr]), hr]

theorem holdsSets {b : Nat} (h : w.Advances v u) (hv : w.classOf? v = some cls) (hb : w.HoldsSets b) :
    u.HoldsSets b := by
  obtain ⟨css, js, k, l, x, y, hbundle, hcss, hjs⟩ := hb
  obtain ⟨x', hcss'⟩ := h.sets css k x hcss
  obtain ⟨y', hjs'⟩ := h.sets js l y hjs
  exact ⟨css, js, k, l, x', y',
    h.at'_eq hv hbundle (by rintro ⟨⟩) (by rintro _ _ ⟨⟩) (by rintro _ _ ⟨⟩), hcss', hjs'⟩

theorem gives {r : Nat} {o : Object} (h : w.Advances v u) (hname : name ∉ progressNames)
    (hx : w.Gives v name (.ref r)) (hr : w.at' r = o) (ho : o.shape ≠ (default : Object).shape)
    (hset : ∀ kind refs, o ≠ .assets kind refs) (hinstance : ∀ cls attrs, o ≠ .instance cls attrs) :
    u.Gives v name (.ref r) ∧ u.at' r = o := by
  have hclass := classValue_congr (w := w) (u := u) h.classes
  cases hx with
  | own hv hp hx =>
    refine ⟨.own (h.classOf.trans hv) ?_ ((h.own name hname).trans hx), h.at'_eq hv hr ho hset hinstance⟩
    rwa [hclass]
  | ofClass hv hown hk hfun =>
    have hru := h.at'_eq hv hr ho hset hinstance
    refine ⟨.ofClass (h.classOf.trans hv) ((h.own name hname).trans hown) ?_ ?_, hru⟩
    · rwa [hclass]
    · rwa [hru, ← hr]

theorem gives_name (h : w.Advances v u) (hname : name ∉ progressNames) (hx : w.Gives v name x)
    (hxname : x.IsName) : u.Gives v name x := by
  cases hx with
  | own hv hp hx =>
    refine .own (h.classOf.trans hv) ?_ ((h.own name hname).trans hx)
    rwa [classValue_congr h.classes]
  | ofClass => cases hxname

/-- A view stays as ordinary as it is when its render goes on. -/
theorem ordinaryView (h : w.Advances v u) (hv : w.OrdinaryView v k) : u.OrdinaryView v k := by
  have hclass := classValue_congr (w := w) (u := u) h.classes
  obtain ⟨⟨cls, hcls, hcomputes⟩, hun, hoverrides, ⟨hconfig, config, hk, hordinary⟩,
    ⟨r, s, hsettings, hr, hs⟩, ⟨q, l, hloader, hq⟩⟩ := hv
  obtain ⟨hconfig', hk'⟩ := h.gives (by simp [progressNames]) hconfig hk (by rintro ⟨⟩)
    (by rintro _ _ ⟨⟩) (by rintro _ _ ⟨⟩)
  obtain ⟨hsettings', hr'⟩ := h.gives (by simp [progressNames]) hsettings hr (by rintro ⟨⟩)
    (by rintro _ _ ⟨⟩) (by rintro _ _ ⟨⟩)
  obtain ⟨hloader', hq'⟩ := h.gives (by simp [progressNames]) hloader hq (by rintro ⟨⟩)
    (by rintro _ _ ⟨⟩) (by rintro _ _ ⟨⟩)
  refine ⟨⟨cls, h.classOf.trans hcls, ?_, ?_, ?_⟩, (h.own _ (by simp [progressNames])).trans hun,
    fun name hname => ?_, ⟨hconfig', config, hk', hordinary⟩, ⟨r, s, hsettings', hr', hs⟩,
    ⟨q, l, hloader', hq'⟩⟩
  · simpa only [hclass] using hcomputes.properties
  · simpa only [hclass] using hcomputes.directories
  · simpa only [hclass] using hcomputes.progress
  · obtain ⟨x, hx, hxname⟩ := hoverrides name hname
    refine ⟨x, h.gives_name ?_ hx hxname, hxname⟩
    simp only [overrideNames, List.mem_cons, List.not_mem_nil, or_false] at hname
    rcases hname with rfl | rfl | rfl | rfl <;> simp [progressNames]

end Advances

end World

/-! ## Stages -/

theorem World.AtStage.congr (hs : w.AtStage v) (hown : u.own? v "stage" = w.own? v "stage")
    (hv : u.classOf? v = w.classOf? v) (hclasses : u.classes = w.classes) : u.AtStage v := by
  obtain ⟨now, hnow⟩ := hs.own
  refine ⟨⟨now, hown.trans hnow⟩, fun cls hcls p => ?_⟩
  rw [World.classValue_congr hclasses]
  exact hs.computed cls (hv.symm.trans hcls) p

theorem World.Twin.atStage (h : w.Twin c w') (hs : w.AtStage v) : w'.AtStage v := by
  obtain ⟨cls, hcls⟩ := hs.exists_classOf
  exact hs.congr (h.own? v "stage") ((h.classOf? hcls).trans hcls.symm) h.classes

theorem World.AtStage.refills (hs : w.AtStage v) (h : w.Refills u) : u.AtStage v := by
  obtain ⟨cls, hcls⟩ := hs.exists_classOf
  have hvu := h.same_context hcls
  refine hs.congr ?_ ?_ h.classes
  · rw [World.own?, hvu]
    rfl
  · rw [World.classOf?, hvu]
    rfl

theorem World.AtStage.withOwn (hs : w.AtStage v) (hname : name ≠ "stage") :
    (w.withOwn v name x).AtStage v := by
  obtain ⟨cls, hcls⟩ := hs.exists_classOf
  refine hs.congr ?_ ?_ (World.classes_withOwn _ _ _ _)
  · rw [World.own?_withOwn hcls, if_neg (Ne.symm hname)]
  · rw [World.classOf?_withOwn hcls, hcls]

theorem World.AtStage.of_withOwn (hv : w.classOf? v = some cls)
    (hclass : ∀ p, w.classValue cls "stage" ≠ some (.property p)) (stage : Stage) :
    (w.withOwn v "stage" (.stage stage)).AtStage v := by
  refine ⟨⟨stage, ?_⟩, fun cls' hcls' p => ?_⟩
  · rw [World.own?_withOwn hv, if_pos rfl]
  · cases hcls'.symm.trans (World.classOf?_withOwn hv)
    rw [World.classValue_congr (World.classes_withOwn _ _ _ _)]
    exact hclass p

/-- Setting an attribute of a context. -/
theorem setAttribute_eq (hv : w.classOf? v = some cls)
    (hclass : ∀ p, w.classValue cls name ≠ some (.property p)) :
    setAttribute (.ref v) name x w = .ok () (w.withOwn v name x) := by
  obtain ⟨attrs, hat⟩ := World.classOf?_eq_some hv
  obtain ⟨u, hu⟩ := exists_setAttribute (x := x) hv hclass
  rw [hu, setAttribute_instance hat hu, World.withOwn_eq hat]

theorem classValue_logs (w : World) (log : Array (String × String)) (cls : Nat) (name : String) :
    World.classValue { w with log } cls name = w.classValue cls name :=
  World.classValue_congr (w := w) (u := { w with log }) rfl cls name

/-- What setting the progress of a view comes to. -/
theorem setAttribute_steady (hv : w.classOf? v = some cls)
    (hclass : ∀ p, w.classValue cls name ≠ some (.property p)) (hname : name ∈ progressNames) :
    Steady c (setAttribute (.ref v) name x) w fun _ u => u = w.withOwn v name x ∧ w.Advances v u := by
  have hset := setAttribute_eq (x := x) hv hclass
  refine ⟨fun w' h => ?_, fun a u hu => ?_⟩
  · have hset' : setAttribute (.ref v) name x w' = .ok () (w'.withOwn v name x) := by
      refine setAttribute_eq (h.classOf? hv) ?_
      rwa [World.classValue_congr h.classes]
    rw [hset, hset']
    exact .ok () (h.withOwn hv)
  · rw [hset] at hu
    cases hu
    exact ⟨rfl, .withOwn hv hname⟩

/-- A view that is at a stage goes on to another one, and that is told in the log. -/
theorem transition_eq (hs : w.AtStage v) (stage : Stage) :
    ∃ log, View.transition (interpreter (n + 1)) (.ref v) stage w =
      .ok () (World.withOwn { w with log } v "stage" (.stage stage)) := by
  obtain ⟨cls, hcls⟩ := hs.exists_classOf
  obtain ⟨u, hu⟩ := exists_transition (n := n) stage hs
  obtain ⟨log, hset⟩ := transition_eq_ok hs hcls hu
  refine ⟨log, ?_⟩
  rw [hu, ← hset]
  refine setAttribute_eq hcls ?_
  simpa only [classValue_logs] using hs.computed cls hcls

theorem transition_steady (hs : w.AtStage v) (stage : Stage) :
    Steady c (View.transition (interpreter (n + 1)) (.ref v) stage) w fun _ u =>
      w.Advances v u ∧ u.AtStage v := by
  obtain ⟨cls, hcls⟩ := hs.exists_classOf
  obtain ⟨log, hgoes⟩ := transition_eq (n := n) hs stage
  refine ⟨fun w' h => ?_, fun a u hu => ?_⟩
  · obtain ⟨log', hgoes'⟩ := transition_eq (n := n) (h.atStage hs) stage
    rw [hgoes, hgoes']
    exact .ok () ((h.logs log log').withOwn hcls)
  · rw [hgoes] at hu
    cases hu
    refine ⟨(World.Advances.logs w v log).trans (.withOwn hcls (by simp [progressNames])), ?_⟩
    refine World.AtStage.of_withOwn (w := { w with log }) hcls ?_ stage
    simpa only [classValue_logs] using hs.computed cls hcls

/-! ## Bundles -/

/-- A method of an object. -/
theorem read_method {r : Nat} {o : Object} (hr : w.at' r = o) (ho : ∀ cls attrs, o ≠ .instance cls attrs)
    (hname : IsPlainName name) (hdata : objectAttribute? o name w = .ok none w)
    (hmethod : (objectMethodNames o).contains name = true) :
    (interpreter (n + 1)).attributeOf (.ref r) name w = .ok (.method (.ref r) name) w := by
  rw [attributeOf_succ]
  exact readAttribute_method hr ho hname hdata hmethod

theorem sees_register {b css js : Nat} (hb : w.at' b = .bundle css js) :
    Sees c ((interpreter (n + 1)).attributeOf (.ref b) "register") (.method (.ref b) "register") w := by
  have hread {w : World} (hb : w.at' b = .bundle css js) :
      (interpreter (n + 1)).attributeOf (.ref b) "register" w = .ok (.method (.ref b) "register") w :=
    read_method hb (by simp) (by simp [IsPlainName]) rfl (by rfl)
  exact ⟨hread hb, fun w' h => hread (h.at'_eq hb (by rintro k ⟨⟩))⟩

/-- Registering a bundle in a bundle, as views do it. -/
theorem callIn_register_steady {b o : Nat} (hb : w.HoldsSets b) (ho : w.HoldsSets o) :
    Steady c (View.callIn (interpreter (n + 2)) (.ref b) "register" [.ref o]) w fun x u =>
      x = .ref b ∧ w.Refills u := by
  have hparts := hb
  obtain ⟨css, js, _, _, _, _, hbundle, -⟩ := hparts
  refine .next (sees_register hbundle) ?_
  have hcall : Steady c (Bundle.register (interpreter (n + 1)) b (.ref o) >>= fun _ =>
      pure (Value.ref b)) w fun x u => x = .ref b ∧ w.Refills u :=
    (registerBundle_steady (interpreter_reads n) hb ho).bind fun _ u hu => .pure ⟨rfl, hu⟩
  refine hcall.congr ?_ fun w' h => ?_
  · rw [apply_method]
    exact callMethod_register_eq hbundle _
  · rw [apply_method]
    exact callMethod_register_eq (h.at'_eq hbundle (by rintro k ⟨⟩)) _

/-- The bundle of the assets of a configuration. -/
theorem World.OrdinaryView.configuredBundle (hv : w.OrdinaryView v k) :
    Steady c (View.configuredBundle (interpreter (n + 1)) (.ref v)) w fun x u =>
      ∃ b, x = .ref b ∧ u.HoldsSets b ∧ w.Refills u := by
  obtain ⟨hconfig, config, hk, -⟩ := hv.config
  refine .next (sees_gives (by simp [IsPlainName]) hconfig) ?_
  have hread {w : World} {config : ViewConfig} (hk : w.at' k = .config config) :
      (interpreter (n + 1)).attributeOf (.ref k) "bundle" w = .ok (.method (.ref k) "bundle") w :=
    read_method hk (by simp) (by simp [IsPlainName]) rfl (by rfl)
  have hcall {w : World} {config : ViewConfig} (hk : w.at' k = .config config) :
      ((interpreter (n + 1)).attributeOf (.ref k) "bundle" >>= fun f =>
        (interpreter (n + 1)).apply f []) w =
        (Bundle.make (interpreter n) (.tuple config.css) (.tuple config.js) >>= fun b => pure (.ref b)) w := by
    rw [bind_of_ok (hread hk), apply_method]
    exact callMethod_bundle_eq hk
  have hmake : Steady c (Bundle.make (interpreter n) (.tuple config.css) (.tuple config.js) >>= fun b =>
      pure (Value.ref b)) w fun x u => ∃ b, x = .ref b ∧ u.HoldsSets b ∧ w.Refills u :=
    (makeBundle_steady config.css config.js w).bind fun b u hout => .pure ⟨b, rfl, hout⟩
  refine hmake.congr (hcall hk) fun w' h => ?_
  -- A configuration has the same assets in twins.
  by_cases hkc : k = c
  · obtain ⟨config₁, config₂, hleft, hright, hbare⟩ := h.config
    rw [← hkc, hk] at hleft
    cases hleft
    have hcss : config₂.css = config.css := show config₂.bare.css = config.bare.css by rw [hbare]
    have hjs : config₂.js = config.js := show config₂.bare.js = config.bare.js by rw [hbare]
    rw [← hcss, ← hjs]
    exact hcall (hkc ▸ hright)
  · exact hcall ((h.same k hkc).trans hk)

/-- A view with a bundle for what is registered on it. -/
def World.HasRegistered (w : World) (v : Ref) : Prop :=
  ∃ r, w.Gives v "_registered" (.ref r) ∧ w.HoldsSets r

theorem World.Advances.hasRegistered (h : w.Advances v u) (hv : w.classOf? v = some cls)
    (hr : w.HasRegistered v) : u.HasRegistered v := by
  obtain ⟨r, hgives, hsets⟩ := hr
  have hparts := hsets
  obtain ⟨css, js, _, _, _, _, hbundle, -⟩ := hparts
  exact ⟨r, (h.gives (by simp [progressNames]) hgives hbundle (by rintro ⟨⟩) (by rintro _ _ ⟨⟩)
    (by rintro _ _ ⟨⟩)).1, h.holdsSets hv hsets⟩

/-- A render begins with a bundle, and at a stage. -/
theorem World.OrdinaryView.startBundle (hv : w.OrdinaryView v k) (hr : w.HasRegistered v) :
    Steady c (View.startBundle (interpreter (n + 2)) (.ref v)) w fun x u =>
      ∃ b, x = .ref b ∧ u.HoldsSets b ∧ w.Advances v u ∧ u.AtStage v := by
  obtain ⟨cls, hcls, hcomputes⟩ := hv.computes
  have hstage := hcomputes.progress "stage" (by simp [progressNames])
  have hassets := hcomputes.progress "_assets" (by simp [progressNames])
  -- The stage is set.
  refine (setAttribute_steady hcls hstage (by simp [progressNames])).bind fun _ u hout => ?_
  obtain ⟨hu, h₁⟩ := hout
  have hcls₁ : u.classOf? v = some cls := h₁.classOf.trans hcls
  have hat₁ : u.AtStage v := by
    rw [hu]
    exact .of_withOwn hcls hstage _
  -- The bundle of the configuration is made.
  refine (h₁.ordinaryView hv).configuredBundle.bind fun x u₂ hout => ?_
  obtain ⟨b, hx, hb, hrefills⟩ := hout
  subst hx
  have h₂ := World.Advances.of_refills hrefills hcls₁
  -- What is registered is added.
  obtain ⟨r, hgives, hsets⟩ := (h₁.trans h₂).hasRegistered hcls hr
  refine .next (sees_gives (by simp [IsPlainName]) hgives) ?_
  refine (callIn_register_steady hb hsets).bind fun x u₃ hout => ?_
  obtain ⟨hx, hrefills'⟩ := hout
  subst hx
  have h₃ := World.Advances.of_refills hrefills' (h₂.classOf.trans hcls₁)
  have hadvances := h₁.trans (h₂.trans h₃)
  have hcls₃ := hadvances.classOf.trans hcls
  -- The bundle becomes that of the view.
  refine (setAttribute_steady hcls₃ ?_ (by simp [progressNames])).bind fun _ u₄ hout => ?_
  · rwa [World.classValue_congr hadvances.classes]
  · obtain ⟨hu₄, h₄⟩ := hout
    refine .pure ⟨b, rfl, h₄.holdsSets hcls₃ (hrefills'.holdsSets hb), hadvances.trans h₄, ?_⟩
    rw [hu₄]
    exact ((hat₁.refills hrefills).refills hrefills').withOwn (by simp)

/-- A finished render gives its bundle to the one around it. -/
theorem giveAssets_steady {b : Nat} {around : Option Ref}
    (hsets : ∀ o, around = some o → w.HoldsSets o ∧ w.HoldsSets b) :
    Steady c (View.giveAssets (interpreter (n + 2)) around (.ref b)) w fun _ _ => True := by
  cases around with
  | none => exact .pure trivial
  | some o =>
    obtain ⟨ho, hb⟩ := hsets o rfl
    unfold View.giveAssets
    dsimp only
    split
    · exact (callIn_register_steady ho hb).bind fun _ u _ => .pure trivial
    · exact .pure trivial

/-! ## Loading the content -/

instance blind_loadError {α : Type} (l : Loader) (e : LoadError) : Blind c (e.raise l : Action α) := by
  cases e with
  | notFound name =>
    unfold LoadError.raise raiseValue
    infer_instance
  | unknownEncoding name =>
    unfold LoadError.raise
    infer_instance
  | undecodable e => cases e <;> (unfold LoadError.raise; infer_instance)
  | compile path e =>
    unfold LoadError.raise valueError
    dsimp only
    split <;> infer_instance

theorem loadError_not_ok {α : Type} {a : α} {l : Loader} {e : LoadError} :
    ¬ (e.raise l : Action α) w = .ok a u := by
  cases e with
  | notFound name => simp [LoadError.raise, raiseValue, bind_eq_ok]
  | unknownEncoding name => simp [LoadError.raise]
  | undecodable e => cases e <;> simp [LoadError.raise]
  | compile path e =>
    simp only [LoadError.raise]
    cases e.fault? path <;> simp

/-- What reading a template from some files comes to. -/
def Loader.given (l : Loader) (r : Except LoadError Source) : Action Source :=
  match r with
  | .ok s => pure s
  | .error e => e.raise l

theorem Loader.readSource_eq (l : Loader) (path encoding : String) (w : World) :
    l.readSource path encoding w = l.given (l.read w.files encoding path) w := rfl

/-- Reading a template depends on the files alone. -/
theorem readSource_steady (l : Loader) (path encoding : String) :
    Steady c (l.readSource path encoding) w fun _ u => u = w := by
  have hread : Steady c (l.given (l.read w.files encoding path)) w fun _ u => u = w := by
    cases l.read w.files encoding path with
    | ok s => exact .pure rfl
    | error e => exact .stops ((blind_loadError l e).unread w) fun _ _ => loadError_not_ok
  refine hread.congr (l.readSource_eq path encoding w) fun w' h => ?_
  rw [Loader.readSource_eq, h.files]

theorem logMessage_steady (source message : String) :
    Steady c (logMessage source message) w fun _ u => w.Refills u := by
  refine ⟨(blind_logMessage source message).unread w, fun a u hu => ?_⟩
  obtain rfl := logMessage_eq_ok.1 hu
  exact .of_changesOnly ⟨Nat.le_refl _, fun _ _ _ => rfl, rfl, rfl⟩

theorem loadTemplate_steady (l : Loader) (path encoding : String) :
    Steady c (l.loadTemplate path encoding) w fun _ u => w.Refills u := by
  refine (readSource_steady l path encoding).bind fun source u hu => ?_
  subst hu
  refine (logMessage_steady _ _).bind fun _ u₁ h₁ => ?_
  unfold Template.make
  split
  · exact (logMessage_steady _ _).bind fun _ u₂ h₂ => .pure (h₁.trans h₂)
  · split
    · exact .raiseFault
    · exact .raiseText

theorem missingAttribute_steady {α : Type} {P : α → World → Prop} (x : Value) (name : String) :
    Steady c (missingAttribute x name : Action α) w P := by
  refine .stops ((blind_missingAttribute x name).unread w) fun a u => ?_
  cases x <;> simp [missingAttribute, bind_eq_ok]

theorem splitArgument_steady (x : Value) : Steady c (match x.text? with
    | some s => pure s
    | none => missingAttribute x "split") w fun _ u => u = w := by
  cases x.text? with
  | some s => exact .pure rfl
  | none => exact missingAttribute_steady x "split"

/-- A loader that is asked for a template gives a new one. -/
theorem loadMethod_steady (l : Loader) (x y : Value) :
    Steady c (l.method "load" { items := [x, y] }) w fun a u =>
      ∃ q t, a = .ref q ∧ u.at' q = .template t ∧ w.Refills u := by
  unfold Loader.method
  refine .next ⟨matched_eq rfl rfl w, fun w' _ => matched_eq rfl rfl w'⟩ ?_
  refine (splitArgument_steady x).bind fun path u hu => ?_
  subst hu
  refine (splitArgument_steady y).bind fun encoding u hu => ?_
  subst hu
  refine (loadTemplate_steady l path encoding).bind fun t u₁ h₁ => ?_
  refine (Steady.alloc (P := fun q u => q = u₁.objects.size ∧ u = u₁.push (.template t)) ⟨rfl, rfl⟩).bind
    fun q u hout => .pure ⟨q, t, rfl, ?_, ?_⟩
  · rw [hout.2, hout.1, World.at'_push_size]
  · rw [hout.2]
    exact h₁.trans (.push _ _)

/-- The method of a loader that loads templates. -/
theorem read_load {r : Nat} {l : Loader} (hr : w.at' r = .loader l) :
    (interpreter (n + 1)).attributeOf (.ref r) "load" w = .ok (.method (.ref r) "load") w :=
  read_method hr (by simp) (by simp [IsPlainName]) rfl (by rfl)

theorem sees_load_method {r : Nat} {l : Loader} (hr : w.at' r = .loader l) :
    Sees c ((interpreter (n + 1)).attributeOf (.ref r) "load") (.method (.ref r) "load") w :=
  ⟨read_load hr, fun _ h => read_load (h.at'_eq hr (by rintro k ⟨⟩))⟩

theorem apply_load {r : Nat} {l : Loader} (hr : w.at' r = .loader l) (args : List Value) :
    (interpreter (n + 1)).apply (.method (.ref r) "load") args w = l.method "load" { items := args } w := by
  rw [apply_method]
  refine (bind_of_ok (load_ok w r)).trans ?_
  rw [hr]

/-- A view loads its content through its loader. -/
theorem World.OrdinaryView.loadContent (hv : w.OrdinaryView v k) (hs : w.AtStage v) (encoding : Value) :
    Steady c (View.loadContent (interpreter (n + 3)) (.ref v) encoding) w fun a u =>
      ∃ q t, a = .ref q ∧ u.at' q = .template t ∧ w.Advances v u ∧ u.AtStage v := by
  obtain ⟨cls, hcls⟩ := hs.exists_classOf
  refine (transition_steady hs .contentCompiling).bind fun _ u₁ hout => ?_
  obtain ⟨h₁, hs₁⟩ := hout
  have hv₁ := h₁.ordinaryView hv
  obtain ⟨r, l, hloader, hr⟩ := hv₁.loader
  refine .next (sees_gives (by simp [IsPlainName]) hloader) (.next (sees_load_method hr) ?_)
  refine hv₁.template_path.bind fun path u₂ hout => ?_
  obtain ⟨hu₂, _⟩ := hout
  subst hu₂
  refine ((loadMethod_steady l path encoding).mono fun a u hout => ?_).congr
    (apply_load hr _) fun w' h => apply_load (h.at'_eq hr (by rintro k ⟨⟩)) _
  obtain ⟨q, t, ha, hq, hu⟩ := hout
  have hadvances := h₁.trans (.of_refills hu (h₁.classOf.trans hcls))
  exact ⟨q, t, ha, hq, hadvances, hs₁.refills hu⟩

end

end Stencil
