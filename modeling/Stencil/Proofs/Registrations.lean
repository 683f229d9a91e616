import Stencil.Proofs.OrderedUnions
import Stencil.Proofs.Reaching
import Stencil.Proofs.RenderSteps

/-!
# What is registered on views

A view has two bundles of its own: one for what is registered on it and one for what its current render
collects. A call of `register` adds to both and to nothing else. Since no two views have a bundle or a set
in common, what is registered on a view can be told from the calls on that view alone.
-/

namespace Stencil

open World Evaluation

/-! ## Bundles of views -/

/-- Where a bundle and its two sets are. -/
structure BundlePlaces where
  bundle : Ref
  css : Ref
  js : Ref
  deriving DecidableEq, Repr

/-- Two bundles without a part in common. -/
structure BundlePlaces.Apart (p q : BundlePlaces) : Prop where
  bundle : p.bundle ≠ q.bundle
  css : p.css ≠ q.css
  js : p.js ≠ q.js

theorem BundlePlaces.Apart.symm {p q : BundlePlaces} (h : p.Apart q) : q.Apart p :=
  ⟨h.bundle.symm, h.css.symm, h.js.symm⟩

/-- The names of the bundles of a view. -/
def bundleNames : List String := ["_registered", "_assets"]

theorem mem_bundleNames {name : String} : name ∈ bundleNames ↔ name = "_registered" ∨ name = "_assets" := by
  simp [bundleNames]

namespace World

/-- The references of both kinds in a bundle. -/
abbrev BundleAt (w : World) (p : BundlePlaces) (refs : References) : Prop :=
  w.BundleOf p.bundle p.css p.js refs

/-- The bundle that a view has under a name. -/
def bundleIn? (w : World) (v : Ref) (name : String) : Option BundlePlaces :=
  match w.own? v name with
  | some (.ref b) =>
    match w.at' b with
    | .bundle css js => some ⟨b, css, js⟩
    | _ => none
  | _ => none

/-- A view whose bundles are found by its own attributes, with the references of its class. -/
structure IsInstance (w : World) (v : Ref) (config : References) : Prop where
  view : ∃ cls, w.IsView v cls ∧ w.Configured cls config ∧
    ∀ p, w.classValue cls "stage" ≠ some (.property p)
  unshadowed : w.own? v "config" = none

/-- A view with the references that are registered on it. -/
structure Instance (w : World) (v : Ref) (registered : References) : Prop where
  isInstance : ∃ config, w.IsInstance v config
  registered : ∃ p, w.bundleIn? v "_registered" = some p ∧ w.BundleAt p registered.distinct
  current : ∃ (p : BundlePlaces) (refs : References),
    w.bundleIn? v "_assets" = some p ∧ w.BundleAt p refs.distinct

variable {w u : World} {v : Nat} {name : String} {p q : BundlePlaces} {x y : References}

theorem bundleIn?_eq_some (h : w.bundleIn? v name = some p) :
    w.own? v name = some (.ref p.bundle) ∧ w.at' p.bundle = .bundle p.css p.js := by
  unfold bundleIn? at h
  split at h
  · rename_i b hb
    split at h
    · rename_i css js hat
      cases h
      exact ⟨hb, hat⟩
    · cases h
  · cases h

theorem bundleIn?_of_own (h : w.own? v name = some (.ref p.bundle))
    (hat : w.at' p.bundle = .bundle p.css p.js) : w.bundleIn? v name = some p := by
  rw [bundleIn?, h]
  dsimp only
  rw [hat]

theorem BundleOf.lt_size (h : w.BundleAt p x) :
    p.bundle < w.objects.size ∧ p.css < w.objects.size ∧ p.js < w.objects.size :=
  ⟨h.isBundle.lt_size, h.isBundle.css.lt_size, h.isBundle.js.lt_size⟩

theorem BundleOf.congr (h : w.BundleAt p x) (hb : u.at' p.bundle = w.at' p.bundle)
    (hc : u.at' p.css = w.at' p.css) (hj : u.at' p.js = w.at' p.js) : u.BundleAt p x :=
  ⟨hb.trans h.parts, hc.trans h.css, hj.trans h.js⟩

theorem BundleOf.keep {places : List Ref} (h : w.BundleAt p x) (hu : w.ChangesOnly places u)
    (hb : p.bundle ∉ places) (hc : p.css ∉ places) (hj : p.js ∉ places) : u.BundleAt p x :=
  h.congr (hu.same _ h.lt_size.1 hb) (hu.same _ h.lt_size.2.1 hc) (hu.same _ h.lt_size.2.2 hj)

theorem BundleOf.unique (h : w.BundleAt p x) (h' : w.BundleAt p y) : x = y :=
  h.isBundle.unique h'.isBundle

/-- A bundle with other sets is left alone by what fills the sets of a bundle. -/
theorem BundleOf.keep_apart (h : w.BundleAt p x) (hq : w.BundleAt q y) (hpq : p.Apart q)
    (hu : w.ChangesOnly [q.css, q.js] u) : u.BundleAt p x := by
  refine h.keep hu ?_ ?_ ?_
  · have hcss := h.isBundle.ne_of_holds hq.isBundle.css
    have hjs := h.isBundle.ne_of_holds hq.isBundle.js
    simp [hcss, hjs]
  · have hcj := h.css_ne_js hq
    simp [hpq.css, hcj]
  · have hjc := Ne.symm (hq.css_ne_js h)
    simp [hpq.js, hjc]

end World

/-! ## Registering a bundle in a bundle -/

section

variable {n : Nat} {w u : World} {p q : BundlePlaces} {x y : References} {z : Value}

theorem insertMany_self (a : List String) : (OrderedSet.insertMany ⟨a⟩ a).toList = a := by
  rw [OrderedSet.insertMany_of_subset fun _ => id]

/-- A bundle whose references were added to another one holds what it held, also when the two have sets in
common. -/
theorem World.BundleOf.keep_argument (hp : w.BundleAt p x) (hq : w.BundleAt q y)
    (hu : u.BundleAt p (x.adding y)) (hchanges : w.ChangesOnly [p.css, p.js] u) : u.BundleAt q y := by
  obtain ⟨hqb, hqc, hqj⟩ := hq.lt_size
  have hparts : q.bundle ∉ [p.css, p.js] := by
    have hcss := hq.isBundle.ne_of_holds hp.isBundle.css
    have hjs := hq.isBundle.ne_of_holds hp.isBundle.js
    simp [hcss, hjs]
  have hcj := hq.css_ne_js hp
  have hjc := Ne.symm (hp.css_ne_js hq)
  refine ⟨(hchanges.same _ hqb hparts).trans hq.parts, ?_, ?_⟩
  · by_cases hc : q.css = p.css
    · have hsame : x.css = y.css := hp.isBundle.css.unique (hc ▸ hq.isBundle.css)
      have hcss := hu.css
      rw [References.adding, hsame, insertMany_self] at hcss
      rw [hc, hcss]
    · rw [hchanges.same _ hqc (by simp [hc, hcj]), hq.css]
  · by_cases hj : q.js = p.js
    · have hsame : x.js = y.js := hp.isBundle.js.unique (hj ▸ hq.isBundle.js)
      have hjs := hu.js
      rw [References.adding, hsame, insertMany_self] at hjs
      rw [hj, hjs]
    · rw [hchanges.same _ hqj (by simp [hj, hjc]), hq.js]

/-- Registering a bundle in another one, as views do it. -/
theorem callIn_bundle_eq_ok (hp : w.BundleAt p x) (hq : w.BundleAt q y)
    (h : View.callIn (interpreter n) (.ref p.bundle) "register" [.ref q.bundle] w = .ok z u) :
    z = .ref p.bundle ∧ u.BundleAt p (x.adding y) ∧ w.ChangesOnly [p.css, p.js] u ∧ u.BundleAt q y := by
  cases n with
  | zero =>
    obtain ⟨_, _, h, _⟩ := bind_eq_ok.1 h
    exact absurd h attributeOf_zero
  | succ n =>
    obtain ⟨_, _, hread, h⟩ := bind_eq_ok.1 h
    obtain ⟨rfl, rfl⟩ := attributeOf_bundle_register hp.parts hread
    rw [apply_method] at h
    obtain ⟨rfl, _, h⟩ := callMethod_bundle_register hp.parts h
    cases n with
    | zero =>
      rw [Bundle.register, bind_of_ok (parts_eq hp.parts)] at h
      obtain ⟨_, _, hread, -⟩ := bind_eq_ok.1 h
      exact absurd hread attributeOf_zero
    | succ n =>
      obtain ⟨hu, hchanges⟩ := register_eq_ok (interpreter_reads n) hp hq h
      exact ⟨rfl, hu, hchanges, hp.keep_argument hq hu hchanges⟩

theorem exists_callIn_bundle (hp : w.BundleAt p x) (hq : w.BundleAt q y) (hcss : y.css.length < maxRounds)
    (hjs : y.js.length < maxRounds) : ∃ u,
      View.callIn (interpreter (n + 2)) (.ref p.bundle) "register" [.ref q.bundle] w =
        .ok (.ref p.bundle) u := by
  have hread : (interpreter (n + 2)).attributeOf (.ref p.bundle) "register" w =
      .ok (.method (.ref p.bundle) "register") w := by
    rw [attributeOf_succ, readAttribute_method hp.parts (by simp) (by simp [IsPlainName]) rfl (by rfl)]
  obtain ⟨u, hu⟩ := exists_register (m := interpreter (n + 1)) (interpreter_reads n) hp hq hcss hjs
  refine ⟨u, (bind_of_ok hread).trans ?_⟩
  rw [apply_method]
  exact callMethod_register hp.parts hu

end

/-! ## What can be registered -/

/-- What the program can register on a view, the bundle that it is handed in, if any, and the references
that it comes to at the moment. -/
inductive World.Offers (w : World) : Value → Option BundlePlaces → References → Prop
  | type {cls : Nat} {refs : References} (h : w.Configured cls refs) :
      w.Offers (.type (.context cls)) none refs.distinct
  | view {x cls : Nat} {p : BundlePlaces} {refs : References} (hx : w.IsView x cls)
      (hp : w.bundleIn? x "_assets" = some p) (h : w.BundleAt p refs) : w.Offers (.ref x) (some p) refs
  | bundle {p : BundlePlaces} {refs : References} (h : w.BundleAt p refs) :
      w.Offers (.ref p.bundle) (some p) refs

/-- The bundle that a call of `register` takes. -/
def View.offered (m : Interpreter) (other : Value) : Action Value := do
  match other with
  | .type _ => configuredBundle m other
  | other => if ← isView other then m.attributeOf other "assets" else pure other

/-- A bundle is registered in the bundle for what is registered on a view, then in the one for what its
current render collects. -/
def View.registerBundle (m : Interpreter) (self bundle : Value) : Action Value := do
  let _ ← callIn m (← m.attributeOf self "_registered") "register" [bundle]
  callIn m (← m.attributeOf self "_assets") "register" [bundle]

theorem View.register_eq (m : Interpreter) (self other : Value) :
    View.register m self other = (offered m other >>= registerBundle m self) := by
  unfold View.register View.offered
  cases other with
  | type t => rfl
  | ref r =>
    simp only [bind_assoc]
    refine bind_congr fun b => ?_
    cases b <;> rfl
  | _ =>
    simp only [bind_assoc]
    refine bind_congr fun b => ?_
    cases b <;> rfl

section

variable {n : Nat} {w u : World} {v cls : Nat} {r a q : BundlePlaces} {x y z refs : References}
  {other val : Value} {place : Option BundlePlaces}

theorem attributeOf_type_config {k : Ref} (hk : w.classValue cls "config" = some (.ref k)) :
    (interpreter (n + 1)).attributeOf (.type (.context cls)) "config" w = .ok (.ref k) w := by
  rw [attributeOf_succ]
  refine (bind_of_ok (classAttribute?_eq w cls "config")).trans ?_
  rw [hk]
  rfl

theorem isView_bundle (h : w.BundleAt q y) : View.isView (.ref q.bundle) w = .ok false w := by
  refine (bind_of_ok (object?_ref w q.bundle)).trans ?_
  rw [h.parts]
  rfl

/-- What is offered is a bundle with the references that it comes to. -/
theorem offered_eq_ok (ho : w.Offers other place y)
    (h : View.offered (interpreter n) other w = .ok val u) :
    ∃ q : BundlePlaces, val = .ref q.bundle ∧ u.BundleAt q y ∧ w.ChangesOnly [] u ∧
      ∀ p ∈ place, q = p := by
  cases ho with
  | @type cls refs hconfigured =>
    obtain ⟨k, config, hk, hat, hlists⟩ := hconfigured
    unfold View.offered View.configuredBundle at h
    obtain ⟨_, _, hread, h⟩ := bind_eq_ok.1 h
    cases n with
    | zero => exact absurd hread attributeOf_zero
    | succ n =>
      rw [attributeOf_type_config hk] at hread
      cases hread
      obtain ⟨_, _, hbundle, h⟩ := bind_eq_ok.1 h
      obtain ⟨rfl, rfl⟩ := attributeOf_config_bundle hat hbundle
      rw [apply_method] at h
      obtain ⟨b, rfl, ⟨c, j, -, hb⟩, hchanges⟩ := callMethod_config_bundle hat hlists h
      exact ⟨⟨b, c, j⟩, rfl, hb, hchanges, fun p hp => absurd hp (Option.not_mem_none p)⟩
  | @view x cls p _ hx hp hy =>
    unfold View.offered at h
    dsimp only at h
    rw [bind_of_ok (isView_eq hx), if_pos rfl] at h
    obtain ⟨rfl, rfl⟩ := attributeOf_assets hx (World.bundleIn?_eq_some hp).1 h
    exact ⟨p, rfl, hy, .refl _ _, fun q hq => Option.mem_some.1 hq⟩
  | @bundle p _ hy =>
    unfold View.offered at h
    dsimp only at h
    rw [bind_of_ok (isView_bundle hy), if_neg Bool.false_ne_true] at h
    cases h
    exact ⟨p, rfl, hy, .refl _ _, fun q hq => Option.mem_some.1 hq⟩

/-! ## Worlds in which only sets differ -/

namespace World

variable {places : List Ref} {name : String} {p : BundlePlaces} {config : References}

theorem ChangesOnly.same_of_ne_assets (h : w.ChangesOnly places u)
    (hplaces : ∀ s ∈ places, ∃ kind refs, w.at' s = .assets kind refs) {r : Nat}
    (hlt : r < w.objects.size) (hr : ∀ kind refs, w.at' r ≠ .assets kind refs) : u.at' r = w.at' r := by
  refine h.same r hlt fun hmem => ?_
  obtain ⟨kind, refs, hat⟩ := hplaces r hmem
  exact hr kind refs hat

/-- A view stays what it is when only sets change. -/
theorem IsInstance.keep_sets (hv : w.IsInstance v config) (h : w.ChangesOnly places u)
    (hplaces : ∀ s ∈ places, ∃ kind refs, w.at' s = .assets kind refs) : u.IsInstance v config := by
  obtain ⟨⟨cls, hview, ⟨k, c, hk, hat, hlists⟩, hstage⟩, hun⟩ := hv
  obtain ⟨attrs, hv⟩ := classOf?_eq_some hview.classOf
  have hvu : u.at' v = w.at' v := by
    refine h.same_of_ne_assets hplaces (lt_size_of_classOf? hview.classOf) fun kind refs hr => ?_
    rw [hv] at hr
    cases hr
  have hku : u.at' k = w.at' k := by
    refine h.same_of_ne_assets hplaces (lt_size_of_at' hat (by rintro ⟨⟩)) fun kind refs hr => ?_
    rw [hat] at hr
    cases hr
  have hclass (name : String) : u.classValue cls name = w.classValue cls name :=
    classValue_congr h.classes cls name
  refine ⟨⟨cls, ⟨?_, ?_, ?_, fun name hname => ?_⟩, ⟨k, c, ?_, ?_, hlists⟩, ?_⟩, ?_⟩
  · rw [classOf?, hvu]
    exact hview.classOf
  · rw [classAt', h.classes]
    exact hview.kind
  · rw [hclass]
    exact hview.assets
  · rw [hclass]
    exact hview.computed name hname
  · rw [hclass, hk]
  · rw [hku, hat]
  · rw [hclass]
    exact hstage
  · rw [own?, hvu]
    exact hun

theorem IsInstance.own_keep_sets (hv : w.IsInstance v config) (h : w.ChangesOnly places u)
    (hplaces : ∀ s ∈ places, ∃ kind refs, w.at' s = .assets kind refs) (name : String) :
    u.own? v name = w.own? v name := by
  obtain ⟨⟨cls, hview, -, -⟩, -⟩ := hv
  obtain ⟨attrs, hat⟩ := classOf?_eq_some hview.classOf
  have hvu : u.at' v = w.at' v := by
    refine h.same_of_ne_assets hplaces (lt_size_of_classOf? hview.classOf) fun kind refs hr => ?_
    rw [hat] at hr
    cases hr
  rw [own?, own?, hvu]

theorem BundleOf.sets (h : w.BundleAt p x) :
    ∀ s ∈ [p.css, p.js], ∃ kind refs, w.at' s = .assets kind refs := by
  intro s hs
  simp only [List.mem_cons, List.not_mem_nil, or_false] at hs
  rcases hs with rfl | rfl
  · exact ⟨_, _, h.css⟩
  · exact ⟨_, _, h.js⟩

end World

/-! ## Registering a bundle on a view -/

/-- A bundle that is registered on a view is added to the two bundles of the view. -/
theorem registerBundle_eq_ok {config : References} (hv : w.IsInstance v config)
    (hr : w.bundleIn? v "_registered" = some r) (hx : w.BundleAt r x)
    (ha : w.bundleIn? v "_assets" = some a) (hz : w.BundleAt a z) (hra : r.Apart a)
    (hq : w.BundleAt q y)
    (h : View.registerBundle (interpreter n) (.ref v) (.ref q.bundle) w = .ok val u) :
    ∃ w₁, val = .ref a.bundle ∧ w₁.BundleAt r (x.adding y) ∧ w₁.BundleAt a z ∧ w₁.BundleAt q y ∧
      w.ChangesOnly [r.css, r.js] w₁ ∧ u.BundleAt r (x.adding y) ∧ u.BundleAt a (z.adding y) ∧
      u.BundleAt q y ∧ w₁.ChangesOnly [a.css, a.js] u := by
  have hown := (World.bundleIn?_eq_some hr).1
  have howna := (World.bundleIn?_eq_some ha).1
  unfold View.registerBundle at h
  obtain ⟨_, _, hread, h⟩ := bind_eq_ok.1 h
  obtain ⟨cls, hview, -, -⟩ := hv.view
  obtain ⟨rfl, rfl⟩ := attributeOf__registered hview hown hread
  obtain ⟨_, w₁, hfirst, h⟩ := bind_eq_ok.1 h
  obtain ⟨-, hr₁, hchanges₁, hq₁⟩ := callIn_bundle_eq_ok hx hq hfirst
  have hz₁ := hz.keep_apart hx hra.symm hchanges₁
  have hv₁ := hv.keep_sets hchanges₁ hx.sets
  obtain ⟨_, _, hread, h⟩ := bind_eq_ok.1 h
  obtain ⟨cls₁, hview₁, -, -⟩ := hv₁.view
  rw [← hv.own_keep_sets hchanges₁ hx.sets] at howna
  obtain ⟨rfl, rfl⟩ := attributeOf__assets hview₁ howna hread
  obtain ⟨hval, ha₂, hchanges₂, hq₂⟩ := callIn_bundle_eq_ok hz₁ hq₁ h
  exact ⟨w₁, hval, hr₁, hz₁, hq₁, hchanges₁, hr₁.keep_apart hz₁ hra hchanges₂, ha₂, hq₂, hchanges₂⟩

/-! ## Calls that return -/

/-- References of which an iteration comes to the end. -/
structure References.Fits (refs : References) : Prop where
  css : refs.css.length < maxRounds
  js : refs.js.length < maxRounds

theorem read_own? {name : String} (hv : w.classOf? v = some cls) (hname : IsPlainName name)
    (hclass : ∀ p, w.classValue cls name ≠ some (.property p)) (hx : w.own? v name = some val) :
    (interpreter (n + 1)).attributeOf (.ref v) name w = .ok val w := by
  obtain ⟨attrs, hat⟩ := World.classOf?_eq_some hv
  rw [World.own?_eq hat] at hx
  rw [attributeOf_succ, readAttribute_instance hat (.inl hname), contextAttribute_own hclass hx]

theorem read_bundle {name : String} {p : BundlePlaces} (hv : w.IsView v cls) (hname : name ∈ bundleNames)
    (hp : w.bundleIn? v name = some p) :
    (interpreter (n + 1)).attributeOf (.ref v) name w = .ok (.ref p.bundle) w := by
  have hcases := mem_bundleNames.1 hname
  have hplain : IsPlainName name := by
    rcases hcases with rfl | rfl
    · simp [IsPlainName]
    · simp [IsPlainName]
  refine read_own? hv.classOf hplain (hv.computed name ?_) (World.bundleIn?_eq_some hp).1
  rcases hcases with rfl | rfl
  · simp
  · simp

theorem read_assets (hv : w.IsView v cls) (ha : w.bundleIn? v "_assets" = some a) :
    (interpreter (n + 2)).attributeOf (.ref v) "assets" w = .ok (.ref a.bundle) w := by
  obtain ⟨attrs, hat⟩ := World.classOf?_eq_some hv.classOf
  rw [attributeOf_property hat (by simp [IsPlainName]) hv.assets]
  exact read_bundle hv (by simp [mem_bundleNames]) ha

theorem read_config {k : Ref} {config : ViewConfig} (hv : w.classOf? v = some cls)
    (hk : w.classValue cls "config" = some (.ref k)) (hat : w.at' k = .config config)
    (hown : w.own? v "config" = none) :
    (interpreter (n + 1)).attributeOf (.ref v) "config" w = .ok (.ref k) w := by
  obtain ⟨attrs, hv⟩ := World.classOf?_eq_some hv
  rw [World.own?_eq hv] at hown
  rw [attributeOf_class hv (by simp [IsPlainName]) hk (by simp) hown, bindAttribute,
    bind_of_ok (load_ok w k), hat]
  rfl

/-- The configuration of a value gives a bundle. -/
theorem exists_configuredBundle {self : Value} {k : Nat} {config : ViewConfig}
    (hread : (interpreter (n + 2)).attributeOf self "config" w = .ok (.ref k) w)
    (hat : w.at' k = .config config) (hlists : config.Lists refs) (hfits : refs.Fits) :
    ∃ x u, View.configuredBundle (interpreter (n + 2)) self w = .ok x u := by
  have hmethod : (interpreter (n + 2)).attributeOf (.ref k) "bundle" w =
      .ok (.method (.ref k) "bundle") w := by
    rw [attributeOf_succ, readAttribute_method hat (by simp) (by simp [IsPlainName]) rfl (by rfl)]
  obtain ⟨o, -, -, u, hu, -⟩ :=
    bundle_of_config (m := interpreter (n + 1)) hat hlists hfits.css hfits.js
  refine ⟨.ref o, u, (bind_of_ok hread).trans ((bind_of_ok hmethod).trans ?_)⟩
  rw [apply_method]
  exact hu

/-- The references that are offered, and those that a class lists, can be gone through. -/
structure World.OffersFew (w : World) (other : Value) (refs : References) : Prop where
  offered : refs.Fits
  listed : ∀ cls listed, other = .type (.context cls) → w.Configured cls listed → listed.Fits

theorem exists_offered (ho : w.Offers other place y) (hfew : w.OffersFew other y) :
    ∃ x u, View.offered (interpreter (n + 2)) other w = .ok x u := by
  cases ho with
  | @type cls refs h =>
    have hrefs := hfew.listed cls refs rfl h
    obtain ⟨k, config, hk, hat, hlists⟩ := h
    exact exists_configuredBundle (attributeOf_type_config hk) hat hlists hrefs
  | @view x cls p _ hx hp h =>
    refine ⟨.ref p.bundle, w, ?_⟩
    unfold View.offered
    dsimp only
    rw [bind_of_ok (isView_eq hx), if_pos rfl]
    exact read_assets hx hp
  | @bundle p _ h =>
    refine ⟨.ref p.bundle, w, ?_⟩
    unfold View.offered
    dsimp only
    rw [bind_of_ok (isView_bundle h), if_neg Bool.false_ne_true]
    rfl

theorem exists_registerBundle {config : References} (hv : w.IsInstance v config)
    (hr : w.bundleIn? v "_registered" = some r) (hx : w.BundleAt r x)
    (ha : w.bundleIn? v "_assets" = some a) (hz : w.BundleAt a z) (hra : r.Apart a)
    (hq : w.BundleAt q y) (hfits : y.Fits) :
    ∃ x u, View.registerBundle (interpreter (n + 2)) (.ref v) (.ref q.bundle) w = .ok x u := by
  obtain ⟨cls, hview, -, -⟩ := hv.view
  obtain ⟨w₁, hfirst⟩ := exists_callIn_bundle (n := n) hx hq hfits.css hfits.js
  obtain ⟨-, -, hchanges₁, hq₁⟩ := callIn_bundle_eq_ok hx hq hfirst
  have hz₁ := hz.keep_apart hx hra.symm hchanges₁
  obtain ⟨cls₁, hview₁, -, -⟩ := (hv.keep_sets hchanges₁ hx.sets).view
  have ha₁ : w₁.bundleIn? v "_assets" = some a := by
    apply World.bundleIn?_of_own
    · rw [hv.own_keep_sets hchanges₁ hx.sets]
      exact (World.bundleIn?_eq_some ha).1
    · exact hz₁.parts
  obtain ⟨u, hsecond⟩ := exists_callIn_bundle (n := n) hz₁ hq₁ hfits.css hfits.js
  refine ⟨.ref a.bundle, u, ?_⟩
  unfold View.registerBundle
  rw [bind_of_ok (read_bundle hview (by simp [mem_bundleNames]) hr), bind_of_ok hfirst,
    bind_of_ok (read_bundle hview₁ (by simp [mem_bundleNames]) ha₁)]
  exact hsecond

end

end Stencil
