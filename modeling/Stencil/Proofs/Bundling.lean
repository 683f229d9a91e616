import Stencil.Proofs.Calling
import Stencil.Proofs.Collecting

/-!
# Bundles

A bundle is a set of stylesheets and a set of scripts. Registering one bundle in another adds the
references of both kinds, and the bundle of a configuration holds the references of the configuration,
each once.
-/

namespace Stencil

open World Evaluation

/-- References to stylesheets and to scripts. -/
structure References where
  css : List String := []
  js : List String := []
  deriving DecidableEq, Repr

namespace References

instance : Append References := ⟨fun a b => ⟨a.css ++ b.css, a.js ++ b.js⟩⟩

/-- Each reference once, where it first occurs. -/
def distinct (a : References) : References :=
  ⟨(OrderedSet.ofList a.css).toList, (OrderedSet.ofList a.js).toList⟩

@[simp] theorem css_append (a b : References) : (a ++ b).css = a.css ++ b.css := rfl

@[simp] theorem js_append (a b : References) : (a ++ b).js = a.js ++ b.js := rfl

@[simp] theorem append_empty (a : References) : a ++ ({} : References) = a := by
  change References.mk (a.css ++ []) (a.js ++ []) = a
  rw [List.append_nil, List.append_nil]

@[simp] theorem empty_append (a : References) : ({} : References) ++ a = a := rfl

theorem append_assoc (a b c : References) : a ++ b ++ c = a ++ (b ++ c) := by
  change References.mk (a.css ++ b.css ++ c.css) (a.js ++ b.js ++ c.js) = _
  rw [List.append_assoc, List.append_assoc]
  rfl

/-- References are added with their repetitions or without them. -/
theorem distinct_append_distinct (a b : References) :
    (a ++ b.distinct).distinct = (a ++ b).distinct := by
  simp only [distinct, css_append, js_append, OrderedSet.ofList_append, OrderedSet.insertMany_ofList]

/-- Two lists of references that add the same to every collection. -/
def Adds (a b : References) : Prop := ∀ p : References, (p ++ a).distinct = (p ++ b).distinct

theorem Adds.refl (a : References) : a.Adds a := fun _ => rfl

theorem Adds.distinct (a : References) : a.distinct.Adds a := fun p => distinct_append_distinct p a

theorem distinct_append (a b : References) : (a ++ b).distinct =
    ⟨(OrderedSet.insertMany ⟨a.distinct.css⟩ b.css).toList,
      (OrderedSet.insertMany ⟨a.distinct.js⟩ b.js).toList⟩ := by
  simp only [References.distinct, css_append, js_append, OrderedSet.ofList_append]

theorem distinct_append_congr {a b : References} (h : a.distinct = b.distinct) (c : References) :
    (a ++ c).distinct = (b ++ c).distinct := by
  rw [distinct_append, distinct_append, h]

theorem Adds.append {a a' b b' : References} (ha : a.Adds a') (hb : b.Adds b') :
    (a ++ b).Adds (a' ++ b') := fun p => by
  rw [← append_assoc, hb, distinct_append_congr (ha p), append_assoc]

theorem Adds.trans {a b c : References} (h : a.Adds b) (h' : b.Adds c) : a.Adds c :=
  fun p => (h p).trans (h' p)

theorem Adds.distinct_eq {a b : References} (h : a.Adds b) : a.distinct = b.distinct := h {}

/-- References that are added twice are added once. -/
theorem Adds.twice (a b : References) : (a ++ (a ++ b)).Adds (a ++ b) := fun p => by
  have h : (p ++ a ++ a).distinct = (p ++ a).distinct := by
    simp only [References.distinct, css_append, js_append]
    rw [OrderedSet.ofList_append_of_subset fun _ => List.mem_append_right _,
      OrderedSet.ofList_append_of_subset fun _ => List.mem_append_right _]
  rw [← append_assoc, ← append_assoc, distinct_append_congr h, append_assoc]

end References

/-- A bundle at a place with its two sets and the references in them. -/
structure World.IsBundle (w : World) (b css js : Ref) (refs : References) : Prop where
  parts : w.at' b = .bundle css js
  css : w.Holds css refs.css
  js : w.Holds js refs.js

/-- A bundle with its set of stylesheets and its set of scripts. -/
structure World.BundleOf (w : World) (o css js : Ref) (refs : References) : Prop where
  parts : w.at' o = .bundle css js
  css : w.at' css = .assets .stylesheet ⟨texts refs.css⟩
  js : w.at' js = .assets .script ⟨texts refs.js⟩

namespace World

variable {w u : World} {b c j : Ref} {refs : References}

theorem BundleOf.isBundle (h : w.BundleOf b c j refs) : w.IsBundle b c j refs :=
  ⟨h.parts, ⟨_, h.css⟩, ⟨_, h.js⟩⟩

theorem Holds.congr {r : Ref} {l : List String} (h : w.Holds r l) (he : u.at' r = w.at' r) :
    u.Holds r l := by
  obtain ⟨kind, h⟩ := h
  exact ⟨kind, he.trans h⟩

theorem Holds.unique {r : Ref} {l l' : List String} (h : w.Holds r l) (h' : w.Holds r l') : l = l' := by
  obtain ⟨kind, h⟩ := h
  obtain ⟨kind', h'⟩ := h'
  rw [h] at h'
  simp only [Object.assets.injEq, OrderedSet.mk.injEq] at h'
  refine (List.map_inj_right ?_).1 h'.2
  intro a b hab
  cases hab
  rfl

theorem IsBundle.unique {c' j' : Ref} {more : References} (h : w.IsBundle b c j refs)
    (h' : w.IsBundle b c' j' more) : refs = more := by
  have hp := h.parts.symm.trans h'.parts
  cases hp
  have hcss := h.css.unique h'.css
  have hjs := h.js.unique h'.js
  cases refs
  cases more
  simp_all

theorem Holds.lt_size {r : Nat} {l : List String} (h : w.Holds r l) : r < w.objects.size := by
  obtain ⟨kind, h⟩ := h
  refine Nat.lt_of_not_le fun hr => ?_
  rw [at'_of_size_le hr] at h
  cases h

theorem IsBundle.lt_size {b : Nat} (h : w.IsBundle b c j refs) : b < w.objects.size := by
  refine Nat.lt_of_not_le fun hr => ?_
  have hb := h.parts
  rw [at'_of_size_le hr] at hb
  cases hb

theorem IsBundle.ne_of_holds {r : Nat} {l : List String} (h : w.IsBundle b c j refs)
    (hr : w.Holds r l) : b ≠ r := by
  rintro rfl
  obtain ⟨_, hr⟩ := hr
  rw [h.parts] at hr
  cases hr

theorem IsBundle.congr (h : w.IsBundle b c j refs) (hb : u.at' b = w.at' b) (hc : u.at' c = w.at' c)
    (hj : u.at' j = w.at' j) : u.IsBundle b c j refs :=
  ⟨hb.trans h.parts, h.css.congr hc, h.js.congr hj⟩

end World

section

variable {m : Interpreter} {n : Nat} {w u : World} {b c j o c' j' : Nat} {x : Value} {refs more : References}

theorem attributeOf_bundle_css {v : Value} (hb : w.at' b = .bundle c j)
    (h : (interpreter n).attributeOf (.ref b) "css" w = .ok v u) : .ref c = v ∧ w = u := by
  cases n with
  | zero => exact absurd h attributeOf_zero
  | succ n =>
    rw [attributeOf_succ, readAttribute_data hb (by simp) (by simp [IsPlainName]) rfl] at h
    cases h
    exact ⟨rfl, rfl⟩

theorem attributeOf_bundle_js {v : Value} (hb : w.at' b = .bundle c j)
    (h : (interpreter n).attributeOf (.ref b) "js" w = .ok v u) : .ref j = v ∧ w = u := by
  cases n with
  | zero => exact absurd h attributeOf_zero
  | succ n =>
    rw [attributeOf_succ, readAttribute_data hb (by simp) (by simp [IsPlainName]) rfl] at h
    cases h
    exact ⟨rfl, rfl⟩

theorem attributeOf_bundle_register {v : Value} (hb : w.at' b = .bundle c j)
    (h : (interpreter n).attributeOf (.ref b) "register" w = .ok v u) :
    .method (.ref b) "register" = v ∧ w = u := by
  cases n with
  | zero => exact absurd h attributeOf_zero
  | succ n =>
    rw [attributeOf_succ,
      readAttribute_method hb (by simp) (by simp [IsPlainName]) rfl (by rfl)] at h
    cases h
    exact ⟨rfl, rfl⟩

theorem parts_eq (hb : w.at' b = .bundle c j) : Bundle.parts b w = .ok (c, j) w := by
  unfold Bundle.parts
  rw [bind_of_ok (load_ok w b), hb]
  rfl

/-- Adding the members of one set of references to those that another one has collected. -/
theorem update_collected {dst src : List String} {k : Nat} {y : Unit}
    (hc : w.Holds c (OrderedSet.ofList dst).toList) (hk : w.Holds k src) (hck : c ≠ k)
    (h : AssetSet.update m c (.ref k) w = .ok y u) :
    u.Holds c (OrderedSet.ofList (dst ++ src)).toList ∧ w.ChangesOnly [c] u := by
  have hlt := hc.lt_size
  obtain ⟨kind, hc⟩ := hc
  obtain ⟨hu, hf⟩ := update_set hc hk hlt hk.lt_size hck h
  exact ⟨⟨kind, by rw [hu, OrderedSet.ofList_append]⟩, hf⟩

/-- Registering a bundle adds its references to those that another one has collected. -/
theorem register_bundle {y : Unit} (hb : w.IsBundle b c j refs.distinct)
    (ho : w.IsBundle o c' j' more) (hcj : c ≠ j) (hcc : c ≠ c') (hcj' : c ≠ j') (hjj : j ≠ j')
    (h : Bundle.register (interpreter n) b (.ref o) w = .ok y u) :
    u.IsBundle b c j (refs ++ more).distinct ∧ w.ChangesOnly [c, j] u := by
  unfold Bundle.register at h
  rw [bind_of_ok (parts_eq hb.parts)] at h
  dsimp only at h
  rw [bind_eq_ok] at h
  obtain ⟨_, _, hv, h⟩ := h
  obtain ⟨rfl, rfl⟩ := attributeOf_bundle_css ho.parts hv
  rw [bind_eq_ok] at h
  obtain ⟨_, w₁, hup, h⟩ := h
  obtain ⟨hc₁, hf₁⟩ := update_collected hb.css ho.css hcc hup
  have keep {r : Nat} (hr : r < w.objects.size) (hne : r ≠ c) : w₁.at' r = w.at' r :=
    hf₁.same r hr (by simpa using hne)
  have hb₁ : w₁.at' b = .bundle c j := (keep hb.lt_size (hb.ne_of_holds hb.css)).trans hb.parts
  have hj₁ := hb.js.congr (keep hb.js.lt_size (Ne.symm hcj))
  rw [bind_eq_ok] at h
  obtain ⟨_, _, hv, h⟩ := h
  obtain ⟨rfl, rfl⟩ := attributeOf_bundle_js
    ((keep ho.lt_size (ho.ne_of_holds hb.css)).trans ho.parts) hv
  obtain ⟨hj₂, hf₂⟩ :=
    update_collected hj₁ (ho.js.congr (keep ho.js.lt_size (Ne.symm hcj'))) hjj h
  have keep₂ {r : Nat} (hr : r < w₁.objects.size) (hne : r ≠ j) : u.at' r = w₁.at' r :=
    hf₂.same r hr (by simpa using hne)
  refine ⟨⟨?_, hc₁.congr (keep₂ hc₁.lt_size hcj), hj₂⟩,
    (hf₁.mono (by simp)).trans (hf₂.mono (by simp))⟩
  rw [keep₂ (Nat.lt_of_lt_of_le hb.lt_size hf₁.size) (hb.ne_of_holds hb.js), hb₁]

theorem callMethod_bundle_register (hb : w.at' b = .bundle c j)
    (h : callMethod m (.ref b) "register" { items := [.ref o] } w = .ok x u) :
    x = .ref b ∧ ∃ y, Bundle.register m b (.ref o) w = .ok y u := by
  simp only [callMethod, Value.text?] at h
  rw [bind_of_ok (load_ok w b), hb] at h
  simp only [objectMethod, methodParameters] at h
  rw [bind_eq_ok] at h
  obtain ⟨owner, _, ht, h⟩ := h
  obtain rfl := typeName_ref_eq_ok ht
  rw [bind_eq_ok] at h
  obtain ⟨args, _, ha, h⟩ := h
  obtain ⟨rfl, rfl⟩ := matched_positional rfl rfl ha
  rw [bind_eq_ok] at h
  obtain ⟨y, v, hy, h⟩ := h
  obtain ⟨rfl, rfl⟩ := pure_eq_ok.1 h
  exact ⟨rfl, y, hy⟩

/-- Registering a bundle in another one, as views do it. -/
theorem callIn_register (hb : w.IsBundle b c j refs.distinct) (ho : w.IsBundle o c' j' more)
    (hcj : c ≠ j) (hcc : c ≠ c') (hcj' : c ≠ j') (hjj : j ≠ j')
    (h : View.callIn (interpreter n) (.ref b) "register" [.ref o] w = .ok x u) :
    x = .ref b ∧ u.IsBundle b c j (refs ++ more).distinct ∧ w.ChangesOnly [c, j] u := by
  cases n with
  | zero =>
    obtain ⟨_, _, h, _⟩ := bind_eq_ok.1 h
    exact absurd h attributeOf_zero
  | succ n =>
    unfold View.callIn at h
    rw [bind_eq_ok] at h
    obtain ⟨_, _, hv, h⟩ := h
    obtain ⟨rfl, rfl⟩ := attributeOf_bundle_register hb.parts hv
    rw [apply_method] at h
    obtain ⟨rfl, y, hy⟩ := callMethod_bundle_register hb.parts h
    exact ⟨rfl, register_bundle hb ho hcj hcc hcj' hjj hy⟩

/-! ## New bundles -/

/-- A bundle whose parts are all new, apart from each other. -/
structure World.IsNewBundle (w u : World) (b c j : Nat) (refs : References) : Prop where
  bundle : u.IsBundle b c j refs
  apart : c ≠ j
  new : w.objects.size ≤ b
  newCss : w.objects.size ≤ c
  newJs : w.objects.size ≤ j

theorem make_bundle (h : Bundle.make m (.tuple (texts refs.css)) (.tuple (texts refs.js)) w = .ok b u) :
    (∃ c j, w.IsNewBundle u b c j refs.distinct ∧ u.BundleOf b c j refs.distinct) ∧
      w.ChangesOnly [] u := by
  unfold Bundle.make at h
  rw [bind_eq_ok] at h
  obtain ⟨c, w₁, hc, h⟩ := h
  rw [bind_eq_ok] at h
  obtain ⟨j, w₂, hj, h⟩ := h
  obtain ⟨rfl, rfl⟩ := alloc_eq_ok.1 h
  obtain ⟨hc, hc₁, hc₂, hf₁⟩ := make_texts hc
  obtain ⟨hj, hj₁, hj₂, hf₂⟩ := make_texts hj
  have h₁ := hf₁.size
  have h₂ := hf₂.size
  have hc' := (World.at'_push_of_lt (o := .bundle c j) (by omega)).trans
    ((hf₂.same c hc₂ (by simp)).trans hc)
  have hj' := (World.at'_push_of_lt (o := .bundle c j) hj₂).trans hj
  have hbundle : (w₂.push (.bundle c j)).BundleOf w₂.objects.size c j refs.distinct :=
    ⟨World.at'_push_size _ _, hc', hj'⟩
  refine ⟨⟨c, j, ⟨hbundle.isBundle, ?_, ?_, hc₁, ?_⟩, hbundle⟩,
    (hf₁.trans hf₂).trans (.push _ _ _)⟩
  · omega
  · omega
  · omega

/-! ## Bundles of configurations -/

/-- The references of a configuration are texts. -/
structure ViewConfig.Lists (k : ViewConfig) (refs : References) : Prop where
  css : k.css = texts refs.css
  js : k.js = texts refs.js

variable {k : Nat} {config : ViewConfig}

theorem attributeOf_config_bundle {v : Value} (hk : w.at' k = .config config)
    (h : (interpreter n).attributeOf (.ref k) "bundle" w = .ok v u) :
    .method (.ref k) "bundle" = v ∧ w = u := by
  cases n with
  | zero => exact absurd h attributeOf_zero
  | succ n =>
    rw [attributeOf_succ,
      readAttribute_method hk (by simp) (by simp [IsPlainName]) rfl (by rfl)] at h
    cases h
    exact ⟨rfl, rfl⟩

theorem callMethod_config_bundle (hk : w.at' k = .config config) (hrefs : config.Lists refs)
    (h : callMethod m (.ref k) "bundle" {} w = .ok x u) :
    ∃ b : Nat, x = .ref b ∧
      (∃ c j, w.IsNewBundle u b c j refs.distinct ∧ u.BundleOf b c j refs.distinct) ∧
      w.ChangesOnly [] u := by
  simp only [callMethod, Value.text?] at h
  rw [bind_of_ok (load_ok w k), hk] at h
  dsimp only at h
  rw [if_neg (by decide)] at h
  simp only [objectMethod, methodParameters] at h
  rw [bind_eq_ok] at h
  obtain ⟨owner, _, ht, h⟩ := h
  obtain rfl := typeName_ref_eq_ok ht
  rw [bind_eq_ok] at h
  obtain ⟨args, _, ha, h⟩ := h
  obtain ⟨rfl, rfl⟩ := matched_positional rfl rfl ha
  rw [bind_eq_ok] at h
  obtain ⟨b, _, hb, h⟩ := h
  obtain ⟨rfl, rfl⟩ := pure_eq_ok.1 h
  rw [hrefs.css, hrefs.js] at hb
  exact ⟨b, rfl, make_bundle hb⟩

end

end Stencil
