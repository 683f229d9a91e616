import Stencil.Proofs.ViewAssets

/-!
# Undisturbed assets

Between two moments of a render the assets that were there may stay as they are: no set, bundle or
configuration changes or gives its place to something else, classes go on giving the attributes that
assets are found by, and views keep theirs. Some sets and the bundles of some views are left out of this,
those that a render fills or replaces.
-/

namespace Stencil

open World Evaluation

/-- Whether an object holds assets. -/
def Object.isAsset : Object → Bool
  | .assets .. => true
  | .bundle .. => true
  | .config _ => true
  | _ => false

namespace World

/-- Apart from some sets, and from the bundles of some views, the assets of a world are as before. -/
structure Undisturbed (views sets : List Ref) (w u : World) : Prop where
  size : w.objects.size ≤ u.objects.size
  assets : ∀ r : Nat, r < w.objects.size → r ∉ sets →
    (w.at' r).isAsset = true ∨ (u.at' r).isAsset = true → u.at' r = w.at' r
  classValue : ∀ id, ∀ name ∈ assetAttributes, u.classValue id name = w.classValue id name
  kind : ∀ id, (u.classAt' id).kind = (w.classAt' id).kind
  classOf : ∀ v : Nat, v < w.objects.size → u.classOf? v = w.classOf? v
  own : ∀ v : Nat, v < w.objects.size → ∀ name ∈ assetAttributes, v ∉ views ∨ name ≠ "_assets" →
    u.own? v name = w.own? v name

namespace Undisturbed

variable {views sets : List Ref} {w u x : World}

theorem refl (views sets : List Ref) (w : World) : w.Undisturbed views sets w :=
  ⟨Nat.le_refl _, fun _ _ _ _ => rfl, fun _ _ _ => rfl, fun _ => rfl, fun _ _ => rfl,
    fun _ _ _ _ _ => rfl⟩

theorem trans (h : w.Undisturbed views sets u) (h' : u.Undisturbed views sets x) :
    w.Undisturbed views sets x where
  size := Nat.le_trans h.size h'.size
  assets r hr hs ha := by
    have hu := Nat.lt_of_lt_of_le hr h.size
    rcases ha with ha | ha
    · have hw := h.assets r hr hs (.inl ha)
      exact (h'.assets r hu hs (.inl (hw ▸ ha))).trans hw
    · have hx := h'.assets r hu hs (.inr ha)
      exact hx.trans (h.assets r hr hs (.inr (hx ▸ ha)))
  classValue id name hn := (h'.classValue id name hn).trans (h.classValue id name hn)
  kind id := (h'.kind id).trans (h.kind id)
  classOf v hv := (h'.classOf v (Nat.lt_of_lt_of_le hv h.size)).trans (h.classOf v hv)
  own v hv name hn hx :=
    (h'.own v (Nat.lt_of_lt_of_le hv h.size) name hn hx).trans (h.own v hv name hn hx)

theorem mono {views' sets' : List Ref} (h : w.Undisturbed views sets u)
    (hv : ∀ v ∈ views, v ∈ views') (hs : ∀ s ∈ sets, s ∈ sets') :
    w.Undisturbed views' sets' u where
  size := h.size
  assets r hr hn := h.assets r hr fun hr' => hn (hs r hr')
  classValue := h.classValue
  kind := h.kind
  classOf := h.classOf
  own v hv' name hn hx := h.own v hv' name hn (hx.imp_left fun hx hm => hx (hv v hm))

/-- Sets that were not there at first need no mention. -/
theorem forget {c j : Nat} (h : w.Undisturbed views [c, j] u) (hc : w.objects.size ≤ c)
    (hj : w.objects.size ≤ j) : w.Undisturbed views [] u where
  size := h.size
  assets r hr _ := h.assets r hr (by simp; omega)
  classValue := h.classValue
  kind := h.kind
  classOf := h.classOf
  own := h.own

theorem enclosing_right {e : Option Ref} (h : w.Undisturbed views sets u) :
    w.Undisturbed views sets { u with enclosing := e } :=
  ⟨h.size, h.assets, fun id name hn =>
    (classValue_congr (w := u) (u := { u with enclosing := e }) rfl _ _).trans
      (h.classValue id name hn), h.kind, h.classOf, h.own⟩

end Undisturbed

theorem classOf?_of_isAsset {w : World} {r : Ref} (h : (w.at' r).isAsset = true) :
    w.classOf? r = none := by
  unfold classOf?
  split
  · rename_i hr
    rw [hr] at h
    cases h
  · rfl

theorem own?_of_isAsset {w : World} {r : Ref} (h : (w.at' r).isAsset = true) (name : String) :
    w.own? r name = none := by
  unfold own?
  split
  · rename_i hr
    rw [hr] at h
    cases h
  · rfl

theorem lt_size_of_classOf? {w : World} {v cls : Nat} (h : w.classOf? v = some cls) :
    v < w.objects.size := by
  obtain ⟨attrs, hv⟩ := classOf?_eq_some h
  refine Nat.lt_of_not_le fun hle => ?_
  rw [at'_of_size_le hle] at hv
  cases hv

theorem Holds.isAsset {w : World} {r : Ref} {refs : List String} (h : w.Holds r refs) :
    (w.at' r).isAsset = true := by
  obtain ⟨_, h⟩ := h
  rw [h]
  rfl

namespace Undisturbed

variable {views sets : List Ref} {w u : World}

theorem isView (h : w.Undisturbed views sets u) {v cls : Nat} (hv : w.IsView v cls) :
    u.IsView v cls where
  classOf := (h.classOf v (lt_size_of_classOf? hv.classOf)).trans hv.classOf
  kind := (h.kind cls).trans hv.kind
  assets := (h.classValue cls _ (by simp [assetAttributes])).trans hv.assets
  computed name hn := by
    rw [h.classValue cls name]
    · exact hv.computed name hn
    · simp only [List.mem_cons, List.not_mem_nil, or_false] at hn
      rcases hn with rfl | rfl <;> simp [assetAttributes]

theorem isBundle (h : w.Undisturbed views [] u) {b c j : Nat} {refs : References}
    (hb : w.IsBundle b c j refs) : u.IsBundle b c j refs := by
  refine hb.congr (h.assets b hb.lt_size (by simp) (.inl ?_))
    (h.assets c hb.css.lt_size (by simp) (.inl hb.css.isAsset))
    (h.assets j hb.js.lt_size (by simp) (.inl hb.js.isAsset))
  rw [hb.parts]
  rfl

theorem configured (h : w.Undisturbed views [] u) {cls : Nat} {refs : References}
    (hc : w.Configured cls refs) : u.Configured cls refs := by
  obtain ⟨k, config, hk, hat, hrefs⟩ := hc
  have hlt : (k : Nat) < w.objects.size := by
    refine Nat.lt_of_not_le fun hle => ?_
    rw [at'_of_size_le hle] at hat
    cases hat
  refine ⟨k, config, (h.classValue cls _ (by simp [assetAttributes])).trans hk, ?_, hrefs⟩
  exact (h.assets k hlt (by simp) (.inl (by rw [hat]; rfl))).trans hat

/-- A view whose bundle is not replaced holds what it held. -/
theorem viewHolds (h : w.Undisturbed views [] u) {v : Nat} {config registered collected : References}
    (hv : w.ViewHolds v config registered collected) (hn : v ∉ views) :
    u.ViewHolds v config registered collected := by
  obtain ⟨⟨cls, hview, hconfig⟩, hun, ⟨b, c, j, hb, hbundle⟩, ⟨b', c', j', hb', hbundle'⟩⟩ := hv
  have hlt := lt_size_of_classOf? hview.classOf
  refine ⟨⟨cls, h.isView hview, h.configured hconfig⟩, ?_, ⟨b, c, j, ?_, h.isBundle hbundle⟩,
    ⟨b', c', j', ?_, h.isBundle hbundle'⟩⟩
  · exact (h.own v hlt _ (by simp [assetAttributes]) (.inl hn)).trans hun
  · exact (h.own v hlt _ (by simp [assetAttributes]) (.inl hn)).trans hb
  · exact (h.own v hlt _ (by simp [assetAttributes]) (.inl hn)).trans hb'

/-- The bundle that a view has collected is found again, with sets that were there before. -/
theorem collected (h : w.Undisturbed views [] u) {v : Nat} {config registered collected : References}
    (hv : w.ViewHolds v config registered collected) (hn : v ∉ views) :
    ∃ b c j : Nat, c < w.objects.size ∧ j < w.objects.size ∧ u.own? v "_assets" = some (.ref b) ∧
      u.IsBundle b c j collected := by
  obtain ⟨⟨cls, hview, -⟩, -, -, ⟨b, c, j, hb, hbundle⟩⟩ := hv
  refine ⟨b, c, j, hbundle.css.lt_size, hbundle.js.lt_size, ?_, h.isBundle hbundle⟩
  have hlt := lt_size_of_classOf? hview.classOf
  exact (h.own v hlt _ (by simp [assetAttributes]) (.inl hn)).trans hb

end Undisturbed

/-- A computation that changes only some sets disturbs nothing else. -/
theorem ChangesOnly.undisturbed {sets : List Ref} {w u : World} (h : w.ChangesOnly sets u)
    (hs : ∀ s ∈ sets, (w.at' s).isAsset = true ∧ (u.at' s).isAsset = true) :
    w.Undisturbed [] sets u where
  size := h.size
  assets r hr hn _ := h.same r hr hn
  classValue id name _ := classValue_congr h.classes id name
  kind id := by rw [classAt', classAt', h.classes]
  classOf v hv := by
    by_cases hm : v ∈ sets
    · rw [classOf?_of_isAsset (hs v hm).1, classOf?_of_isAsset (hs v hm).2]
    · rw [classOf?, classOf?, h.same v hv hm]
  own v hv name _ _ := by
    by_cases hm : v ∈ sets
    · rw [own?_of_isAsset (hs v hm).1, own?_of_isAsset (hs v hm).2]
    · rw [own?, own?, h.same v hv hm]

theorem ChangesOnly.undisturbed_bundle {w u : World} {b c j : Ref} {refs more : References}
    (h : w.ChangesOnly [c, j] u) (hw : w.IsBundle b c j refs) (hu : u.IsBundle b c j more) :
    w.Undisturbed [] [c, j] u := by
  refine h.undisturbed ?_
  simp only [List.mem_cons, List.not_mem_nil, or_false]
  rintro s (rfl | rfl)
  · exact ⟨hw.css.isAsset, hu.css.isAsset⟩
  · exact ⟨hw.js.isAsset, hu.js.isAsset⟩

/-- Changing an object that is neither a context nor an asset disturbs nothing. -/
theorem Undisturbed.put {w : World} {r : Nat} {o : Object} (hr : (w.at' r).isAsset = false)
    (hc : w.classOf? r = none) (ho : o.isAsset = false) (hi : ∀ cls attrs, o ≠ .instance cls attrs) :
    w.Undisturbed [] [] (w.put r o) := by
  by_cases ht : (w.at' r).shape = o.shape
  case neg =>
    rw [put_of_shape_ne ht]
    exact .refl [] [] w
  have hf : w.ChangesOnly [r] (w.put r o) := .put (by simp) w o
  have hput (hlt : r < w.objects.size) : (w.put r o).at' r = o :=
    at'_put_self hlt rfl ht
  have hown (name : String) : w.own? r name = none := by
    unfold classOf? at hc
    unfold own?
    split <;> simp_all
  have hown' (hlt : r < w.objects.size) (name : String) : (w.put r o).own? r name = none := by
    rw [own?, hput hlt]
    cases o with
    | «instance» cls attrs => exact absurd rfl (hi cls attrs)
    | _ => rfl
  have hclass (hlt : r < w.objects.size) : (w.put r o).classOf? r = none := by
    rw [classOf?, hput hlt]
    cases o with
    | «instance» cls attrs => exact absurd rfl (hi cls attrs)
    | _ => rfl
  refine ⟨hf.size, fun s hs _ ha => ?_, fun id name _ => classValue_congr hf.classes id name,
    fun id => ?_, fun s hs => ?_, fun s hs name _ _ => ?_⟩
  · by_cases h : s = r
    · subst h
      rw [hput hs, hr, ho] at ha
      simp at ha
    · exact hf.same s hs (by simpa using h)
  · rw [classAt', classAt', hf.classes]
  · by_cases h : s = r
    · subst h
      rw [hclass hs, hc]
    · rw [classOf?, classOf?, hf.same s hs (by simpa using h)]
  · by_cases h : s = r
    · subst h
      rw [hown' hs, hown]
    · rw [own?, own?, hf.same s hs (by simpa using h)]

end World

/-- Setting an attribute that no assets are found by. -/
theorem setAttribute_undisturbed {w u : World} {v cls : Nat} {name : String} {x : Value} {b : Unit}
    (hv : w.classOf? v = some cls) (hn : name ∉ assetAttributes ∨ name = "_assets")
    (h : setAttribute (.ref v) name x w = .ok b u) : w.Undisturbed [v] [] u := by
  obtain ⟨hu, hc, ho⟩ := setAttribute_eq_ok hv h
  have hno (r : Nat) (hr : (w.at' r).isAsset = true ∨ (u.at' r).isAsset = true) : r ≠ v := by
    rintro rfl
    rcases hr with hr | hr
    · rw [World.classOf?_of_isAsset hr] at hv
      cases hv
    · have := (hc r).trans hv
      rw [World.classOf?_of_isAsset hr] at this
      cases this
  refine ⟨hu.size, fun r hr _ ha => hu.same r hr (by simpa using hno r ha), fun id name _ =>
    World.classValue_congr hu.classes id name, fun id => ?_, fun r _ => hc r, ?_⟩
  · rw [World.classAt', World.classAt', hu.classes]
  · intro r _ other hother hx
    rw [ho r other, if_neg]
    rintro ⟨rfl, rfl⟩
    rcases hn with hn | rfl
    · exact hn hother
    · simp at hx

end Stencil
