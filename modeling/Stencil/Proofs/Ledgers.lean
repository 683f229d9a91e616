import Stencil.Proofs.Registrations

/-!
# What is registered, noted

A ledger notes which views there are and everything that has been registered on each of them. It is kept
by a world in which the views have those references in their bundles, and in which no two of the bundles
have a part in common. What fills other sets, makes new objects or sets other attributes leaves it kept.
-/

namespace Stencil

open World Evaluation

/-! ## Setting attributes of views -/

section

variable {n : Nat} {w u : World} {v x cls : Nat} {name : String} {val : Value} {b : Unit}
  {p : BundlePlaces} {config refs : References}

namespace World

/-- Places that are not taken yet. -/
structure NewAt (w : World) (p : BundlePlaces) : Prop where
  bundle : w.objects.size ≤ p.bundle
  css : w.objects.size ≤ p.css
  js : w.objects.size ≤ p.js

theorem NewAt.apart {q : BundlePlaces} (h : w.NewAt q) (hp : w.BundleAt p refs) : q.Apart p := by
  obtain ⟨hb, hc, hj⟩ := hp.lt_size
  obtain ⟨hqb, hqc, hqj⟩ := h
  constructor
  · exact Nat.ne_of_gt (Nat.lt_of_lt_of_le hb hqb)
  · exact Nat.ne_of_gt (Nat.lt_of_lt_of_le hc hqc)
  · exact Nat.ne_of_gt (Nat.lt_of_lt_of_le hj hqj)

theorem NewAt.of_le (h : u.NewAt p) (hsize : w.objects.size ≤ u.objects.size) : w.NewAt p :=
  ⟨Nat.le_trans hsize h.bundle, Nat.le_trans hsize h.css, Nat.le_trans hsize h.js⟩

/-- A bundle in which no reference is twice. -/
def DistinctBundle (w : World) (p : BundlePlaces) : Prop := ∃ refs : References, w.BundleAt p refs.distinct

theorem BundleOf.keep_context (h : w.BundleAt p refs) (hv : w.classOf? v = some cls)
    (hu : w.ChangesOnly [v] u) : u.BundleAt p refs := by
  obtain ⟨attrs, hat⟩ := classOf?_eq_some hv
  have hne {r : Ref} (hr : ∀ cls attrs, w.at' r ≠ .instance cls attrs) : r ∉ [v] := by
    intro hmem
    rw [List.mem_singleton.1 hmem] at hr
    exact hr _ _ hat
  apply h.keep hu
  · apply hne
    simp [h.parts]
  · apply hne
    simp [h.css]
  · apply hne
    simp [h.js]

theorem DistinctBundle.keep_context (h : w.DistinctBundle p) (hv : w.classOf? v = some cls)
    (hu : w.ChangesOnly [v] u) : u.DistinctBundle p := by
  obtain ⟨refs, h⟩ := h
  exact ⟨refs, h.keep_context hv hu⟩

theorem DistinctBundle.keep (h : w.DistinctBundle p) (hu : w.ChangesOnly [] u) : u.DistinctBundle p := by
  obtain ⟨refs, h⟩ := h
  exact ⟨refs, h.keep hu (by simp) (by simp) (by simp)⟩

/-- A bundle without repetitions stays one when the sets of a bundle are filled, also when it has one of
them. -/
theorem DistinctBundle.fill {q : BundlePlaces} {more : References} (hq : w.DistinctBundle q)
    (hp : w.BundleAt p refs.distinct) (hu : u.BundleAt p (refs ++ more).distinct)
    (hchanges : w.ChangesOnly [p.css, p.js] u) : u.DistinctBundle q := by
  obtain ⟨held, hq⟩ := hq
  obtain ⟨hqb, hqc, hqj⟩ := hq.lt_size
  have hcss := hq.isBundle.ne_of_holds hp.isBundle.css
  have hjs := hq.isBundle.ne_of_holds hp.isBundle.js
  have hcj := hq.css_ne_js hp
  have hjc := Ne.symm (hp.css_ne_js hq)
  have hparts : u.at' q.bundle = .bundle q.css q.js :=
    (hchanges.same _ hqb (by simp [hcss, hjs])).trans hq.parts
  refine ⟨⟨if q.css = p.css then (refs ++ more).css else held.css,
    if q.js = p.js then (refs ++ more).js else held.js⟩, hparts, ?_, ?_⟩
  · by_cases hc : q.css = p.css
    · rw [References.distinct, if_pos hc, hc]
      exact hu.css
    · rw [References.distinct, if_neg hc, hchanges.same _ hqc (by simp [hc, hcj])]
      exact hq.css
  · by_cases hj : q.js = p.js
    · rw [References.distinct, if_pos hj, hj]
      exact hu.js
    · rw [References.distinct, if_neg hj, hchanges.same _ hqj (by simp [hj, hjc])]
      exact hq.js

/-- Setting an attribute leaves the class and the configuration of every view. -/
theorem IsInstance.set (h : w.IsInstance x config) (hv : w.classOf? v = some cls)
    (hname : x = v → name ≠ "config") (hset : setAttribute (.ref v) name val w = .ok b u) :
    u.IsInstance x config := by
  obtain ⟨hchanges, hclassOf, hown⟩ := setAttribute_eq_ok hv hset
  obtain ⟨⟨cls', hview, ⟨k, c, hk, hat, hlists⟩, hstage⟩, hun⟩ := h
  have hclass (name : String) : u.classValue cls' name = w.classValue cls' name :=
    classValue_congr hchanges.classes cls' name
  have hkv : k ∉ [v] := by
    intro hmem
    rw [List.mem_singleton.1 hmem] at hat
    rw [classOf?, hat] at hv
    cases hv
  refine ⟨⟨cls', ⟨?_, ?_, ?_, ?_⟩, ⟨k, c, ?_, ?_, hlists⟩, ?_⟩, ?_⟩
  · rw [hclassOf, hview.classOf]
  · rw [classAt', hchanges.classes]
    exact hview.kind
  · rw [hclass, hview.assets]
  · intro name hname
    rw [hclass]
    exact hview.computed name hname
  · rw [hclass, hk]
  · rw [hchanges.same k (lt_size_of_at' hat (by rintro ⟨⟩)) hkv, hat]
  · rw [hclass]
    exact hstage
  · rw [hown, if_neg, hun]
    rintro ⟨hx, hn⟩
    exact hname hx hn.symm

end World

end

/-! ## What is registered on views -/

theorem registered_mem : "_registered" ∈ bundleNames := mem_bundleNames.2 (.inl rfl)

theorem assets_mem : "_assets" ∈ bundleNames := mem_bundleNames.2 (.inr rfl)

/-- The views that are followed, with everything that has been registered on each of them so far. -/
abbrev Ledger := Ref → Option References

namespace Ledger

/-- No view is followed yet. -/
def empty : Ledger := fun _ => none

/-- More has been registered on a view. -/
def add (L : Ledger) (v : Ref) (more : References) : Ledger :=
  fun x => if x = v then (L v).map (· ++ more) else L x

/-- A new view is followed. -/
def enter (L : Ledger) (v : Ref) : Ledger := fun x => if x = v then some {} else L x

/-- A bundle of a view that is followed. -/
structure Has (L : Ledger) (w : World) (v : Ref) (name : String) (p : BundlePlaces) : Prop where
  followed : (L v).isSome
  named : name ∈ bundleNames
  place : w.bundleIn? v name = some p

/-- The views that are followed have what was registered on them, and no two of their bundles have a part
in common. -/
structure Kept (L : Ledger) (w : World) : Prop where
  instances : ∀ v refs, L v = some refs → w.Instance v refs
  apart : ∀ {v v' name name' p q}, L.Has w v name p → L.Has w v' name' q → (v, name) ≠ (v', name') →
    p.Apart q

/-- A bundle with no part in common with what is registered. -/
def AwayFrom (L : Ledger) (w : World) (p : BundlePlaces) : Prop :=
  ∀ v q, L.Has w v "_registered" q → p.Apart q

/-- A bundle that renders collect their assets in. -/
def Collects (L : Ledger) (w : World) (e : Ref) : Prop :=
  ∃ p : BundlePlaces, p.bundle = e ∧ w.DistinctBundle p ∧ L.AwayFrom w p

/-- The views that are followed keep their bundles of some names, and a bundle without repetitions stays
one. -/
structure Carries (L : Ledger) (names : List String) (w u : World) : Prop where
  instances : ∀ v config, (L v).isSome → w.IsInstance v config → ∃ config', u.IsInstance v config'
  places : ∀ v name, (L v).isSome → name ∈ names → u.bundleIn? v name = w.bundleIn? v name
  distinct : ∀ p, w.DistinctBundle p → u.DistinctBundle p

/-- Something leaves what is registered as it is. -/
structure Leaves (L : Ledger) (w u : World) : Prop extends L.Carries bundleNames w u where
  registered : ∀ v p refs, L.Has w v "_registered" p → w.BundleAt p refs → u.BundleAt p refs
  enclosing : u.enclosing = w.enclosing

variable {L L' : Ledger} {names : List String} {places : List Ref} {w u z : World} {v x cls n : Nat}
  {e : Ref} {name : String} {p q : BundlePlaces} {config refs more : References} {val : Value} {b : Unit}

theorem isSome_add : (L.add v more x).isSome = (L x).isSome := by
  unfold add
  split
  · rename_i hx
    rw [hx, Option.isSome_map]
  · rfl

theorem Has.congr (h : L.Has w v name p) (hL : (L' v).isSome = (L v).isSome) : L'.Has w v name p :=
  ⟨hL.trans h.followed, h.named, h.place⟩

namespace Carries

theorem trans (h : L.Carries names w u) (h' : L.Carries names u z) : L.Carries names w z where
  instances v config hv hi := by
    obtain ⟨config', hi⟩ := h.instances v config hv hi
    exact h'.instances v config' hv hi
  places v name hv hname := (h'.places v name hv hname).trans (h.places v name hv hname)
  distinct p hp := h'.distinct p (h.distinct p hp)

theorem registered (h : L.Carries bundleNames w u) : L.Carries ["_registered"] w u where
  instances := h.instances
  places v name hv hname := by
    apply h.places v name hv
    rw [List.mem_singleton.1 hname]
    exact registered_mem
  distinct := h.distinct

theorem has_iff (h : L.Carries names w u) (hname : name ∈ names) : L.Has u v name p ↔ L.Has w v name p := by
  constructor
  · rintro ⟨hv, hnamed, hp⟩
    rw [h.places v name hv hname] at hp
    exact ⟨hv, hnamed, hp⟩
  · rintro ⟨hv, hnamed, hp⟩
    rw [← h.places v name hv hname] at hp
    exact ⟨hv, hnamed, hp⟩

theorem awayFrom (h : L.Carries ["_registered"] w u) (hL : ∀ x, (L' x).isSome = (L x).isSome)
    (hp : L.AwayFrom w p) : L'.AwayFrom u p := by
  intro v q hq
  apply hp v q
  rw [← h.has_iff (by simp)]
  exact hq.congr (hL v).symm

theorem collects (h : L.Carries ["_registered"] w u) (hL : ∀ x, (L' x).isSome = (L x).isSome)
    (he : L.Collects w e) : L'.Collects u e := by
  obtain ⟨p, hp, hdistinct, haway⟩ := he
  exact ⟨p, hp, h.distinct p hdistinct, h.awayFrom hL haway⟩

end Carries

theorem Leaves.trans (h : L.Leaves w u) (h' : L.Leaves u z) : L.Leaves w z where
  toCarries := h.toCarries.trans h'.toCarries
  registered v p refs hp hrefs :=
    h'.registered v p refs ((h.toCarries.has_iff hp.named).2 hp) (h.registered v p refs hp hrefs)
  enclosing := h'.enclosing.trans h.enclosing

namespace Kept

theorem empty (w : World) : Ledger.empty.Kept w := by
  constructor
  · rintro v refs ⟨⟩
  · rintro v v' name name' p q ⟨⟨⟩, -, -⟩

theorem registered (h : L.Kept w) (hv : L v = some refs) :
    ∃ p, L.Has w v "_registered" p ∧ w.BundleAt p refs.distinct := by
  obtain ⟨p, hp, hrefs⟩ := (h.instances v refs hv).registered
  exact ⟨p, ⟨by simp [hv], registered_mem, hp⟩, hrefs⟩

/-- A view that is followed has both bundles. -/
theorem exists_has (h : L.Kept w) (hv : (L v).isSome) (hname : name ∈ bundleNames) :
    ∃ p, L.Has w v name p ∧ w.DistinctBundle p := by
  obtain ⟨refs, hrefs⟩ := Option.isSome_iff_exists.1 hv
  obtain ⟨-, ⟨p, hp, hat⟩, ⟨q, held, hq, hheld⟩⟩ := h.instances v refs hrefs
  rcases mem_bundleNames.1 hname with rfl | rfl
  · exact ⟨p, ⟨hv, hname, hp⟩, refs, hat⟩
  · exact ⟨q, ⟨hv, hname, hq⟩, held, hheld⟩

theorem distinct (h : L.Kept w) (hp : L.Has w v name p) : w.DistinctBundle p := by
  obtain ⟨q, hq, hdistinct⟩ := h.exists_has hp.followed hp.named
  have hpq := hp.place.symm.trans hq.place
  cases hpq
  exact hdistinct

theorem isInstance (h : L.Kept w) (hv : (L v).isSome) : ∃ config, w.IsInstance v config := by
  obtain ⟨refs, hrefs⟩ := Option.isSome_iff_exists.1 hv
  exact (h.instances v refs hrefs).isInstance

/-- What carries the views carries what is registered on them, if that has grown as it is noted. -/
theorem carry (h : L.Kept w) (hc : L.Carries bundleNames w u) (hL : ∀ x, (L' x).isSome = (L x).isSome)
    (hregistered : ∀ v refs p, L' v = some refs → L.Has w v "_registered" p →
      u.BundleAt p refs.distinct) : L'.Kept u := by
  constructor
  · intro v refs hv
    have hsome : (L v).isSome := by
      rw [← hL, hv]
      rfl
    obtain ⟨config, hi⟩ := h.isInstance hsome
    obtain ⟨p, hp, -⟩ := h.exists_has hsome registered_mem
    obtain ⟨q, hq, hdistinct⟩ := h.exists_has hsome assets_mem
    obtain ⟨held, hheld⟩ := hc.distinct q hdistinct
    exact ⟨hc.instances v config hsome hi, ⟨p, ((hc.has_iff hp.named).2 hp).place,
      hregistered v refs p hv hp⟩, q, held, ((hc.has_iff hq.named).2 hq).place, hheld⟩
  · intro v v' name name' p q hp hq hne
    have hp' := (hc.has_iff hp.named).1 (hp.congr (hL v).symm)
    have hq' := (hc.has_iff hq.named).1 (hq.congr (hL v').symm)
    exact h.apart hp' hq' hne

theorem leaves (h : L.Kept w) (hl : L.Leaves w u) : L.Kept u := by
  apply h.carry hl.toCarries fun _ => rfl
  intro v refs p hv hp
  obtain ⟨q, hq, hrefs⟩ := h.registered hv
  have hpq := hp.place.symm.trans hq.place
  cases hpq
  exact hl.registered v p refs.distinct hp hrefs

end Kept

/-! ## What carries the views -/

/-- Changing sets carries the views, when those that are in bundles stay without repetitions. -/
theorem Carries.of_sets (h : L.Kept w) (hchanges : w.ChangesOnly places u)
    (hplaces : ∀ s ∈ places, ∃ kind refs, w.at' s = .assets kind refs)
    (hdistinct : ∀ p, w.DistinctBundle p → u.DistinctBundle p) : L.Carries bundleNames w u where
  instances v config _ hi := ⟨config, hi.keep_sets hchanges hplaces⟩
  places v name hv hname := by
    obtain ⟨config, hi⟩ := h.isInstance hv
    obtain ⟨p, hp, held, hheld⟩ := h.exists_has hv hname
    obtain ⟨hown, hat⟩ := World.bundleIn?_eq_some hp.place
    have hat' : u.at' p.bundle = w.at' p.bundle :=
      hchanges.same_of_ne_assets hplaces hheld.lt_size.1 (by simp [hat])
    rw [hp.place]
    apply World.bundleIn?_of_own
    · rw [hi.own_keep_sets hchanges hplaces, hown]
    · rw [hat', hat]
  distinct := hdistinct

theorem Leaves.of_new (h : L.Kept w) (hchanges : w.ChangesOnly [] u) : L.Leaves w u where
  toCarries := .of_sets h hchanges (by simp) fun _ hp => hp.keep hchanges
  registered _ _ _ _ hrefs := hrefs.keep hchanges (by simp) (by simp) (by simp)
  enclosing := hchanges.enclosing

/-- Filling the sets of a bundle carries the views. -/
theorem Carries.of_fill (h : L.Kept w) (hp : w.BundleAt p refs.distinct)
    (hu : u.BundleAt p (refs ++ more).distinct) (hchanges : w.ChangesOnly [p.css, p.js] u) :
    L.Carries bundleNames w u :=
  .of_sets h hchanges hp.sets fun _ hq => hq.fill hp hu hchanges

theorem Leaves.of_fill (h : L.Kept w) (hp : w.BundleAt p refs.distinct) (haway : L.AwayFrom w p)
    (hu : u.BundleAt p (refs ++ more).distinct) (hchanges : w.ChangesOnly [p.css, p.js] u) :
    L.Leaves w u where
  toCarries := .of_fill h hp hu hchanges
  registered v q _ hq hheld := hheld.keep_apart hp (haway v q hq).symm hchanges
  enclosing := hchanges.enclosing

theorem bundleIn?_set (h : L.Kept w) (hx : (L x).isSome) (hnamed : name ∈ bundleNames)
    (hv : w.classOf? v = some cls) {other : String} (hother : x = v → other ≠ name)
    (hset : setAttribute (.ref v) other val w = .ok b u) : u.bundleIn? x name = w.bundleIn? x name := by
  obtain ⟨hchanges, -, hown⟩ := setAttribute_eq_ok hv hset
  obtain ⟨p, hp, held, hheld⟩ := h.exists_has hx hnamed
  rw [hp.place]
  apply World.bundleIn?_of_own
  · rw [hown, if_neg]
    · exact (World.bundleIn?_eq_some hp.place).1
    · rintro ⟨hxv, hname⟩
      exact hother hxv hname.symm
  · exact (hheld.keep_context hv hchanges).parts

/-- Setting an attribute that bundles are not found by leaves what is registered. -/
theorem Leaves.of_set (h : L.Kept w) (hv : w.classOf? v = some cls)
    (hname : (L v).isSome → name ∉ "config" :: bundleNames)
    (hset : setAttribute (.ref v) name val w = .ok b u) : L.Leaves w u where
  instances x config hx hi := by
    refine ⟨config, hi.set hv ?_ hset⟩
    rintro rfl rfl
    exact hname hx (by simp)
  places x other hx hother := by
    refine bundleIn?_set h hx hother hv ?_ hset
    rintro rfl rfl
    exact hname hx (List.mem_cons_of_mem _ hother)
  distinct _ hp := hp.keep_context hv (setAttribute_eq_ok hv hset).1
  registered _ _ _ _ hrefs := hrefs.keep_context hv (setAttribute_eq_ok hv hset).1
  enclosing := (setAttribute_eq_ok hv hset).1.enclosing

/-! ## The bundles of a view that change places -/

theorem Carries.of_renewal (h : L.Kept w) (hv : w.classOf? v = some cls)
    (hset : setAttribute (.ref v) "_assets" val w = .ok b u) : L.Carries ["_registered"] w u where
  instances _ config _ hi := ⟨config, hi.set hv (by simp) hset⟩
  places x name hx hname := by
    obtain rfl := List.mem_singleton.1 hname
    exact bundleIn?_set h hx registered_mem hv (by simp) hset
  distinct _ hp := hp.keep_context hv (setAttribute_eq_ok hv hset).1

theorem bundleIn?_renewed (hv : w.classOf? v = some cls) (hp : w.BundleAt p refs)
    (hset : setAttribute (.ref v) name (.ref p.bundle) w = .ok b u) : u.bundleIn? v name = some p := by
  obtain ⟨hchanges, -, hown⟩ := setAttribute_eq_ok hv hset
  apply World.bundleIn?_of_own
  · rw [hown, if_pos ⟨rfl, rfl⟩]
  · exact (hp.keep_context hv hchanges).parts

/-- A view takes a bundle of its own for what its next render collects. -/
theorem Kept.renew (h : L.Kept w) (hv : (L v).isSome) (hcls : w.classOf? v = some cls)
    (hp : w.BundleAt p refs.distinct) (hnew : ∀ x name q, L.Has w x name q → p.Apart q)
    (hset : setAttribute (.ref v) "_assets" (.ref p.bundle) w = .ok b u) : L.Kept u := by
  have hcarries := Carries.of_renewal h hcls hset
  have hplace : u.bundleIn? v "_assets" = some p := bundleIn?_renewed hcls hp hset
  have hchanges := (setAttribute_eq_ok hcls hset).1
  have hcases {x : Ref} {name : String} {q : BundlePlaces} (hq : L.Has u x name q) :
      ((x, name) = (v, "_assets") ∧ q = p) ∨ L.Has w x name q := by
    by_cases hx : x = v ∧ name = "_assets"
    · obtain ⟨rfl, rfl⟩ := hx
      exact .inl ⟨rfl, Option.some.inj (hq.place.symm.trans hplace)⟩
    · refine .inr ⟨hq.followed, hq.named, ?_⟩
      rw [← bundleIn?_set h hq.followed hq.named hcls (fun hxv hname => hx ⟨hxv, hname.symm⟩) hset]
      exact hq.place
  constructor
  · intro x held hx
    have hsome : (L x).isSome := by simp [hx]
    obtain ⟨config, hi⟩ := h.isInstance hsome
    obtain ⟨r, hr, hheld⟩ := h.registered hx
    refine ⟨hcarries.instances x config hsome hi, ⟨r, ?_, hheld.keep_context hcls hchanges⟩, ?_⟩
    · exact ((hcarries.has_iff (by simp)).2 hr).place
    · by_cases hxv : x = v
      · subst hxv
        exact ⟨p, refs, hplace, hp.keep_context hcls hchanges⟩
      · obtain ⟨q, hq, more, hmore⟩ := h.exists_has hsome assets_mem
        refine ⟨q, more, ?_, hmore.keep_context hcls hchanges⟩
        rw [bundleIn?_set h hsome assets_mem hcls (fun hx => absurd hx hxv) hset]
        exact hq.place
  · intro x x' name name' q q' hq hq' hne
    rcases hcases hq with ⟨hx, rfl⟩ | hq
    · rcases hcases hq' with ⟨hx', rfl⟩ | hq'
      · exact absurd (hx.trans hx'.symm) hne
      · exact hnew x' name' q' hq'
    · rcases hcases hq' with ⟨-, rfl⟩ | hq'
      · exact (hnew x name q hq).symm
      · exact h.apart hq hq' hne

/-- A new view has bundles of its own. -/
theorem Kept.enter (h : L.Kept w) (hv : L v = none) (hi : w.Instance v {})
    (hnew : ∀ name p, name ∈ bundleNames → w.bundleIn? v name = some p →
      ∀ x name' q, L.Has w x name' q → p.Apart q)
    (hown : ∀ p q, w.bundleIn? v "_registered" = some p → w.bundleIn? v "_assets" = some q → p.Apart q) :
    (L.enter v).Kept w := by
  have hcases {x : Ref} {name : String} {q : BundlePlaces} (hq : (L.enter v).Has w x name q) :
      x = v ∨ L.Has w x name q := by
    by_cases hx : x = v
    · exact .inl hx
    · have hfollowed := hq.followed
      rw [Ledger.enter, if_neg hx] at hfollowed
      exact .inr ⟨hfollowed, hq.named, hq.place⟩
  constructor
  · intro x refs hx
    by_cases hxv : x = v
    · rw [Ledger.enter, if_pos hxv] at hx
      cases hx
      exact hxv ▸ hi
    · rw [Ledger.enter, if_neg hxv] at hx
      exact h.instances x refs hx
  · intro x x' name name' q q' hq hq' hne
    rcases hcases hq with rfl | hold
    · rcases hcases hq' with rfl | hold'
      · rcases mem_bundleNames.1 hq.named with rfl | rfl
        · rcases mem_bundleNames.1 hq'.named with rfl | rfl
          · exact absurd rfl hne
          · exact hown q q' hq.place hq'.place
        · rcases mem_bundleNames.1 hq'.named with rfl | rfl
          · exact (hown q' q hq'.place hq.place).symm
          · exact absurd rfl hne
      · exact hnew name q hq.named hq.place x' name' q' hold'
    · rcases hcases hq' with rfl | hold'
      · exact (hnew name' q' hq'.named hq'.place x name q hold).symm
      · exact h.apart hold hold' hne

end Ledger

end Stencil
