import Stencil.Proofs.Registries
import Stencil.Proofs.RegistryChanges

/-!
# How exposures are inherited

The registry of a class is a copy of the one that its base had when the class was derived, and then goes
its own way. The accessor of a name may stand on any class above; what it computes is found in the
registry of the class of the object that is read, from what was set there last.
-/

namespace Stencil

open World Evaluation

/-! ## Registries apart -/

namespace World

variable {w u v : World} {id : Nat} {r : Ref} {reg : ExposureRegistry Value}

/-- What a class exposes. -/
def exposures? (w : World) (id : Nat) : Option (ExposureRegistry Value) :=
  match (w.classRegistry id).map w.at' with
  | some (.registry reg) => some reg
  | _ => none

/-- No two classes share a registry, and what is derived from a class with a registry has one too. -/
structure RegistriesApart (w : World) : Prop where
  base_lt : ∀ id b, (w.classAt' id).base = some b → b < id
  own : ∀ id r, (w.classAt' id).exposures = some r → ∃ reg, w.at' r = .registry reg
  apart : ∀ id other r, (w.classAt' id).exposures = some r →
    (w.classAt' other).exposures = some r → id = other
  inherited : ∀ id b, (w.classAt' id).base = some b → (w.classAt' id).exposures = none →
    (w.classAt' b).exposures = none

/-- A class with a registry is there. -/
theorem lt_of_exposures (h : (w.classAt' id).exposures = some r) : id < w.classes.size := by
  refine Nat.lt_of_not_le fun hle => ?_
  rw [classAt'_of_size_le hle] at h
  cases h

theorem lt_of_registry (h : w.at' r = .registry reg) : (r : Nat) < w.objects.size := by
  refine Nat.lt_of_not_le fun hle => ?_
  rw [at'_of_size_le hle] at h
  cases h

theorem classRegistry_of_own (h : (w.classAt' id).exposures = some r) :
    w.classRegistry id = some r := by
  have hlt := lt_of_exposures h
  unfold classRegistry
  cases hsize : w.classes.size with
  | zero => omega
  | succ n =>
    rw [ancestors]
    cases (w.classAt' id).base <;> simp [h]

namespace RegistriesApart

theorem classRegistry_eq (hw : w.RegistriesApart) (id : Nat) :
    w.classRegistry id = (w.classAt' id).exposures := by
  cases h : (w.classAt' id).exposures with
  | some r => exact classRegistry_of_own h
  | none =>
    unfold classRegistry
    generalize w.classes.size = fuel
    induction fuel generalizing id with
    | zero => rfl
    | succ fuel ih =>
      rw [ancestors]
      cases hb : (w.classAt' id).base with
      | none => simp [h]
      | some b =>
        rw [List.findSome?_cons, h]
        exact ih b (hw.inherited id b hb h)

theorem exposures?_eq_some (hw : w.RegistriesApart) :
    w.exposures? id = some reg ↔ ∃ r, (w.classAt' id).exposures = some r ∧ w.at' r = .registry reg := by
  unfold exposures?
  rw [hw.classRegistry_eq]
  cases h : (w.classAt' id).exposures with
  | none => simp
  | some r =>
    obtain ⟨reg', hr⟩ := hw.own id r h
    simp [hr]

theorem exposures?_eq_none (hw : w.RegistriesApart) :
    w.exposures? id = none ↔ (w.classAt' id).exposures = none := by
  cases h : (w.classAt' id).exposures with
  | none => simp [exposures?, hw.classRegistry_eq, h]
  | some r =>
    obtain ⟨reg, hr⟩ := hw.own id r h
    simp [exposures?, hw.classRegistry_eq, h, hr]

end RegistriesApart

/-! ## Changing the registry of a class -/

/-- The registry of one class has changed; the others and the classes have not. -/
structure ChangesRegistry (id : Nat) (f : ExposureRegistry Value → ExposureRegistry Value)
    (w u : World) : Prop where
  registries : ∀ r reg, w.at' r = .registry reg →
    u.at' r = .registry (if (w.classAt' id).exposures = some r then f reg else reg)
  classCount : u.classes.size = w.classes.size
  bases : ∀ other, (u.classAt' other).base = (w.classAt' other).base
  exposures : ∀ other, (u.classAt' other).exposures = (w.classAt' other).exposures

theorem KeepsRegistries.changes (h : w.KeepsRegistries u) (id : Nat) :
    ChangesRegistry id (fun reg => reg) w u where
  registries r reg hr := by rw [ite_self, h.registries r reg hr]
  classCount := h.classCount
  bases := h.bases
  exposures := h.exposures

namespace ChangesRegistry

variable {f g : ExposureRegistry Value → ExposureRegistry Value}

theorem trans (h : ChangesRegistry id f w u) (h' : ChangesRegistry id g u v) :
    ChangesRegistry id (fun reg => g (f reg)) w v where
  registries r reg hr := by
    rw [h'.registries r _ (h.registries r reg hr), h.exposures]
    split <;> rfl
  classCount := h'.classCount.trans h.classCount
  bases other := (h'.bases other).trans (h.bases other)
  exposures other := (h'.exposures other).trans (h.exposures other)

theorem keep (h : ChangesRegistry id f w u) (h' : u.KeepsRegistries v) : ChangesRegistry id f w v :=
  h.trans (h'.changes id)

theorem put (hid : (w.classAt' id).exposures = some r) (hr : w.at' r = .registry reg) :
    ChangesRegistry id f w (w.put r (.registry (f reg))) where
  registries s reg' hs := by
    by_cases hsr : r = s
    · subst hsr
      rw [hr] at hs
      cases hs
      rw [if_pos hid]
      exact at'_put_self (lt_of_registry hr) hr rfl
    · rw [at'_put_of_ne (Ne.symm hsr), hs, if_neg]
      rw [hid]
      simpa using hsr
  classCount := by rw [classes_put]
  bases _ := by rw [classAt', classAt', classes_put]
  exposures _ := by rw [classAt', classAt', classes_put]

theorem registriesApart (hw : w.RegistriesApart) (h : ChangesRegistry id f w u) :
    u.RegistriesApart where
  base_lt other b := by
    rw [h.bases]
    exact hw.base_lt other b
  own other r := by
    rw [h.exposures]
    intro hr
    obtain ⟨reg, hreg⟩ := hw.own other r hr
    exact ⟨_, h.registries r reg hreg⟩
  apart a b r := by
    rw [h.exposures, h.exposures]
    exact hw.apart a b r
  inherited a b := by
    rw [h.bases, h.exposures, h.exposures]
    exact hw.inherited a b

theorem exposures?_eq (hw : w.RegistriesApart) (h : ChangesRegistry id f w u) (other : Nat) :
    u.exposures? other = if other = id then (w.exposures? other).map f else w.exposures? other := by
  have hu := h.registriesApart hw
  cases hreg : w.exposures? other with
  | none =>
    rw [Option.map_none, ite_self, hu.exposures?_eq_none, h.exposures]
    exact hw.exposures?_eq_none.1 hreg
  | some reg =>
    obtain ⟨r, hr, hat⟩ := hw.exposures?_eq_some.1 hreg
    rw [Option.map_some, ← apply_ite some, hu.exposures?_eq_some, h.exposures]
    refine ⟨r, hr, ?_⟩
    rw [h.registries r reg hat]
    congr 1
    -- The registry is that of the changed class just when the classes are the same.
    have hiff : (w.classAt' id).exposures = some r ↔ other = id :=
      ⟨fun hid => hw.apart other id r hr hid, fun h => h ▸ hr⟩
    simp only [hiff]

end ChangesRegistry

/-! ## Deriving a class -/

/-- A class has been derived. Its registry is what became of that of its base. -/
structure Derives (base : Nat) (f : ExposureRegistry Value → ExposureRegistry Value)
    (w u : World) : Prop where
  registries : ∀ r reg, w.at' r = .registry reg → u.at' r = .registry reg
  classCount : u.classes.size = w.classes.size + 1
  bases : ∀ id, id ≠ w.classes.size → (u.classAt' id).base = (w.classAt' id).base
  exposures : ∀ id, id ≠ w.classes.size → (u.classAt' id).exposures = (w.classAt' id).exposures
  newBase : (u.classAt' w.classes.size).base = some base
  /-- A registry of its own, which is new. -/
  newRegistry : ∀ reg, w.exposures? base = some reg → ∃ r : Nat, w.objects.size ≤ r ∧
    (u.classAt' w.classes.size).exposures = some r ∧ u.at' r = .registry (f reg)
  noRegistry : w.exposures? base = none → (u.classAt' w.classes.size).exposures = none

namespace Derives

variable {base : Nat} {f g : ExposureRegistry Value → ExposureRegistry Value}

theorem change (h : Derives base f w u)
    (h' : ChangesRegistry w.classes.size g u v) : Derives base (fun reg => g (f reg)) w v where
  registries r reg hr := by
    rw [h'.registries r reg (h.registries r reg hr), if_neg]
    intro hnew
    cases hb : w.exposures? base with
    | none =>
      rw [h.noRegistry hb] at hnew
      cases hnew
    | some reg' =>
      obtain ⟨q, hq, hown, -⟩ := h.newRegistry reg' hb
      rw [hown] at hnew
      cases hnew
      exact absurd (lt_of_registry hr) (Nat.not_lt.2 hq)
  classCount := h'.classCount.trans h.classCount
  bases id hid := (h'.bases id).trans (h.bases id hid)
  exposures id hid := (h'.exposures id).trans (h.exposures id hid)
  newBase := (h'.bases _).trans h.newBase
  newRegistry reg hb := by
    obtain ⟨r, hr, hown, hat⟩ := h.newRegistry reg hb
    refine ⟨r, hr, (h'.exposures _).trans hown, ?_⟩
    rw [h'.registries r _ hat, if_pos hown]
  noRegistry hb := (h'.exposures _).trans (h.noRegistry hb)

theorem keep (h : Derives base f w u) (h' : u.KeepsRegistries v) : Derives base f w v :=
  h.change (h'.changes _)

theorem registriesApart (hw : w.RegistriesApart) (hbase : base < w.classes.size)
    (h : Derives base f w u) : u.RegistriesApart := by
  -- What the new class has is newer than every registry that was there.
  have hfresh {id : Nat} {r : Ref} (hid : (w.classAt' id).exposures = some r) :
      (u.classAt' w.classes.size).exposures ≠ some r := by
    intro hnew
    obtain ⟨reg, hr⟩ := hw.own id r hid
    cases hb : w.exposures? base with
    | none =>
      rw [h.noRegistry hb] at hnew
      cases hnew
    | some reg' =>
      obtain ⟨q, hq, hown, -⟩ := h.newRegistry reg' hb
      rw [hown] at hnew
      cases hnew
      exact absurd (lt_of_registry hr) (Nat.not_lt.2 hq)
  refine ⟨fun id b hb => ?_, fun id r hr => ?_, fun id other r hid hother => ?_, fun id b hb hid => ?_⟩
  · by_cases hnew : id = w.classes.size
    · subst hnew
      rw [h.newBase] at hb
      cases hb
      exact hbase
    · rw [h.bases id hnew] at hb
      exact hw.base_lt id b hb
  · by_cases hnew : id = w.classes.size
    · subst hnew
      cases hb : w.exposures? base with
      | none =>
        rw [h.noRegistry hb] at hr
        cases hr
      | some reg =>
        obtain ⟨q, -, hown, hat⟩ := h.newRegistry reg hb
        rw [hown] at hr
        cases hr
        exact ⟨_, hat⟩
    · rw [h.exposures id hnew] at hr
      obtain ⟨reg, hreg⟩ := hw.own id r hr
      exact ⟨reg, h.registries r reg hreg⟩
  · by_cases hnew : id = w.classes.size
    · by_cases hnew' : other = w.classes.size
      · rw [hnew, hnew']
      · rw [h.exposures other hnew'] at hother
        exact absurd (hnew ▸ hid) (hfresh hother)
    · rw [h.exposures id hnew] at hid
      by_cases hnew' : other = w.classes.size
      · exact absurd (hnew' ▸ hother) (hfresh hid)
      · rw [h.exposures other hnew'] at hother
        exact hw.apart id other r hid hother
  · by_cases hnew : id = w.classes.size
    · subst hnew
      rw [h.newBase] at hb
      cases hb
      rw [h.exposures base (Nat.ne_of_lt hbase), ← hw.exposures?_eq_none]
      cases hreg : w.exposures? base with
      | none => rfl
      | some reg =>
        obtain ⟨r, -, hown, -⟩ := h.newRegistry reg hreg
        rw [hown] at hid
        cases hid
    · rw [h.bases id hnew] at hb
      rw [h.exposures id hnew] at hid
      have hb' : b ≠ w.classes.size := by
        rintro rfl
        have hlt := hw.base_lt id _ hb
        rw [classAt'_of_size_le (Nat.le_of_lt hlt)] at hb
        cases hb
      rw [h.exposures b hb']
      exact hw.inherited id b hb hid

theorem exposures?_of_ne (hw : w.RegistriesApart) (hbase : base < w.classes.size)
    (h : Derives base f w u) (hid : id ≠ w.classes.size) : u.exposures? id = w.exposures? id := by
  have hu := h.registriesApart hw hbase
  cases hreg : w.exposures? id with
  | none =>
    rw [hu.exposures?_eq_none, h.exposures id hid]
    exact hw.exposures?_eq_none.1 hreg
  | some reg =>
    obtain ⟨r, hr, hat⟩ := hw.exposures?_eq_some.1 hreg
    exact hu.exposures?_eq_some.2 ⟨r, (h.exposures id hid).trans hr, h.registries r reg hat⟩

theorem exposures?_new (hw : w.RegistriesApart) (hbase : base < w.classes.size)
    (h : Derives base f w u) : u.exposures? w.classes.size = (w.exposures? base).map f := by
  have hu := h.registriesApart hw hbase
  cases hreg : w.exposures? base with
  | none => exact hu.exposures?_eq_none.2 (h.noRegistry hreg)
  | some reg =>
    obtain ⟨r, -, hown, hat⟩ := h.newRegistry reg hreg
    exact hu.exposures?_eq_some.2 ⟨r, hown, hat⟩

end Derives

end World

/-! ## What the operations on classes change -/

section

variable {w u : World} {id : Nat} {r : Ref} {reg : ExposureRegistry Value}

theorem registryAt_ok (hr : w.at' r = .registry reg) : registryAt r w = .ok reg w := by
  unfold registryAt
  rw [bind_of_ok (load_ok w r), hr]
  rfl

theorem changeRegistry_own {f : ExposureRegistry Value → ExposureRegistry Value}
    (hid : (w.classAt' id).exposures = some r) (hr : w.at' r = .registry reg) :
    ContextClass.changeRegistry id f w = .ok () (w.put r (.registry (f reg))) := by
  unfold ContextClass.changeRegistry
  rw [bind_of_ok (registryOf?_eq w id), classRegistry_of_own hid]
  dsimp only
  rw [bind_of_ok (registryAt_ok hr)]
  rfl

theorem changeRegistry_none {f : ExposureRegistry Value → ExposureRegistry Value}
    (hid : w.classRegistry id = none) :
    w.KeepsRegistries (w.after (ContextClass.changeRegistry id f)) ∧
      ∀ u, ContextClass.changeRegistry id f w ≠ .ok () u := by
  unfold ContextClass.changeRegistry
  rw [after_bind_of_ok (registryOf?_eq w id), bind_of_ok (registryOf?_eq w id), hid]
  exact ⟨Keeping.keeps w, fun u => by simp [missingAttribute, bind_eq_ok]⟩

/-- Make a change of the registry of a class. -/
def RegistryChange.perform (id : Nat) : RegistryChange → Action Unit
  | expose n v b => ContextClass.expose id n v b
  | describe n t => ContextClass.describe id n t
  | default b => ContextClass.setDefault id b

/-- Whether a class answers to a name. -/
def World.answers (w : World) (id : Nat) (name : String) : Bool :=
  (w.classValue id name).isSome || (name == "exposures" && (w.classRegistry id).isSome) ||
    (ContextClass.builtinNames (w.classAt' id).kind).contains name

theorem hasOwnAttribute_ok (w : World) (id : Nat) (name : String) :
    ContextClass.hasOwnAttribute id name w = .ok (w.answers id name) w := by
  unfold ContextClass.hasOwnAttribute
  rw [bind_of_ok (classAttribute?_eq w id name), bind_of_ok (registryOf?_eq w id),
    bind_of_ok (classAt_ok w id)]
  rfl

/-- To install an accessor leaves the registries alone, and it never fails. -/
theorem installAccessor_ok (id : Nat) (w : World) (name : String) :
    ∃ u, (do if !(← ContextClass.hasOwnAttribute id name) then
      ContextClass.setClassAttribute id name (.exposed name)) w = .ok () u ∧ w.KeepsRegistries u := by
  rw [bind_of_ok (hasOwnAttribute_ok w id name)]
  split
  · exact ⟨_, rfl, .setClass rfl rfl⟩
  · exact ⟨w, rfl, .refl w⟩

theorem perform_own (c : RegistryChange) (hid : (w.classAt' id).exposures = some r)
    (hr : w.at' r = .registry reg) :
    ∃ u, c.perform id w = .ok () u ∧ ChangesRegistry id (fun reg => RegistryChange.apply reg c) w u := by
  cases c with
  | expose n v b =>
    have hput := changeRegistry_own (f := fun reg => reg.expose n v b) hid hr
    change ∃ u, ContextClass.expose id n v b w = _ ∧ _
    unfold ContextClass.expose
    rw [bind_of_ok hput]
    obtain ⟨u, hu, hk⟩ := installAccessor_ok id _ n
    exact ⟨u, hu, (ChangesRegistry.put hid hr).keep hk⟩
  | describe n t =>
    exact ⟨_, changeRegistry_own (f := fun reg => reg.describe n t) hid hr, .put hid hr⟩
  | default b =>
    exact ⟨_, changeRegistry_own (f := fun reg => { reg with default := b }) hid hr, .put hid hr⟩

theorem perform_none (c : RegistryChange) (hid : w.classRegistry id = none) :
    w.KeepsRegistries (w.after (c.perform id)) := by
  cases c with
  | expose n v b =>
    refine KeepsRegistries.bind (changeRegistry_none hid).1 fun _ u h => ?_
    exact absurd h ((changeRegistry_none hid).2 u)
  | describe n t => exact (changeRegistry_none hid).1
  | default b => exact (changeRegistry_none hid).1

/-- What a block in the body of a class changes. -/
def ExposedBlock.changes (e : ExposedBlock) : List RegistryChange :=
  .expose e.name none (some e.block) ::
    if (e.description.getD "") != "" then [.describe e.name e.description] else []

theorem performs_own (cs : List RegistryChange) (hid : (w.classAt' id).exposures = some r)
    (hr : w.at' r = .registry reg) :
    ∃ u, forM cs (RegistryChange.perform id) w = .ok () u ∧
      ChangesRegistry id (fun reg => RegistryChange.replay reg cs) w u := by
  induction cs generalizing w reg with
  | nil => exact ⟨w, rfl, (KeepsRegistries.refl w).changes id⟩
  | cons c cs ih =>
    obtain ⟨v, hv, hc⟩ := perform_own c hid hr
    obtain ⟨u, hu, hcs⟩ := ih ((hc.exposures id).trans hid) (hc.registries r reg hr)
    exact ⟨u, by rw [List.forM_cons, bind_of_ok hv, hu], hc.trans hcs⟩

theorem registerBlocks_cons (e : ExposedBlock) (rest : List ExposedBlock) :
    ContextClass.registerBlocks id (e :: rest) = (do
      let c ← classAt id
      setClass id { c with attrs := eraseNamed c.attrs e.attr }
      forM e.changes (RegistryChange.perform id)
      ContextClass.registerBlocks id rest) := by
  rw [ContextClass.registerBlocks]
  unfold ExposedBlock.changes
  split <;> simp only [List.forM_cons, List.forM_nil, bind_assoc, pure_bind, RegistryChange.perform]

/-- What is registered is what the changes of the blocks come to, one after the other. -/
theorem registerBlocks_changes (blocks : List ExposedBlock)
    (hid : (w.classAt' id).exposures = some r) (hr : w.at' r = .registry reg) :
    ∃ u, ContextClass.registerBlocks id blocks w = .ok () u ∧ ChangesRegistry id
      (fun reg => RegistryChange.replay reg (blocks.flatMap ExposedBlock.changes)) w u := by
  induction blocks generalizing w reg with
  | nil => exact ⟨w, rfl, (KeepsRegistries.refl w).changes id⟩
  | cons e rest ih =>
    let erased : ContextClass :=
      { w.classAt' id with attrs := eraseNamed (w.classAt' id).attrs e.attr }
    have herase : w.KeepsRegistries (w.after (setClass id erased)) := .setClass rfl rfl
    obtain ⟨v, hv, hchange⟩ := performs_own e.changes ((herase.exposures id).trans hid)
      (herase.registries r reg hr)
    obtain ⟨u, hu, hrest⟩ := ih ((hchange.exposures id).trans ((herase.exposures id).trans hid))
      (hchange.registries r reg (herase.registries r reg hr))
    refine ⟨u, ?_, ?_⟩
    · have hset : setClass id erased w = .ok () (w.after (setClass id erased)) := rfl
      rw [registerBlocks_cons, bind_of_ok (classAt_ok w id), bind_of_ok hset, bind_of_ok hv, hu]
    · have h := (herase.changes id).trans (hchange.trans hrest)
      simpa only [RegistryChange.replay, List.flatMap_cons, List.foldl_append] using h

end

/-! ## Deriving and changing classes -/

/-- What the blocks in the body of a class change in its registry. -/
def bodyChanges (attrs : List (String × Value)) (exposed : List ExposedBlock) : List RegistryChange :=
  (ContextClass.bodyBlocks attrs exposed).flatMap ExposedBlock.changes

section

variable {w u : World} {base : Nat} {c : ContextClass} {reg : ExposureRegistry Value}
  {attrs : List (String × Value)} {exposed : List ExposedBlock} {options : List (String × Value)}

theorem classAt'_addClass (id : Nat) :
    (w.after (addClass c)).classAt' id = if id = w.classes.size then c else w.classAt' id := by
  change (w.classes.push c).getD id default = _
  simp only [classAt', Array.getD_eq_getD_getElem?, Array.getElem?_push, eq_comm]
  split <;> rfl

theorem derives_without (hb : w.exposures? base = none) (hc : c.base = some base)
    (he : c.exposures = none) (f : ExposureRegistry Value → ExposureRegistry Value) :
    Derives base f w (w.after (addClass c)) where
  registries _ _ h := h
  classCount := Array.size_push c
  bases id hid := by rw [classAt'_addClass, if_neg hid]
  exposures id hid := by rw [classAt'_addClass, if_neg hid]
  newBase := by rw [classAt'_addClass, if_pos rfl, hc]
  newRegistry reg h := by
    rw [hb] at h
    cases h
  noRegistry _ := by rw [classAt'_addClass, if_pos rfl, he]

theorem derives_copy (hb : w.exposures? base = some reg) (hc : c.base = some base)
    (he : c.exposures = some w.objects.size) :
    Derives base (fun reg => reg) w ((w.push (.registry reg)).after (addClass c)) := by
  have hat (id : Nat) : ((w.push (.registry reg)).after (addClass c)).classAt' id =
      if id = w.classes.size then c else w.classAt' id := classAt'_addClass id
  refine ⟨(KeepsRegistries.push w _).registries, Array.size_push c, fun id hid => ?_, fun id hid => ?_,
    ?_, fun reg' h => ?_, fun h => ?_⟩
  · rw [hat, if_neg hid]
  · rw [hat, if_neg hid]
  · rw [hat, if_pos rfl, hc]
  · rw [hb] at h
    cases h
    refine ⟨w.objects.size, Nat.le_refl _, ?_, at'_push_size w _⟩
    rw [hat, if_pos rfl, he]
  · rw [hb] at h
    cases h

theorem deriveRegistry_none (hw : w.RegistriesApart) (hb : w.exposures? base = none) :
    ContextClass.deriveRegistry base w = .ok none w := by
  unfold ContextClass.deriveRegistry
  rw [bind_of_ok (registryOf?_eq w base), hw.classRegistry_eq, hw.exposures?_eq_none.1 hb]
  rfl

theorem deriveRegistry_copy (hw : w.RegistriesApart) (hb : w.exposures? base = some reg) :
    ContextClass.deriveRegistry base w = .ok (some w.objects.size) (w.push (.registry reg)) := by
  obtain ⟨r, hown, hr⟩ := hw.exposures?_eq_some.1 hb
  unfold ContextClass.deriveRegistry
  rw [bind_of_ok (registryOf?_eq w base), hw.classRegistry_eq, hown]
  dsimp only
  rw [bind_of_ok (registryAt_ok hr)]
  rfl

instance abides_registerBlocks {R : Rule} [R.Lawful] {home : Option Ref} (id : Nat)
    (blocks : List ExposedBlock) : Abides R home (ContextClass.registerBlocks id blocks) := by
  induction blocks with
  | nil => exact abides_pure _
  | cons e rest ih =>
    rw [ContextClass.registerBlocks]
    refine .classAt_bind fun w hw => Rule.keeps_bind hw ?_ fun _ u _ hu => Abides.abides u hu
    exact Rule.Lawful.setClass hw.1 ⟨rfl, rfl, rfl, rfl⟩

/-- The options of a class change nothing that it exposes. -/
theorem configures_plain (options : List (String × Value)) (hc : ∀ a ∈ options, w.IsPlain a.2)
    (n id : Nat) (b : Bool) :
    let rest : Action Nat :=
      if b = true then do
        let _ ← ContextClass.configure (interpreter n) id options
        pure id
      else pure id
    w.KeepsRegistries (w.after rest) ∧ ∀ T u, rest w = .ok T u → T = id := by
  intro rest
  cases b with
  | false => exact ⟨.refl w, fun T u h => (pure_eq_ok.1 h).1.symm⟩
  | true =>
    refine ⟨KeepsRegistries.bind (configure_plain hc) fun _ v _ => .refl v, fun T u h => ?_⟩
    obtain ⟨_, _, -, h⟩ := bind_eq_ok.1 h
    exact (pure_eq_ok.1 h).1.symm

/-- A definition stops before there is a class, or the class is the next one. -/
theorem define_derives (hw : w.RegistriesApart) (n : Nat) (name : String)
    (hc : ∀ a ∈ options, w.IsPlain a.2) :
    let definition := ContextClass.define (interpreter n) name base attrs exposed options
    (w.KeepsRegistries (w.after definition) ∧ ∀ T u, definition w ≠ .ok T u) ∨
      Derives base (fun reg => RegistryChange.replay reg (bodyChanges attrs exposed)) w
        (w.after definition) ∧ ∀ T u, definition w = .ok T u → T = w.classes.size := by
  intro definition
  dsimp only [definition]
  unfold ContextClass.define
  rw [after_bind_of_ok (classAt_ok w base), bind_of_ok (classAt_ok w base)]
  split
  · exact .inl ⟨Keeping.keeps w, fun T u => typeError_eq_ok⟩
  refine .inr ?_
  cases hb : w.exposures? base with
  | none =>
    rw [after_bind_of_ok (deriveRegistry_none hw hb), bind_of_ok (deriveRegistry_none hw hb)]
    generalize hcls : ({ name, kind := _, base := _, attrs := _, exposures := _ } : ContextClass) = cls
    have hadd : addClass cls w = .ok w.classes.size (w.after (addClass cls)) := rfl
    have hderives (f : ExposureRegistry Value → ExposureRegistry Value) :
        Derives base f w (w.after (addClass cls)) := by
      subst hcls
      exact derives_without hb rfl rfl f
    rw [after_bind_of_ok hadd, bind_of_ok hadd]
    have hrest := configures_plain (w := w.after (addClass cls)) options
      (fun a ha => (hc a ha).mono (Nat.le_refl _) fun r _ => rfl) n w.classes.size
    exact ⟨(hderives _).keep (hrest _).1, (hrest _).2⟩
  | some reg =>
    rw [after_bind_of_ok (deriveRegistry_copy hw hb), bind_of_ok (deriveRegistry_copy hw hb)]
    generalize hcls : ({ name, kind := _, base := _, attrs := _, exposures := _ } : ContextClass) = cls
    let v := (w.push (.registry reg)).after (addClass cls)
    have hadd : addClass cls (w.push (.registry reg)) = .ok w.classes.size v := rfl
    have hderives : Derives base (fun reg => reg) w v := by
      subst hcls
      exact derives_copy hb rfl rfl
    obtain ⟨r, -, hown, hr⟩ := hderives.newRegistry reg hb
    obtain ⟨u, hu, hchange⟩ := registerBlocks_changes (ContextClass.bodyBlocks attrs exposed) hown hr
    rw [after_bind_of_ok hadd, bind_of_ok hadd, Option.isSome_some, if_pos rfl,
      after_bind_of_ok hu, bind_of_ok hu]
    have hrest := configures_plain (w := u) options (fun a ha => ?_) n w.classes.size
    · exact ⟨(hderives.change hchange).keep (hrest _).1, (hrest _).2⟩
    · have hv : v.IsPlain a.2 := (hc a ha).mono (Nat.le_of_lt (by exact size_push w _ ▸ Nat.lt_succ_self _))
        fun r hr => congrArg Object.shape (at'_push_of_lt hr)
      exact hv.evolves (after_of_ok hu ▸ Evolving.evolves v)

end

/-- A step that makes a class, or changes what one exposes. -/
inductive ClassStep where
  | derive (name : String) (base : Nat) (attrs : List (String × Value))
      (exposed : List ExposedBlock) (options : List (String × Value))
  | change (id : Nat) (c : RegistryChange)

namespace ClassStep

/-- What a step changes in the registry of a class that is there. -/
def changes (id : Nat) : ClassStep → List RegistryChange
  | derive .. => []
  | change other c => if other = id then [c] else []

/-- Take a step. -/
def perform (m : Interpreter) : ClassStep → Action Unit
  | derive name base attrs exposed options => do
    let _ ← ContextClass.define m name base attrs exposed options
  | change id c => c.perform id

/-- The base is there, and the options of the class run nothing. -/
def IsProper (w : World) : ClassStep → Prop
  | derive _ base _ _ options => base < w.classes.size ∧ ∀ a ∈ options, w.IsPlain a.2
  | change .. => True

end ClassStep

/-- A run in which classes are made and changed step by step, whether or not a step fails. Between the
steps may be anything that leaves the registries alone. -/
inductive ClassRun (m : Interpreter) : World → List ClassStep → World → Prop
  | nil (w : World) : ClassRun m w [] w
  | step {w u : World} {s : ClassStep} {steps : List ClassStep} (proper : s.IsProper w)
      (rest : ClassRun m (w.after (s.perform m)) steps u) : ClassRun m w (s :: steps) u
  | pause {w v u : World} {steps : List ClassStep} (keeps : w.KeepsRegistries v)
      (rest : ClassRun m v steps u) : ClassRun m w steps u

/-- The registries of the classes that were there have had some changes, and are apart. -/
structure World.Follows (changes : Nat → List RegistryChange) (w u : World) : Prop where
  registriesApart : u.RegistriesApart
  classCount : w.classes.size ≤ u.classes.size
  registry : ∀ id < w.classes.size,
    u.exposures? id = (w.exposures? id).map fun reg => RegistryChange.replay reg (changes id)

section

variable {w u v : World} {n id : Nat} {steps : List ClassStep} {s : ClassStep}
  {c d : Nat → List RegistryChange}

theorem World.Follows.refl (hw : w.RegistriesApart) : Follows (fun _ => []) w w :=
  ⟨hw, Nat.le_refl _, fun _ _ => Option.map_id'.symm⟩

theorem World.Follows.trans (h : Follows c w u) (h' : Follows d u v) :
    Follows (fun id => c id ++ d id) w v where
  registriesApart := h'.registriesApart
  classCount := Nat.le_trans h.classCount h'.classCount
  registry id hid := by
    rw [h'.registry id (Nat.lt_of_lt_of_le hid h.classCount), h.registry id hid, Option.map_map]
    simp only [RegistryChange.replay, List.foldl_append]
    rfl

theorem World.KeepsRegistries.follows (hw : w.RegistriesApart) (h : w.KeepsRegistries u) :
    Follows (fun _ => []) w u where
  registriesApart := (h.changes 0).registriesApart hw
  classCount := Nat.le_of_eq h.classCount.symm
  registry id _ := by
    rw [(h.changes id).exposures?_eq hw, if_pos rfl]
    rfl

theorem follows_change (hw : w.RegistriesApart) (id : Nat) (c : RegistryChange) :
    Follows (fun other => if id = other then [c] else []) w (w.after (c.perform id)) := by
  cases hid : w.exposures? id with
  | none =>
    have hnone : w.classRegistry id = none := by
      rw [hw.classRegistry_eq, hw.exposures?_eq_none.1 hid]
    have h := (perform_none c hnone).follows hw
    refine ⟨h.registriesApart, h.classCount, fun other hother => ?_⟩
    rw [h.registry other hother]
    by_cases heq : id = other
    · rw [← heq, hid]
      rfl
    · rw [if_neg heq]
  | some reg =>
    obtain ⟨r, hown, hr⟩ := hw.exposures?_eq_some.1 hid
    obtain ⟨u, hu, h⟩ := perform_own c hown hr
    rw [after_of_ok hu]
    refine ⟨h.registriesApart hw, Nat.le_of_eq h.classCount.symm, fun other _ => ?_⟩
    rw [h.exposures?_eq hw]
    by_cases heq : other = id
    · rw [if_pos heq, if_pos heq.symm]
      rfl
    · rw [if_neg heq, if_neg (Ne.symm heq)]
      exact Option.map_id'.symm

/-- A step changes the registry of a class that is there just when it is a change of that class. -/
theorem ClassStep.follows (hw : w.RegistriesApart) (hs : s.IsProper w) :
    Follows (fun id => s.changes id) w (w.after (s.perform (interpreter n))) := by
  cases s with
  | derive name base attrs exposed options =>
    change Follows (fun _ => []) w (w.after (_ >>= fun _ => pure ()))
    rw [after_map (f := fun _ => ())]
    rcases define_derives hw n name hs.2 with ⟨h, -⟩ | ⟨h, -⟩
    · exact h.follows hw
    · refine ⟨h.registriesApart hw hs.1, h.classCount ▸ Nat.le_succ _, fun id hid => ?_⟩
      rw [h.exposures?_of_ne hw hs.1 (Nat.ne_of_lt hid)]
      exact Option.map_id'.symm
  | change id c => exact follows_change hw id c

/-- The registry of a class after a run has exactly the changes of that class. -/
theorem ClassRun.follows (hw : w.RegistriesApart) (h : ClassRun (interpreter n) w steps u) :
    Follows (fun id => steps.flatMap (ClassStep.changes id)) w u := by
  induction h with
  | nil => exact .refl hw
  | step proper _ ih =>
    have hs := ClassStep.follows (n := n) hw proper
    exact hs.trans (ih hs.registriesApart)
  | pause keeps _ ih =>
    have hk := keeps.follows hw
    exact hk.trans (ih hk.registriesApart)

/-- A class starts from the registry that its base has when it is defined. -/
theorem ClassRun.exposures?_derived {v v' : World} {name : String} {base : Nat}
    {attrs : List (String × Value)} {exposed : List ExposedBlock} {options : List (String × Value)}
    (hv : v.RegistriesApart) (hbase : base < v.classes.size) (hc : ∀ a ∈ options, v.IsPlain a.2)
    (hdefine : ContextClass.define (interpreter n) name base attrs exposed options v = .ok id v')
    (h : ClassRun (interpreter n) v' steps u) :
    u.exposures? id = (v.exposures? base).map fun reg =>
      RegistryChange.replay reg (bodyChanges attrs exposed ++ steps.flatMap (ClassStep.changes id)) := by
  rcases define_derives hv n name hc with hnone | ⟨hderives, hid⟩
  · exact absurd hdefine (hnone.2 id v')
  obtain rfl := hid id v' hdefine
  rw [after_of_ok hdefine] at hderives
  rw [(h.follows (hderives.registriesApart hv hbase)).registry _ (hderives.classCount ▸ Nat.lt_succ_self _),
    hderives.exposures?_new hv hbase, Option.map_map]
  simp only [RegistryChange.replay, List.foldl_append]
  rfl

end

/-! ## Reading an exposed name -/

namespace RegistryChange

/-- The value and the block that are in force for a name after some changes of a registry. The value is
the one set last, or else the name; the block is the one set last, or else the one of all names without. -/
def inForce (reg : ExposureRegistry Value) (cs : List RegistryChange) (name : String) :
    Value × Option Value :=
  (((last? (value? name) cs).or (reg.entry name).value).getD (.str name),
    ((last? (block? name) cs).or (reg.entry name).block).or ((last? default? cs).getD reg.default))

theorem resolve_replay (reg : ExposureRegistry Value) (cs : List RegistryChange) (name : String) :
    (replay reg cs).resolve Value.str name = inForce reg cs name := by
  rw [inForce, ← value_replay, ← block_replay, ← default_replay, ExposureRegistry.resolve]
  simp only [Option.orElse_eq_orElse, Option.orElse_eq_or]

end RegistryChange

section

variable {w : World} {m : Interpreter} {r : Ref} {id : Nat} {reg : ExposureRegistry Value}
  {attrs : List (String × Value)} {name : String}

/-- What the accessor of a name computes comes from the registry of the class of the object. -/
theorem attributeOf_exposed {n : Nat} (hr : w.at' r = .instance id attrs) (hown : named? attrs name = none)
    (hclass : w.classValue id name = some (.exposed name)) (hreg : w.exposures? id = some reg) :
    (∀ block, (reg.resolve Value.str name).2 = some block →
      (interpreter (n + 1)).attributeOf (.ref r) name w =
        (interpreter n).apply block [.ref r, (reg.resolve Value.str name).1] w) ∧
    ((reg.resolve Value.str name).2 = none →
      (interpreter (n + 1)).attributeOf (.ref r) name w =
        raiseFault (Fault.exposureUndefined name (w.classAt' id).name) w) := by
  have hread : (interpreter (n + 1)).attributeOf (.ref r) name w =
      exposedValue (interpreter n) (.ref r) id name w := by
    rw [attributeOf_succ, readAttribute_instance hr (.inr (by rw [hclass]; rfl)),
      contextAttribute_class hclass (by simp) hown]
    rfl
  unfold World.exposures? at hreg
  cases hq : w.classRegistry id with
  | none =>
    rw [hq] at hreg
    cases hreg
  | some q =>
    rw [hq, Option.map_some] at hreg
    have hat : w.at' q = .registry reg := by
      generalize w.at' q = o at hreg
      cases o with
      | registry reg' =>
        cases hreg
        rfl
      | _ => cases hreg
    rw [hread]
    unfold exposedValue
    rw [bind_of_ok (registryOf?_eq w id), hq]
    dsimp only
    rw [bind_of_ok (registryAt_ok hat)]
    refine ⟨fun block hblock => ?_, fun hblock => ?_⟩
    · rw [hblock]
    · rw [hblock]
      exact bind_of_ok (classAt_ok w id)

end

/-- To set only the value of a name keeps its block, and to set only the block keeps its value. -/
theorem inForce_append_expose (reg : ExposureRegistry Value) (cs : List RegistryChange) (name : String)
    (v b : Value) :
    RegistryChange.inForce reg (cs ++ [.expose name (some v) none]) name =
        (v, (RegistryChange.inForce reg cs name).2) ∧
      RegistryChange.inForce reg (cs ++ [.expose name none (some b)]) name =
        ((RegistryChange.inForce reg cs name).1, some b) := by
  have hdefault (v b : Option Value) : RegistryChange.default? (.expose name v b) = none := rfl
  simp [RegistryChange.inForce, RegistryChange.last?, RegistryChange.value?, RegistryChange.block?,
    hdefault]

/-- In a run from a world whose registries are apart, what a class exposes changes only by changes of
that class; a class that is defined starts from what its base exposes at that time, with the blocks in
its body; and the accessor of a name, wherever it stands, calls the block that is in force for the class
of the object with the value that is in force there, or reports that there is no block. -/
theorem exposures_inherited {n : Nat} {w : World} (hw : w.RegistriesApart) :
    (∀ {steps u}, ClassRun (interpreter n) w steps u → ∀ id < w.classes.size,
      u.exposures? id = (w.exposures? id).map fun reg =>
        RegistryChange.replay reg (steps.flatMap (ClassStep.changes id))) ∧
    (∀ {before v name base attrs exposed options id v' after u},
      ClassRun (interpreter n) w before v →
      (ClassStep.derive name base attrs exposed options).IsProper v →
      ContextClass.define (interpreter n) name base attrs exposed options v = .ok id v' →
      ClassRun (interpreter n) v' after u →
      u.exposures? id = (v.exposures? base).map fun reg => RegistryChange.replay reg
        (bodyChanges attrs exposed ++ after.flatMap (ClassStep.changes id))) ∧
    (∀ {u : World} {id reg cs k r own name}, u.exposures? id = some (RegistryChange.replay reg cs) →
      u.at' r = .instance id own → named? own name = none →
      u.classValue id name = some (.exposed name) →
      (∀ block, (RegistryChange.inForce reg cs name).2 = some block →
        (interpreter (k + 1)).attributeOf (.ref r) name u =
          (interpreter k).apply block [.ref r, (RegistryChange.inForce reg cs name).1] u) ∧
      ((RegistryChange.inForce reg cs name).2 = none →
        (interpreter (k + 1)).attributeOf (.ref r) name u =
          raiseFault (Fault.exposureUndefined name (u.classAt' id).name) u)) ∧
    ∀ (reg : ExposureRegistry Value) (cs : List RegistryChange) (name : String) (v b : Value),
      RegistryChange.inForce reg (cs ++ [.expose name (some v) none]) name =
          (v, (RegistryChange.inForce reg cs name).2) ∧
        RegistryChange.inForce reg (cs ++ [.expose name none (some b)]) name =
          ((RegistryChange.inForce reg cs name).1, some b) := by
  refine ⟨fun run => (run.follows hw).registry, ?_, ?_, inForce_append_expose⟩
  · intro before v name base attrs exposed options id v' after u hbefore hproper hdefine hafter
    exact hafter.exposures?_derived (hbefore.follows hw).registriesApart hproper.1 hproper.2 hdefine
  · intro u id reg cs k r own name hreg hr hown hclass
    rw [← RegistryChange.resolve_replay]
    exact attributeOf_exposed hr hown hclass hreg

/-! ## The built-in classes, and a page above another -/

/-- Whether an object is a registry. -/
def Object.isRegistry : Object → Bool
  | .registry _ => true
  | _ => false

/-- Whether the registries of the classes that are there are apart. -/
def World.registriesApart? (w : World) : Bool :=
  (List.range w.classes.size).all fun id =>
    (w.classAt' id).exposures.all (fun r => (w.at' r).isRegistry) &&
      (w.classAt' id).base.all (fun b => b < id &&
        ((w.classAt' id).exposures.isSome || (w.classAt' b).exposures.isNone)) &&
      (List.range w.classes.size).all fun other => id == other ||
        (w.classAt' id).exposures.isNone || (w.classAt' id).exposures != (w.classAt' other).exposures

theorem World.registriesApart_of_check {w : World} (h : w.registriesApart? = true) :
    w.RegistriesApart := by
  have hclass {id : Nat} (hid : id < w.classes.size) := List.all_eq_true.1 h id (List.mem_range.2 hid)
  have hlt_of_base {id b : Nat} (hb : (w.classAt' id).base = some b) : id < w.classes.size := by
    refine Nat.lt_of_not_le fun hle => ?_
    rw [classAt'_of_size_le hle] at hb
    cases hb
  refine ⟨fun id b hb => ?_, fun id r hr => ?_, fun id other r hid hother => ?_, fun id b hb hnone => ?_⟩
  · have := hclass (hlt_of_base hb)
    simp_all
  · have := hclass (lt_of_exposures hr)
    have hreg : (w.at' r).isRegistry = true := by simp_all
    generalize w.at' r = o at hreg
    cases o with
    | registry reg => exact ⟨reg, rfl⟩
    | _ => cases hreg
  · have hothers := (Bool.and_eq_true_iff.1 (hclass (lt_of_exposures hid))).2
    have h := List.all_eq_true.1 hothers other (List.mem_range.2 (lt_of_exposures hother))
    simpa [hid, hother] using h
  · have := hclass (hlt_of_base hb)
    simp_all

/-- The built-in classes share no registry. -/
theorem setUp_registriesApart : (World.after ContextClass.setUp {}).RegistriesApart :=
  registriesApart_of_check (by decide +kernel)

/-! ## A page and a page below it -/

/-- A title in other words. -/
def titleBlocks : List ExposedBlock := [{ attr := "title", block := .builtin "max", name := "title" }]

/-- A page with such a title. -/
def titledPage : Action Nat :=
  ContextClass.define (interpreter maxLevels) "Page" ContextClass.exposing [] titleBlocks []

/-- A page derived from it. -/
def otherPage : Action Nat := ContextClass.define (interpreter maxLevels) "Other" 4 [] [] []

/-- The page has a title when the other page is derived. -/
def welcoming : ClassStep := .change 4 (.expose "title" (some (.str "welcome")) none)

/-- Then each of them gets another one. -/
def parting : List ClassStep :=
  [.change 5 (.expose "title" (some (.str "goodbye")) none),
    .change 4 (.expose "title" (some (.str "hello")) (some (.builtin "min")))]

def welcomed : World :=
  ((World.after ContextClass.setUp {}).after titledPage).after (welcoming.perform (interpreter maxLevels))

def parted : World :=
  (parting.foldl (fun w s => w.after (s.perform (interpreter maxLevels))) (welcomed.after otherPage)).push
    (.instance 5 [])

theorem titledPage_checks : (World.after ContextClass.setUp {}).value? titledPage = some 4 ∧
    welcomed.value? otherPage = some 5 ∧
    ((World.after ContextClass.setUp {}).exposures? ContextClass.exposing).isSome = true ∧
    (parted.classValue 5 "title").any (Value.same (.exposed "title")) = true ∧
    4 < welcomed.classes.size ∧ parted.objects.size = 8 := by
  decide +kernel

theorem eq_exposed {v : Option Value} {name : String}
    (h : v.any (Value.same (.exposed name)) = true) : v = some (.exposed name) := by
  cases v with
  | none => cases h
  | some v =>
    cases v with
    | exposed n =>
      have hn : name = n := by simpa [Value.same] using h
      rw [hn]
    | _ => cases h

/-- The other page has its own title in the words of the page, which itself has changed both since. -/
theorem parted_title_inherited :
    (interpreter 2).attributeOf (.ref 7) "title" parted =
      (interpreter 1).apply (.builtin "max") [.ref 7, .str "goodbye"] parted := by
  obtain ⟨hpage, hother, hbase, hclass, hsize, -⟩ := titledPage_checks
  obtain ⟨reg, hreg⟩ := Option.isSome_iff_exists.1 hbase
  obtain ⟨-, hderived, hreads, -⟩ := exposures_inherited (n := maxLevels) setUp_registriesApart
  have hwelcome : ClassRun (interpreter maxLevels) ((World.after ContextClass.setUp {}).after titledPage)
      [welcoming] welcomed := .step trivial (.nil _)
  have hparting : ClassRun (interpreter maxLevels) (welcomed.after otherPage) parting parted :=
    .step trivial (.step trivial (.pause (.push _ _) (.nil _)))
  have hproper : (ClassStep.derive "Page" ContextClass.exposing [] titleBlocks []).IsProper
      (World.after ContextClass.setUp {}) := ⟨by decide +kernel, by simp⟩
  have hbefore : ClassRun (interpreter maxLevels) (World.after ContextClass.setUp {})
      [.derive "Page" ContextClass.exposing [] titleBlocks [], welcoming] welcomed := by
    refine .step hproper ?_
    change ClassRun _ (World.after (titledPage >>= fun _ => pure ()) _) _ _
    rw [after_map (f := fun _ => ())]
    exact hwelcome
  have hotherRegistry := hderived hbefore ⟨hsize, by simp⟩ (World.ok_of_value? hother) hparting
  rw [hderived (.nil _) hproper (World.ok_of_value? hpage) hwelcome, hreg] at hotherRegistry
  -- The changes of both classes, one after the other.
  have hchanges : parted.exposures? 5 = some (RegistryChange.replay reg
      [.expose "title" none (some (.builtin "max")), .expose "title" (some (.str "welcome")) none,
        .expose "title" (some (.str "goodbye")) none]) := hotherRegistry
  have hinstance : parted.at' 7 = .instance 5 [] := rfl
  exact (hreads hchanges hinstance rfl (eq_exposed hclass)).1 (.builtin "max") rfl

end Stencil
