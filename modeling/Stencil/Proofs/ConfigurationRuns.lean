import Stencil.Proofs.Configurations

/-!
# Runs of definitions and calls

Classes of views are defined and configured step by step. After any run it can be said of each class
whether it has a configuration of its own, and so whose configurations the next call will change.
-/

namespace Stencil

open World Evaluation

/-! ## Definitions -/

section

variable {w u : World} {n id : Nat} {c : ViewConfig}

theorem KeepsConfigs.bind {α β : Type} {x : Action α} {f : α → Action β}
    (hx : w.KeepsConfigs (w.after x)) (hf : ∀ a u, x w = .ok a u → u.KeepsConfigs (u.after (f a))) :
    w.KeepsConfigs (w.after (x >>= f)) :=
  rel_after_bind .trans hx hf

theorem changeRegistry_keepsConfigs (w : World) (id : Nat)
    (f : ExposureRegistry Value → ExposureRegistry Value) :
    w.KeepsConfigs (w.after (ContextClass.changeRegistry id f)) :=
  .of_classes_eq (Evolving.evolves w) (changeRegistry_classes w id f)

/-- No accessor takes the place of a configuration. -/
theorem installAccessor_keepsConfigs (hid : (w.classValue id "config").isSome) (name : String) :
    w.KeepsConfigs (w.after (do if !(← ContextClass.hasOwnAttribute id name) then
      ContextClass.setClassAttribute id name (.exposed name))) := by
  refine ⟨Evolving.evolves w, fun other => ?_⟩
  rw [after_bind_of_ok (hasOwnAttribute_ok w id name)]
  by_cases hhas : w.answers id name
  · rw [hhas]
    rfl
  · have hname : "config" ≠ name := by
      rintro rfl
      exact hhas (by simp [answers, hid])
    rw [Bool.not_eq_true] at hhas
    rw [hhas]
    change World.ownValue { w with classes := w.classes.setIfInBounds id _ } other "config" = _
    rw [ownValue_setClass]
    split
    · rename_i h
      rw [named?_setNamed, if_neg hname, h.1]
      rfl
    · rfl

/-- A change of the registry of a class that has a configuration leaves all of them alone. -/
theorem perform_keepsConfigs (hw : w.ConfigsInPlace) (hid : (w.classValue id "config").isSome)
    (change : RegistryChange) : w.KeepsConfigs (w.after (change.perform id)) := by
  cases change with
  | expose name value block =>
    refine KeepsConfigs.bind (changeRegistry_keepsConfigs w id _) fun _ u hu => ?_
    have hk : w.KeepsConfigs u := after_of_ok hu ▸ changeRegistry_keepsConfigs w id _
    exact installAccessor_keepsConfigs (hk.classValue_eq hw id ▸ hid) name
  | describe name text => exact changeRegistry_keepsConfigs w id _
  | default block => exact changeRegistry_keepsConfigs w id _

theorem performs_keepsConfigs (hw : w.ConfigsInPlace) (hid : (w.classValue id "config").isSome)
    (changes : List RegistryChange) :
    w.KeepsConfigs (w.after (forM changes (RegistryChange.perform id))) := by
  induction changes generalizing w with
  | nil => exact .refl w
  | cons change changes ih =>
    rw [List.forM_cons]
    refine KeepsConfigs.bind (perform_keepsConfigs hw hid change) fun _ u hu => ?_
    have hk : w.KeepsConfigs u := after_of_ok hu ▸ perform_keepsConfigs hw hid change
    exact ih (hk.configsInPlace hw) (hk.classValue_eq hw id ▸ hid)

theorem registerBlocks_keepsConfigs (hw : w.ConfigsInPlace) (hid : (w.classValue id "config").isSome)
    {blocks : List ExposedBlock} (hblocks : ∀ e ∈ blocks, e.attr ≠ "config") :
    w.KeepsConfigs (w.after (ContextClass.registerBlocks id blocks)) := by
  induction blocks generalizing w with
  | nil => exact .refl w
  | cons e rest ih =>
    let erased : ContextClass :=
      { w.classAt' id with attrs := eraseNamed (w.classAt' id).attrs e.attr }
    have hset : setClass id erased w = .ok () (w.after (setClass id erased)) := rfl
    have herase : w.KeepsConfigs (w.after (setClass id erased)) := by
      refine ⟨.setClass ⟨rfl, rfl, rfl, rfl⟩, fun other => ?_⟩
      refine (ownValue_setClass id erased other "config").trans ?_
      split
      · rename_i h
        rw [named?_eraseNamed_of_ne (hblocks e (by simp)).symm, h.1]
        rfl
      · rfl
    have hchanges {u : World} (h : w.KeepsConfigs u) :=
      performs_keepsConfigs (h.configsInPlace hw) (h.classValue_eq hw id ▸ hid) e.changes
    rw [registerBlocks_cons, after_bind_of_ok (classAt_ok w id), after_bind_of_ok hset]
    refine herase.trans (KeepsConfigs.bind (hchanges herase) fun _ u hu => ?_)
    have hk : w.KeepsConfigs u := herase.trans (after_of_ok hu ▸ hchanges herase)
    exact ih (hk.configsInPlace hw) (hk.classValue_eq hw id ▸ hid) fun e' he => hblocks e' (by simp [he])

/-- Nothing in the body of a class stands in the place of its configuration. -/
def LeavesConfig (attrs : List (String × Value)) (exposed : List ExposedBlock) : Prop :=
  named? attrs "config" = none ∧ ∀ e ∈ exposed, e.attr ≠ "config"

theorem mem_of_mem_bodyBlocks {attrs : List (String × Value)} {exposed : List ExposedBlock}
    {e : ExposedBlock} (h : e ∈ ContextClass.bodyBlocks attrs exposed) : e ∈ exposed := by
  unfold ContextClass.bodyBlocks at h
  obtain ⟨a, -, ha⟩ := List.mem_filterMap.1 h
  exact List.mem_reverse.1 (List.mem_of_find?_eq_some ha)

theorem LeavesConfig.named?_body {attrs : List (String × Value)} {exposed : List ExposedBlock}
    (h : LeavesConfig attrs exposed) :
    named? (ContextClass.bodyAttributes attrs exposed) "config" = none := by
  have hnone : exposed.reverse.find? (·.attr == "config") = none := by
    refine List.find?_eq_none.2 fun e he => ?_
    simpa using h.2 e (List.mem_reverse.1 he)
  rw [named?_bodyAttributes, hnone, h.1]
  rfl

theorem addClass_addsClass {d : ContextClass} {base : Nat} (hb : d.base = some base)
    (hd : named? d.attrs "config" = none) : AddsClass base w (w.after (addClass d)) where
  configs _ _ h := h
  classCount := Array.size_push d
  bases id hid := by rw [classAt'_addClass, if_neg hid]
  newBase := by rw [classAt'_addClass, if_pos rfl, hb]
  own id := by
    unfold ownValue
    rw [classAt'_addClass]
    split
    · rename_i h
      rw [h, hd, classAt'_of_size_le (Nat.le_refl _)]
      rfl
    · rfl

theorem World.KeepsConfigs.addsClass {v : World} {base : Nat} (h : w.KeepsConfigs u)
    (h' : AddsClass base u v) : AddsClass base w v := by
  have hsize := h.evolves.classCount
  refine ⟨fun x c hx => h'.configs x c (h.evolves.configIn hx), hsize ▸ h'.classCount, fun id hid => ?_,
    hsize ▸ h'.newBase, fun id => (h'.own id).trans (h.own id)⟩
  exact (h'.bases id (hsize ▸ hid)).trans (h.evolves.base id)

theorem World.AddsClass.keep {v : World} {base : Nat} (h : AddsClass base w u) (h' : u.KeepsConfigs v) :
    AddsClass base w v where
  configs x c hx := h'.evolves.configIn (h.configs x c hx)
  classCount := h'.evolves.classCount.trans h.classCount
  bases id hid := (h'.evolves.base id).trans (h.bases id hid)
  newBase := (h'.evolves.base _).trans h.newBase
  own id := (h'.own id).trans (h.own id)

/-- A definition stops before there is a class, or there is one more class below its base; the new
class has a configuration of its own when the definition has come to an end and had options. -/
theorem define_effect {base : Nat} {attrs : List (String × Value)} {exposed : List ExposedBlock}
    {options : List (String × Value)} (hw : w.ConfigsInPlace) (hbase : w.config? base = some c)
    (hbody : LeavesConfig attrs exposed) (hoptions : ∀ a ∈ options, w.IsPlain a.2) (n : Nat)
    (name : String) :
    let definition := ContextClass.define (interpreter n) name base attrs exposed options
    ((∀ id u, definition w ≠ .ok id u) ∧ w.KeepsConfigs (w.after definition)) ∨
      ∃ v, AddsClass base w v ∧
        ((∀ id u, definition w = .ok id u → options = [] ∧ id = w.classes.size) ∧
            v.KeepsConfigs (w.after definition) ∨
          options ≠ [] ∧ definition w = .ok w.classes.size (w.after definition) ∧
            ∃ c', SetsConfig w.classes.size c' v (w.after definition)) := by
  intro definition
  have hlt := lt_of_config? hbase
  rcases define_cases (interpreter n) w name base attrs exposed options with
    ⟨e, u, h, hit, hev⟩ | ⟨hkind, exposures, w₁, hexposures, hfinish⟩
  · have h : definition w = .error e u := h
    rw [after_of_error h, h]
    exact .inl ⟨by rintro id u ⟨⟩, .of_classes_eq hev hit.classes⟩
  have hderive : w.KeepsConfigs w₁ := by
    rw [← after_of_ok hexposures]
    exact keepsConfigs_of_iterates (Iterating.iterates w)
  generalize hd : newClass w name base attrs exposed exposures = d at hfinish
  -- The class is there, with nothing in the place of its configuration.
  have hadds : AddsClass base w (w₁.after (addClass d)) := by
    subst hd
    exact hderive.addsClass (addClass_addsClass rfl hbody.named?_body)
  have hplain : ∀ a ∈ options, (w₁.after (addClass d)).IsPlain a.2 := fun a ha =>
    ((hoptions a ha).evolves hderive.evolves).mono (Nat.le_refl _) fun r _ => rfl
  generalize w₁.after (addClass d) = v at hadds hplain hfinish
  have hplace := hadds.configsInPlace hw hlt
  have hconfig : v.config? w.classes.size = some c := (hadds.config?_new hw hlt).trans hbase
  have hsome : (v.classValue w.classes.size "config").isSome := by
    obtain ⟨x, hx, -⟩ := Option.bind_eq_some_iff.1 hconfig
    rw [hx]
    rfl
  rw [World.after_congr (x := definition) hfinish, show definition w = _ from hfinish]
  unfold finishClass
  generalize hblocks : (if exposures.isSome = true then _ else pure () : Action Unit) = blocks
  have hkeeps : v.KeepsConfigs (v.after blocks) := by
    rw [← hblocks]
    split
    · exact registerBlocks_keepsConfigs hplace hsome fun e he => hbody.2 e (mem_of_mem_bodyBlocks he)
    · exact .refl v
  cases hregistered : blocks v with
  | error e u =>
    rw [after_of_error hregistered] at hkeeps
    rw [after_bind_of_error hregistered, bind_of_error hregistered]
    exact .inr ⟨u, hadds.keep hkeeps, .inl ⟨by rintro id u ⟨⟩, .refl u⟩⟩
  | ok _ u =>
    rw [after_of_ok hregistered] at hkeeps
    rw [after_bind_of_ok hregistered, bind_of_ok hregistered]
    refine .inr ⟨u, hadds.keep hkeeps, ?_⟩
    split
    · rename_i hview
      have hsome : options ≠ [] := by
        rintro rfl
        simp at hview
      have hset := configure_effect ((hkeeps.config?_eq hplace _).trans hconfig)
        (fun a ha => (hplain a ha).evolves hkeeps.evolves) n
      rw [bind_assoc]
      rcases hset with ⟨hrefused, hkept⟩ | ⟨⟨x, hx⟩, c', -, hset⟩
      · refine .inl ⟨fun id u' h => ?_, ?_⟩
        · obtain ⟨x, _, hx, -⟩ := bind_eq_ok.1 h
          exact absurd hx (hrefused x _)
        · exact KeepsConfigs.bind hkept fun _ u' _ => .refl u'
      · rw [bind_of_ok hx, after_bind_of_ok hx]
        exact .inr ⟨hsome, rfl, c', hset⟩
    · rename_i hview
      refine .inl ⟨fun id u' h => ?_, .refl u⟩
      obtain ⟨rfl, -⟩ := pure_eq_ok.1 h
      refine ⟨hkind.elim (fun hkind => ?_) id, rfl⟩
      simpa [hkind] using hview

end

/-! ## Runs -/

/-- A definition of a class of views, or a call that configures one. -/
inductive ViewStep where
  | derive (name : String) (base : Nat) (attrs : List (String × Value))
      (exposed : List ExposedBlock) (options : List (String × Value))
  | configure (id : Nat) (changes : List (String × Value))
  | register (id : Nat) (other : Value)

namespace ViewStep

/-- Take a step. -/
def perform (m : Interpreter) : ViewStep → Action Unit
  | derive name base attrs exposed options => do
    let _ ← ContextClass.define m name base attrs exposed options
  | configure id changes => do
    let _ ← ContextClass.configure m id changes
  | register id other => do
    let _ ← ContextClass.registerType m id other

/-- The class that a call is about. -/
def called? : ViewStep → Option Nat
  | derive .. => none
  | configure id _ | register id _ => some id

/-- What a call makes the configuration of its class. -/
def result? (m : Interpreter) (w : World) : ViewStep → Option ViewConfig
  | derive .. => none
  | configure id changes => (w.config? id).bind fun c => w.value? (c.replace m changes)
  | register id other => (w.config? id).bind fun c => (w.configOf? other).map c.mergeAssets

/-- The class that a step is to give a configuration of its own, if any. -/
def subject? (w : World) : ViewStep → Option Nat
  | derive _ _ _ _ options => if options.isEmpty then none else some w.classes.size
  | configure id _ | register id _ => some id

/-- The class that a step gives a configuration of its own. -/
def owner? (m : Interpreter) (w : World) (s : ViewStep) : Option Nat :=
  (w.value? (s.perform m)).bind fun _ => s.subject? w

/-- Steps that are about classes of views, with values that run nothing; what is defined in the body of a
class does not stand in the place of its configuration. -/
def IsProper (w : World) : ViewStep → Prop
  | derive _ base attrs exposed options =>
    (w.config? base).isSome ∧ LeavesConfig attrs exposed ∧ ∀ a ∈ options, w.IsPlain a.2
  | configure id changes => (w.config? id).isSome ∧ ∀ a ∈ changes, w.IsPlain a.2
  | register id other => (w.config? id).isSome ∧ (w.configOf? other).isSome

end ViewStep

/-- A run in which classes of views are defined and configured step by step, whether or not a step fails,
and the classes that it has given configurations of their own. Between the steps may be anything that
leaves the configurations alone. -/
inductive ViewRun (m : Interpreter) : World → List Nat → World → Prop
  | nil (w : World) : ViewRun m w [] w
  | step {w u : World} {s : ViewStep} {owners : List Nat} (proper : s.IsProper w)
      (rest : ViewRun m (w.after (s.perform m)) owners u) :
      ViewRun m w ((s.owner? m w).toList ++ owners) u
  | pause {w v u : World} {owners : List Nat} (keeps : w.KeepsConfigs v)
      (rest : ViewRun m v owners u) : ViewRun m w owners u

section

variable {w v u : World} {n id t : Nat} {s : ViewStep} {owners : List Nat} {c : ViewConfig}

theorem after_discard {α : Type} (x : Action α) (w : World) :
    w.after (x >>= fun _ => pure ()) = w.after x := after_map (f := fun _ => ())

theorem discard_eq_ok {α : Type} {x : Action α} {b : Unit} :
    (x >>= fun _ => pure ()) w = .ok b u ↔ ∃ a, x w = .ok a u := by
  rw [bind_eq_ok]
  constructor
  · rintro ⟨a, _, ha, h⟩
    obtain ⟨-, rfl⟩ := pure_eq_ok.1 h
    exact ⟨a, ha⟩
  · rintro ⟨a, ha⟩
    exact ⟨a, u, ha, rfl⟩

/-- A call changes nothing, or gives its class what it comes to. -/
theorem ViewStep.call_effect (hs : s.IsProper w) (ht : s.called? = some t) :
    ((∀ u, s.perform (interpreter n) w ≠ .ok () u) ∧
        w.KeepsConfigs (w.after (s.perform (interpreter n)))) ∨
      s.perform (interpreter n) w = .ok () (w.after (s.perform (interpreter n))) ∧
        ∃ c, s.result? (interpreter n) w = some c ∧
          SetsConfig t c w (w.after (s.perform (interpreter n))) := by
  cases s with
  | derive name base attrs exposed options => cases ht
  | configure id changes =>
    cases ht
    obtain ⟨hsome, hplain⟩ := hs
    obtain ⟨c, hc⟩ := Option.isSome_iff_exists.1 hsome
    have h := configure_effect hc hplain n
    simp only [perform, after_discard, ne_eq, discard_eq_ok, result?, hc, Option.bind_some]
    rcases h with ⟨hrefused, hkept⟩ | ⟨hx, c', hc', hset⟩
    · exact .inl ⟨fun u ⟨x, hx⟩ => hrefused x u hx, hkept⟩
    · exact .inr ⟨hx, c', hc', hset⟩
  | register id other =>
    cases ht
    obtain ⟨hsome, hother⟩ := hs
    obtain ⟨c, hc⟩ := Option.isSome_iff_exists.1 hsome
    obtain ⟨more, hmore⟩ := Option.isSome_iff_exists.1 hother
    have h := registerType_effect hc hmore n
    simp only [perform, after_discard, ne_eq, discard_eq_ok, result?, hc, hmore, Option.bind_some,
      Option.map_some]
    rcases h with ⟨hrefused, hkept⟩ | ⟨hx, hset⟩
    · exact .inl ⟨fun u ⟨x, hx⟩ => hrefused x u hx, hkept⟩
    · exact .inr ⟨hx, _, rfl, hset⟩

/-- A definition leaves the configurations of the classes that are there, and the new class has that of
its base when it has no options. -/
theorem ViewStep.derive_effect {name : String} {base : Nat} {attrs : List (String × Value)}
    {exposed : List ExposedBlock} {options : List (String × Value)} (hw : w.ConfigsInPlace)
    (hs : (derive name base attrs exposed options).IsProper w) :
    let definition := ContextClass.define (interpreter n) name base attrs exposed options
    (∀ id < w.classes.size, (w.after definition).config? id = w.config? id) ∧
      ∀ id u, definition w = .ok id u → id = w.classes.size ∧
        (options = [] → u.config? id = w.config? base) := by
  intro definition
  obtain ⟨hsome, hbody, hplain⟩ := hs
  obtain ⟨c, hc⟩ := Option.isSome_iff_exists.1 hsome
  have hlt := lt_of_config? hc
  rcases define_effect hw hc hbody hplain n name with
    ⟨hrefused, hkept⟩ | ⟨v, hadds, ⟨hfresh, hkept⟩ | ⟨hoptions, hdone, c', hset⟩⟩
  · exact ⟨fun id _ => hkept.config?_eq hw id, fun id u h => absurd h (hrefused id u)⟩
  · have hv := hadds.configsInPlace hw hlt
    refine ⟨fun id hid => (hkept.config?_eq hv id).trans (hadds.config?_of_lt hw hlt hid), fun id u h => ?_⟩
    obtain ⟨-, rfl⟩ := hfresh id u h
    rw [after_of_ok h] at hkept
    exact ⟨rfl, fun _ => (hkept.config?_eq hv _).trans (hadds.config?_new hw hlt)⟩
  · have hv := hadds.configsInPlace hw hlt
    refine ⟨fun id hid => ?_, fun id u h => ?_⟩
    · -- An older class does not look anything up in the new one.
      rw [hset.config?_of_not_looksIn hv fun hlooks => ?_, hadds.config?_of_lt hw hlt hid]
      exact absurd (hlooks.le hv.basesFirst) (Nat.not_le.2 hid)
    · obtain ⟨rfl, -⟩ := EStateM.Result.ok.inj (hdone.symm.trans h)
      exact ⟨rfl, fun hnone => absurd hnone hoptions⟩

/-- Which classes have configurations of their own after a step. -/
theorem ViewStep.ownsConfig_iff (hw : w.ConfigsInPlace) (hs : s.IsProper w) :
    let u := w.after (s.perform (interpreter n))
    u.ConfigsInPlace ∧
      ∀ id, u.OwnsConfig id ↔ w.OwnsConfig id ∨ s.owner? (interpreter n) w = some id := by
  have hkeeps (hnone : s.owner? (interpreter n) w = none) {u : World}
      (h : ∀ id, u.OwnsConfig id ↔ w.OwnsConfig id) (id : Nat) : u.OwnsConfig id ↔ w.OwnsConfig id ∨ s.owner? (interpreter n) w = some id := by
    simp [h, hnone]
  have hrefused (h : ∀ u, s.perform (interpreter n) w ≠ .ok () u) : s.owner? (interpreter n) w = none := by
    have hnone : w.value? (s.perform (interpreter n)) = none := by
      unfold World.value?
      cases hx : s.perform (interpreter n) w with
      | ok a u => exact absurd hx (h u)
      | error e u => rfl
    rw [owner?, hnone]
    rfl
  cases ht : s.called? with
  | some t =>
    rcases call_effect (n := n) hs ht with ⟨h, hkept⟩ | ⟨hdone, c, -, hset⟩
    · exact ⟨hkept.configsInPlace hw, hkeeps (hrefused h) hkept.ownsConfig_iff⟩
    · refine ⟨hset.configsInPlace hw, fun id => ?_⟩
      have howner : s.owner? (interpreter n) w = some t := by
        rw [owner?, (World.of_ok hdone).1, Option.bind_some]
        cases s <;> first | exact ht | cases ht
      rw [hset.ownsConfig_iff, howner, Option.some_inj, eq_comm]
  | none =>
    cases s with
    | configure | register => cases ht
    | derive name base attrs exposed options =>
      obtain ⟨hsome, hbody, hplain⟩ := hs
      obtain ⟨c, hc⟩ := Option.isSome_iff_exists.1 hsome
      simp only [perform, after_discard]
      rcases define_effect hw hc hbody hplain n name with
        ⟨h, hkept⟩ | ⟨v, hadds, ⟨hfresh, hkept⟩ | ⟨hoptions, hdone, c', hset⟩⟩
      · refine ⟨hkept.configsInPlace hw, hkeeps (hrefused fun u hu => ?_) hkept.ownsConfig_iff⟩
        obtain ⟨id, hid⟩ := discard_eq_ok.1 hu
        exact h id u hid
      · have hv := hadds.configsInPlace hw (lt_of_config? hc)
        refine ⟨hkept.configsInPlace hv,
          hkeeps ?_ fun id => (hkept.ownsConfig_iff id).trans (hadds.ownsConfig_iff id)⟩
        refine Option.eq_none_iff_forall_ne_some.2 fun id hid => ?_
        obtain ⟨_, hvalue, hid⟩ := Option.bind_eq_some_iff.1 hid
        obtain ⟨_, hdone⟩ := discard_eq_ok.1 (World.ok_of_value? hvalue)
        rw [(hfresh _ _ hdone).1] at hid
        cases hid
      · have hv := hadds.configsInPlace hw (lt_of_config? hc)
        refine ⟨hset.configsInPlace hv, fun id => ?_⟩
        have howner : (derive name base attrs exposed options).owner? (interpreter n) w =
            some w.classes.size := by
          have hvalue : w.value? ((derive name base attrs exposed options).perform (interpreter n)) = some () :=
            (World.of_ok (discard_eq_ok.2 ⟨_, hdone⟩)).1
          rw [owner?, hvalue, Option.bind_some, subject?, if_neg (by simpa using hoptions)]
        rw [hset.ownsConfig_iff, hadds.ownsConfig_iff, howner, Option.some_inj, eq_comm]

/-- A class has a configuration of its own after a run when it had one or the run has given it one. -/
theorem ViewRun.ownsConfig_iff (hw : w.ConfigsInPlace) (run : ViewRun (interpreter n) w owners u) :
    u.ConfigsInPlace ∧ ∀ id, u.OwnsConfig id ↔ w.OwnsConfig id ∨ id ∈ owners := by
  induction run with
  | nil w => exact ⟨hw, fun id => by simp⟩
  | @step w u s owners proper rest ih =>
    obtain ⟨hplace, howns⟩ := ViewStep.ownsConfig_iff (n := n) hw proper
    refine ⟨(ih hplace).1, fun id => ?_⟩
    rw [(ih hplace).2 id, howns id, List.mem_append, Option.mem_toList, or_assoc]
  | pause keeps rest ih =>
    refine ⟨(ih (keeps.configsInPlace hw)).1, fun id => ?_⟩
    rw [(ih (keeps.configsInPlace hw)).2 id, keeps.ownsConfig_iff]

/-- How far the configurations of the other classes stay when a class of views is configured, after any
run. A call makes the configuration of its class what it comes to; each class that is there and looks its
own up in that class, which is one below it from which no class on the way has had a configuration of its
own or has been given one, gets it too; and all the others keep theirs. So they all stay just when the
call changes nothing or there is no such class. A call that fails and a definition change none. -/
theorem configuration_stays_iff (hw : w.ConfigsInPlace) (run : ViewRun (interpreter n) w owners v) :
    (∀ {s t}, s.IsProper v → ViewStep.called? s = some t →
      let u := v.after (s.perform (interpreter n))
      let looks := v.LooksIn fun id => w.OwnsConfig id ∨ id ∈ owners
      (∀ a, s.perform (interpreter n) v = .ok a u →
        ((∀ id < v.classes.size, id ≠ t → u.config? id = v.config? id) ↔
          s.result? (interpreter n) v = v.config? t ∨ ∀ id < v.classes.size, id ≠ t → ¬ looks id t) ∧
        (∀ id, looks id t → u.config? id = s.result? (interpreter n) v) ∧
        ∀ id, ¬ looks id t → u.config? id = v.config? id) ∧
      ∀ e, s.perform (interpreter n) v = .error e u → ∀ id, u.config? id = v.config? id) ∧
    ∀ {name base attrs exposed options}, (ViewStep.derive name base attrs exposed options).IsProper v →
      let definition := ContextClass.define (interpreter n) name base attrs exposed options
      (∀ id < v.classes.size, (v.after definition).config? id = v.config? id) ∧
        ∀ id u, definition v = .ok id u → id = v.classes.size ∧
          (options = [] → u.config? id = v.config? base) := by
  obtain ⟨hv, howns⟩ := run.ownsConfig_iff hw
  refine ⟨fun {s t} hs ht => ?_, fun hs => ViewStep.derive_effect hv hs⟩
  intro u looks
  have hlooks (id : Nat) : looks id t ↔ v.LooksIn v.OwnsConfig id t :=
    ⟨fun h => h.congr howns, fun h => h.congr fun id => (howns id).symm⟩
  rcases ViewStep.call_effect (n := n) hs ht with ⟨hrefused, hkept⟩ | ⟨hdone, c, hc, hset⟩
  · exact ⟨fun a h => absurd h (hrefused _), fun e _ id => hkept.config?_eq hv id⟩
  refine ⟨fun a _ => ?_, fun e h => by rw [hdone] at h; cases h⟩
  have hgets (id : Nat) (h : looks id t) : u.config? id = s.result? (interpreter n) v :=
    hc ▸ hset.config?_of_looksIn hv ((hlooks id).1 h)
  have hstays (id : Nat) (h : ¬ looks id t) : u.config? id = v.config? id :=
    hset.config?_of_not_looksIn hv (mt (hlooks id).2 h)
  refine ⟨⟨fun hall => ?_, fun h id hid hne => ?_⟩, hgets, hstays⟩
  · refine Classical.or_iff_not_imp_right.2 fun hsome => ?_
    obtain ⟨id, hid, hne, h⟩ : ∃ id < v.classes.size, id ≠ t ∧ looks id t :=
      Classical.byContradiction fun hnone => hsome fun id hid hne h => hnone ⟨id, hid, hne, h⟩
    rw [← hgets id h, hall id hid hne, hv.config?_of_looksIn ((hlooks id).1 h)]
  · by_cases hlook : looks id t
    · rcases h with h | h
      · rw [hgets id hlook, h, hv.config?_of_looksIn ((hlooks id).1 hlook)]
      · exact absurd hlook (h id hid hne)
    · exact hstays id hlook

end

/-! ## A page, and a note and a card below it -/

/-- Whether every class comes after its base and has a configuration in the place of one. -/
def World.configsInPlace? (w : World) : Bool :=
  (List.range w.classes.size).all fun id =>
    (w.classAt' id).base.all (· < id) && (w.ownValue id "config").all fun x => (w.configIn x).isSome

theorem World.configsInPlace_of_check {w : World} (h : w.configsInPlace? = true) : w.ConfigsInPlace := by
  have hclass {id : Nat} (hid : id < w.classes.size) := List.all_eq_true.1 h id (List.mem_range.2 hid)
  refine ⟨fun id b hb => ?_, fun id x hx => ?_⟩
  · have hid : id < w.classes.size := by
      refine Nat.lt_of_not_le fun hle => ?_
      rw [base_of_size_le hle] at hb
      cases hb
    have := hclass hid
    simp_all
  · have hid : id < w.classes.size := by
      refine Nat.lt_of_not_le fun hle => ?_
      rw [ownValue_of_size_le hle] at hx
      cases hx
    have := hclass hid
    rw [hx] at this
    exact Option.isSome_iff_exists.1 (Bool.and_eq_true_iff.1 this).2

/-- The built-in classes have their configurations in place. -/
theorem setUp_configsInPlace : (World.after ContextClass.setUp {}).ConfigsInPlace :=
  configsInPlace_of_check (by decide +kernel)

def pageStep : ViewStep := .derive "Page" ContextClass.view [] [] [("template", .str "page")]

/-- A note is configured as its page is. -/
def noteStep : ViewStep := .derive "Note" 4 [] [] []

/-- A card has a theme of its own. -/
def cardStep : ViewStep := .derive "Card" 4 [] [] [("theme", .str "dark")]

def themeStep : ViewStep := .configure 4 [("theme", .str "light")]

/-- A world after some steps. -/
def World.afterSteps (w : World) (steps : List ViewStep) : World :=
  steps.foldl (fun w s => w.after (s.perform (interpreter maxLevels))) w

def noteAndCard : World := (World.after ContextClass.setUp {}).afterSteps [pageStep, noteStep, cardStep]

theorem derived_checks :
    ((World.after ContextClass.setUp {}).config? ContextClass.view).isSome = true ∧
    (((World.after ContextClass.setUp {}).afterSteps [pageStep]).config? 4).isSome = true ∧
    (((World.after ContextClass.setUp {}).afterSteps [pageStep, noteStep]).config? 4).isSome = true ∧
    (noteAndCard.config? 4).isSome = true ∧
    (noteAndCard.classAt' 5).base = some 4 ∧ (noteAndCard.ownValue 5 "config").isSome = false ∧
    (noteAndCard.ownValue 6 "config").isSome = true ∧ noteAndCard.classes.size = 7 ∧
    (noteAndCard.value? (themeStep.perform (interpreter maxLevels))).isSome = true ∧
    ((themeStep.result? (interpreter maxLevels) noteAndCard).any fun c =>
      Value.same (.str "light") c.theme) = true ∧
    ((noteAndCard.config? 4).any fun c => Value.same (.str "light") c.theme) = false := by
  decide +kernel

theorem exists_derivedRun :
    ∃ owners, ViewRun (interpreter maxLevels) (World.after ContextClass.setUp {}) owners noteAndCard := by
  obtain ⟨hview, hpage, hpage', -⟩ := derived_checks
  exact ⟨_, .step (s := pageStep) ⟨hview, ⟨rfl, by simp⟩, by simp [IsPlain]⟩
    (.step (s := noteStep) ⟨hpage, ⟨rfl, by simp⟩, by simp⟩
      (.step (s := cardStep) ⟨hpage', ⟨rfl, by simp⟩, by simp [IsPlain]⟩ (.nil _)))⟩

/-- When the page gets another theme then so does the note, which is there already, and the card keeps
its own. -/
theorem note_follows_page :
    let u := noteAndCard.after (themeStep.perform (interpreter maxLevels))
    (¬ ∀ id < noteAndCard.classes.size, id ≠ 4 → u.config? id = noteAndCard.config? id) ∧
      u.config? 5 = themeStep.result? (interpreter maxLevels) noteAndCard ∧
      u.config? 6 = noteAndCard.config? 6 := by
  intro u
  obtain ⟨-, -, -, hpage, hbase, hnote, hcard, hsize, hdone, hlight, hdark⟩ := derived_checks
  obtain ⟨owners, run⟩ := exists_derivedRun
  obtain ⟨-, howns⟩ := run.ownsConfig_iff setUp_configsInPlace
  have hproper : themeStep.IsProper noteAndCard := ⟨hpage, by simp [IsPlain]⟩
  obtain ⟨_, hvalue⟩ := Option.isSome_iff_exists.1 hdone
  obtain ⟨hstays, hgets, hkeeps⟩ :=
    ((configuration_stays_iff setUp_configsInPlace run).1 (t := 4) hproper rfl).1 _ (World.ok_of_value? hvalue)
  have hlacks : ¬ noteAndCard.OwnsConfig 5 := by simp [OwnsConfig, hnote]
  have hlooks : noteAndCard.LooksIn
      (fun id => (World.after ContextClass.setUp {}).OwnsConfig id ∨ id ∈ owners) 5 4 :=
    .above (mt (howns 5).2 hlacks) hbase (.here 4)
  refine ⟨fun hall => ?_, hgets 5 hlooks, hkeeps 6 fun h => ?_⟩
  · rcases hstays.1 hall with h | h
    · rw [h, hdark] at hlight
      cases hlight
    · exact h 5 (by rw [hsize]; decide) (by decide) hlooks
  · cases h with
    | above hlacks => exact hlacks ((howns 6).1 hcard)

end Stencil
