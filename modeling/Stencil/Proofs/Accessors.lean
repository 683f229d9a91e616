import Stencil.Proofs.Exposures
import Stencil.Proofs.Inheritance

/-!
# Where accessors are installed

To register a block takes the block away from its class, and puts an accessor under the name of the
exposure unless the class answers to that name without it. So what a class has under a name after its
definition depends on its body and on what its base has there; and what a class answers to once it keeps.
-/

namespace Stencil

open World Evaluation

namespace World

variable {w u v : World} {id t : Nat} {name : String}

/-- Only the attributes of one class have changed. -/
structure ChangesClass (t : Nat) (w u : World) : Prop where
  evolves : w.Evolves u
  exposures : ∀ id, (u.classAt' id).exposures = (w.classAt' id).exposures
  others : ∀ id, id ≠ t → ∀ name, u.ownValue id name = w.ownValue id name

theorem Evolves.base (h : w.Evolves u) (id : Nat) : (u.classAt' id).base = (w.classAt' id).base :=
  (h.classes id).base

/-- Whether a class answers to a name whatever it has under it itself. -/
def answersAbove (w : World) (id : Nat) (name : String) : Bool :=
  ((w.classAt' id).base.bind fun b => w.classValue b name).isSome ||
    ((name == "exposures" && (w.classRegistry id).isSome) ||
      (ContextClass.builtinNames (w.classAt' id).kind).contains name)

theorem answers_eq (hw : w.BasesFirst) (id : Nat) (name : String) :
    w.answers id name = ((w.ownValue id name).isSome || w.answersAbove id name) := by
  rw [answers, answersAbove, hw.classValue_eq, Option.isSome_or, Bool.or_assoc, Bool.or_assoc]

theorem answers_congr (h : u.classes = w.classes) (id : Nat) (name : String) :
    u.answers id name = w.answers id name := by
  simp only [answers, classValue, classRegistry, classAt', ancestors_congr h, h]

namespace ChangesClass

theorem refl (t : Nat) (w : World) : ChangesClass t w w := ⟨.refl w, fun _ => rfl, fun _ _ _ => rfl⟩

theorem trans (h : ChangesClass t w u) (h' : ChangesClass t u v) : ChangesClass t w v where
  evolves := h.evolves.trans h'.evolves
  exposures id := (h'.exposures id).trans (h.exposures id)
  others id hid name := (h'.others id hid name).trans (h.others id hid name)

theorem of_classes_eq (h : w.Evolves u) (hc : u.classes = w.classes) (t : Nat) : ChangesClass t w u where
  evolves := h
  exposures id := by rw [classAt', classAt', hc]
  others id _ name := by rw [ownValue, ownValue, classAt', classAt', hc]

theorem basesFirst (hw : w.BasesFirst) (h : ChangesClass t w u) : u.BasesFirst :=
  hw.congr h.evolves.base

theorem changesValue (h : ChangesClass t w u) (name : String) : ChangesValue t name w u :=
  ⟨h.evolves.base, fun id hid => h.others id hid name⟩

theorem classRegistry_eq (hw : w.BasesFirst) (h : ChangesClass t w u) (id : Nat) :
    u.classRegistry id = w.classRegistry id := by
  induction id using Nat.strongRecOn with
  | ind id ih =>
    rw [(h.basesFirst hw).classRegistry_eq, hw.classRegistry_eq, h.exposures, h.evolves.base]
    cases hb : (w.classAt' id).base with
    | none => rfl
    | some b => rw [Option.bind_some, Option.bind_some, ih b (hw id b hb)]

/-- The class itself answers to the same names from above. -/
theorem answersAbove_eq (hw : w.BasesFirst) (h : ChangesClass t w u) (name : String) :
    u.answersAbove t name = w.answersAbove t name := by
  have hkind : (u.classAt' t).kind = (w.classAt' t).kind := (h.evolves.classes t).kind
  have hbase : ((u.classAt' t).base.bind fun b => u.classValue b name) =
      (w.classAt' t).base.bind fun b => w.classValue b name := by
    rw [h.evolves.base]
    cases hb : (w.classAt' t).base with
    | none => rfl
    | some b =>
      refine (h.changesValue name).classValue_of_not_looksIn hw fun hlooks => ?_
      exact absurd (hlooks.le hw) (Nat.not_le.2 (hw t b hb))
  rw [answersAbove, answersAbove, hbase, h.classRegistry_eq hw, hkind]

/-- What a class finds under a name stays when the changed class only gets values under names to which
it did not answer. -/
theorem classValue_eq_of_isSome (hw : w.BasesFirst) (h : ChangesClass t w u)
    (hown : u.ownValue t name = w.ownValue t name ∨ w.answers t name = false)
    (hid : (w.classValue id name).isSome) : u.classValue id name = w.classValue id name := by
  rcases hown with hsame | hnew
  · refine hw.classValue_congr (h.basesFirst hw) fun other _ => ⟨h.evolves.base other, ?_⟩
    by_cases hother : other = t
    · rw [hother, hsame]
    · exact h.others other hother name
  · refine (h.changesValue name).classValue_of_not_looksIn hw fun hlooks => ?_
    rw [hlooks.classValue_eq hw] at hid
    simp [answers, hid] at hnew

end ChangesClass

end World

/-! ## Registering blocks -/

section

variable {w u : World} {id : Nat} {r : Ref} {reg : ExposureRegistry Value} {name : String}

theorem ownValue_setClass (id : Nat) (c : ContextClass) (other : Nat) (name : String) :
    World.ownValue { w with classes := w.classes.setIfInBounds id c } other name =
      if other = id ∧ id < w.classes.size then named? c.attrs name else w.ownValue other name := by
  simp only [ownValue, classAt', Array.getD_eq_getD_getElem?, Array.getElem?_setIfInBounds]
  by_cases hid : other = id
  · subst hid
    by_cases hlt : other < w.classes.size <;> simp [hlt]
  · simp [hid, Ne.symm hid]

theorem changesClass_setClass {c : ContextClass} (h : (w.classAt' id).Evolves c)
    (he : c.exposures = (w.classAt' id).exposures) :
    ChangesClass id w { w with classes := w.classes.setIfInBounds id c } where
  evolves := .setClass h
  exposures := (KeepsRegistries.setClass h.base he).exposures
  others other hother name := by rw [ownValue_setClass, if_neg fun h => hother h.1]

theorem changeRegistry_classes (w : World) (id : Nat)
    (f : ExposureRegistry Value → ExposureRegistry Value) :
    (w.after (ContextClass.changeRegistry id f)).classes = w.classes := by
  unfold ContextClass.changeRegistry
  rw [after_bind_of_ok (registryOf?_eq w id)]
  cases w.classRegistry id with
  | none => exact (Iterating.iterates w).classes
  | some r =>
    refine rel_after_bind (R := fun w u => u.classes = w.classes) (fun h h' => h'.trans h)
      (Iterating.iterates w).classes fun reg u _ => ?_
    exact classes_put u r _

/-- To install an accessor puts it under its name, if the class is there and does not answer to it. -/
theorem installAccessor_effect (id : Nat) (name : String) :
    let u := w.after (do if !(← ContextClass.hasOwnAttribute id name) then
      ContextClass.setClassAttribute id name (.exposed name))
    ChangesClass id w u ∧ ∀ other, u.ownValue id other =
      if other = name ∧ id < w.classes.size ∧ w.answers id name = false then some (.exposed name)
      else w.ownValue id other := by
  intro u
  dsimp only [u]
  rw [after_bind_of_ok (hasOwnAttribute_ok w id name)]
  cases w.answers id name with
  | true => exact ⟨.refl id w, fun other => by simp; rfl⟩
  | false =>
    refine ⟨changesClass_setClass ⟨rfl, rfl, rfl, rfl⟩ rfl, fun other => ?_⟩
    refine (ownValue_setClass id _ id other).trans ?_
    rw [named?_setNamed]
    by_cases h : other = name
    · by_cases hid : id < w.classes.size
      · rw [if_pos ⟨rfl, hid⟩, if_pos h, if_pos ⟨h, hid, rfl⟩]
      · rw [if_neg fun h' => hid h'.2, if_neg fun h' => hid h'.2.1]
    · rw [if_neg h, if_neg (c := other = name ∧ _) fun h' => h h'.1]
      split <;> rfl

/-- A change of the registry of a class puts an accessor in it at most, under a name to which the class
did not answer. -/
theorem perform_effect (id : Nat) (c : RegistryChange) :
    let u := w.after (c.perform id)
    ChangesClass id w u ∧ ∀ name, u.ownValue id name = w.ownValue id name ∨
      w.answers id name = false ∧ u.ownValue id name = some (.exposed name) := by
  intro u
  have hkeeps {u : World} (h : w.Evolves u) (hc : u.classes = w.classes) :
      ChangesClass id w u ∧ ∀ name, u.ownValue id name = w.ownValue id name :=
    ⟨.of_classes_eq h hc id, fun name => by rw [ownValue, ownValue, classAt', classAt', hc]⟩
  have hregistry (f : ExposureRegistry Value → ExposureRegistry Value) :=
    hkeeps (Evolving.evolves w) (changeRegistry_classes w id f)
  cases c with
  | describe name text => exact ⟨(hregistry _).1, fun name => .inl ((hregistry _).2 name)⟩
  | default block => exact ⟨(hregistry _).1, fun name => .inl ((hregistry _).2 name)⟩
  | expose name value block =>
    have h := hregistry fun reg => reg.expose name value block
    have hc := changeRegistry_classes w id fun reg => reg.expose name value block
    cases hchange : ContextClass.changeRegistry id (fun reg => reg.expose name value block) w with
    | error e v =>
      have hu : u = v := after_bind_of_error hchange
      rw [after_of_error hchange] at h
      rw [hu]
      exact ⟨h.1, fun name => .inl (h.2 name)⟩
    | ok _ v =>
      rw [after_of_ok hchange] at h hc
      have hu : u = _ := after_bind_of_ok hchange
      obtain ⟨hinstall, hown⟩ := installAccessor_effect (w := v) id name
      rw [hu]
      refine ⟨h.1.trans hinstall, fun other => ?_⟩
      rw [hown other, answers_congr hc]
      split
      · rename_i hnew
        rw [hnew.1]
        exact .inr ⟨hnew.2.2, rfl⟩
      · exact .inl (h.2 other)

/-- What a class has itself under a name after a block of it has been registered. -/
def ExposedBlock.registered (e : ExposedBlock) (name : String) (above : Bool) (own : Option Value) :
    Option Value :=
  let left := if e.attr = name then none else own
  if e.name = name ∧ (left.isSome || above) = false then some (.exposed name) else left

/-- With a registry of its own a class gets an accessor for every name to which it did not answer. -/
theorem expose_ownValue (hid : (w.classAt' id).exposures = some r) (hr : w.at' r = .registry reg)
    (name : String) (value block : Option Value) (other : String) :
    (w.after (ContextClass.expose id name value block)).ownValue id other =
      if other = name ∧ w.answers id name = false then some (.exposed name)
      else w.ownValue id other := by
  have hchange := changeRegistry_own (f := fun reg => reg.expose name value block) hid hr
  have hclasses := classes_put w r (.registry (reg.expose name value block))
  unfold ContextClass.expose
  rw [after_bind_of_ok hchange, (installAccessor_effect id name).2 other, answers_congr hclasses, hclasses]
  simp only [lt_of_exposures hid, true_and]
  rw [ownValue, ownValue, classAt', classAt', hclasses]

instance abides_perform {R : Rule} [R.Lawful] {home : Option Ref} (id : Nat) (c : RegistryChange) :
    Abides R home (c.perform id) := by
  cases c <;> (unfold RegistryChange.perform; infer_instance)

/-- What else is registered with a block leaves the classes alone. -/
theorem describes_classes (cs : List RegistryChange)
    (h : ∀ c ∈ cs, ∃ name text, c = .describe name text) :
    (w.after (forM cs (RegistryChange.perform id))).classes = w.classes := by
  induction cs generalizing w with
  | nil => rfl
  | cons c cs ih =>
    obtain ⟨name, text, rfl⟩ := h c (by simp)
    rw [List.forM_cons]
    refine rel_after_bind (R := fun w u => u.classes = w.classes) (fun h h' => h'.trans h)
      (changeRegistry_classes w id _) fun _ u _ => ih fun c hc => h c (by simp [hc])

/-- The registration of one block of a class. -/
def registerBlock (id : Nat) (e : ExposedBlock) : Action Unit := do
  let c ← classAt id
  setClass id { c with attrs := eraseNamed c.attrs e.attr }
  forM e.changes (RegistryChange.perform id)

theorem registerBlocks_eq (e : ExposedBlock) (rest : List ExposedBlock) :
    ContextClass.registerBlocks id (e :: rest) =
      registerBlock id e >>= fun _ => ContextClass.registerBlocks id rest := by
  rw [registerBlocks_cons, registerBlock]
  simp only [bind_assoc]

theorem registerBlock_effect (hw : w.BasesFirst) (hid : (w.classAt' id).exposures = some r)
    (hr : w.at' r = .registry reg) (e : ExposedBlock) :
    ∃ u, registerBlock id e w = .ok () u ∧ ChangesClass id w u ∧
      (∃ reg, u.at' r = .registry reg) ∧
      ∀ name, u.ownValue id name =
        e.registered name (w.answersAbove id name) (w.ownValue id name) := by
  let erased : ContextClass := { w.classAt' id with attrs := eraseNamed (w.classAt' id).attrs e.attr }
  let v := w.after (setClass id erased)
  have herase : ChangesClass id w v := changesClass_setClass ⟨rfl, rfl, rfl, rfl⟩ rfl
  have hlt := lt_of_exposures hid
  have hleft (name : String) : v.ownValue id name = if e.attr = name then none else w.ownValue id name := by
    refine (ownValue_setClass id erased id name).trans ?_
    rw [if_pos ⟨rfl, hlt⟩, named?_eraseNamed]
    by_cases h : e.attr = name
    · rw [if_pos h, if_pos h.symm]
    · rw [if_neg h, if_neg (Ne.symm h)]
      rfl
  have hown : (v.classAt' id).exposures = some r := (herase.exposures id).trans hid
  have hexpose := (perform_effect (w := v) id (.expose e.name none (some e.block))).1
  have howned := expose_ownValue hown (show v.at' r = .registry reg from hr) e.name none (some e.block)
  obtain ⟨v₁, hv₁, hregistry⟩ := perform_own (.expose e.name none (some e.block)) hown
    (show v.at' r = .registry reg from hr)
  have hafter : v.after (ContextClass.expose id e.name none (some e.block)) = v₁ := after_of_ok hv₁
  rw [after_of_ok hv₁] at hexpose
  rw [hafter] at howned
  generalize hcs : (if (e.description.getD "") != "" then [RegistryChange.describe e.name e.description]
    else []) = cs
  have hdescribes : ∀ c ∈ cs, ∃ name text, c = .describe name text := by
    rw [← hcs]
    split <;> simp
  obtain ⟨u, hu, hregistry'⟩ := performs_own cs ((hexpose.exposures id).trans hown)
    (hregistry.registries r reg hr)
  have hclasses : u.classes = v₁.classes := by
    rw [← after_of_ok hu]
    exact describes_classes cs hdescribes
  have hdescribe : ChangesClass id v₁ u :=
    .of_classes_eq (after_of_ok hu ▸ Evolving.evolves (x := cs.forM (RegistryChange.perform id)) v₁)
      hclasses id
  refine ⟨u, ?_, herase.trans (hexpose.trans hdescribe), ⟨_, hregistry'.registries r _
    (hregistry.registries r reg hr)⟩, fun name => ?_⟩
  · have hset : setClass id erased w = .ok () v := rfl
    unfold registerBlock ExposedBlock.changes
    rw [bind_of_ok (classAt_ok w id), bind_of_ok hset, hcs, List.forM_cons, bind_of_ok hv₁, hu]
  · have hsame : u.ownValue id name = v₁.ownValue id name := by
      rw [ownValue, ownValue, classAt', classAt', hclasses]
    rw [hsame, howned, answers_eq (herase.basesFirst hw), herase.answersAbove_eq hw, hleft, hleft]
    by_cases h : e.name = name
    · simp [ExposedBlock.registered, h]
    · simp [ExposedBlock.registered, h, Ne.symm h]

/-- What a class has itself after its blocks have been registered, one after the other. -/
theorem registerBlocks_effect (hw : w.BasesFirst) (hid : (w.classAt' id).exposures = some r)
    (hr : w.at' r = .registry reg) (blocks : List ExposedBlock) :
    ∃ u, ContextClass.registerBlocks id blocks w = .ok () u ∧ ChangesClass id w u ∧
      ∀ name, u.ownValue id name = blocks.foldl
        (fun own e => e.registered name (w.answersAbove id name) own) (w.ownValue id name) := by
  induction blocks generalizing w reg with
  | nil => exact ⟨w, rfl, .refl id w, fun _ => rfl⟩
  | cons e rest ih =>
    obtain ⟨v, hv, hchange, ⟨reg', hr'⟩, hown⟩ := registerBlock_effect hw hid hr e
    obtain ⟨u, hu, hrest, howns⟩ := ih (hchange.basesFirst hw) ((hchange.exposures id).trans hid) hr'
    refine ⟨u, ?_, hchange.trans hrest, fun name => ?_⟩
    · rw [registerBlocks_eq, bind_of_ok hv, hu]
    · rw [howns, hown, hchange.answersAbove_eq hw, List.foldl_cons]

end

/-! ## What stands under a name after the definition -/

section

variable {name : String} {blocks : List ExposedBlock} {own : Option Value}

/-- A class that answers to the name anyway is left without the blocks. -/
theorem foldl_registered_answered :
    blocks.foldl (fun own e => e.registered name true own) own =
      if ∃ e ∈ blocks, e.attr = name then none else own := by
  induction blocks generalizing own with
  | nil => simp
  | cons e rest ih =>
    have hleft : e.registered name true own = if e.attr = name then none else own := by
      simp [ExposedBlock.registered]
    rw [List.foldl_cons, ih, hleft]
    by_cases h : e.attr = name <;> simp [h]

/-- A class that does not gets the accessor, when it has nothing under the name but blocks that are
registered for it. -/
theorem foldl_registered_new (hblocks : ∀ e ∈ blocks, e.attr = name → e.name = name)
    (h : own = some (.exposed name) ∨
      (∃ e ∈ blocks, e.name = name) ∧ (own = none ∨ ∃ e ∈ blocks, e.attr = name)) :
    blocks.foldl (fun own e => e.registered name false own) own = some (.exposed name) := by
  induction blocks generalizing own with
  | nil => simpa using h
  | cons e rest ih =>
    rw [List.foldl_cons]
    refine ih (fun e' he => hblocks e' (by simp [he])) ?_
    have hhere := hblocks e (by simp)
    by_cases hattr : e.attr = name
    · exact .inl (by simp [ExposedBlock.registered, hattr, hhere hattr])
    rcases h with rfl | ⟨hsome, hown⟩
    · exact .inl (by simp [ExposedBlock.registered, hattr])
    have hown' : own = none ∨ ∃ e ∈ rest, e.attr = name := by simpa [hattr] using hown
    by_cases hname : e.name = name
    · rcases hown' with rfl | hlater
      · exact .inl (by simp [ExposedBlock.registered, hattr, hname])
      · cases own with
        | none => exact .inl (by simp [ExposedBlock.registered, hattr, hname])
        | some v =>
          obtain ⟨e', he, ha⟩ := hlater
          exact .inr ⟨⟨e', he, hblocks e' (by simp [he]) ha⟩, .inr ⟨e', he, ha⟩⟩
    · have hsame : e.registered name false own = own := by simp [ExposedBlock.registered, hattr, hname]
      rw [hsame]
      exact .inr ⟨by simpa [hname] using hsome, hown'⟩

end

section

variable {w u : World} {m : Interpreter} {base : Nat} {attrs : List (String × Value)}
  {exposed : List ExposedBlock} {options : List (String × Value)}

/-- What a definition does when the class is there: it registers the blocks, and sets the options. -/
def finishClass (m : Interpreter) (kind : ContextKind) (exposures : Option Ref)
    (attrs : List (String × Value)) (exposed : List ExposedBlock) (options : List (String × Value))
    (id : Nat) : Action Nat :=
  (if exposures.isSome then ContextClass.registerBlocks id (ContextClass.bodyBlocks attrs exposed)
    else pure ()) >>= fun _ =>
  (if kind == .view && !options.isEmpty then ContextClass.configure m id options >>= fun _ => pure ()
    else pure ()) >>= fun _ => pure id

/-- The class that a definition adds. -/
def newClass (w : World) (name : String) (base : Nat) (attrs : List (String × Value))
    (exposed : List ExposedBlock) (exposures : Option Ref) : ContextClass :=
  { name, kind := (w.classAt' base).kind, base := some base
    attrs := ContextClass.bodyAttributes attrs exposed, exposures }

/-- A definition stops before there is a class, or goes on with the next one. -/
theorem define_cases (m : Interpreter) (w : World) (name : String) (base : Nat)
    (attrs : List (String × Value)) (exposed : List ExposedBlock) (options : List (String × Value)) :
    let definition := ContextClass.define m name base attrs exposed options
    (∃ e u, definition w = .error e u ∧ w.Iterates u ∧ w.Evolves u) ∨
      ((w.classAt' base).kind = .view ∨ options = []) ∧
        ∃ exposures v, ContextClass.deriveRegistry base w = .ok exposures v ∧
          definition w = finishClass m (w.classAt' base).kind exposures attrs exposed options w.classes.size
            (v.after (addClass (newClass w name base attrs exposed exposures))) := by
  intro definition
  have hstart : definition w = (if (w.classAt' base).kind != .view && !options.isEmpty then
        typeError (name ++ ".__init_subclass__() takes no keyword arguments")
      else ContextClass.deriveRegistry base >>= fun exposures =>
        addClass (newClass w name base attrs exposed exposures) >>= fun id =>
        finishClass m (w.classAt' base).kind exposures attrs exposed options id) w := by
    change ContextClass.define m name base attrs exposed options w = _
    unfold ContextClass.define
    rw [bind_of_ok (classAt_ok w base)]
    split
    · rfl
    · refine congrFun (bind_congr fun exposures => bind_congr fun id => ?_) w
      unfold finishClass
      cases exposures.isSome <;> cases (w.classAt' base).kind == .view && !options.isEmpty <;> simp
  have hstops {α : Type} {x : Action α} [Iterating x] [Evolving x] {e : Stop} {u : World}
      (h : x w = .error e u) : w.Iterates u ∧ w.Evolves u :=
    ⟨after_of_error h ▸ Iterating.iterates w, after_of_error h ▸ Evolving.evolves w⟩
  rw [hstart]
  split
  · cases h : (typeError (name ++ ".__init_subclass__() takes no keyword arguments") : Action Nat) w with
    | ok id u => exact absurd h typeError_eq_ok
    | error e u => exact .inl ⟨e, u, rfl, hstops h⟩
  · rename_i hkind
    cases h : ContextClass.deriveRegistry base w with
    | error e u => exact .inl ⟨e, u, bind_of_error h, hstops h⟩
    | ok exposures v =>
      have hclasses : v.classes = w.classes := after_of_ok h ▸ (Iterating.iterates w).classes
      have hadd : addClass (newClass w name base attrs exposed exposures) v = .ok w.classes.size
          (v.after (addClass (newClass w name base attrs exposed exposures))) := by
        rw [← hclasses]
        rfl
      refine .inr ⟨?_, exposures, v, rfl, by rw [bind_of_ok h, bind_of_ok hadd]⟩
      cases options with
      | nil => exact .inr rfl
      | cons a options => exact .inl (by simpa using hkind)

/-- What a class has itself under a name when it is defined, apart from its configuration. -/
def definedValue (w : World) (base : Nat) (attrs : List (String × Value)) (exposed : List ExposedBlock)
    (name : String) : Option Value :=
  (if (w.exposures? base).isSome then ContextClass.bodyBlocks attrs exposed else []).foldl
    (fun own e => e.registered name (w.answers base name) own)
    (named? (ContextClass.bodyAttributes attrs exposed) name)

/-- There is one more class, with what its body comes to; the others have what they had. -/
structure World.Defines (base : Nat) (attrs : List (String × Value)) (exposed : List ExposedBlock)
    (options : List (String × Value)) (w u : World) : Prop where
  classCount : u.classes.size = w.classes.size + 1
  bases : ∀ id, id ≠ w.classes.size → (u.classAt' id).base = (w.classAt' id).base
  newBase : (u.classAt' w.classes.size).base = some base
  others : ∀ id, id ≠ w.classes.size → ∀ name, u.ownValue id name = w.ownValue id name
  new : ∀ name, u.ownValue w.classes.size name = definedValue w base attrs exposed name ∨
    name = "config" ∧ options ≠ [] ∧ ∃ r, u.ownValue w.classes.size name = some (.ref r)

namespace World.Defines

variable {id : Nat}

theorem basesFirst (hw : w.BasesFirst) (hbase : base < w.classes.size)
    (h : Defines base attrs exposed options w u) : u.BasesFirst := hw.added hbase h.bases h.newBase

theorem classValue_eq (hw : w.BasesFirst) (hbase : base < w.classes.size)
    (h : Defines base attrs exposed options w u) (hid : id < w.classes.size) (name : String) :
    u.classValue id name = w.classValue id name :=
  hw.classValue_of_lt (h.basesFirst hw hbase) h.bases (fun id hid => h.others id hid name) hid

/-- The new class finds under a name what it has itself, or what its base finds. -/
theorem classValue_new (hw : w.BasesFirst) (hbase : base < w.classes.size)
    (h : Defines base attrs exposed options w u) (name : String) :
    u.classValue w.classes.size name = (u.ownValue w.classes.size name).or (w.classValue base name) := by
  rw [(h.basesFirst hw hbase).classValue_eq, h.newBase, Option.bind_some, h.classValue_eq hw hbase hbase]

end World.Defines

/-- To configure a class changes its configuration at most. -/
theorem configure_changesClass (n id : Nat) {changes : List (String × Value)}
    (hc : ∀ a ∈ changes, w.IsPlain a.2) (hid : id < w.classes.size) :
    let u := w.after (ContextClass.configure (interpreter n) id changes)
    ChangesClass id w u ∧ ∀ name, u.ownValue id name = w.ownValue id name ∨
      name = "config" ∧ ∃ r, u.ownValue id name = some (.ref r) := by
  intro u
  have hkeeps {v : World} (h : w.Evolves v) (hv : v.classes = w.classes) :
      ChangesClass id w v ∧ ∀ name, v.ownValue id name = w.ownValue id name :=
    ⟨.of_classes_eq h hv id, fun name => by rw [ownValue, ownValue, classAt', classAt', hv]⟩
  have hchanged : (w.after (changedConfig (interpreter n) id changes)).classes = w.classes :=
    (changedConfig_plain hc).classes
  have hevolves : w.Evolves (w.after (changedConfig (interpreter n) id changes)) := by
    unfold changedConfig
    exact Evolving.evolves w
  dsimp only [u]
  rw [configure_eq]
  cases h : changedConfig (interpreter n) id changes w with
  | error e v =>
    rw [after_of_error h] at hchanged hevolves
    rw [after_bind_of_error h]
    have := hkeeps hevolves hchanged
    exact ⟨this.1, fun name => .inl (this.2 name)⟩
  | ok c v =>
    rw [after_of_ok h] at hchanged hevolves
    rw [after_bind_of_ok h]
    obtain ⟨hv, hown⟩ := hkeeps (hevolves.trans (.push v (.config c))) hchanged
    let d : ContextClass :=
      { v.classAt' id with attrs := setNamed (v.classAt' id).attrs "config" (.ref v.objects.size) }
    have hset : ChangesClass id (v.push (.config c))
        { v.push (.config c) with classes := (v.push (.config c)).classes.setIfInBounds id d } :=
      changesClass_setClass ⟨rfl, rfl, rfl, rfl⟩ rfl
    refine ⟨hv.trans hset, fun name => ?_⟩
    have hd := ownValue_setClass (w := v.push (.config c)) id d id name
    rw [if_pos ⟨rfl, hchanged ▸ hid⟩, named?_setNamed] at hd
    by_cases hname : name = "config"
    · rw [if_pos hname] at hd
      exact .inr ⟨hname, _, hd⟩
    · rw [if_neg hname] at hd
      exact .inl (hd.trans (hown name))

/-- There is one more class, and nothing has been done with it yet. -/
structure World.Starts (d : ContextClass) (w u : World) : Prop where
  classes : u.classes = w.classes.push d
  plain : ∀ v, w.IsPlain v → u.IsPlain v

namespace World.Starts

variable {d : ContextClass} {id : Nat}

theorem classAt' (h : Starts d w u) (id : Nat) :
    u.classAt' id = if id = w.classes.size then d else w.classAt' id := by
  simp only [World.classAt', h.classes, Array.getD_eq_getD_getElem?, Array.getElem?_push, eq_comm]
  split <;> rfl

theorem ownValue_eq (h : Starts d w u) (id : Nat) (name : String) :
    u.ownValue id name = if id = w.classes.size then named? d.attrs name else w.ownValue id name := by
  rw [ownValue, h.classAt']
  split <;> rfl

theorem basesFirst (h : Starts d w u) (hw : w.BasesFirst) (hb : d.base = some base)
    (hbase : base < w.classes.size) : u.BasesFirst :=
  hw.added hbase (fun id hid => by rw [h.classAt', if_neg hid]) (by rw [h.classAt', if_pos rfl, hb])

theorem classValue_eq (h : Starts d w u) (hw : w.BasesFirst) (hb : d.base = some base)
    (hbase : base < w.classes.size) (hid : id < w.classes.size) (name : String) :
    u.classValue id name = w.classValue id name :=
  hw.classValue_of_lt (h.basesFirst hw hb hbase) (fun id hid => by rw [h.classAt', if_neg hid])
    (fun id hid => by rw [h.ownValue_eq, if_neg hid]) hid

/-- From above the new class answers to what its base answers to. -/
theorem answersAbove_eq (h : Starts d w u) (hw : w.BasesFirst) (hb : d.base = some base)
    (hbase : base < w.classes.size) (hk : d.kind = (w.classAt' base).kind)
    (he : (u.classRegistry w.classes.size).isSome = (w.classRegistry base).isSome) (name : String) :
    u.answersAbove w.classes.size name = w.answers base name := by
  have hnew : u.classAt' w.classes.size = d := by rw [h.classAt', if_pos rfl]
  rw [answersAbove, answers, hnew, hb, Option.bind_some, h.classValue_eq hw hb hbase hbase, he, hk,
    Bool.or_assoc]

end World.Starts

variable (attrs exposed) in
/-- With its blocks registered the class is what its body comes to, and its options only set its
configuration. -/
theorem defines_of_registered {d : ContextClass} {v v' : World} (n : Nat) (kind : ContextKind)
    (h : Starts d w v) (hb : d.base = some base) (hv : ChangesClass w.classes.size v v')
    (hown : ∀ name, v'.ownValue w.classes.size name = definedValue w base attrs exposed name)
    (hc : ∀ a ∈ options, w.IsPlain a.2) :
    let rest : Action Nat :=
      (if kind == .view && !options.isEmpty then
        ContextClass.configure (interpreter n) w.classes.size options >>= fun _ => pure () else pure ())
      >>= fun _ => pure w.classes.size
    Defines base attrs exposed options w (v'.after rest) ∧
      ∀ id u, rest v' = .ok id u → id = w.classes.size := by
  intro rest
  have hcount : v'.classes.size = w.classes.size + 1 := by
    rw [hv.evolves.classCount, h.classes, Array.size_push]
  have hdefines {u : World} (hu : ChangesClass w.classes.size v' u)
      (hnew : ∀ name, u.ownValue w.classes.size name = v'.ownValue w.classes.size name ∨
        name = "config" ∧ options ≠ [] ∧ ∃ r, u.ownValue w.classes.size name = some (.ref r)) :
      Defines base attrs exposed options w u := by
    refine ⟨hu.evolves.classCount.trans hcount, fun id hid => ?_, ?_, fun id hid name => ?_, fun name =>
      (hnew name).imp_left fun hsame => hsame.trans (hown name)⟩
    · rw [hu.evolves.base, hv.evolves.base, h.classAt', if_neg hid]
    · rw [hu.evolves.base, hv.evolves.base, h.classAt', if_pos rfl, hb]
    · rw [hu.others id hid, hv.others id hid, h.ownValue_eq, if_neg hid]
  refine ⟨?_, fun id u hrest => ?_⟩
  · dsimp only [rest]
    rw [after_map (f := fun _ => w.classes.size)]
    split
    · rename_i hview
      have hsome : options ≠ [] := by
        rintro rfl
        simp at hview
      obtain ⟨hu, hconfig⟩ := configure_changesClass n w.classes.size
        (fun a ha => (h.plain _ (hc a ha)).evolves hv.evolves) (by omega)
      rw [after_map (f := fun _ => ())]
      exact hdefines hu fun name => (hconfig name).imp_right fun ⟨hname, hr⟩ => ⟨hname, hsome, hr⟩
    · exact hdefines (.refl _ v') fun _ => .inl rfl
  · obtain ⟨_, _, -, hid⟩ := bind_eq_ok.1 hrest
    exact (pure_eq_ok.1 hid).1.symm

/-- A definition adds a class or leaves the classes as they are. -/
theorem define_defines (hw : w.RegistriesApart) (n : Nat) (name : String) (hbase : base < w.classes.size)
    (hc : ∀ a ∈ options, w.IsPlain a.2) :
    let definition := ContextClass.define (interpreter n) name base attrs exposed options
    (w.after definition).classes = w.classes ∧ (∀ id u, definition w ≠ .ok id u) ∨
      Defines base attrs exposed options w (w.after definition) ∧
        ∀ id u, definition w = .ok id u → id = w.classes.size := by
  intro definition
  rcases define_cases (interpreter n) w name base attrs exposed options with
    ⟨e, u, h, hit, -⟩ | ⟨-, exposures, v, hderive, hfinish⟩
  · refine .inl ⟨?_, fun id u' h' => ?_⟩
    · rw [after_of_error h, hit.classes]
    · rw [show definition w = .error e u from h] at h'
      cases h'
  refine .inr ?_
  have hfirst : w.BasesFirst := hw.base_lt
  generalize hd : newClass w name base attrs exposed exposures = d at hfinish
  have hb : d.base = some base := hd ▸ rfl
  have hattrs : d.attrs = ContextClass.bodyAttributes attrs exposed := hd ▸ rfl
  have hexposures : d.exposures = exposures := hd ▸ rfl
  cases hreg : w.exposures? base with
  | none =>
    rw [deriveRegistry_none hw hreg] at hderive
    obtain ⟨rfl, rfl⟩ := EStateM.Result.ok.inj hderive
    have hstart : Starts d w (w.after (addClass d)) :=
      ⟨rfl, fun v hv => hv.mono (Nat.le_refl _) fun r _ => rfl⟩
    have hrest := defines_of_registered attrs exposed n (w.classAt' base).kind
      hstart hb (.refl _ _) (fun name => ?_) hc
    · rw [World.after_congr (x := definition) hfinish, show definition w = _ from hfinish]
      exact hrest
    · rw [hstart.ownValue_eq, if_pos rfl, hattrs, definedValue, hreg]
      rfl
  | some reg =>
    rw [deriveRegistry_copy hw hreg] at hderive
    obtain ⟨rfl, rfl⟩ := EStateM.Result.ok.inj hderive
    have hstart : Starts d w ((w.push (.registry reg)).after (addClass d)) :=
      ⟨rfl, fun v hv => hv.mono (by exact Nat.le_of_lt (size_push w _ ▸ Nat.lt_succ_self _))
        fun r hr => congrArg Object.shape (at'_push_of_lt hr)⟩
    generalize hv : (w.push (.registry reg)).after (addClass d) = v at hfinish hstart
    have hown : (v.classAt' w.classes.size).exposures = some w.objects.size := by
      rw [hstart.classAt', if_pos rfl, hexposures]
    have hat : v.at' w.objects.size = .registry reg := hv ▸ at'_push_size w _
    obtain ⟨u, hu, hchange, hvalues⟩ := registerBlocks_effect (hstart.basesFirst hfirst hb hbase) hown hat
      (ContextClass.bodyBlocks attrs exposed)
    have hrest := defines_of_registered attrs exposed n (w.classAt' base).kind
      hstart hb hchange (fun name => ?_) hc
    · unfold finishClass at hfinish
      rw [Option.isSome_some, if_pos rfl, bind_of_ok hu] at hfinish
      rw [World.after_congr (x := definition) hfinish, show definition w = _ from hfinish]
      exact hrest
    · have habove : v.answersAbove w.classes.size name = w.answers base name := by
        refine hstart.answersAbove_eq hfirst hb hbase (hd ▸ rfl) ?_ name
        obtain ⟨q, hq, -⟩ := hw.exposures?_eq_some.1 hreg
        rw [classRegistry_of_own hown, hw.classRegistry_eq, hq]
        rfl
      rw [hvalues, habove, hstart.ownValue_eq, if_pos rfl, hattrs, definedValue, hreg]
      rfl

end

end Stencil
