import Stencil.Proofs.Accessors

/-!
# When a declared exposure is in force

A class whose body marks a block for a name has the accessor of the name when its base has it or does not
answer to the name at all. Then the accessor calls the block, with the value that the class has for the
name at that time. When the base has anything else under the name, the block is registered, but what is
read is still what the base has.
-/

namespace Stencil

open World Evaluation

/-! ## What the body of a class marks -/

/-- The block that the body of a class marks for a name: the last one if there are several. -/
def markedBlock? (attrs : List (String × Value)) (exposed : List ExposedBlock) (name : String) :
    Option Value :=
  RegistryChange.last? (RegistryChange.block? name) (bodyChanges attrs exposed)

/-- The body of a class has nothing under a name but a block that is marked for it. -/
structure OnlyMarks (attrs : List (String × Value)) (exposed : List ExposedBlock) (name : String) :
    Prop where
  marked : ∀ e ∈ ContextClass.bodyBlocks attrs exposed, e.attr = name → e.name = name
  nothingElse : named? (ContextClass.bodyAttributes attrs exposed) name = none ∨
    ∃ e ∈ ContextClass.bodyBlocks attrs exposed, e.attr = name

section

variable {w : World} {base : Nat} {attrs : List (String × Value)} {exposed : List ExposedBlock}
  {name : String} {block : Value}

theorem exists_marked (h : markedBlock? attrs exposed name = some block) :
    ∃ e ∈ ContextClass.bodyBlocks attrs exposed, e.name = name := by
  obtain ⟨c, hc, hblock⟩ := List.exists_of_findSome?_eq_some h
  obtain ⟨e, he, hchange⟩ := List.mem_flatMap.1 (List.mem_reverse.1 hc)
  refine ⟨e, he, ?_⟩
  unfold ExposedBlock.changes at hchange
  rcases List.mem_cons.1 hchange with rfl | hdescribe
  · by_cases hname : e.name = name
    · exact hname
    · simp [RegistryChange.block?, hname] at hblock
  · split at hdescribe
    · rw [List.mem_singleton.1 hdescribe] at hblock
      cases hblock
    · cases hdescribe

/-- A class has nothing under the name itself when its base answers to it. -/
theorem definedValue_answered (hbody : OnlyMarks attrs exposed name) (hbase : (w.exposures? base).isSome)
    (h : w.answers base name = true) : definedValue w base attrs exposed name = none := by
  rw [definedValue, if_pos hbase, h, foldl_registered_answered]
  split
  · rfl
  · rename_i hnone
    exact hbody.nothingElse.resolve_right hnone

/-- It has the accessor when its base does not. -/
theorem definedValue_new (hbody : OnlyMarks attrs exposed name) (hbase : (w.exposures? base).isSome)
    (hmarked : markedBlock? attrs exposed name = some block) (h : w.answers base name = false) :
    definedValue w base attrs exposed name = some (.exposed name) := by
  rw [definedValue, if_pos hbase, h]
  exact foldl_registered_new hbody.marked (.inr ⟨exists_marked hmarked, hbody.nothingElse⟩)

end

/-! ## Accessors have the names they stand under -/

/-- Every accessor has the name under which it stands. -/
def World.AccessorsNamed (w : World) : Prop :=
  ∀ id name a, w.ownValue id name = some (.exposed a) → a = name

/-- No accessor is marked as a block. -/
def ClassStep.MarksBlocks : ClassStep → Prop
  | derive _ _ _ exposed _ => ∀ e ∈ exposed, ∀ a, e.block ≠ .exposed a
  | change .. => True

section

variable {w u : World} {base id : Nat} {attrs : List (String × Value)} {exposed : List ExposedBlock}
  {name a : String}

theorem World.AccessorsNamed.classValue (hw : w.AccessorsNamed) (hfirst : w.BasesFirst)
    (h : w.classValue id name = some (.exposed a)) : a = name := by
  induction id using Nat.strongRecOn with
  | ind id ih =>
    rw [hfirst.classValue_eq] at h
    cases hown : w.ownValue id name with
    | some v =>
      rw [hown] at h
      cases h
      exact hw id name a hown
    | none =>
      rw [hown, Option.none_or] at h
      obtain ⟨b, hb, h⟩ := Option.bind_eq_some_iff.1 h
      exact ih b (hfirst id b hb) h

theorem accessorNamed_eq {v : Value} (h : accessorNamed name v = .exposed a) : a = name := by
  cases v with
  | exposed n => exact (Value.exposed.inj h).symm
  | _ => cases h

theorem registered_named {e : ExposedBlock} {above : Bool} {own : Option Value}
    (hown : own = some (.exposed a) → a = name) (h : e.registered name above own = some (.exposed a)) :
    a = name := by
  unfold ExposedBlock.registered at h
  extract_lets left at h
  split at h
  · exact (Value.exposed.inj (Option.some.inj h)).symm
  · dsimp only [left] at h
    split at h
    · cases h
    · exact hown h

theorem definedValue_named (hblocks : ∀ e ∈ exposed, ∀ a, e.block ≠ .exposed a)
    (h : definedValue w base attrs exposed name = some (.exposed a)) : a = name := by
  have hbody : named? (ContextClass.bodyAttributes attrs exposed) name = some (.exposed a) → a = name := by
    intro hnamed
    rw [named?_bodyAttributes] at hnamed
    rcases Option.or_eq_some_iff.1 hnamed with hblock | ⟨-, hattr⟩
    · obtain ⟨e, he, hv⟩ := Option.map_eq_some_iff.1 hblock
      exact absurd hv (hblocks e (List.mem_reverse.1 (List.mem_of_find?_eq_some he)) a)
    · obtain ⟨v, -, hv⟩ := Option.map_eq_some_iff.1 hattr
      exact accessorNamed_eq hv
  unfold definedValue at h
  generalize named? (ContextClass.bodyAttributes attrs exposed) name = own at h hbody
  generalize (if (w.exposures? base).isSome then _ else [] : List ExposedBlock) = blocks at h
  induction blocks generalizing own with
  | nil => exact hbody h
  | cons e rest ih => exact ih _ (fun hown => registered_named hbody hown) h

end

/-! ## Runs -/

/-- A run of definitions and changes of exposures, step by step, whether or not a step fails. Between the
steps may be anything that leaves the classes and their registries alone. -/
inductive ExposureRun (m : Interpreter) : World → List ClassStep → World → Prop
  | nil (w : World) : ExposureRun m w [] w
  | step {w u : World} {s : ClassStep} {steps : List ClassStep} (proper : s.IsProper w)
      (marks : s.MarksBlocks) (rest : ExposureRun m (w.after (s.perform m)) steps u) :
      ExposureRun m w (s :: steps) u
  | pause {w v u : World} {steps : List ClassStep} (keeps : w.KeepsRegistries v)
      (classes : v.classes = w.classes) (rest : ExposureRun m v steps u) : ExposureRun m w steps u

theorem ExposureRun.classRun {m : Interpreter} {w u : World} {steps : List ClassStep}
    (h : ExposureRun m w steps u) : ClassRun m w steps u := by
  induction h with
  | nil w => exact .nil w
  | step proper _ _ ih => exact .step proper ih
  | pause keeps _ _ ih => exact .pause keeps ih

section

variable {w u : World} {n id : Nat} {s : ClassStep} {steps : List ClassStep} {name : String}

/-- What a class finds under a name it keeps in every step, its own configuration apart. -/
theorem ClassStep.classValue_eq (hw : w.RegistriesApart) (hs : s.IsProper w)
    (hid : (w.classValue id name).isSome) :
    (w.after (s.perform (interpreter n))).classValue id name = w.classValue id name := by
  have hlt : id < w.classes.size := by
    refine Nat.lt_of_not_le fun hle => ?_
    rw [classValue_of_size_le hle] at hid
    cases hid
  cases s with
  | derive cls base attrs exposed options =>
    change (w.after (_ >>= fun _ => pure ())).classValue id name = _
    rw [after_map (f := fun _ => ())]
    rcases define_defines hw n cls hs.1 hs.2 with ⟨hsame, -⟩ | ⟨hdefines, -⟩
    · exact World.classValue_congr hsame id name
    · exact hdefines.classValue_eq hw.base_lt hs.1 hlt name
  | change t c =>
    obtain ⟨hchange, hown⟩ := perform_effect (w := w) t c
    exact hchange.classValue_eq_of_isSome hw.base_lt ((hown name).imp_right And.left) hid

/-- Every step puts accessors under their own names only. -/
theorem ClassStep.accessorsNamed (hw : w.RegistriesApart) (hnamed : w.AccessorsNamed) (hs : s.IsProper w)
    (hmarks : s.MarksBlocks) : (w.after (s.perform (interpreter n))).AccessorsNamed := by
  intro id name a h
  cases s with
  | derive cls base attrs exposed options =>
    change (w.after (_ >>= fun _ => pure ())).ownValue id name = _ at h
    rw [after_map (f := fun _ => ())] at h
    rcases define_defines hw n cls hs.1 hs.2 with ⟨hsame, -⟩ | ⟨hdefines, -⟩
    · rw [ownValue, classAt', hsame] at h
      exact hnamed id name a h
    · by_cases hid : id = w.classes.size
      · subst hid
        rcases hdefines.new name with hvalue | ⟨-, -, r, hr⟩
        · exact definedValue_named hmarks (hvalue ▸ h)
        · rw [hr] at h
          cases h
      · exact hnamed id name a (hdefines.others id hid name ▸ h)
  | change t c =>
    change (w.after (c.perform t)).ownValue id name = _ at h
    obtain ⟨hchange, hown⟩ := perform_effect (w := w) t c
    by_cases hid : id = t
    · subst hid
      rcases hown name with hsame | ⟨-, hnew⟩
      · exact hnamed id name a (hsame ▸ h)
      · rw [hnew] at h
        exact (Value.exposed.inj (Option.some.inj h)).symm
    · exact hnamed id name a (hchange.others id hid name ▸ h)

theorem ExposureRun.accessorsNamed (hw : w.RegistriesApart) (hnamed : w.AccessorsNamed)
    (run : ExposureRun (interpreter n) w steps u) : u.AccessorsNamed := by
  induction run with
  | nil => exact hnamed
  | step proper marks _ ih =>
    exact ih (ClassStep.follows hw proper).registriesApart (ClassStep.accessorsNamed hw hnamed proper marks)
  | pause keeps classes _ ih =>
    refine ih (keeps.follows hw).registriesApart fun id name a h => hnamed id name a ?_
    rwa [ownValue, classAt', classes] at h

/-- What a class finds under a name it keeps in a whole run. -/
theorem ExposureRun.classValue_eq (hw : w.RegistriesApart) (run : ExposureRun (interpreter n) w steps u)
    (hid : (w.classValue id name).isSome) : u.classValue id name = w.classValue id name := by
  induction run with
  | nil w => rfl
  | @step w u s steps proper _ rest ih =>
    have hstep := ClassStep.classValue_eq (n := n) hw proper hid
    rw [ih (ClassStep.follows hw proper).registriesApart (hstep ▸ hid), hstep]
  | pause keeps classes _ ih =>
    have hpause := World.classValue_congr classes id name
    rw [ih (keeps.follows hw).registriesApart (hpause ▸ hid), hpause]

end

/-! ## Reading the name -/

section

variable {w u : World} {n k id : Nat} {r : Ref} {own : List (String × Value)} {name : String} {x : Value}

/-- What an object reads that has nothing under the name itself. -/
theorem attributeOf_found (hr : w.at' r = .instance id own) (hown : named? own name = none)
    (hclass : w.classValue id name = some x) :
    (interpreter (k + 1)).attributeOf (.ref r) name w =
      bindAttribute (interpreter k) (.ref r) id x w := by
  rw [attributeOf_succ, readAttribute_instance hr (.inr (by rw [hclass]; rfl))]
  cases x with
  | property p => exact contextAttribute_property hclass
  | _ => exact contextAttribute_class hclass (by simp) hown

end

section

variable {n : Nat} {w v v' u : World} {base T : Nat} {cls name : String} {attrs : List (String × Value)}
  {exposed : List ExposedBlock} {options : List (String × Value)} {block : Value}
  {before after : List ClassStep}

/-- What a new class finds under a name that its body marks a block for. -/
theorem classValue_defined (hv : v.RegistriesApart)
    (hproper : (ClassStep.derive cls base attrs exposed options).IsProper v)
    (hregistry : (v.exposures? base).isSome) (hmarked : markedBlock? attrs exposed name = some block)
    (hbody : OnlyMarks attrs exposed name) (hname : name ≠ "config" ∨ options = [])
    (hdefine : ContextClass.define (interpreter n) cls base attrs exposed options v = .ok T v') :
    v'.classValue T name =
      if v.answers base name then v.classValue base name else some (.exposed name) := by
  rcases define_defines hv n cls hproper.1 hproper.2 with ⟨-, hrefused⟩ | ⟨hdefines, hT⟩
  · exact absurd hdefine (hrefused T v')
  obtain rfl := hT T v' hdefine
  rw [after_of_ok hdefine] at hdefines
  have hown : v'.ownValue v.classes.size name = definedValue v base attrs exposed name := by
    rcases hdefines.new name with h | ⟨hconfig, hoptions, -⟩
    · exact h
    · exact absurd (hname.resolve_left (not_not_intro hconfig)) hoptions
  rw [hdefines.classValue_new hv.base_lt hproper.1, hown]
  cases h : v.answers base name with
  | true => rw [definedValue_answered hbody hregistry h]; rfl
  | false => rw [definedValue_new hbody hregistry hmarked h]; rfl

/-- How far a declared exposure takes effect, in any run of definitions and changes of exposures. A class
whose body marks a block for a name, and has nothing else under it, has the accessor of the name just
when its base has it or does not answer to the name. As long as no other block is set for the name, each
read of it from an object of the class that has nothing under it itself then calls that block with what
is in force for the class at that time. And whatever else the base has under the name is what is read,
then and later. -/
theorem declared_exposure_iff (hw : w.RegistriesApart) (hnamed : w.AccessorsNamed)
    (hbefore : ExposureRun (interpreter n) w before v)
    (hproper : (ClassStep.derive cls base attrs exposed options).IsProper v)
    (hregistry : (v.exposures? base).isSome) (hmarked : markedBlock? attrs exposed name = some block)
    (hbody : OnlyMarks attrs exposed name) (hname : name ≠ "config" ∨ options = [])
    (hdefine : ContextClass.define (interpreter n) cls base attrs exposed options v = .ok T v')
    (hafter : ExposureRun (interpreter n) v' after u)
    (hlater : RegistryChange.last? (RegistryChange.block? name) (after.flatMap (ClassStep.changes T)) = none) :
    (v'.classValue T name = some (.exposed name) ↔
      v.answers base name = false ∨ ∃ a, v.classValue base name = some (.exposed a)) ∧
    (v'.classValue T name = some (.exposed name) →
      ∃ reg, u.exposures? T = some reg ∧ ∀ r own k, u.at' r = .instance T own → named? own name = none →
        (interpreter (k + 1)).attributeOf (.ref r) name u =
          (interpreter k).apply block [.ref r, (reg.resolve Value.str name).1] u) ∧
    ∀ x, v.classValue base name = some x → u.classValue T name = some x ∧
      ∀ r own k, u.at' r = .instance T own → named? own name = none →
        (interpreter (k + 1)).attributeOf (.ref r) name u =
          bindAttribute (interpreter k) (.ref r) T x u := by
  have hv := (hbefore.classRun.follows hw).registriesApart
  have hvalue := classValue_defined hv hproper hregistry hmarked hbody hname hdefine
  have hv' : v'.RegistriesApart := by
    have h := (ClassStep.follows (n := n) hv hproper).registriesApart
    have hperform : v.after ((ClassStep.derive cls base attrs exposed options).perform (interpreter n)) = v' := by
      change v.after (_ >>= fun _ => pure ()) = _
      rw [after_map (f := fun _ => ()), after_of_ok hdefine]
    rwa [hperform] at h
  refine ⟨?_, fun haccessor => ?_, fun x hx => ?_⟩
  · rw [hvalue]
    cases v.answers base name with
    | false => simp
    | true =>
      refine ⟨fun h => .inr ⟨name, by simpa using h⟩, fun h => ?_⟩
      obtain ⟨a, ha⟩ := h.resolve_left (by simp)
      rw [if_pos rfl, ha, (hbefore.accessorsNamed hw hnamed).classValue hv.base_lt ha]
  · obtain ⟨reg, hreg⟩ := Option.isSome_iff_exists.1 hregistry
    have hderived := hafter.classRun.exposures?_derived hv hproper.1 hproper.2 hdefine
    rw [hreg, Option.map_some] at hderived
    refine ⟨_, hderived, fun r own k hr hown => ?_⟩
    have hstays : u.classValue T name = some (.exposed name) :=
      (hafter.classValue_eq hv' (by rw [haccessor]; rfl)).trans haccessor
    refine (attributeOf_exposed hr hown hstays hderived).1 block ?_
    have hblock : RegistryChange.last? (RegistryChange.block? name)
        (bodyChanges attrs exposed ++ after.flatMap (ClassStep.changes T)) = some block := by
      rw [RegistryChange.last?_append, hlater]
      exact hmarked
    rw [RegistryChange.resolve_replay, RegistryChange.inForce, hblock]
    rfl
  · have hfound : v'.classValue T name = some x := by
      rw [hvalue, if_pos (by simp [answers, hx]), hx]
    have hstays : u.classValue T name = some x :=
      (hafter.classValue_eq hv' (by rw [hfound]; rfl)).trans hfound
    exact ⟨hstays, fun r own k hr hown => attributeOf_found hr hown hstays⟩

end

/-! ## A page below a class with a title -/

/-- Whether every accessor has the name under which it stands. -/
def World.accessorsNamed? (w : World) : Bool :=
  (List.range w.classes.size).all fun id => (w.classAt' id).attrs.all fun a =>
    match a.2 with
    | .exposed n => n == a.1
    | _ => true

theorem World.accessorsNamed_of_check {w : World} (h : w.accessorsNamed? = true) : w.AccessorsNamed := by
  intro id name a hown
  have hid : id < w.classes.size := by
    refine Nat.lt_of_not_le fun hle => ?_
    rw [ownValue_of_size_le hle] at hown
    cases hown
  obtain ⟨⟨n, v⟩, hfind, rfl⟩ := Option.map_eq_some_iff.1 hown
  have hattrs := List.all_eq_true.1 h id (List.mem_range.2 hid)
  have hentry := List.all_eq_true.1 hattrs _ (List.mem_of_find?_eq_some hfind)
  have hn : n = name := by simpa using List.find?_some hfind
  rw [← hn]
  simpa using hentry

theorem setUp_accessorsNamed : (World.after ContextClass.setUp {}).AccessorsNamed :=
  accessorsNamed_of_check (by decide +kernel)

/-- A class with a plain title. -/
def titled : ClassStep := .derive "Titled" ContextClass.exposing [("title", .str "plain")] [] []

/-- Blocks for a title and for a lead. -/
def leadBlocks : List ExposedBlock :=
  [{ attr := "title", block := .builtin "max", name := "title" },
    { attr := "lead", block := .builtin "min", name := "lead" }]

/-- A page below it that has both. -/
def leadPage : Action Nat :=
  ContextClass.define (interpreter maxLevels) "Page" 4 [] leadBlocks []

def leading : ClassStep := .change 5 (.expose "lead" (some (.str "hello")) none)

def beforePage : World := (World.after ContextClass.setUp {}).after (titled.perform (interpreter maxLevels))

def leadShown : World :=
  ((beforePage.after leadPage).after (leading.perform (interpreter maxLevels))).push (.instance 5 [])

theorem leadPage_checks : beforePage.value? leadPage = some 5 ∧
    ContextClass.exposing < (World.after ContextClass.setUp {}).classes.size ∧
    4 < beforePage.classes.size ∧ (beforePage.exposures? 4).isSome = true ∧
    (beforePage.classValue 4 "title").any (Value.same (.str "plain")) = true ∧
    beforePage.answers 4 "lead" = false ∧
    ((leadShown.exposures? 5).any fun reg =>
      Value.same (.str "hello") (reg.resolve Value.str "lead").1) = true := by
  decide +kernel

/-- The lead is in the words of its block, with what it has been set to since; the title is still the
plain one. -/
theorem lead_in_force :
    (interpreter 2).attributeOf (.ref 7) "lead" leadShown =
        (interpreter 1).apply (.builtin "min") [.ref 7, .str "hello"] leadShown ∧
      (interpreter 2).attributeOf (.ref 7) "title" leadShown = .ok (.str "plain") leadShown := by
  obtain ⟨hpage, hexposing, hbase, hregistry, htitle, hlead, hvalue⟩ := leadPage_checks
  have hproper : (ClassStep.derive "Page" 4 [] leadBlocks []).IsProper beforePage := ⟨hbase, by simp⟩
  have hbefore : ExposureRun (interpreter maxLevels) (World.after ContextClass.setUp {}) [titled] beforePage :=
    .step ⟨hexposing, by simp⟩ (by simp [ClassStep.MarksBlocks, titled]) (.nil _)
  have hafter : ExposureRun (interpreter maxLevels) (beforePage.after leadPage) [leading] leadShown :=
    .step trivial trivial (.pause (.push _ _) rfl (.nil _))
  have hdefine := World.ok_of_value? hpage
  have hinstance : leadShown.at' 7 = .instance 5 [] := rfl
  have hlead' : markedBlock? [] leadBlocks "lead" = some (.builtin "min") := rfl
  have htitle' : markedBlock? [] leadBlocks "title" = some (.builtin "max") := rfl
  refine ⟨?_, ?_⟩
  · obtain ⟨hiff, hreads, -⟩ := declared_exposure_iff setUp_registriesApart setUp_accessorsNamed hbefore
      hproper hregistry hlead' ⟨by decide, by decide⟩ (.inr rfl) hdefine hafter rfl
    obtain ⟨reg, hreg, hread⟩ := hreads (hiff.2 (.inl hlead))
    rw [hreg, Option.any_some] at hvalue
    have hhello : some (reg.resolve Value.str "lead").1 = some (Value.str "hello") := eq_str hvalue
    rw [hread 7 [] 1 hinstance rfl, Option.some_inj.1 hhello]
  · obtain ⟨-, -, hfound⟩ := declared_exposure_iff setUp_registriesApart setUp_accessorsNamed hbefore
      hproper hregistry htitle' ⟨by decide, by decide⟩ (.inr rfl) hdefine hafter rfl
    exact (hfound _ (eq_str htitle)).2 7 [] 1 hinstance rfl

end Stencil
