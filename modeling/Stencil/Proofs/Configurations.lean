import Stencil.Proofs.Accessors

/-!
# How configurations are inherited

A class of views has a configuration of its own once it has been defined with options or configured
itself. Until then it has that of its base, whatever becomes of that: to configure a class also changes
the configuration of each class that looks its own up there, whether the class is made later or has been
there before.
-/

namespace Stencil

open World Evaluation

/-! ## The configuration of a class -/

namespace World

variable {w u v : World} {id t base : Nat} {c : ViewConfig} {x : Value}

/-- The configuration that a value refers to. -/
def configIn (w : World) : Value → Option ViewConfig
  | .ref r =>
    match w.at' r with
    | .config c => some c
    | _ => none
  | _ => none

/-- The configuration of a class. -/
def config? (w : World) (id : Nat) : Option ViewConfig :=
  (w.classValue id "config").bind w.configIn

/-- Whether a class has a configuration of its own. -/
def OwnsConfig (w : World) (id : Nat) : Prop := (w.ownValue id "config").isSome

/-- The configuration of a class, or of the class of a view that has no attribute in its place. -/
def configOf? (w : World) : Value → Option ViewConfig
  | .type (.context id) => w.config? id
  | .ref r =>
    match w.at' r with
    | .instance id attrs => if (named? attrs "config").isNone then w.config? id else none
    | _ => none
  | _ => none

theorem configIn_eq_some : w.configIn x = some c ↔ ∃ r, x = .ref r ∧ w.at' r = .config c := by
  unfold configIn
  cases x with
  | ref r =>
    dsimp only
    generalize hr : w.at' r = o
    cases o <;> simp [hr]
  | _ => simp

/-- A configuration stays what it is. -/
theorem Evolves.configIn (h : w.Evolves u) (hx : w.configIn x = some c) : u.configIn x = some c := by
  obtain ⟨r, rfl, hr⟩ := configIn_eq_some.1 hx
  have hlt : (r : Nat) < w.objects.size := by
    refine Nat.lt_of_not_le fun hle => ?_
    rw [at'_of_size_le hle] at hr
    cases hr
  refine configIn_eq_some.2 ⟨r, rfl, ?_⟩
  rw [(h.objects r hlt).fixed (by rw [hr]; rfl), hr]

/-- Every class has been made after its base, and each that has something in the place of its
configuration has a configuration there. -/
structure ConfigsInPlace (w : World) : Prop where
  basesFirst : w.BasesFirst
  own : ∀ id x, w.ownValue id "config" = some x → ∃ c, w.configIn x = some c

namespace ConfigsInPlace

theorem exists_configIn (hw : w.ConfigsInPlace) (h : w.classValue id "config" = some x) :
    ∃ c, w.configIn x = some c := by
  induction id using Nat.strongRecOn with
  | ind id ih =>
    rw [hw.basesFirst.classValue_eq] at h
    cases hown : w.ownValue id "config" with
    | some y =>
      rw [hown] at h
      cases h
      exact hw.own id x hown
    | none =>
      rw [hown] at h
      cases hb : (w.classAt' id).base with
      | none => rw [hb] at h; cases h
      | some b =>
        rw [hb] at h
        exact ih b (hw.basesFirst id b hb) h

theorem config?_congr (hw : w.ConfigsInPlace)
    (hconfigs : ∀ x c, w.configIn x = some c → u.configIn x = some c)
    (h : u.classValue id "config" = w.classValue id "config") : u.config? id = w.config? id := by
  rw [config?, config?, h]
  cases hx : w.classValue id "config" with
  | none => rfl
  | some x =>
    obtain ⟨c, hc⟩ := hw.exists_configIn hx
    rw [Option.bind_some, Option.bind_some, hc, hconfigs x c hc]

theorem config?_of_looksIn (hw : w.ConfigsInPlace) (h : w.LooksIn w.OwnsConfig id t) :
    w.config? id = w.config? t := by
  rw [config?, config?, LooksIn.classValue_eq hw.basesFirst h]

end ConfigsInPlace

/-- A class that has a configuration of its own has that one. -/
theorem BasesFirst.config?_of_own (hw : w.BasesFirst) (h : w.ownValue id "config" = some x) :
    w.config? id = w.configIn x := by
  rw [config?, hw.classValue_eq, h]
  rfl

/-! ## Changes of configurations -/

/-- No class has got another configuration of its own. -/
structure KeepsConfigs (w u : World) : Prop where
  evolves : w.Evolves u
  own : ∀ id, u.ownValue id "config" = w.ownValue id "config"

/-- One class has got another configuration of its own. -/
structure SetsConfig (t : Nat) (c : ViewConfig) (w u : World) : Prop where
  evolves : w.Evolves u
  others : ∀ id, id ≠ t → u.ownValue id "config" = w.ownValue id "config"
  new : ∃ x, u.ownValue t "config" = some x ∧ u.configIn x = some c

/-- There is another class, which has no configuration of its own yet. -/
structure AddsClass (base : Nat) (w u : World) : Prop where
  configs : ∀ x c, w.configIn x = some c → u.configIn x = some c
  classCount : u.classes.size = w.classes.size + 1
  bases : ∀ id, id ≠ w.classes.size → (u.classAt' id).base = (w.classAt' id).base
  newBase : (u.classAt' w.classes.size).base = some base
  own : ∀ id, u.ownValue id "config" = w.ownValue id "config"

namespace KeepsConfigs

theorem refl (w : World) : w.KeepsConfigs w := ⟨.refl w, fun _ => rfl⟩

theorem trans (h : w.KeepsConfigs u) (h' : u.KeepsConfigs v) : w.KeepsConfigs v :=
  ⟨h.evolves.trans h'.evolves, fun id => (h'.own id).trans (h.own id)⟩

theorem of_classes_eq (h : w.Evolves u) (hc : u.classes = w.classes) : w.KeepsConfigs u :=
  ⟨h, fun id => by rw [ownValue, ownValue, classAt', classAt', hc]⟩

theorem configsInPlace (hw : w.ConfigsInPlace) (h : w.KeepsConfigs u) : u.ConfigsInPlace where
  basesFirst := hw.basesFirst.congr h.evolves.base
  own id x hx := by
    obtain ⟨c, hc⟩ := hw.own id x (h.own id ▸ hx)
    exact ⟨c, h.evolves.configIn hc⟩

theorem ownsConfig_iff (h : w.KeepsConfigs u) (id : Nat) : u.OwnsConfig id ↔ w.OwnsConfig id := by
  rw [OwnsConfig, OwnsConfig, h.own]

theorem classValue_eq (hw : w.ConfigsInPlace) (h : w.KeepsConfigs u) (id : Nat) :
    u.classValue id "config" = w.classValue id "config" :=
  hw.basesFirst.classValue_congr (h.configsInPlace hw).basesFirst fun t _ => ⟨h.evolves.base t, h.own t⟩

theorem config?_eq (hw : w.ConfigsInPlace) (h : w.KeepsConfigs u) (id : Nat) :
    u.config? id = w.config? id :=
  hw.config?_congr (fun _ _ => h.evolves.configIn) (h.classValue_eq hw id)

end KeepsConfigs

namespace SetsConfig

theorem changes (h : SetsConfig t c w u) : ChangesValue t "config" w u := ⟨h.evolves.base, h.others⟩

theorem configsInPlace (hw : w.ConfigsInPlace) (h : SetsConfig t c w u) : u.ConfigsInPlace where
  basesFirst := hw.basesFirst.congr h.evolves.base
  own id x hx := by
    by_cases hid : id = t
    · subst hid
      obtain ⟨y, hy, hc⟩ := h.new
      rw [hy] at hx
      cases hx
      exact ⟨c, hc⟩
    · obtain ⟨c', hc⟩ := hw.own id x (h.others id hid ▸ hx)
      exact ⟨c', h.evolves.configIn hc⟩

theorem config?_self (hw : w.ConfigsInPlace) (h : SetsConfig t c w u) : u.config? t = some c := by
  obtain ⟨x, hx, hc⟩ := h.new
  rw [(h.configsInPlace hw).basesFirst.config?_of_own hx, hc]

/-- A class that looks its configuration up in the class that was configured has the new one. -/
theorem config?_of_looksIn (hw : w.ConfigsInPlace) (h : SetsConfig t c w u)
    (hid : w.LooksIn w.OwnsConfig id t) : u.config? id = some c := by
  rw [← h.config?_self hw, config?, config?, h.changes.classValue_of_looksIn hw.basesFirst hid]

/-- Every other class keeps its own. -/
theorem config?_of_not_looksIn (hw : w.ConfigsInPlace) (h : SetsConfig t c w u)
    (hid : ¬ w.LooksIn w.OwnsConfig id t) : u.config? id = w.config? id :=
  hw.config?_congr (fun _ _ => h.evolves.configIn)
    (h.changes.classValue_of_not_looksIn hw.basesFirst hid)

theorem ownsConfig_iff (h : SetsConfig t c w u) (id : Nat) :
    u.OwnsConfig id ↔ w.OwnsConfig id ∨ id = t := by
  unfold OwnsConfig
  by_cases hid : id = t
  · obtain ⟨x, hx, -⟩ := h.new
    simp [hid, hx]
  · simp [hid, h.others id hid]

end SetsConfig

namespace AddsClass

theorem basesFirst (hw : w.BasesFirst) (hbase : base < w.classes.size) (h : AddsClass base w u) :
    u.BasesFirst := hw.added hbase h.bases h.newBase

theorem configsInPlace (hw : w.ConfigsInPlace) (hbase : base < w.classes.size)
    (h : AddsClass base w u) : u.ConfigsInPlace where
  basesFirst := h.basesFirst hw.basesFirst hbase
  own id x hx := by
    obtain ⟨c, hc⟩ := hw.own id x (h.own id ▸ hx)
    exact ⟨c, h.configs x c hc⟩

theorem config?_of_lt (hw : w.ConfigsInPlace) (hbase : base < w.classes.size) (h : AddsClass base w u)
    (hid : id < w.classes.size) : u.config? id = w.config? id :=
  hw.config?_congr h.configs (hw.basesFirst.classValue_of_lt (h.basesFirst hw.basesFirst hbase)
    h.bases (fun t _ => h.own t) hid)

theorem ownsConfig_iff (h : AddsClass base w u) (id : Nat) : u.OwnsConfig id ↔ w.OwnsConfig id := by
  rw [OwnsConfig, OwnsConfig, h.own]

/-- The new class looks its configuration up in its base. -/
theorem config?_new (hw : w.ConfigsInPlace) (hbase : base < w.classes.size) (h : AddsClass base w u) :
    u.config? w.classes.size = w.config? base := by
  rw [← h.config?_of_lt hw hbase hbase]
  refine (h.configsInPlace hw hbase).config?_of_looksIn (.above ?_ h.newBase (.here base))
  rw [OwnsConfig, h.own, ownValue_of_size_le (Nat.le_refl _)]
  simp

end AddsClass

end World

/-! ## What the operations on classes change -/

section

variable {w u : World} {n id t : Nat} {c more : ViewConfig}

/-- Whatever a computation comes to that only makes objects, configurations stay. -/
theorem keepsConfigs_of_iterates {α : Type} {x : Action α} [Evolving x]
    (h : w.Iterates (w.after x)) : w.KeepsConfigs (w.after x) :=
  .of_classes_eq (Evolving.evolves w) h.classes

theorem lt_of_config? (h : w.config? id = some c) : id < w.classes.size := by
  refine Nat.lt_of_not_le fun hle => ?_
  rw [config?, classValue_of_size_le hle] at h
  cases h

theorem configAt_ok {x : Value} (h : w.configIn x = some c) : configAt x w = .ok c w := by
  obtain ⟨r, rfl, hr⟩ := configIn_eq_some.1 h
  unfold configAt
  rw [bind_of_ok (object?_ref w r), hr]
  rfl

/-- The configuration of a class is read from the class. -/
theorem classConfig_ok (h : w.config? id = some c) :
    ∃ x, (interpreter (n + 1)).attributeOf (.type (.context id)) "config" w = .ok x w ∧
      w.configIn x = some c := by
  obtain ⟨x, hx, hc⟩ := Option.bind_eq_some_iff.1 h
  obtain ⟨r, rfl, -⟩ := configIn_eq_some.1 hc
  refine ⟨.ref r, ?_, hc⟩
  change ownClassAttribute id "config" w = _
  unfold ownClassAttribute
  rw [bind_of_ok (classAttribute?_eq w id "config"), hx]
  rfl

/-- A new configuration in the place of that of a class. -/
theorem setConfig (ht : t < w.classes.size) (c : ViewConfig) :
    let setting : Action Value := do
      let config ← allocValue (.config c)
      ContextClass.setClassAttribute t "config" config
      return config
    ∃ x, setting w = .ok x (w.after setting) ∧ SetsConfig t c w (w.after setting) := by
  intro setting
  let v := w.push (.config c)
  let config := Value.ref w.objects.size
  let d : ContextClass := { v.classAt' t with attrs := setNamed (v.classAt' t).attrs "config" config }
  have hset : setting w = .ok config { v with classes := v.classes.setIfInBounds t d } := rfl
  have hd : named? d.attrs "config" = some config := by
    rw [named?_setNamed, if_pos rfl]
  rw [after_of_ok hset]
  refine ⟨config, hset, after_of_ok hset ▸ Evolving.evolves w, fun id hid => ?_, config, ?_, ?_⟩
  · rw [ownValue_setClass, if_neg fun h => hid h.1]
    rfl
  · rw [ownValue_setClass, if_pos ⟨rfl, ht⟩, hd]
  · exact configIn_eq_some.2 ⟨_, rfl, at'_push_size w _⟩

/-- To configure a class of views gives it what its configuration becomes with the changes, unless the
values of the changes are refused. -/
theorem configure_effect {changes : List (String × Value)} (ht : w.config? t = some c)
    (hc : ∀ a ∈ changes, w.IsPlain a.2) (n : Nat) :
    let configure := ContextClass.configure (interpreter n) t changes
    ((∀ x u, configure w ≠ .ok x u) ∧ w.KeepsConfigs (w.after configure)) ∨
      (∃ x, configure w = .ok x (w.after configure)) ∧
        ∃ c', w.value? (c.replace (interpreter n) changes) = some c' ∧
          SetsConfig t c' w (w.after configure) := by
  intro configure
  have hrefuses {e : Stop} {v : World} (h : configure w = .error e v) (hk : w.KeepsConfigs v) :
      (∀ x u, configure w ≠ .ok x u) ∧ w.KeepsConfigs (w.after configure) := by
    rw [after_of_error h, h]
    exact ⟨fun x u hx => (by cases hx), hk⟩
  cases n with
  | zero => exact .inl (hrefuses rfl (.refl w))
  | succ n =>
    obtain ⟨x, hx, hnow⟩ := classConfig_ok (n := n) ht
    have hstart : configure w = (do
        let config ← allocValue (.config (← c.replace (interpreter (n + 1)) changes))
        ContextClass.setClassAttribute t "config" config
        return config) w := by
      change ContextClass.configure _ t changes w = _
      unfold ContextClass.configure
      rw [bind_of_ok hx, bind_of_ok (configAt_ok hnow)]
    have hkeeps : w.KeepsConfigs (w.after (c.replace (interpreter (n + 1)) changes)) :=
      keepsConfigs_of_iterates (replace_plain hc)
    cases hreplace : c.replace (interpreter (n + 1)) changes w with
    | error e v =>
      rw [after_of_error hreplace] at hkeeps
      rw [bind_of_error hreplace] at hstart
      exact .inl (hrefuses hstart hkeeps)
    | ok c' v =>
      rw [after_of_ok hreplace] at hkeeps
      rw [bind_of_ok hreplace] at hstart
      have hlt : t < v.classes.size := hkeeps.evolves.classCount ▸ lt_of_config? ht
      obtain ⟨y, hy, hset⟩ := setConfig hlt c'
      rw [hy] at hstart
      rw [after_of_ok hstart]
      refine .inr ⟨⟨y, hstart⟩, c', (World.of_ok hreplace).1, hkeeps.evolves.trans hset.evolves,
        fun id hid => ?_, hset.new⟩
      exact (hset.others id hid).trans (hkeeps.own id)

/-- The configuration of another class, or of a view, is read from it. -/
theorem otherConfig_ok {other : Value} (h : w.configOf? other = some c) :
    ∃ x, (interpreter (n + 1)).attributeOf other "config" w = .ok x w ∧ w.configIn x = some c := by
  unfold configOf? at h
  split at h
  · exact classConfig_ok h
  · rename_i r
    split at h
    · rename_i id attrs hr
      split at h
      · rename_i hown
        obtain ⟨x, hx, hc⟩ := Option.bind_eq_some_iff.1 h
        obtain ⟨q, rfl, hq⟩ := configIn_eq_some.1 hc
        have hname : IsPlainName "config" := ⟨by decide, by decide⟩
        refine ⟨.ref q, ?_, hc⟩
        rw [attributeOf_class hr hname hx (by simp) (by simpa using hown), bindAttribute,
          bind_of_ok (load_ok w q), hq]
        rfl
      · cases h
    · cases h
  · cases h

/-- To make a class of views need the assets of another one gives it its configuration with those
assets. -/
theorem registerType_effect {other : Value} (ht : w.config? t = some c)
    (ho : w.configOf? other = some more) (n : Nat) :
    let register := ContextClass.registerType (interpreter n) t other
    ((∀ x u, register w ≠ .ok x u) ∧ w.KeepsConfigs (w.after register)) ∨
      (∃ x, register w = .ok x (w.after register)) ∧
        SetsConfig t (c.mergeAssets more) w (w.after register) := by
  intro register
  cases n with
  | zero => exact .inl ⟨by rintro x u ⟨⟩, .refl w⟩
  | succ n =>
    obtain ⟨x, hx, hnow⟩ := classConfig_ok (n := n) ht
    obtain ⟨y, hy, hmore⟩ := otherConfig_ok (n := n) ho
    have hstart : register w = (do
        let config ← allocValue (.config (c.mergeAssets more))
        ContextClass.setClassAttribute t "config" config
        return config) w := by
      change ContextClass.registerType _ t other w = _
      unfold ContextClass.registerType
      rw [bind_of_ok hx, bind_of_ok (configAt_ok hnow), bind_of_ok hy, bind_of_ok (configAt_ok hmore)]
    obtain ⟨z, hz, hset⟩ := setConfig (lt_of_config? ht) (c.mergeAssets more)
    rw [hz] at hstart
    rw [after_of_ok hstart]
    exact .inr ⟨⟨z, hstart⟩, hset⟩

end

end Stencil
