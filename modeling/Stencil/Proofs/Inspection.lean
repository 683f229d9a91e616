import Stencil.Proofs.Inheritance
import Stencil.Proofs.Undisturbed

/-!
# Inspecting worlds

The facts about assets that hold of a world can be computed from it. A reading of a world finds the
references in sets and bundles and what a view holds; a comparison of two worlds finds that nothing which
assets depend on has changed. Both say no also where the values are of other kinds than views make.
-/

namespace Stencil

open World Evaluation

/-- The texts that values are. -/
def references? : List Value → Option (List String)
  | [] => some []
  | .str s :: vs => (references? vs).map (s :: ·)
  | _ :: _ => none

theorem references?_eq_some {vs : List Value} {l : List String} (h : references? vs = some l) :
    vs = texts l := by
  induction vs generalizing l with
  | nil =>
    cases h
    rfl
  | cons v vs ih =>
    cases v with
    | str s =>
      obtain ⟨l', hl, rfl⟩ := Option.map_eq_some_iff.1 h
      rw [ih hl, texts_cons]
    | _ => cases h

namespace World

/-- The references in the set at a place. -/
def set? (w : World) (r : Ref) : Option (List String) :=
  match w.at' r with
  | .assets _ s => references? s.toList
  | _ => none

/-- The references in the bundle at a place. -/
def bundle? (w : World) (b : Ref) : Option References :=
  match w.at' b with
  | .bundle c j => (w.set? c).bind fun css => (w.set? j).map fun js => ⟨css, js⟩
  | _ => none

/-- The references in a bundle that is an attribute of a view. -/
def bundled? (w : World) (v : Ref) (name : String) : Option References :=
  match w.own? v name with
  | some (.ref b) => w.bundle? b
  | _ => none

/-- The references in the configuration of a class. -/
def configured? (w : World) (cls : Nat) : Option References :=
  match w.classValue cls "config" with
  | some (.ref k) =>
    match w.at' k with
    | .config c => (references? c.css).bind fun css => (references? c.js).map fun js => ⟨css, js⟩
    | _ => none
  | _ => none

/-- Whether an attribute of a class is computed. -/
def isComputed (w : World) (cls : Nat) (name : String) : Bool :=
  match w.classValue cls name with
  | some (.property _) => true
  | _ => false

/-- The class of a view whose assets are found as the built-in class finds them. -/
def viewClass? (w : World) (v : Ref) : Option Nat :=
  (w.classOf? v).filter fun cls =>
    (w.classAt' cls).kind == .view && !w.isComputed cls "_assets" && !w.isComputed cls "_registered" &&
      match w.classValue cls "assets" with
      | some (.property p) => p == "assets"
      | _ => false

/-- What a view holds: the references in its configuration, those that are registered on it, and those
that it has collected. -/
def viewHolds? (w : World) (v : Ref) : Option (References × References × References) :=
  match w.own? v "config" with
  | some _ => none
  | none =>
    (w.viewClass? v).bind fun cls => (w.configured? cls).bind fun config =>
      (w.bundled? v "_registered").bind fun registered =>
        (w.bundled? v "_assets").map fun collected => (config, registered, collected)

variable {w u : World} {v r b cls : Nat}

theorem set?_eq_some {l : List String} (h : w.set? r = some l) : w.Holds r l := by
  unfold set? at h
  split at h
  · rename_i kind s hr
    exact ⟨kind, by rw [hr, ← references?_eq_some h]⟩
  · cases h

theorem bundle?_eq_some {refs : References} (h : w.bundle? b = some refs) :
    ∃ c j, w.IsBundle b c j refs := by
  unfold bundle? at h
  split at h
  · rename_i c j hb
    obtain ⟨css, hc, h⟩ := Option.bind_eq_some_iff.1 h
    obtain ⟨js, hj, rfl⟩ := Option.map_eq_some_iff.1 h
    exact ⟨c, j, hb, set?_eq_some hc, set?_eq_some hj⟩
  · cases h

theorem bundled?_eq_some {name : String} {refs : References} (h : w.bundled? v name = some refs) :
    w.Bundled v name refs := by
  unfold bundled? at h
  split at h
  · rename_i b hb
    obtain ⟨c, j, h⟩ := bundle?_eq_some h
    exact ⟨b, c, j, hb, h⟩
  · cases h

theorem configured?_eq_some {refs : References} (h : w.configured? cls = some refs) :
    w.Configured cls refs := by
  unfold configured? at h
  split at h
  · rename_i k hk
    split at h
    · rename_i config hc
      obtain ⟨css, hcss, h⟩ := Option.bind_eq_some_iff.1 h
      obtain ⟨js, hjs, rfl⟩ := Option.map_eq_some_iff.1 h
      exact ⟨k, config, hk, hc, references?_eq_some hcss, references?_eq_some hjs⟩
    · cases h
  · cases h

theorem isComputed_eq_false {name : String} (h : w.isComputed cls name = false) (p : String) :
    w.classValue cls name ≠ some (.property p) := by
  intro hp
  rw [isComputed, hp] at h
  cases h

theorem viewClass?_eq_some (h : w.viewClass? v = some cls) : w.IsView v cls := by
  obtain ⟨hc, h⟩ := Option.filter_eq_some_iff.1 h
  simp only [Bool.and_eq_true, beq_iff_eq, Bool.not_eq_true'] at h
  obtain ⟨⟨⟨hkind, ha⟩, hr⟩, hassets⟩ := h
  refine ⟨hc, hkind, ?_, ?_⟩
  · split at hassets
    · rename_i p hp
      rw [hp, beq_iff_eq.1 hassets]
    · cases hassets
  · intro name hn
    simp only [List.mem_cons, List.not_mem_nil, or_false] at hn
    rcases hn with rfl | rfl
    · exact isComputed_eq_false ha
    · exact isComputed_eq_false hr

/-- What is read of a view is what it holds. -/
theorem viewHolds?_eq_some {config registered collected : References}
    (h : w.viewHolds? v = some (config, registered, collected)) :
    w.ViewHolds v config registered collected := by
  unfold viewHolds? at h
  split at h
  · cases h
  · rename_i hown
    obtain ⟨cls, hv, h⟩ := Option.bind_eq_some_iff.1 h
    obtain ⟨_, hc, h⟩ := Option.bind_eq_some_iff.1 h
    obtain ⟨_, hr, h⟩ := Option.bind_eq_some_iff.1 h
    obtain ⟨_, ha, h⟩ := Option.map_eq_some_iff.1 h
    cases h
    exact ⟨⟨cls, viewClass?_eq_some hv, configured?_eq_some hc⟩, hown, bundled?_eq_some hr,
      bundled?_eq_some ha⟩

end World

/-! ## Comparing worlds -/

/-- Whether two values are the same text, truth value, reference or computed attribute. -/
def Value.agrees : Value → Value → Bool
  | .none, .none => true
  | .bool a, .bool b => a == b
  | .str a, .str b => a == b
  | .ref a, .ref b => a == b
  | .property a, .property b => a == b
  | _, _ => false

theorem Value.eq_of_agrees {x y : Value} (h : x.agrees y = true) : x = y := by
  unfold Value.agrees at h
  split at h
  · rfl
  · rw [beq_iff_eq.1 h]
  · rw [beq_iff_eq.1 h]
  · rw [beq_iff_eq.1 h]
  · rw [beq_iff_eq.1 h]
  · cases h

/-- Whether two optional values are the same. -/
def foundAgrees : Option Value → Option Value → Bool
  | some x, some y => x.agrees y
  | none, none => true
  | _, _ => false

theorem eq_of_foundAgrees {x y : Option Value} (h : foundAgrees x y = true) : x = y := by
  unfold foundAgrees at h
  split at h
  · rw [Value.eq_of_agrees h]
  · rfl
  · cases h

/-- Whether two lists are the same references. -/
def referencesAgree (xs ys : List Value) : Bool :=
  (references? xs).isSome && references? xs == references? ys

theorem eq_of_referencesAgree {xs ys : List Value} (h : referencesAgree xs ys = true) : xs = ys := by
  obtain ⟨hs, he⟩ := Bool.and_eq_true_iff.1 h
  obtain ⟨l, hl⟩ := Option.isSome_iff_exists.1 hs
  rw [references?_eq_some hl, references?_eq_some ((beq_iff_eq.1 he).symm.trans hl)]

/-- Whether two objects are the same set, bundle or configuration. -/
def Object.agrees : Object → Object → Bool
  | .assets k s, .assets l t => k == l && referencesAgree s.toList t.toList
  | .bundle a b, .bundle c d => a == c && b == d
  | .config c, .config d =>
    c.template.agrees d.template && c.theme.agrees d.theme && c.layout.agrees d.layout &&
      c.outputFormat.agrees d.outputFormat && c.useLayout.agrees d.useLayout &&
      referencesAgree c.css d.css && referencesAgree c.js d.js
  | _, _ => false

theorem Object.eq_of_agrees {x y : Object} (h : x.agrees y = true) : x = y := by
  unfold Object.agrees at h
  split at h
  · rename_i k s l t
    simp only [Bool.and_eq_true, beq_iff_eq] at h
    obtain ⟨xs⟩ := s
    obtain ⟨ys⟩ := t
    obtain rfl : xs = ys := eq_of_referencesAgree h.2
    rw [h.1]
  · simp only [Bool.and_eq_true, beq_iff_eq] at h
    rw [h.1, h.2]
  · rename_i c d
    simp only [Bool.and_eq_true] at h
    obtain ⟨⟨⟨⟨⟨⟨h₁, h₂⟩, h₃⟩, h₄⟩, h₅⟩, h₆⟩, h₇⟩ := h
    cases c
    cases d
    simp only [Object.config.injEq, ViewConfig.mk.injEq]
    exact ⟨Value.eq_of_agrees h₁, Value.eq_of_agrees h₂, Value.eq_of_agrees h₃, Value.eq_of_agrees h₄,
      eq_of_referencesAgree h₆, eq_of_referencesAgree h₇, Value.eq_of_agrees h₅⟩
  · cases h

namespace World

/-- Whether nothing that assets depend on has changed at a place. -/
def quietAt (w u : World) (r : Nat) : Bool :=
  (!((w.at' r).isAsset || (u.at' r).isAsset) || (w.at' r).agrees (u.at' r)) &&
    u.classOf? r == w.classOf? r &&
    assetAttributes.all fun name => foundAgrees (u.own? r name) (w.own? r name)

/-- Whether a class gives the attributes that assets are found by as before. -/
def quietClass (w u : World) (id : Nat) : Bool :=
  (u.classAt' id).kind == (w.classAt' id).kind &&
    assetAttributes.all fun name => foundAgrees (u.classValue id name) (w.classValue id name)

/-- Whether nothing that assets depend on has changed. -/
def quiet? (w u : World) : Bool :=
  decide (w.objects.size ≤ u.objects.size) && u.enclosing == w.enclosing &&
    u.classes.size == w.classes.size && (List.range w.objects.size).all (w.quietAt u) &&
    (List.range w.classes.size).all (w.quietClass u)

/-- What is compared is what stays. -/
theorem quiet_of_quiet? {w u : World} (h : w.quiet? u = true) : w.Undisturbed [] [] u ∧
    u.enclosing = w.enclosing := by
  simp only [quiet?, Bool.and_eq_true, decide_eq_true_eq, beq_iff_eq, List.all_eq_true,
    List.mem_range] at h
  obtain ⟨⟨⟨⟨hsize, henc⟩, hcount⟩, hat⟩, hclass⟩ := h
  have hat' (r : Nat) (hr : r < w.objects.size) := hat r hr
  simp only [quietAt, Bool.and_eq_true, beq_iff_eq, List.all_eq_true] at hat'
  refine ⟨⟨hsize, fun r hr _ ha => ?_, fun id name hn => ?_, fun id => ?_, fun v hv => ?_,
    fun v hv name hn _ => ?_⟩, henc⟩
  · have := (hat' r hr).1.1
    rcases ha with ha | ha
    · simp only [ha, Bool.true_or, Bool.not_true, Bool.false_or] at this
      exact (Object.eq_of_agrees this).symm
    · simp only [ha, Bool.or_true, Bool.not_true, Bool.false_or] at this
      exact (Object.eq_of_agrees this).symm
  · by_cases hid : id < w.classes.size
    · have := hclass id hid
      simp only [quietClass, Bool.and_eq_true, List.all_eq_true] at this
      exact eq_of_foundAgrees (this.2 name hn)
    · rw [classValue_of_size_le (Nat.not_lt.1 hid), classValue_of_size_le (by omega)]
  · by_cases hid : id < w.classes.size
    · have := hclass id hid
      simp only [quietClass, Bool.and_eq_true, beq_iff_eq] at this
      exact this.1
    · rw [classAt'_of_size_le (Nat.not_lt.1 hid), classAt'_of_size_le (by omega)]
  · exact (hat' v hv).1.2
  · exact eq_of_foundAgrees ((hat' v hv).2 name hn)

end World

end Stencil
