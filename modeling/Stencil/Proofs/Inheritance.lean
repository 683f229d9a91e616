import Stencil.Proofs.Lookup
import Stencil.Proofs.NamedValues

/-!
# What classes have from their bases

A class has what stands under a name in itself, or else what its base has under it. So a change of one
class is seen by those classes that look the name up in it: the class itself, and every class below it
from which no class on the way has the name itself.
-/

namespace Stencil

open World Evaluation

namespace World

variable {w u : World} {id t : Nat} {name : String}

/-- Every class has been made after its base. -/
def BasesFirst (w : World) : Prop := ∀ id b, (w.classAt' id).base = some b → b < id

/-- What a class has itself under a name. -/
def ownValue (w : World) (id : Nat) (name : String) : Option Value :=
  named? (w.classAt' id).attrs name

theorem ownValue_of_size_le (h : w.classes.size ≤ id) : w.ownValue id name = none := by
  rw [ownValue, classAt'_of_size_le h]
  rfl

theorem base_of_size_le (h : w.classes.size ≤ id) : (w.classAt' id).base = none := by
  rw [classAt'_of_size_le h]
  rfl

theorem BasesFirst.ancestors_eq (hw : w.BasesFirst) {fuel : Nat} (h : id < fuel) :
    w.ancestors fuel id = w.ancestors (id + 1) id := by
  induction id using Nat.strongRecOn generalizing fuel with
  | ind id ih =>
    obtain ⟨fuel, rfl⟩ := Nat.exists_eq_add_one_of_ne_zero (Nat.ne_zero_of_lt h)
    rw [ancestors, ancestors]
    cases hb : (w.classAt' id).base with
    | none => rfl
    | some b =>
      have hlt := hw id b hb
      dsimp only
      rw [ih b hlt (by omega), ih b hlt hlt]

/-- The first thing found from a class up is found in the class, or from its base up. -/
theorem BasesFirst.findSome?_ancestors {β : Type} (hw : w.BasesFirst) {f : Nat → Option β}
    (hf : ∀ id, w.classes.size ≤ id → f id = none) (id : Nat) :
    (w.ancestors w.classes.size id).findSome? f = (f id).or
      ((w.classAt' id).base.bind fun b => (w.ancestors w.classes.size b).findSome? f) := by
  by_cases hlt : id < w.classes.size
  · rw [hw.ancestors_eq hlt, ancestors]
    cases hb : (w.classAt' id).base with
    | none => cases hid : f id <;> simp [hid]
    | some b =>
      have hbase := hw id b hb
      dsimp only
      rw [List.findSome?_cons, hw.ancestors_eq hbase, Option.bind_some,
        hw.ancestors_eq (Nat.lt_trans hbase hlt)]
      cases f id <;> rfl
  · have hle := Nat.le_of_not_lt hlt
    rw [hf id hle, base_of_size_le hle]
    cases hsize : w.classes.size with
    | zero => rfl
    | succ n =>
      rw [ancestors, base_of_size_le hle]
      simp [hf id hle]

/-- A class has a name itself, or has it from its base. -/
theorem BasesFirst.classValue_eq (hw : w.BasesFirst) (id : Nat) (name : String) :
    w.classValue id name =
      (w.ownValue id name).or ((w.classAt' id).base.bind fun b => w.classValue b name) :=
  hw.findSome?_ancestors (fun _ h => ownValue_of_size_le h) id

theorem classValue_of_size_le (h : w.classes.size ≤ id) : w.classValue id name = none := by
  unfold classValue
  cases w.classes.size with
  | zero => rfl
  | succ n =>
    rw [ancestors, base_of_size_le h, List.findSome?_singleton]
    exact ownValue_of_size_le h

theorem BasesFirst.classRegistry_eq (hw : w.BasesFirst) (id : Nat) :
    w.classRegistry id =
      (w.classAt' id).exposures.or ((w.classAt' id).base.bind fun b => w.classRegistry b) :=
  hw.findSome?_ancestors (fun id h => by rw [classAt'_of_size_le h]; rfl) id

theorem BasesFirst.congr (hw : w.BasesFirst)
    (h : ∀ id, (u.classAt' id).base = (w.classAt' id).base) : u.BasesFirst := by
  intro id b hb
  rw [h] at hb
  exact hw id b hb

/-! ## Where a name is looked up -/

/-- A class looks a name up in another one: in itself, or in its base when it does not have the name
itself. -/
inductive LooksIn (w : World) (has : Nat → Prop) : Nat → Nat → Prop
  | here (id : Nat) : LooksIn w has id id
  | above {id b t : Nat} (lacks : ¬ has id) (base : (w.classAt' id).base = some b)
      (rest : LooksIn w has b t) : LooksIn w has id t

namespace LooksIn

variable {has has' : Nat → Prop}

theorem le (hw : w.BasesFirst) (h : w.LooksIn has id t) : t ≤ id := by
  induction h with
  | here => exact Nat.le_refl _
  | above _ hb _ ih => exact Nat.le_trans ih (Nat.le_of_lt (hw _ _ hb))

theorem congr (h : w.LooksIn has id t) (hhas : ∀ id, has' id ↔ has id) : w.LooksIn has' id t := by
  induction h with
  | here id => exact .here id
  | above hid hb _ ih => exact .above (mt (hhas _).1 hid) hb ih

/-- It then has there what the other one has. -/
theorem classValue_eq (hw : w.BasesFirst)
    (h : w.LooksIn (fun id => (w.ownValue id name).isSome) id t) :
    w.classValue id name = w.classValue t name := by
  induction h with
  | here => rfl
  | above hid hb _ ih =>
    rw [hw.classValue_eq, Option.not_isSome_iff_eq_none.1 hid, hb, Option.none_or, Option.bind_some, ih]

end LooksIn

/-- A class has what it had when none of the classes where it looks has changed. -/
theorem BasesFirst.classValue_congr (hw : w.BasesFirst) (hu : u.BasesFirst)
    (h : ∀ t, w.LooksIn (fun id => (w.ownValue id name).isSome) id t →
      (u.classAt' t).base = (w.classAt' t).base ∧ u.ownValue t name = w.ownValue t name) :
    u.classValue id name = w.classValue id name := by
  induction id using Nat.strongRecOn with
  | ind id ih =>
    obtain ⟨hbase, hown⟩ := h id (.here id)
    rw [hu.classValue_eq, hw.classValue_eq, hown, hbase]
    cases hv : w.ownValue id name with
    | some v => rfl
    | none =>
      cases hb : (w.classAt' id).base with
      | none => rfl
      | some b =>
        refine congrArg (Option.or none) (ih b (hw id b hb) fun t ht => h t ?_)
        exact .above (by simp [hv]) hb ht

/-- There is one more class, below one that was there. -/
theorem BasesFirst.added {base : Nat} (hw : w.BasesFirst) (hbase : base < w.classes.size)
    (h : ∀ id, id ≠ w.classes.size → (u.classAt' id).base = (w.classAt' id).base)
    (hnew : (u.classAt' w.classes.size).base = some base) : u.BasesFirst := by
  intro id b hb
  by_cases hid : id = w.classes.size
  · subst hid
    rw [hnew] at hb
    cases hb
    exact hbase
  · rw [h id hid] at hb
    exact hw id b hb

/-- The classes that were there do not look into a new one. -/
theorem BasesFirst.classValue_of_lt (hw : w.BasesFirst) (hu : u.BasesFirst)
    (hb : ∀ id, id ≠ w.classes.size → (u.classAt' id).base = (w.classAt' id).base)
    (ho : ∀ id, id ≠ w.classes.size → u.ownValue id name = w.ownValue id name)
    (hid : id < w.classes.size) : u.classValue id name = w.classValue id name := by
  refine hw.classValue_congr hu fun t ht => ?_
  have hne : t ≠ w.classes.size := Nat.ne_of_lt (Nat.lt_of_le_of_lt (ht.le hw) hid)
  exact ⟨hb t hne, ho t hne⟩

/-- What one class has under a name may have changed; the others and the bases have not. -/
structure ChangesValue (t : Nat) (name : String) (w u : World) : Prop where
  bases : ∀ id, (u.classAt' id).base = (w.classAt' id).base
  others : ∀ id, id ≠ t → u.ownValue id name = w.ownValue id name

namespace ChangesValue

/-- A class that looks the name up in the changed one now has what that has. -/
theorem classValue_of_looksIn (hw : w.BasesFirst) (h : ChangesValue t name w u)
    (hid : w.LooksIn (fun id => (w.ownValue id name).isSome) id t) :
    u.classValue id name = u.classValue t name := by
  refine LooksIn.classValue_eq (hw.congr h.bases) ?_
  induction hid with
  | here id => exact .here id
  | @above id b t hlacks hb hrest ih =>
    have hne : id ≠ t := Nat.ne_of_gt (Nat.lt_of_le_of_lt (hrest.le hw) (hw id b hb))
    exact .above (by rwa [h.others id hne]) (by rw [h.bases, hb]) (ih h)

/-- Every other class has what it had. -/
theorem classValue_of_not_looksIn (hw : w.BasesFirst) (h : ChangesValue t name w u)
    (hid : ¬ w.LooksIn (fun id => (w.ownValue id name).isSome) id t) :
    u.classValue id name = w.classValue id name := by
  refine hw.classValue_congr (hw.congr h.bases) fun other hother => ⟨h.bases other, h.others other ?_⟩
  rintro rfl
  exact hid hother

end ChangesValue

end World

/-! ## The body of a class -/

/-- An accessor takes the name that it has in the body. -/
def accessorNamed (name : String) : Value → Value
  | .exposed _ => .exposed name
  | v => v

theorem named?_named (attrs : List (String × Value)) (name : String) :
    named? (attrs.map fun a => (a.1, accessorNamed a.1 a.2)) name =
      (named? attrs name).map (accessorNamed name) := by
  induction attrs with
  | nil => rfl
  | cons a attrs ih =>
    rw [List.map_cons, named?_cons, named?_cons, ih]
    split
    · rename_i h
      rw [h]
      rfl
    · rfl

theorem bodyAttributes_eq (attrs : List (String × Value)) (exposed : List ExposedBlock) :
    ContextClass.bodyAttributes attrs exposed =
      exposed.foldl (fun acc e => setNamed acc e.attr e.block)
        (attrs.map fun a => (a.1, accessorNamed a.1 a.2)) := by
  refine congrArg (List.foldl _ · exposed) (List.map_congr_left fun a _ => ?_)
  obtain ⟨n, v⟩ := a
  cases v <;> rfl

/-- The last block of a name comes before everything else in the body. -/
theorem named?_bodyAttributes (attrs : List (String × Value)) (exposed : List ExposedBlock)
    (name : String) :
    named? (ContextClass.bodyAttributes attrs exposed) name =
      ((exposed.reverse.find? (·.attr == name)).map (·.block)).or
        ((named? attrs name).map (accessorNamed name)) := by
  rw [bodyAttributes_eq, ← named?_named]
  generalize attrs.map _ = entries
  induction exposed generalizing entries with
  | nil => rfl
  | cons e exposed ih =>
    rw [List.foldl_cons, ih, named?_setNamed, List.reverse_cons, List.find?_append, List.find?_singleton]
    cases exposed.reverse.find? (·.attr == name) with
    | some b => rfl
    | none =>
      by_cases h : name = e.attr
      · rw [if_pos h, h]
        simp
      · rw [if_neg h, if_neg (by simpa using Ne.symm h)]
        rfl

end Stencil
