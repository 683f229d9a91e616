import Stencil.Value
import Stencil.Exposure

/-!
# Changes of a registry

What is in force for a name after some changes of a registry: what was set for it last, part by part.
Neither part depends on the other, and no other name does.
-/

namespace Stencil

/-- A change of a registry. -/
inductive RegistryChange where
  | expose (name : String) (value block : Option Value)
  | describe (name : String) (text : Option String)
  | default (block : Option Value)

namespace RegistryChange

variable {α : Type} {name : String} {c : RegistryChange} {cs : List RegistryChange}
  {reg : ExposureRegistry Value}

/-- A registry with a change. -/
def apply (reg : ExposureRegistry Value) : RegistryChange → ExposureRegistry Value
  | expose n v b => reg.expose n v b
  | describe n t => reg.describe n t
  | default b => { reg with default := b }

/-- A registry after some changes. -/
def replay (reg : ExposureRegistry Value) (cs : List RegistryChange) : ExposureRegistry Value :=
  cs.foldl apply reg

/-- The value that a change sets for a name. -/
def value? (name : String) : RegistryChange → Option Value
  | expose n v _ => if n = name then v else none
  | _ => none

/-- The block that a change sets for a name. -/
def block? (name : String) : RegistryChange → Option Value
  | expose n _ b => if n = name then b else none
  | _ => none

/-- What a change makes the block of all names without one. -/
def default? : RegistryChange → Option (Option Value)
  | default b => some b
  | _ => none

/-- What the last one of the changes sets that set something. -/
def last? (f : RegistryChange → Option α) (cs : List RegistryChange) : Option α :=
  cs.reverse.findSome? f

theorem last?_cons (f : RegistryChange → Option α) : last? f (c :: cs) = (last? f cs).or (f c) := by
  rw [last?, List.reverse_cons, List.findSome?_append, List.findSome?_singleton]
  rfl

theorem last?_append (f : RegistryChange → Option α) (ds : List RegistryChange) :
    last? f (cs ++ ds) = (last? f ds).or (last? f cs) := by
  rw [last?, List.reverse_append, List.findSome?_append]
  rfl

end RegistryChange

namespace ExposureRegistry

variable {reg : ExposureRegistry Value} {e : Exposure Value} {n name : String}

theorem find?_replace (l : List (Exposure Value)) :
    (l.map fun d => if d.name == e.name then e else d).find? (·.name == name) =
      (l.find? (·.name == name)).map fun d => if d.name == e.name then e else d := by
  -- An entry has the name of the one whose place it takes.
  have hname : ((·.name == name) ∘ fun d : Exposure Value => if d.name == e.name then e else d) =
      (·.name == name) := by
    funext d
    by_cases hd : d.name = e.name <;> simp [hd]
  rw [List.find?_map, hname]

theorem get?_put : (reg.put e).get? name = if e.name = name then some e else reg.get? name := by
  unfold put contains get?
  by_cases h : (reg.entries.find? (·.name == e.name)).isSome = true
  · rw [if_pos h, find?_replace]
    obtain ⟨d, hd⟩ := Option.isSome_iff_exists.1 h
    by_cases hn : e.name = name
    · have hdn : d.name = e.name := by simpa using List.find?_some hd
      rw [if_pos hn, ← hn, hd, Option.map_some, if_pos (beq_iff_eq.2 hdn)]
    · rw [if_neg hn]
      cases hf : reg.entries.find? (·.name == name) with
      | none => rfl
      | some d' =>
        have hdn : d'.name = name := by simpa using List.find?_some hf
        rw [Option.map_some, if_neg (by simpa [hdn] using Ne.symm hn)]
  · rw [if_neg h, List.find?_append]
    rw [Option.not_isSome_iff_eq_none] at h
    by_cases hn : e.name = name
    · subst hn
      simp [h]
    · simp [hn]

theorem name_entry : (reg.entry name).name = name := by
  unfold entry get?
  cases h : reg.entries.find? (·.name == name) with
  | none => rfl
  | some e => simpa using List.find?_some h

theorem entry_amend {v b : Option (Option Value)} {d : Option (Option String)} :
    (reg.amend n v b d).entry name = if n = name then
      { name, value := v.getD (reg.entry name).value, block := b.getD (reg.entry name).block
        description := d.getD (reg.entry name).description }
    else reg.entry name := by
  rw [entry, amend, get?_put]
  simp only [name_entry]
  by_cases hn : n = name
  · subst hn
    simp
  · simp [hn, entry]

end ExposureRegistry

namespace RegistryChange

variable {name : String} {c : RegistryChange} {cs : List RegistryChange}
  {reg : ExposureRegistry Value}

theorem value_apply :
    ((apply reg c).entry name).value = (c.value? name).or (reg.entry name).value := by
  cases c with
  | expose n v b =>
    by_cases hn : n = name
    · cases v <;> simp [apply, ExposureRegistry.expose, ExposureRegistry.entry_amend, value?, hn]
    · simp [apply, ExposureRegistry.expose, ExposureRegistry.entry_amend, value?, hn]
  | describe n t =>
    simp only [apply, ExposureRegistry.describe, ExposureRegistry.entry_amend, value?]
    split <;> rfl
  | default b => rfl

theorem block_apply :
    ((apply reg c).entry name).block = (c.block? name).or (reg.entry name).block := by
  cases c with
  | expose n v b =>
    by_cases hn : n = name
    · cases b <;> simp [apply, ExposureRegistry.expose, ExposureRegistry.entry_amend, block?, hn]
    · simp [apply, ExposureRegistry.expose, ExposureRegistry.entry_amend, block?, hn]
  | describe n t =>
    simp only [apply, ExposureRegistry.describe, ExposureRegistry.entry_amend, block?]
    split <;> rfl
  | default b => rfl

theorem default_put {e : Exposure Value} : (reg.put e).default = reg.default := by
  unfold ExposureRegistry.put
  split <;> rfl

theorem default_apply : (apply reg c).default = c.default?.getD reg.default := by
  cases c with
  | default b => rfl
  | _ => exact default_put

/-- The value in force for a name is the one that was set last, or else the one from before. -/
theorem value_replay :
    ((replay reg cs).entry name).value = (last? (value? name) cs).or (reg.entry name).value := by
  induction cs generalizing reg with
  | nil => rfl
  | cons c cs ih => rw [replay, List.foldl_cons, ← replay, ih, value_apply, last?_cons, Option.or_assoc]

/-- The block in force for a name is the one that was set last, or else the one from before. -/
theorem block_replay :
    ((replay reg cs).entry name).block = (last? (block? name) cs).or (reg.entry name).block := by
  induction cs generalizing reg with
  | nil => rfl
  | cons c cs ih => rw [replay, List.foldl_cons, ← replay, ih, block_apply, last?_cons, Option.or_assoc]

theorem default_replay : (replay reg cs).default = (last? default? cs).getD reg.default := by
  induction cs generalizing reg with
  | nil => rfl
  | cons c cs ih =>
    rw [replay, List.foldl_cons, ← replay, ih, default_apply, last?_cons]
    cases last? default? cs <;> rfl

end RegistryChange

end Stencil
