import Mathlib.Data.List.Basic
import Mathlib.Data.List.Induction
import Stencil.Proofs.TableKeys
import Stencil.Settings.Sources

/-!
# Variables as settings

Of several variables with one name the last one counts, at the place of the first. A variable writes a
setting when its name begins with the given text and it has a value; the key is the rest of its name in
lower case. Different names may write the same key, and then the last of them in the mapping counts.
-/

namespace Stencil

namespace Datum

/-- The last one of some entries with a key has a value. -/
def LastGives (entries : List (Datum × Datum)) (k v : Datum) : Prop :=
  ∃ before e after, entries = before ++ e :: after ∧ sameKey e.1 k = true ∧ e.2 = v ∧
    ∀ d ∈ after, sameKey d.1 k = false

theorem lookup_reverse_iff {entries : List (Datum × Datum)} {k v : Datum} :
    lookup entries.reverse k = some v ↔ LastGives entries k v := by
  unfold lookup
  rw [Option.map_eq_some_iff]
  simp only [List.find?_eq_some_iff_append, List.reverse_eq_append_iff]
  constructor
  · rintro ⟨e, ⟨hk, after, before, hentries, hafter⟩, rfl⟩
    refine ⟨before.reverse, e, after.reverse, ?_, hk, rfl, fun d hd => ?_⟩
    · simpa using hentries
    · simpa using hafter d (List.mem_reverse.1 hd)
  · rintro ⟨before, e, after, rfl, hk, rfl, hafter⟩
    refine ⟨e, ⟨hk, after.reverse, before.reverse, by simp, fun d hd => ?_⟩, rfl⟩
    simpa using hafter d (List.mem_reverse.1 hd)

end Datum

namespace Settings

namespace Variable

/-- The variable that counts among those with a name. -/
def last? (vs : List Variable) (name : String) : Option Variable := vs.reverse.find? (·.name == name)

/-- Variables as a mapping: each name once, where it comes first, with the last variable of that name. -/
def mapping (vs : List Variable) : List Variable :=
  (vs.map (·.name)).eraseDups.filterMap (last? vs)

/-- A variable writes a text for a key. -/
def Writes (lead : String) (v : Variable) (key value : String) : Prop :=
  ∃ rest, v.name.toList = lead.toList ++ rest ∧ key = Text.lower (String.ofList rest) ∧
    v.value = some value

/-- The last variable of a mapping that writes a key writes a text for it. -/
def LastWrites (lead : String) (vs : List Variable) (key value : String) : Prop :=
  ∃ before v after, mapping vs = before ++ v :: after ∧ v.Writes lead key value ∧
    ∀ u ∈ after, ∀ value', ¬ u.Writes lead key value'

variable {vs : List Variable} {v w : Variable} {name : String}

theorem last?_concat (vs : List Variable) (v : Variable) (name : String) :
    last? (vs ++ [v]) name = if v.name == name then some v else last? vs name := by
  unfold last?
  rw [List.reverse_append, List.reverse_singleton, List.singleton_append, List.find?_cons]
  cases v.name == name <;> rfl

theorem name_of_last? (h : last? vs name = some w) : w.name = name := by
  simpa using List.find?_some h

theorem isSome_last? : (last? vs name).isSome = true ↔ name ∈ vs.map (·.name) := by
  simp [last?, List.find?_isSome]

theorem mem_mapping : w ∈ mapping vs ↔ last? vs w.name = some w := by
  unfold mapping
  rw [List.mem_filterMap]
  constructor
  · rintro ⟨name, -, h⟩
    rwa [name_of_last? h]
  · intro h
    refine ⟨w.name, ?_, h⟩
    rw [List.mem_eraseDups, ← isSome_last?, h]
    rfl

/-- A variable with a known name leaves the names of the mapping as they are. -/
theorem mapping_concat_of_mem (h : v.name ∈ vs.map (·.name)) :
    mapping (vs ++ [v]) = (vs.map (·.name)).eraseDups.filterMap (last? (vs ++ [v])) := by
  have hnone : List.removeAll [v.name] (vs.map (·.name)) = [] := by
    simpa [List.removeAll] using h
  rw [mapping, List.map_append, List.map_singleton, List.eraseDups_append, hnone, List.eraseDups_nil,
    List.append_nil]

theorem mapping_concat_of_notMem (h : v.name ∉ vs.map (·.name)) :
    mapping (vs ++ [v]) = mapping vs ++ [v] := by
  have hone : List.removeAll [v.name] (vs.map (·.name)) = [v.name] := by
    simpa [List.removeAll] using h
  have hsame : (vs.map (·.name)).eraseDups.filterMap (last? (vs ++ [v])) = mapping vs := by
    refine List.filterMap_congr fun name hname => ?_
    have hne : v.name ≠ name := fun heq => h (heq ▸ List.mem_eraseDups.1 hname)
    rw [last?_concat, if_neg (by simpa using hne)]
  rw [mapping, List.map_append, List.map_singleton, List.eraseDups_append, hone, List.filterMap_append,
    hsame, show [v.name].eraseDups = [v.name] from rfl, List.filterMap_cons, last?_concat,
    beq_self_eq_true, if_pos rfl, List.filterMap_nil]

/-- Setting a variable keeps the mapping one of all variables so far. -/
theorem setVariable_mapping (vs : List Variable) (v : Variable) :
    setVariable (mapping vs) v = mapping (vs ++ [v]) := by
  have hany : (mapping vs).any (·.name == v.name) = true ↔ v.name ∈ vs.map (·.name) := by
    rw [← isSome_last?, List.any_eq_true]
    constructor
    · rintro ⟨w, hw, hname⟩
      rw [← beq_iff_eq.1 hname, mem_mapping.1 hw]
      rfl
    · intro h
      obtain ⟨w, hw⟩ := Option.isSome_iff_exists.1 h
      have hname := name_of_last? hw
      exact ⟨w, mem_mapping.2 (hname ▸ hw), beq_iff_eq.2 hname⟩
  unfold setVariable
  by_cases hv : v.name ∈ vs.map (·.name)
  · rw [if_pos (hany.2 hv), mapping_concat_of_mem hv, mapping, List.map_filterMap]
    refine List.filterMap_congr fun name hname => ?_
    obtain ⟨w, hw⟩ := Option.isSome_iff_exists.1 (isSome_last?.2 (List.mem_eraseDups.1 hname))
    rw [last?_concat, hw, Option.map_some, name_of_last? hw, BEq.comm]
    split <;> rfl
  · rw [if_neg (mt hany.1 hv), mapping_concat_of_notMem hv]

theorem foldl_setVariable (vs : List Variable) : vs.foldl setVariable [] = mapping vs := by
  induction vs using List.reverseRecOn with
  | nil => rfl
  | append_singleton vs v ih =>
    rw [List.foldl_append, ih, List.foldl_cons, List.foldl_nil, setVariable_mapping]

end Variable

/-! ## Settings among variables -/

theorem keyOf?_eq_some {lead name key : String} : keyOf? lead name = some key ↔
    ∃ rest, name.toList = lead.toList ++ rest ∧ key = Text.lower (String.ofList rest) := by
  unfold keyOf?
  dsimp only
  split
  · rename_i h
    obtain ⟨rest, hrest⟩ := List.isPrefixOf_iff_prefix.1 h
    rw [← hrest, List.drop_left]
    simp [eq_comm]
  · rename_i h
    simp only [reduceCtorEq, false_iff, not_exists, not_and]
    intro rest hrest
    exact absurd (List.isPrefixOf_iff_prefix.2 ⟨rest, hrest.symm⟩) h

/-- The setting that a variable writes. -/
def setting? (lead : String) (v : Variable) : Option (Datum × Datum) := do
  return (.str (← keyOf? lead v.name), .str (← v.value))

theorem setting?_eq_some {lead : String} {v : Variable} {e : Datum × Datum} :
    setting? lead v = some e ↔ ∃ key value, v.Writes lead key value ∧ e = (.str key, .str value) := by
  simp only [setting?, Option.pure_def, Option.bind_eq_bind, Option.bind_eq_some_iff, keyOf?_eq_some,
    Option.some.injEq]
  constructor
  · rintro ⟨key, ⟨rest, hname, hkey⟩, value, hvalue, rfl⟩
    exact ⟨key, value, ⟨rest, hname, hkey, hvalue⟩, rfl⟩
  · rintro ⟨key, value, ⟨rest, hname, hkey, hvalue⟩, rfl⟩
    exact ⟨key, ⟨rest, hname, hkey⟩, value, hvalue, rfl⟩

theorem ofVariables_eq (lead : String) (vs : List Variable) :
    ofVariables lead vs = (Variable.mapping vs).filterMap (setting? lead) := by
  rw [ofVariables, Variable.foldl_setVariable]
  rfl

/-- The last setting for a key among variables is what the last variable that writes the key holds. -/
theorem lookup_ofVariables_iff {lead : String} {vs : List Variable} {k d : Datum} :
    Datum.lookup (ofVariables lead vs).reverse k = some d ↔
      ∃ key value, k = .str key ∧ d = .str value ∧ Variable.LastWrites lead vs key value := by
  rw [ofVariables_eq, Datum.lookup_reverse_iff]
  constructor
  · rintro ⟨before, e, after, hentries, hk, rfl, hafter⟩
    obtain ⟨us, ws, hvs, rfl, hws⟩ := List.filterMap_eq_append_iff.1 hentries
    obtain ⟨us', v, rest, rfl, -, hv, rfl⟩ := List.filterMap_eq_cons_iff.1 hws
    obtain ⟨key, value, hwrites, rfl⟩ := setting?_eq_some.1 hv
    refine ⟨key, value, (Datum.sameKey_str key k).1 hk, rfl, us ++ us', v, rest, ?_, hwrites, ?_⟩
    · rw [hvs, List.append_assoc]
    · intro u hu value' hu'
      have hmem : (.str key, .str value') ∈ rest.filterMap (setting? lead) :=
        List.mem_filterMap.2 ⟨u, hu, setting?_eq_some.2 ⟨key, value', hu', rfl⟩⟩
      exact Bool.false_ne_true (hafter _ hmem ▸ hk)
  · rintro ⟨key, value, rfl, rfl, before, v, after, hvs, hwrites, hafter⟩
    have hv := setting?_eq_some.2 ⟨key, value, hwrites, rfl⟩
    refine ⟨before.filterMap (setting? lead), (.str key, .str value), after.filterMap (setting? lead),
      ?_, (Datum.sameKey_str key _).2 rfl, rfl, fun e he => ?_⟩
    · rw [hvs, List.filterMap_append, List.filterMap_cons, hv]
    · obtain ⟨u, hu, hentry⟩ := List.mem_filterMap.1 he
      obtain ⟨key', value', hu', rfl⟩ := setting?_eq_some.1 hentry
      rw [Bool.eq_false_iff]
      intro hsame
      cases (Datum.sameKey_str key' _).1 hsame
      exact hafter u hu value' hu'

end Settings

end Stencil
