import Stencil.Datum
import Stencil.Proofs.DoubleValues

/-!
# Keys of tables

Two values are the same key of a table when what they are known by is the same: numbers of any type by
their value, texts by their characters, tuples by their items. So being the same key is symmetric and
transitive, and a table in which every key has one entry keeps this while entries are set.
-/

namespace Stencil.Datum

/-- What a key is known by. -/
inductive Key where
  | none
  | number (v : Number.Extended)
  | text (s : String)
  | tuple (items : List Key)

mutual

/-- What a value is known by as a key; nothing when no key is the same, not even the value itself. -/
def key? : Datum → Option Key
  | none => some .none
  | bool b => some (.number (.finite (if b then 1 else 0)))
  | int i => some (.number (.finite i))
  | float x => (Number.extended? x).map .number
  | str s => some (.text s)
  | tuple items => (keys? items).map .tuple
  | list _ => Option.none
  | dict _ => Option.none

/-- What values are known by one after another. -/
def keys? : List Datum → Option (List Key)
  | [] => some []
  | d :: ds => (key? d).bind fun k => (keys? ds).map (k :: ·)

end

variable {a b c : Datum}

/-- A whole number is the same key as a finite double that stands for it. -/
theorem finite_compareInt_iff (i : Int) (x : Float) :
    (!x.isNaN && !x.isInf && Number.compareInt i x == .eq) = true ↔
      Number.extended? x = some (.finite i) := by
  have hvalue : (Number.compareInt i x == .eq) = true ↔ Number.value x = i := by
    rw [beq_iff_eq, Number.compareInt_eq_iff, eq_comm]
  rw [Number.extended?]
  cases x.isNaN <;> cases x.isInf <;> simp [hvalue]

/-- Truth values are compared with doubles as the doubles one and zero. -/
theorem truth_beq_iff (b : Bool) (x : Float) : ((if b then 1.0 else 0.0) == x) = true ↔
    Number.extended? x = some (.finite (if b then 1 else 0)) := by
  have hone : Number.extended? 1.0 = some (.finite (1 : ℤ)) :=
    (finite_compareInt_iff 1 1.0).1 (by decide +kernel)
  have hzero : Number.extended? 0.0 = some (.finite (0 : ℤ)) :=
    (finite_compareInt_iff 0 0.0).1 (by decide +kernel)
  rw [Number.beq_iff]
  cases b <;> simp [hone, hzero]

theorem keys?_cons_eq_some {as : List Datum} {ks : List Key} :
    keys? (a :: as) = some ks ↔ ∃ k rest, a.key? = some k ∧ keys? as = some rest ∧ k :: rest = ks := by
  rw [keys?, Option.bind_eq_some_iff]
  simp only [Option.map_eq_some_iff, exists_and_left]

theorem keys?_cons_ne {as : List Datum} : keys? (a :: as) ≠ some [] := by
  intro h
  obtain ⟨k, rest, -, -, hks⟩ := keys?_cons_eq_some.1 h
  cases hks

theorem sameKeys_iff {as : List Datum}
    (h : ∀ a ∈ as, ∀ b, sameKey a b = true ↔ ∃ k, a.key? = some k ∧ b.key? = some k) (bs : List Datum) :
    sameKey.sameKeys as bs = true ↔ ∃ ks, keys? as = some ks ∧ keys? bs = some ks := by
  induction as generalizing bs with
  | nil => cases bs <;> simp [sameKey.sameKeys, keys?_cons_ne, keys?.eq_1]
  | cons a as ih =>
    cases bs with
    | nil => simp [sameKey.sameKeys, keys?_cons_ne, keys?.eq_1]
    | cons b bs =>
      have hrest := ih (fun a' ha' => h a' (List.mem_cons_of_mem _ ha')) bs
      rw [sameKey.sameKeys, Bool.and_eq_true, h a List.mem_cons_self, hrest]
      simp only [keys?_cons_eq_some]
      constructor
      · rintro ⟨⟨k, ha, hb⟩, ks, has, hbs⟩
        exact ⟨k :: ks, ⟨k, ks, ha, has, rfl⟩, k, ks, hb, hbs, rfl⟩
      · rintro ⟨_, ⟨k, ks, ha, has, rfl⟩, k', ks', hb, hbs, heq⟩
        injection heq with hk hks
        exact ⟨⟨k, ha, hk ▸ hb⟩, ks, has, hks ▸ hbs⟩

theorem float_truth_beq_iff (x : Float) (b : Bool) : (x == if b then 1.0 else 0.0) = true ↔
    Number.extended? x = some (.finite (if b then 1 else 0)) := by
  rw [← truth_beq_iff, Number.beq_iff, Number.beq_iff]
  simp only [and_comm]

/-- Values are the same key when they are known by the same. -/
theorem sameKey_iff (a b : Datum) : sameKey a b = true ↔ ∃ k, a.key? = some k ∧ b.key? = some k := by
  induction hn : sizeOf a using Nat.strongRecOn generalizing a b with
  | ind n ih =>
    cases a with
    | tuple as =>
      have hitems : ∀ a ∈ as, ∀ b, sameKey a b = true ↔ ∃ k, a.key? = some k ∧ b.key? = some k := by
        intro a ha b
        have hlt := List.sizeOf_lt_of_mem ha
        simp only [tuple.sizeOf_spec] at hn
        exact ih (sizeOf a) (by omega) a b rfl
      cases b with
      | tuple bs =>
        rw [sameKey, sameKeys_iff hitems]
        simp [key?]
      | _ => simp [sameKey, key?]
    | bool a =>
      cases b with
      | bool b => cases a <;> cases b <;> simp [sameKey, key?]
      | int i =>
        have h : (if a then 1 else 0 : Int) = i ↔ ((i : ℤ) : ℚ) = if a then 1 else 0 := by
          rw [eq_comm]
          cases a <;> simp
        simp [sameKey, key?, h]
      | float x =>
        rw [sameKey, truth_beq_iff]
        simp [key?]
      | _ => simp [sameKey, key?]
    | int i =>
      cases b with
      | bool b =>
        have h : i = (if b then 1 else 0 : Int) ↔ (if b then 1 else 0 : ℚ) = i := by
          rw [eq_comm (b := (i : ℚ))]
          cases b <;> simp
        simp [sameKey, key?, h]
      | int j =>
        simp only [sameKey, key?, beq_iff_eq, Option.some.injEq, exists_eq_left', Key.number.injEq,
          Number.Extended.finite.injEq, Int.cast_inj]
        exact eq_comm
      | float x =>
        rw [sameKey, finite_compareInt_iff]
        simp [key?]
      | _ => simp [sameKey, key?]
    | float x =>
      cases b with
      | bool b =>
        rw [sameKey, float_truth_beq_iff]
        simp [key?]
      | int i =>
        rw [sameKey, finite_compareInt_iff]
        simp [key?]
      | float y => simp [sameKey, key?, Number.beq_iff]
      | _ => simp [sameKey, key?]
    | str s =>
      cases b with
      | str t =>
        simp only [sameKey, key?, beq_iff_eq, Option.some.injEq, exists_eq_left', Key.text.injEq]
        exact eq_comm
      | _ => simp [sameKey, key?]
    | _ => cases b <;> simp [sameKey, key?]

theorem sameKey_comm (a b : Datum) : sameKey a b = sameKey b a := by
  rw [Bool.eq_iff_iff, sameKey_iff, sameKey_iff]
  simp only [and_comm]

/-- Values that are the same key are the same as the same others. -/
theorem sameKey_congr (h : sameKey a b = true) (c : Datum) : sameKey a c = sameKey b c := by
  obtain ⟨k, ha, hb⟩ := (sameKey_iff a b).1 h
  rw [Bool.eq_iff_iff, sameKey_iff, sameKey_iff, ha, hb]

theorem sameKey_str (s : String) (a : Datum) : sameKey (.str s) a = true ↔ a = .str s := by
  cases a with
  | str r =>
    rw [sameKey, beq_iff_eq, str.injEq]
    exact eq_comm
  | _ => simp [sameKey]

/-! ## Entries of tables -/

section

variable {t u : List (Datum × Datum)} {k k' v v' : Datum}

theorem lookup_cons (e : Datum × Datum) (t : List (Datum × Datum)) (k : Datum) :
    lookup (e :: t) k = if sameKey e.1 k then some e.2 else lookup t k := by
  unfold lookup
  rw [List.find?_cons]
  cases sameKey e.1 k <;> rfl

theorem lookup_append (t u : List (Datum × Datum)) (k : Datum) :
    lookup (t ++ u) k = (lookup t k).or (lookup u k) := by
  unfold lookup
  rw [List.find?_append]
  cases t.find? fun e => sameKey e.1 k <;> rfl

/-- A key that is set has the new value, and every other key the value that it had. -/
theorem lookup_insert (t : List (Datum × Datum)) (k v k' : Datum) :
    lookup (insert t k v) k' = if sameKey k k' then some v else lookup t k' := by
  induction t with
  | nil => rw [insert, lookup_cons]
  | cons e t ih =>
    obtain ⟨k₀, v₀⟩ := e
    rw [insert]
    cases h : sameKey k₀ k with
    | true =>
      rw [if_pos rfl, lookup_cons, lookup_cons]
      dsimp only
      rw [sameKey_congr h k']
      cases sameKey k k' <;> rfl
    | false =>
      rw [if_neg (by simp), lookup_cons, lookup_cons, ih]
      dsimp only
      by_cases h₀ : sameKey k₀ k' = true
      · -- The entry in front is for the other key, so that is not the one that is set.
        have hne : sameKey k k' = false := by
          rw [sameKey_comm, ← sameKey_congr h₀ k, h]
        simp [h₀, hne]
      · simp [h₀]

/-- Entries that are set one after another: the last one for a key counts, and where there is none the
table keeps what it has. -/
theorem lookup_foldl_insert (entries t : List (Datum × Datum)) (k : Datum) :
    lookup (entries.foldl (fun t e => insert t e.1 e.2) t) k =
      (lookup entries.reverse k).or (lookup t k) := by
  induction entries generalizing t with
  | nil => rfl
  | cons e entries ih =>
    rw [List.foldl_cons, ih, lookup_insert, List.reverse_cons, lookup_append, lookup_cons]
    cases lookup entries.reverse k <;> cases sameKey e.1 k <;> rfl

/-- No two entries of a table have the same key. -/
def DistinctKeys (t : List (Datum × Datum)) : Prop := t.Pairwise fun d e => sameKey d.1 e.1 = false

/-- The keys of a table stay, and no other one than that of a new entry is added. -/
theorem mem_insert {e : Datum × Datum} (h : e ∈ insert t k v) : e.1 = k ∨ ∃ d ∈ t, d.1 = e.1 := by
  induction t with
  | nil =>
    obtain rfl := List.mem_singleton.1 h
    exact .inl rfl
  | cons d t ih =>
    obtain ⟨k₀, v₀⟩ := d
    rw [insert] at h
    split at h
    · rcases List.mem_cons.1 h with rfl | h
      · exact .inr ⟨_, List.mem_cons_self, rfl⟩
      · exact .inr ⟨e, List.mem_cons_of_mem _ h, rfl⟩
    · rcases List.mem_cons.1 h with rfl | h
      · exact .inr ⟨_, List.mem_cons_self, rfl⟩
      · obtain hk | ⟨d, hd, he⟩ := ih h
        · exact .inl hk
        · exact .inr ⟨d, List.mem_cons_of_mem _ hd, he⟩

theorem DistinctKeys.insert (h : DistinctKeys t) (k v : Datum) : DistinctKeys (insert t k v) := by
  induction t with
  | nil => exact List.pairwise_singleton _ _
  | cons d t ih =>
    obtain ⟨k₀, v₀⟩ := d
    obtain ⟨hfirst, hrest⟩ := List.pairwise_cons.1 h
    rw [Datum.insert]
    split
    · exact List.pairwise_cons.2 ⟨hfirst, hrest⟩
    · rename_i hne
      refine List.pairwise_cons.2 ⟨fun e he => ?_, ih hrest⟩
      obtain hk | ⟨d, hd, hde⟩ := mem_insert he
      · rw [hk]
        simpa using hne
      · rw [← hde]
        exact hfirst d hd

end

end Stencil.Datum
