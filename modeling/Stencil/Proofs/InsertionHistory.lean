import Mathlib.Data.List.Induction
import Stencil.Proofs.Insertion

/-!
# The order of a set and its history

A set is filled and emptied one member at a time. What it holds in the end, and in which order, can be
told from these events alone: its members are the values that were inserted and not taken away since, and
they stand in the order of the earliest of those insertions.
-/

namespace Stencil.OrderedSet

/-- What happens to a set. -/
inductive Event (α : Type) where
  | inserted (a : α)
  | discarded (a : α)
  deriving DecidableEq, Repr

section

variable {α : Type}

/-- The earliest insertion of a value since it was last taken away is the event at an index. -/
structure Stands (events : List (Event α)) (a : α) (i : Nat) : Prop where
  inserted : events[i]? = some (.inserted a)
  /-- The value has not been taken away since. -/
  kept : ∀ d : Nat, events[d]? = some (.discarded a) → d < i
  /-- Whenever it was inserted before, it was taken away in between. -/
  earliest : ∀ k < i, events[k]? = some (.inserted a) →
    ∃ d, k < d ∧ d < i ∧ events[d]? = some (.discarded a)

/-- Values are the members that events leave in a set, in the order of their insertions. -/
structure InOrderOf (members : List α) (events : List (Event α)) : Prop where
  distinct : members.Nodup
  mem_iff : ∀ a, a ∈ members ↔ ∃ i, Stands events a i
  ordered : members.Pairwise fun a b => ∀ i k, Stands events a i → Stands events b k → i < k

variable {events : List (Event α)} {a b : α} {i k : Nat}

theorem Stands.lt_length (h : Stands events a i) : i < events.length :=
  (List.getElem?_eq_some_iff.1 h.inserted).1

/-- A value that was inserted and not taken away afterwards stands in the set. -/
theorem exists_stands (hk : events[k]? = some (.inserted a))
    (hkept : ∀ d : Nat, events[d]? = some (.discarded a) → d < k) : ∃ i, Stands events a i := by
  induction k using Nat.strongRecOn with
  | ind k ih =>
    by_cases h : ∀ j < k, events[j]? = some (.inserted a) →
        ∃ d, j < d ∧ d < k ∧ events[d]? = some (.discarded a)
    · exact ⟨k, hk, hkept, h⟩
    · -- An earlier insertion after which nothing was taken away either.
      push Not at h
      obtain ⟨j, hjk, hj, hnone⟩ := h
      refine ih j hjk hj fun d hd => ?_
      have hdk := hkept d hd
      have hne : d ≠ j := by
        rintro rfl
        rw [hj] at hd
        cases hd
      have hle : ¬ j < d := fun hlt => hnone d hlt hdk hd
      omega

/-! ## One event more -/

theorem getElem?_concat {e x : Event α} (h : (events ++ [e])[i]? = some x) :
    (i < events.length ∧ events[i]? = some x) ∨ (i = events.length ∧ x = e) := by
  rcases Nat.lt_trichotomy i events.length with hlt | rfl | hgt
  · rw [List.getElem?_append_left hlt] at h
    exact .inl ⟨hlt, h⟩
  · rw [List.getElem?_concat_length] at h
    exact .inr ⟨rfl, (Option.some.inj h).symm⟩
  · rw [List.getElem?_eq_none (by simp; omega)] at h
    cases h

theorem getElem?_append_of_some {e x : Event α} (h : events[i]? = some x) :
    (events ++ [e])[i]? = some x := by
  rwa [List.getElem?_append_left (List.getElem?_eq_some_iff.1 h).1]

/-- What stands goes on to stand when something else is taken away. -/
theorem Stands.concat {e : Event α} (h : Stands events a i) (he : e ≠ .discarded a) :
    Stands (events ++ [e]) a i where
  inserted := getElem?_append_of_some h.inserted
  kept d hd := by
    rcases getElem?_concat hd with ⟨-, hd⟩ | ⟨-, rfl⟩
    · exact h.kept d hd
    · exact absurd rfl he
  earliest k hk hin := by
    have hlt := h.lt_length
    rcases getElem?_concat hin with ⟨-, hin⟩ | ⟨rfl, -⟩
    · obtain ⟨d, hkd, hdi, hd⟩ := h.earliest k hk hin
      exact ⟨d, hkd, hdi, getElem?_append_of_some hd⟩
    · omega

/-- What stood at an index stood there before a later event. -/
theorem Stands.of_concat {e : Event α} (h : Stands (events ++ [e]) a i) (hi : i < events.length) :
    Stands events a i where
  inserted := by rw [← List.getElem?_append_left hi, h.inserted]
  kept d hd := h.kept d (getElem?_append_of_some hd)
  earliest k hk hin := by
    obtain ⟨d, hkd, hdi, hd⟩ := h.earliest k hk (getElem?_append_of_some hin)
    rw [List.getElem?_append_left (by omega)] at hd
    exact ⟨d, hkd, hdi, hd⟩

theorem stands_discarded_iff :
    Stands (events ++ [.discarded b]) a i ↔ a ≠ b ∧ Stands events a i := by
  constructor
  · intro h
    have hin := h.inserted
    rcases getElem?_concat hin with ⟨hlt, -⟩ | ⟨-, hx⟩
    · refine ⟨?_, h.of_concat hlt⟩
      rintro rfl
      have hd := h.kept events.length List.getElem?_concat_length
      omega
    · cases hx
  · rintro ⟨hne, h⟩
    exact h.concat fun he => hne (Event.discarded.inj he).symm

/-- An insertion counts only for a value that does not stand in the set. -/
theorem stands_inserted_iff : Stands (events ++ [.inserted b]) a i ↔
    Stands events a i ∨ (a = b ∧ i = events.length ∧ ∀ k, ¬ Stands events b k) := by
  constructor
  · intro h
    rcases getElem?_concat h.inserted with ⟨hlt, -⟩ | ⟨rfl, hx⟩
    · exact .inl (h.of_concat hlt)
    · cases hx
      refine .inr ⟨rfl, rfl, fun k hk => ?_⟩
      obtain ⟨d, hkd, hdl, hd⟩ :=
        h.earliest k hk.lt_length (getElem?_append_of_some hk.inserted)
      rw [List.getElem?_append_left hdl] at hd
      have := hk.kept d hd
      omega
  · rintro (h | ⟨rfl, rfl, hnone⟩)
    · exact h.concat (by rintro ⟨⟩)
    · refine ⟨List.getElem?_concat_length, fun d hd => ?_, fun k hk hin => ?_⟩
      · rcases getElem?_concat hd with ⟨hlt, -⟩ | ⟨-, hx⟩
        · exact hlt
        · cases hx
      · rw [List.getElem?_append_left hk] at hin
        by_contra hno
        push Not at hno
        have hkept (d : Nat) (hd : events[d]? = some (.discarded a)) : d < k := by
          have hdl := (List.getElem?_eq_some_iff.1 hd).1
          have hne : d ≠ k := by
            rintro rfl
            rw [hin] at hd
            cases hd
          have hle : ¬ k < d := fun hlt => hno d hlt hdl (getElem?_append_of_some hd)
          omega
        obtain ⟨i, hi⟩ := exists_stands hin hkept
        exact hnone i hi

end

/-! ## A whole history -/

section

variable {α : Type} [BEq α]

/-- A set after an event. -/
def occur (s : OrderedSet α) : Event α → OrderedSet α
  | .inserted a => s.insert a
  | .discarded a => s.erase a

/-- The set that events lead to. -/
def replay (events : List (Event α)) : OrderedSet α := events.foldl occur empty

@[simp] theorem replay_nil : replay ([] : List (Event α)) = empty := rfl

theorem replay_concat (events : List (Event α)) (e : Event α) :
    replay (events ++ [e]) = (replay events).occur e := by
  simp [replay]

/-- Values that are inserted one after another. -/
theorem replay_append_inserted (events : List (Event α)) (as : List α) :
    replay (events ++ as.map .inserted) = (replay events).insertMany as := by
  unfold replay insertMany
  rw [List.foldl_append, List.foldl_map]
  rfl

theorem replay_inserted (as : List α) : replay (as.map .inserted) = ofList as :=
  replay_append_inserted [] as

end

variable {α : Type} [BEq α] [LawfulBEq α]

theorem InOrderOf.insert {s : OrderedSet α} {events : List (Event α)} (h : InOrderOf s.toList events)
    (a : α) : InOrderOf (s.insert a).toList (events ++ [.inserted a]) := by
  by_cases ha : a ∈ s.toList
  · -- The value stands already, so the insertion says nothing about any value.
    obtain ⟨k, hk⟩ := (h.mem_iff a).1 ha
    have hsame (b : α) (i : Nat) : Stands (events ++ [.inserted a]) b i ↔ Stands events b i := by
      rw [stands_inserted_iff]
      exact or_iff_left fun hb => hb.2.2 k hk
    rw [insert_of_mem ha]
    refine ⟨h.distinct, fun b => ?_, h.ordered.imp fun hb i k hi hk => ?_⟩
    · simp only [hsame]
      exact h.mem_iff b
    · exact hb i k ((hsame _ _).1 hi) ((hsame _ _).1 hk)
  · have hnone (k : Nat) : ¬ Stands events a k := fun hk => ha ((h.mem_iff a).2 ⟨k, hk⟩)
    have hlist : (s.insert a).toList = s.toList ++ [a] := by
      simp [OrderedSet.insert, contains, ha]
    have hold {b : α} (hb : b ∈ s.toList) (i : Nat) :
        Stands (events ++ [.inserted a]) b i ↔ Stands events b i := by
      rw [stands_inserted_iff]
      exact or_iff_left fun h' => ha (h'.1 ▸ hb)
    have hnew {i : Nat} (hi : Stands (events ++ [.inserted a]) a i) : i = events.length := by
      rcases stands_inserted_iff.1 hi with hi | hi
      · exact absurd hi (hnone i)
      · exact hi.2.1
    rw [hlist]
    refine ⟨?_, fun b => ?_, List.pairwise_append.2 ⟨?_, List.pairwise_singleton _ _, ?_⟩⟩
    · refine List.nodup_append.2 ⟨h.distinct, List.pairwise_singleton _ _, fun b hb c hc => ?_⟩
      rintro rfl
      exact ha (List.mem_singleton.1 hc ▸ hb)
    · rw [List.mem_append, List.mem_singleton, h.mem_iff b]
      simp only [stands_inserted_iff]
      constructor
      · rintro (⟨i, hi⟩ | rfl)
        · exact ⟨i, .inl hi⟩
        · exact ⟨_, .inr ⟨rfl, rfl, hnone⟩⟩
      · rintro ⟨i, hi | hi⟩
        · exact .inl ⟨i, hi⟩
        · exact .inr hi.1
    · refine h.ordered.imp_of_mem fun hb hc hbc i k hi hk => ?_
      exact hbc i k ((hold hb i).1 hi) ((hold hc k).1 hk)
    · intro b hb c hc i k hi hk
      obtain rfl := List.mem_singleton.1 hc
      have hlt := ((hold hb i).1 hi).lt_length
      rwa [hnew hk]

theorem InOrderOf.erase {s : OrderedSet α} {events : List (Event α)} (h : InOrderOf s.toList events)
    (a : α) : InOrderOf (s.erase a).toList (events ++ [.discarded a]) := by
  refine ⟨h.distinct.filter _, fun b => ?_, ?_⟩
  · have hmem : b ∈ (s.erase a).toList ↔ b ∈ s.toList ∧ b ≠ a := by
      simp [OrderedSet.erase]
    rw [hmem, h.mem_iff b]
    simp only [stands_discarded_iff]
    constructor
    · rintro ⟨⟨i, hi⟩, hne⟩
      exact ⟨i, hne, hi⟩
    · rintro ⟨i, hne, hi⟩
      exact ⟨⟨i, hi⟩, hne⟩
  · refine (h.ordered.filter _).imp fun hb i k hi hk => ?_
    exact hb i k (stands_discarded_iff.1 hi).2 (stands_discarded_iff.1 hk).2

/-- The members of a set stand in the order in which they were inserted. -/
theorem inOrderOf_replay (events : List (Event α)) : InOrderOf (replay events).toList events := by
  induction events using List.reverseRecOn with
  | nil =>
    refine ⟨List.nodup_nil, fun a => ?_, List.Pairwise.nil⟩
    constructor
    · intro h
      cases h
    · rintro ⟨i, hi⟩
      exact absurd hi.lt_length (Nat.not_lt_zero i)
  | append_singleton events e ih =>
    rw [replay_concat]
    cases e with
    | inserted a => exact ih.insert a
    | discarded a => exact ih.erase a

end Stencil.OrderedSet
