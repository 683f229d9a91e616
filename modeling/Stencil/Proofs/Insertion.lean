import Stencil.OrderedSet

/-!
# Inserting into ordered sets

The set of the members of a list holds each of them where it first occurs. Members that are inserted
again change nothing, so a list may be inserted with its repetitions or without them.
-/

namespace Stencil.OrderedSet

section

variable {α : Type} [BEq α]

@[simp] theorem insertMany_nil (s : OrderedSet α) : s.insertMany [] = s := rfl

@[simp] theorem insertMany_cons (s : OrderedSet α) (a : α) (as : List α) :
    s.insertMany (a :: as) = (s.insert a).insertMany as := rfl

theorem insertMany_append (s : OrderedSet α) (as bs : List α) :
    s.insertMany (as ++ bs) = (s.insertMany as).insertMany bs := by
  simp [insertMany]

theorem ofList_append (as bs : List α) : ofList (as ++ bs) = (ofList as).insertMany bs :=
  insertMany_append _ _ _

end

variable {α : Type} [BEq α] [LawfulBEq α]

theorem mem_insert {s : OrderedSet α} {a b : α} :
    b ∈ (s.insert a).toList ↔ b ∈ s.toList ∨ b = a := by
  unfold insert contains
  split
  · rename_i h
    constructor
    · exact Or.inl
    · rintro (h' | rfl)
      · exact h'
      · simpa using h
  · simp

theorem mem_insertMany {s : OrderedSet α} {as : List α} {b : α} :
    b ∈ (s.insertMany as).toList ↔ b ∈ s.toList ∨ b ∈ as := by
  induction as generalizing s with
  | nil => simp
  | cons a as ih => rw [insertMany_cons, ih, mem_insert, List.mem_cons, or_assoc]

theorem insert_of_mem {s : OrderedSet α} {a : α} (h : a ∈ s.toList) : s.insert a = s := by
  simp [insert, contains, h]

/-- Members that a set has already do not change it. -/
theorem insertMany_of_subset {s : OrderedSet α} {as : List α} (h : ∀ a ∈ as, a ∈ s.toList) :
    s.insertMany as = s := by
  induction as with
  | nil => rfl
  | cons a as ih =>
    rw [insertMany_cons, insert_of_mem (h a List.mem_cons_self)]
    exact ih fun b hb => h b (List.mem_cons_of_mem a hb)

/-- Values that are all new and different from each other are put behind the members of a set. -/
theorem insertMany_of_disjoint {s : OrderedSet α} {as : List α} (has : as.Nodup)
    (h : ∀ a ∈ as, a ∉ s.toList) : s.insertMany as = ⟨s.toList ++ as⟩ := by
  induction as generalizing s with
  | nil => simp
  | cons a as ih =>
    obtain ⟨ha, has⟩ := List.nodup_cons.1 has
    have hnew : s.insert a = ⟨s.toList ++ [a]⟩ := by
      simp [insert, contains, h a List.mem_cons_self]
    rw [insertMany_cons, hnew, ih has]
    · simp
    · intro b hb hmem
      rcases List.mem_append.1 hmem with hmem | hmem
      · exact h b (List.mem_cons_of_mem a hb) hmem
      · exact ha (List.mem_singleton.1 hmem ▸ hb)

theorem ofList_of_nodup {as : List α} (has : as.Nodup) : ofList as = ⟨as⟩ :=
  insertMany_of_disjoint has fun _ _ h => by cases h

/-- The members of a set are inserted like the list that the set was filled from. -/
theorem insertMany_insertMany (s t : OrderedSet α) (as : List α) :
    s.insertMany (t.insertMany as).toList = (s.insertMany t.toList).insertMany as := by
  induction as generalizing t with
  | nil => rfl
  | cons a as ih =>
    rw [insertMany_cons, ih, insertMany_cons]
    congr 1
    by_cases h : a ∈ t.toList
    · rw [insert_of_mem h, insert_of_mem (mem_insertMany.2 (.inr h))]
    · have hc : t.insert a = ⟨t.toList ++ [a]⟩ := by simp [insert, contains, h]
      rw [hc, insertMany_append]
      rfl

theorem insertMany_ofList (s : OrderedSet α) (as : List α) :
    s.insertMany (ofList as).toList = s.insertMany as := by
  rw [ofList, insertMany_insertMany]
  rfl

/-- A list with a part that occurs before it has the same members in the same order without it. -/
theorem ofList_append_of_subset {as bs : List α} (h : ∀ b ∈ bs, b ∈ as) :
    ofList (as ++ bs) = ofList as := by
  rw [ofList_append, insertMany_of_subset]
  intro b hb
  exact mem_insertMany.2 (.inr (h b hb))

theorem insertMany_eq_eraseDups (s : OrderedSet α) (as : List α) :
    (s.insertMany as).toList =
      s.toList ++ (as.filter fun a => !s.toList.contains a).eraseDups := by
  induction as generalizing s with
  | nil => simp
  | cons a as ih =>
    rw [insertMany_cons, ih]
    by_cases h : a ∈ s.toList
    · simp [insert_of_mem h, h]
    · have hc : s.insert a = ⟨s.toList ++ [a]⟩ := by simp [insert, contains, h]
      have hf : (a :: as).filter (fun b => !s.toList.contains b) =
          a :: as.filter fun b => !s.toList.contains b := by simp [h]
      rw [hc, hf, List.eraseDups_cons, List.filter_filter]
      simp only [List.append_assoc, List.singleton_append]
      congr 4
      funext b
      rw [List.contains_append, Bool.not_or, Bool.and_comm, List.contains_cons]
      simp

/-- The set of the members of a list keeps the first occurrence of each. -/
theorem toList_ofList (as : List α) : (ofList as).toList = as.eraseDups := by
  rw [ofList, insertMany_eq_eraseDups]
  have h : (as.filter fun _ => true) = as := List.filter_eq_self.2 fun _ _ => rfl
  simp [empty, h]

end Stencil.OrderedSet
