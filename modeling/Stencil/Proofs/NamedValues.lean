import Stencil.Evaluation.Names

/-!
# Named values

The attributes of an object, those of a class and the values of a namespace are lists of named values.
The lemmas here say what is found under a name after values have been set or erased.
-/

namespace Stencil

open World Evaluation

@[simp] theorem named?_nil (name : String) : named? [] name = none := rfl

theorem named?_cons (e : String × Value) (attrs : List (String × Value)) (name : String) :
    named? (e :: attrs) name = if e.1 = name then some e.2 else named? attrs name := by
  unfold named?
  by_cases h : e.1 = name <;> simp [h]

theorem named?_append (attrs more : List (String × Value)) (name : String) :
    named? (attrs ++ more) name = (named? attrs name).or (named? more name) := by
  induction attrs with
  | nil => rfl
  | cons e attrs ih =>
    rw [List.cons_append, named?_cons, named?_cons, ih]
    split <;> rfl

theorem named?_eq_none {attrs : List (String × Value)} {name : String} :
    named? attrs name = none ↔ ¬ attrs.any (·.1 == name) = true := by
  induction attrs with
  | nil => simp
  | cons e attrs ih =>
    rw [named?_cons, List.any_cons]
    by_cases h : e.1 = name <;> simp [h, ih]

theorem named?_replaced (attrs : List (String × Value)) (name other : String) (x : Value) :
    named? (attrs.map fun e => if e.1 == name then (name, x) else e) other =
      if other = name then (named? attrs name).map fun _ => x else named? attrs other := by
  induction attrs with
  | nil => simp
  | cons e attrs ih =>
    rw [List.map_cons, named?_cons, named?_cons, named?_cons, ih]
    by_cases he : e.1 = name <;> by_cases ho : other = name
    · simp [he, ho]
    · have : ¬ name = other := Ne.symm ho
      simp [he, ho, this]
    · simp [he, ho]
    · simp [he, ho]

theorem named?_setNamed (attrs : List (String × Value)) (name other : String) (x : Value) :
    named? (setNamed attrs name x) other = if other = name then some x else named? attrs other := by
  unfold setNamed
  split
  · rename_i h
    rw [named?_replaced]
    cases hn : named? attrs name with
    | none => exact absurd h (named?_eq_none.1 hn)
    | some y => rfl
  · rename_i h
    rw [named?_append, named?_cons, named?_nil]
    by_cases ho : other = name
    · subst ho
      simp [named?_eq_none.2 h]
    · simp [ho, Ne.symm ho]

theorem named?_eraseNamed (values : List (String × Value)) (name other : String) :
    named? (eraseNamed values name) other = if other = name then none else named? values other := by
  unfold eraseNamed
  induction values with
  | nil => simp
  | cons e values ih =>
    rw [named?_cons, List.filter_cons]
    by_cases he : e.1 = name
    · rw [if_neg (by simp [he]), ih, he]
      by_cases ho : other = name
      · rw [if_pos ho, if_pos ho]
      · rw [if_neg ho, if_neg ho, if_neg (Ne.symm ho)]
    · rw [if_pos (by simp [he]), named?_cons, ih]
      by_cases ho : other = name
      · rw [if_pos ho, if_pos ho, if_neg (ho ▸ he)]
      · rw [if_neg ho, if_neg ho]

theorem named?_eraseNamed_of_ne {values : List (String × Value)} {name other : String}
    (h : other ≠ name) : named? (eraseNamed values name) other = named? values other := by
  rw [named?_eraseNamed, if_neg h]

end Stencil
