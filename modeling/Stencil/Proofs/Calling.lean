import Stencil.Proofs.Lookup

/-!
# Calling methods

What a call of a method comes to: its arguments fit its parameters one by one, and the method runs on the
object that it was read from.
-/

namespace Stencil

open World Evaluation

/-! ## Computations that only read -/

section

variable {w u : World}

theorem objectTypeName_eq_ok {o : Object} {s : String} (h : objectTypeName o w = .ok s u) :
    w = u := by
  cases o with
  | «instance» cls attrs =>
    obtain ⟨_, _, hc, h⟩ := bind_eq_ok.1 h
    obtain ⟨_, rfl⟩ := classAt_eq_ok.1 hc
    exact (pure_eq_ok.1 h).2
  | exception e =>
    simp only [objectTypeName] at h
    generalize e.type = t at h
    cases t <;> exact (pure_eq_ok.1 h).2
  | _ => exact (pure_eq_ok.1 h).2

theorem typeOf_ref_eq_ok {r : Ref} {t : TypeRef} (h : typeOf (.ref r) w = .ok t u) : w = u := by
  simp only [typeOf] at h
  rw [bind_of_ok (load_ok w r)] at h
  generalize w.at' r = o at h
  cases o with
  | exception _ => exact (pure_eq_ok.1 h).2
  | «instance» _ _ => exact (pure_eq_ok.1 h).2
  | assets _ _ => exact (pure_eq_ok.1 h).2
  | _ =>
    obtain ⟨_, _, hn, h⟩ := bind_eq_ok.1 h
    obtain rfl := objectTypeName_eq_ok hn
    exact (pure_eq_ok.1 h).2

theorem nameOfType_eq_ok {t : TypeRef} {s : String} (h : nameOfType t w = .ok s u) : w = u := by
  cases t with
  | context id =>
    obtain ⟨_, _, hc, h⟩ := bind_eq_ok.1 h
    obtain ⟨_, rfl⟩ := classAt_eq_ok.1 hc
    exact (pure_eq_ok.1 h).2
  | _ => exact (pure_eq_ok.1 h).2

theorem typeName_ref_eq_ok {r : Ref} {s : String} (h : typeName (.ref r) w = .ok s u) : w = u := by
  obtain ⟨_, _, ht, h⟩ := bind_eq_ok.1 h
  obtain rfl := typeOf_ref_eq_ok ht
  exact nameOfType_eq_ok h

end

/-! ## Arguments -/

/-- Arguments by position that are as many as the parameters fill them in order. -/
theorem bind_positional {s : Signature} {items : List Value}
    (hlen : items.length = s.positional.length) (hnamed : s.named = []) :
    s.bind items [] = .ok { values := s.positional.zip items } := by
  have hmem (p : String) (hp : p ∈ s.positional) :
      (s.positional.zip items).any (fun x => x.1 == p) = true := by
    rw [← List.map_fst_zip (Nat.le_of_eq hlen.symm), List.mem_map] at hp
    obtain ⟨x, hx, rfl⟩ := hp
    exact List.any_eq_true.2 ⟨x, hx, by simp⟩
  have hmissing : (s.positional.take s.required).filter
      (fun p => !(s.positional.zip items).any (fun x => x.1 == p)) = [] := by
    rw [List.filter_eq_nil_iff]
    intro p hp
    simp only [hmem p (List.mem_of_mem_take hp)]
    simp
  have hrest : items.drop s.positional.length = [] := by simp [hlen]
  simp only [Signature.bind, List.foldlM_nil, hnamed, pure_bind, hrest, List.filter_nil]
  simp only [hmissing]
  rfl

theorem matched_eq {s : Signature} {items : List Value} (hlen : items.length = s.positional.length)
    (hnamed : s.named = []) (w : World) :
    Template.matched s { items } w = .ok { values := s.positional.zip items } w := by
  unfold Template.matched
  rw [bind_positional hlen hnamed]
  rfl

theorem matched_positional {s : Signature} {items : List Value} {w u : World} {b : Bound Value}
    (hlen : items.length = s.positional.length) (hnamed : s.named = [])
    (h : Template.matched s { items } w = .ok b u) :
    b = { values := s.positional.zip items } ∧ w = u := by
  rw [matched_eq hlen hnamed] at h
  cases h
  exact ⟨rfl, rfl⟩

/-! ## Attributes and methods of objects -/

section

variable {m : Interpreter} {n : Nat} {w u : World} {r : Ref} {o : Object} {name : String} {x : Value}

theorem readAttribute_data (hr : w.at' r = o) (ho : ∀ cls attrs, o ≠ .instance cls attrs)
    (hname : IsPlainName name) (hx : objectAttribute? o name w = .ok (some x) w) :
    readAttribute m (.ref r) name w = .ok x w := by
  rw [readAttribute_object hr ho hname, bind_of_ok hx]
  rfl

theorem readAttribute_method (hr : w.at' r = o) (ho : ∀ cls attrs, o ≠ .instance cls attrs)
    (hname : IsPlainName name) (hx : objectAttribute? o name w = .ok none w)
    (hm : (objectMethodNames o).contains name = true) :
    readAttribute m (.ref r) name w = .ok (.method (.ref r) name) w := by
  rw [readAttribute_object hr ho hname, bind_of_ok hx]
  dsimp only
  rw [if_pos hm]
  rfl

theorem apply_method {args : List Value} :
    (interpreter (n + 1)).apply (.method (.ref r) name) args w =
      callMethod (interpreter n) (.ref r) name { items := args } w := rfl

theorem apply_zero {f : Value} {args : List Value} :
    ¬ (interpreter 0).apply f args w = .ok x u := by
  exact throw_eq_ok

end

end Stencil
