import Stencil.Proofs.Bundling

/-!
# Sequences of references

References are handed over as a tuple, as a list or as a set. Going through such a value gives the
references in order, also while they are being added to the set that they are read from: nothing that is
added then is new, so the set stays as it is.
-/

namespace Stencil

open World Evaluation

namespace World

/-- A value whose items are references. -/
inductive Sequence (w : World) : Value → List String → Prop
  | tuple (refs : List String) : w.Sequence (.tuple (texts refs)) refs
  | list {l : Nat} {items : Array Value} {refs : List String} (hlt : l < w.objects.size)
      (hl : w.at' l = .list items) (hitems : items.toList = texts refs) : w.Sequence (.ref l) refs
  | set {s : Nat} {refs : List String} (hs : w.Holds s refs) : w.Sequence (.ref s) refs

/-- The references that an iterator still has, and the object that it reads them from. -/
inductive Remains (w : World) (it : Ref) : Option Ref → List String → Prop
  | values {rest : List String} (hit : w.at' it = .iterator (.values (texts rest) none)) :
      w.Remains it none rest
  | list {l i : Nat} {items : Array Value} {rest : List String}
      (hit : w.at' it = .iterator (.list l i)) (hl : w.at' l = .list items)
      (hrest : items.toList.drop i = texts rest) : w.Remains it (some l) rest
  | members {s i : Nat} {kind : AssetKind} {refs : List String}
      (hit : w.at' it = .iterator (.members s i refs.length))
      (hs : w.at' s = .assets kind ⟨texts refs⟩) : w.Remains it (some s) (refs.drop i)

variable {w u : World} {it : Ref} {base : Option Ref} {a : String} {rest refs : List String} {v : Value}

/-- What an iterator still has depends on itself and on what it reads from. -/
theorem Remains.congr (h : w.Remains it base rest) (hit : u.at' it = w.at' it)
    (hbase : ∀ b ∈ base, u.at' b = w.at' b) : u.Remains it base rest := by
  cases h with
  | values h => exact .values (hit.trans h)
  | list h hl hrest => exact .list (hit.trans h) ((hbase _ rfl).trans hl) hrest
  | members h hs => exact .members (hit.trans h) ((hbase _ rfl).trans hs)

theorem Remains.base_ne (h : w.Remains it base rest) : it ∉ base := by
  cases h with
  | values h => exact Option.not_mem_none it
  | list h hl _ =>
    intro hb
    obtain rfl := Option.mem_some.1 hb
    rw [hl] at h
    cases h
  | members h hs =>
    intro hb
    obtain rfl := Option.mem_some.1 hb
    rw [hs] at h
    cases h

/-- What is still to come from a set is in the set. -/
theorem Remains.mem {s : Ref} {kind : AssetKind} {dst : List String}
    (h : w.Remains it (some s) (a :: rest)) (hs : w.at' s = .assets kind ⟨texts dst⟩) : a ∈ dst := by
  generalize hl : a :: rest = left at h
  cases h with
  | list _ hl _ =>
    rw [hs] at hl
    cases hl
  | members _ hs' =>
    have hdst := Holds.unique ⟨kind, hs⟩ ⟨_, hs'⟩
    have hmem : a ∈ a :: rest := List.mem_cons_self
    rw [hl] at hmem
    rw [hdst]
    exact List.mem_of_mem_drop hmem

theorem Sequence.congr (h : w.Sequence v refs)
    (hv : ∀ s : Nat, v = .ref s → u.at' s = w.at' s) (hsize : w.objects.size ≤ u.objects.size) :
    u.Sequence v refs := by
  cases h with
  | tuple => exact .tuple refs
  | list hlt hl hitems => exact .list (Nat.lt_of_lt_of_le hlt hsize) ((hv _ rfl).trans hl) hitems
  | set hs => exact .set (hs.congr (hv _ rfl))

theorem Sequence.lt_size {s : Nat} (h : w.Sequence (.ref s) refs) :
    s < w.objects.size := by
  cases h with
  | list hlt _ _ => exact hlt
  | set hs => exact hs.lt_size

theorem Sequence.push (h : w.Sequence v refs) (o : Object) :
    (w.push o).Sequence v refs := by
  refine h.congr ?_ (by simp)
  rintro s rfl
  exact World.at'_push_of_lt h.lt_size

end World

/-! ## Going through a sequence -/

/-- A computation goes on from what its first part comes to, or stops with it. -/
theorem outcome_bind {α β : Type} {x : Action α} {f : α → Action β} {w : World} {b : β} {e : Stop}
    {fits overruns : Prop} (ends : α → World → Prop) {holds : World → Prop}
    (hx : (fits ∧ ∃ a u, x w = .ok a u ∧ ends a u) ∨ (overruns ∧ ∃ u, x w = .error e u))
    (hf : ∀ a u, ends a u → ∃ v, f a u = .ok b v ∧ holds v) :
    (fits ∧ ∃ v, (x >>= f) w = .ok b v ∧ holds v) ∨ (overruns ∧ ∃ v, (x >>= f) w = .error e v) := by
  rcases hx with ⟨hfits, a, u, hx, hends⟩ | ⟨hoverruns, u, hx⟩
  · obtain ⟨v, hv, hholds⟩ := hf a u hends
    exact .inl ⟨hfits, v, (bind_of_ok hx).trans hv, hholds⟩
  · exact .inr ⟨hoverruns, u, bind_of_error hx⟩

section

variable {m : Interpreter} {w u : World} {it : Nat} {base : Option Ref} {a : String}
  {rest refs : List String} {v : Value}

theorem advance_eq_go (hm : 0 < m.rounds) (it : Ref) :
    ∃ depth, advance m it = advance.go m (depth + 1) it := by
  obtain ⟨depth, hdepth⟩ := Nat.exists_eq_add_of_lt hm
  rw [Nat.zero_add] at hdepth
  exact ⟨depth, by rw [advance, hdepth]⟩

/-- An iterator gives what it has in order. -/
theorem advance_remains (h : w.Remains it base rest) (hm : 0 < m.rounds) :
    ∃ u, advance m it w = .ok (rest.head?.map .str) u ∧
      (rest ≠ [] → u.Remains it base rest.tail) ∧ w.ChangesOnly [it] u := by
  obtain ⟨depth, hgo⟩ := advance_eq_go hm it
  have hne := h.base_ne
  have keep {o : Iterator} {b : Ref} (hb : b ∈ base) : (w.put it (.iterator o)).at' b = w.at' b :=
    World.at'_put_of_ne fun h => hne (h ▸ hb)
  have next {o p : Iterator} (hit : w.at' it = .iterator o) :
      (w.put it (.iterator p)).at' it = .iterator p :=
    World.at'_put_self (World.lt_size_of_at' hit (by rintro ⟨⟩)) hit rfl
  rw [hgo, advance.go]
  cases h with
  | values hit =>
    rw [bind_of_ok (load_ok w it), hit]
    cases rest with
    | nil => exact ⟨w, rfl, fun h => absurd rfl h, .refl _ _⟩
    | cons a rest => exact ⟨_, rfl, fun _ => .values (next hit), .put (by simp) _ _⟩
  | @list l i items _ hit hl hrest =>
    have hget : items[i]? = rest.head?.map .str := by
      rw [← Array.getElem?_toList, ← List.head?_drop, hrest]
      cases rest <;> rfl
    rw [bind_of_ok (load_ok w it), hit]
    dsimp only
    rw [bind_of_ok (load_ok w l), hl]
    dsimp only
    rw [hget]
    cases rest with
    | nil => exact ⟨_, rfl, fun h => absurd rfl h, .put (by simp) _ _⟩
    | cons a rest =>
      have htail : items.toList.drop (i + 1) = texts rest := by
        rw [← List.tail_drop, hrest]
        rfl
      exact ⟨_, rfl, fun _ => .list (next hit) ((keep rfl).trans hl) htail, .put (by simp) _ _⟩
  | @members s i kind src hit hs =>
    have hget : (texts src)[i]? = (src.drop i).head?.map .str := by
      rw [texts, List.getElem?_map, ← List.head?_drop]
    have hsize : (⟨texts src⟩ : OrderedSet Value).size = src.length := by
      simp [OrderedSet.size, texts]
    rw [bind_of_ok (load_ok w it), hit]
    dsimp only
    rw [bind_of_ok (load_ok w s), hs]
    simp only [hsize, bne_self_eq_false, Bool.false_eq_true, if_false, hget]
    cases hdrop : src.drop i with
    | nil => exact ⟨_, rfl, fun h => absurd rfl h, .put (by simp) _ _⟩
    | cons a rest =>
      have htail : src.drop (i + 1) = rest := by
        rw [← List.tail_drop, hdrop]
        rfl
      refine ⟨_, rfl, fun _ => ?_, .put (by simp) _ _⟩
      rw [List.tail_cons, ← htail]
      exact .members (next hit) ((keep rfl).trans hs)

/-- A new iterator over a sequence. -/
theorem exists_iterate (h : w.Sequence v refs) :
    ∃ o base, iterate v w = .ok w.objects.size (w.push o) ∧
      (w.push o).Remains w.objects.size base refs := by
  cases h with
  | tuple =>
    exact ⟨.iterator (.values (texts refs) none), none, rfl, .values (World.at'_push_size _ _)⟩
  | @list l items _ hlt hl hitems =>
    refine ⟨.iterator (.list l 0), some l, ?_, ?_⟩
    · unfold iterate iterator?
      simp only [bind_assoc]
      rw [bind_of_ok (load_ok w l), hl]
      rfl
    · exact .list (World.at'_push_size _ _) ((World.at'_push_of_lt hlt).trans hl) hitems
  | @set s _ hs =>
    have hlt := hs.lt_size
    obtain ⟨kind, hs⟩ := hs
    have hsize : (⟨texts refs⟩ : OrderedSet Value).size = refs.length := by
      simp [OrderedSet.size, texts]
    refine ⟨.iterator (.members s 0 refs.length), some s, ?_, ?_⟩
    · unfold iterate iterator?
      simp only [bind_assoc]
      rw [bind_of_ok (load_ok w s), hs]
      simp only [hsize]
      rfl
    · have hremains : (w.push (.iterator (.members s 0 refs.length))).Remains w.objects.size (some s)
          (refs.drop 0) :=
        .members (World.at'_push_size _ _) ((World.at'_push_of_lt hlt).trans hs)
      exact hremains

/-- What comes of taking the items of a sequence. -/
theorem collect_outcome (h : w.Sequence v refs) :
    (refs.length < m.rounds ∧ ∃ u, collect m v w = .ok (texts refs) u ∧ w.ChangesOnly [] u) ∨
      (m.rounds ≤ refs.length ∧ ∃ u, collect m v w = .error .exhausted u) := by
  obtain ⟨o, base, hiterate, hremains⟩ := exists_iterate h
  unfold collect drain
  rw [bind_of_ok hiterate]
  refine outcome_bind (fun (acc : Array Value) x => acc.toList = texts refs ∧ w.ChangesOnly [] x)
    (repeatUntil_outcome (i := refs.length) (fun left (acc : Array Value) x =>
      -- What has been taken and what remains are the references together.
      ∃ rest, left = rest.length ∧ x.Remains w.objects.size base rest ∧
        acc.toList ++ texts rest = texts refs ∧ (w.push o).ChangesOnly [w.objects.size] x)
      _ ?_ ?_ ⟨refs, rfl, hremains, rfl, .refl _ _⟩) ?_
  · rintro hpos left acc x ⟨rest, hleft, hx, hacc, hchanges⟩
    obtain ⟨y, hadvance, hy, hxy⟩ := advance_remains hx hpos
    cases rest with
    | nil => cases hleft
    | cons a rest =>
      refine ⟨acc.push (.str a), y, ?_, rest, ?_, hy (List.cons_ne_nil _ _), ?_, hchanges.trans hxy⟩
      · rw [bind_of_ok hadvance]
        rfl
      · simpa using hleft
      · rw [← hacc, Array.toList_push, List.append_assoc]
        rfl
  · rintro hpos acc x ⟨rest, hleft, hx, hacc, hchanges⟩
    obtain ⟨y, hadvance, -, hxy⟩ := advance_remains hx hpos
    obtain rfl := List.length_eq_zero_iff.1 hleft.symm
    refine ⟨acc, y, ?_, ?_, (hchanges.trans hxy).push_then⟩
    · rw [bind_of_ok hadvance]
      rfl
    · rw [← hacc]
      exact (List.append_nil _).symm
  · rintro taken u ⟨htaken, hchanges⟩
    exact ⟨u, by rw [htaken]; rfl, hchanges⟩

/-- The items of a sequence. -/
theorem collect_sequence (h : w.Sequence v refs) (hm : refs.length < m.rounds) :
    ∃ u, collect m v w = .ok (texts refs) u ∧ w.ChangesOnly [] u := by
  rcases collect_outcome h with ⟨-, h⟩ | ⟨hle, -⟩
  · exact h
  · omega

/-! ## Filling sets -/

theorem World.at'_put_assets {r : Nat} {kind : AssetKind} {members : OrderedSet Value}
    (hr : w.at' r = .assets kind members) (more : OrderedSet Value) :
    (w.put r (.assets kind more)).at' r = .assets kind more :=
  at'_put_self (lt_size_of_at' hr (by rintro ⟨⟩)) hr rfl

theorem add_text_eq {r : Ref} {kind : AssetKind} {dst : List String}
    (hr : w.at' r = .assets kind ⟨texts dst⟩) (a : String) : AssetSet.add r (.str a) w =
      .ok () (w.put r (.assets kind ⟨texts (OrderedSet.insert ⟨dst⟩ a).toList⟩)) := by
  have hkey : checkKey (.str a) w = .ok () w := rfl
  unfold AssetSet.add AssetSet.change
  rw [bind_of_ok hkey, bind_of_ok (members_eq hr), ← insert_texts]
  rfl

/-- One reference is taken from an iterator and added to a set, which may be the one that the iterator
goes through. -/
theorem exists_advance_add {r : Nat} {kind : AssetKind} {dst : List String}
    (hit : w.Remains it base (a :: rest)) (hr : w.at' r = .assets kind ⟨texts dst⟩)
    (hne : r ≠ it) (hm : 0 < m.rounds) :
    ∃ u v, advance m it w = .ok (some (.str a)) u ∧ AssetSet.add r (.str a) u = .ok () v ∧
      v.Remains it base rest ∧ v.at' r = .assets kind ⟨texts (OrderedSet.insert ⟨dst⟩ a).toList⟩ ∧
      w.ChangesOnly [it, r] v := by
  obtain ⟨u, hadvance, hu, hwu⟩ := advance_remains hit hm
  have hur : u.at' r = .assets kind ⟨texts dst⟩ := by
    rw [hwu.same r (World.lt_size_of_at' hr (by rintro ⟨⟩)) (by simpa using hne), hr]
  have hput := World.at'_put_assets hur
  refine ⟨u, _, hadvance, add_text_eq hur a, ?_, hput _, (hwu.mono (by simp)).trans (.put (by simp) _ _)⟩
  refine (hu (List.cons_ne_nil _ _)).congr (World.at'_put_of_ne (Ne.symm hne)) ?_
  intro b hb
  by_cases hbr : b = r
  · -- The set is added to itself, where nothing is new.
    subst hbr
    obtain rfl := Option.mem_def.1 hb
    have hmem := hit.mem hr
    rw [hput, OrderedSet.insert_of_mem hmem, hur]
  · exact World.at'_put_of_ne hbr

/-- What comes of adding the items of a sequence to a set, which may be the one that they come from. -/
theorem update_outcome {r : Nat} {kind : AssetKind} {dst : List String}
    (hr : w.at' r = .assets kind ⟨texts dst⟩) (hv : w.Sequence v refs) :
    (refs.length < m.rounds ∧ ∃ u, AssetSet.update m r v w = .ok () u ∧
      u.at' r = .assets kind ⟨texts (OrderedSet.insertMany ⟨dst⟩ refs).toList⟩ ∧
      w.ChangesOnly [r] u) ∨
    (m.rounds ≤ refs.length ∧ ∃ u, AssetSet.update m r v w = .error .exhausted u) := by
  have hlt : r < w.objects.size := World.lt_size_of_at' hr (by rintro ⟨⟩)
  have hne : r ≠ w.objects.size := by omega
  obtain ⟨o, base, hiterate, hremains⟩ := exists_iterate hv
  unfold AssetSet.update AssetSet.each findItem
  rw [bind_assoc, bind_of_ok hiterate]
  refine outcome_bind (fun _ x =>
      x.at' r = .assets kind ⟨texts (OrderedSet.insertMany ⟨dst⟩ refs).toList⟩ ∧ w.ChangesOnly [r] x)
    (repeatUntil_outcome (i := refs.length) (fun left _ x =>
      -- What has been added so far and what remains are the references together.
      ∃ done rest, done ++ rest = refs ∧ left = rest.length ∧ x.Remains w.objects.size base rest ∧
        x.at' r = .assets kind ⟨texts (OrderedSet.insertMany ⟨dst⟩ done).toList⟩ ∧
        (w.push o).ChangesOnly [w.objects.size, r] x) _ ?_ ?_
      ⟨[], refs, rfl, rfl, hremains, (World.at'_push_of_lt hlt).trans hr, .refl _ _⟩)
    fun _ u hu => ⟨u, rfl, hu⟩
  · rintro hpos left _ x ⟨done, rest, hdone, hleft, hx, hxr, hchanges⟩
    cases rest with
    | nil => cases hleft
    | cons a rest =>
      obtain ⟨y, z, hadvance, hadd, hz, hzr, hxz⟩ := exists_advance_add hx hxr hne hpos
      refine ⟨(), z, ?_, done ++ [a], rest, by simp [← hdone], by simpa using hleft, hz, ?_,
        hchanges.trans hxz⟩
      · rw [bind_of_ok hadvance]
        have hround : (AssetSet.add r (.str a) >>= fun _ => pure (none : Option Unit)) y = .ok none z :=
          bind_of_ok hadd
        exact bind_of_ok hround
      · rw [hzr, OrderedSet.insertMany_append]
        rfl
  · rintro hpos _ x ⟨done, rest, hdone, hleft, hx, hxr, hchanges⟩
    obtain ⟨y, hadvance, -, hxy⟩ := advance_remains hx hpos
    obtain rfl := List.length_eq_zero_iff.1 hleft.symm
    rw [List.append_nil] at hdone
    refine ⟨none, y, ?_, ?_, (hchanges.trans (hxy.mono (by simp))).push_then⟩
    · rw [bind_of_ok hadvance]
      rfl
    · have hlt' : r < x.objects.size := World.lt_size_of_at' hxr (by rintro ⟨⟩)
      rw [hxy.same r hlt' (by simpa using hne), hxr, hdone]

/-- Adding the items of a sequence. -/
theorem update_sequence {r : Nat} {kind : AssetKind} {dst : List String}
    (hr : w.at' r = .assets kind ⟨texts dst⟩) (hv : w.Sequence v refs) (hm : refs.length < m.rounds) :
    ∃ u, AssetSet.update m r v w = .ok () u ∧
      u.at' r = .assets kind ⟨texts (OrderedSet.insertMany ⟨dst⟩ refs).toList⟩ ∧
      w.ChangesOnly [r] u := by
  rcases update_outcome hr hv with ⟨-, h⟩ | ⟨hle, -⟩
  · exact h
  · omega

theorem update_eq_ok {r : Nat} {kind : AssetKind} {dst : List String} {y : Unit}
    (hr : w.at' r = .assets kind ⟨texts dst⟩) (hv : w.Sequence v refs)
    (h : AssetSet.update m r v w = .ok y u) :
    u.at' r = .assets kind ⟨texts (OrderedSet.insertMany ⟨dst⟩ refs).toList⟩ ∧ w.ChangesOnly [r] u := by
  rcases update_outcome hr hv with ⟨-, x, hx, hend⟩ | ⟨-, x, hx⟩
  · rw [h] at hx
    cases hx
    exact hend
  · rw [h] at hx
    cases hx

end

end Stencil
