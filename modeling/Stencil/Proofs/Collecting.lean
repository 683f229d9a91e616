import Stencil.Proofs.Footprint
import Stencil.Proofs.Insertion

/-!
# Collecting references

What sets and bundles of assets hold after references have been collected in them. References are texts
here, so they can be told apart and are never refused as members.
-/

namespace Stencil

open World Evaluation

/-- References as values. -/
def texts (refs : List String) : List Value := refs.map Value.str

@[simp] theorem texts_cons (a : String) (refs : List String) :
    texts (a :: refs) = .str a :: texts refs := rfl

@[simp] theorem texts_append (a b : List String) : texts (a ++ b) = texts a ++ texts b := by
  simp [texts]

/-- The set at a place holds references in an order. -/
def World.Holds (w : World) (r : Ref) (refs : List String) : Prop :=
  ∃ kind, w.at' r = .assets kind ⟨texts refs⟩

@[simp] theorem str_beq (a b : String) : (Value.str a == Value.str b) = (a == b) := by
  change sameKey (.str a) (.str b) = _
  simp [sameKey, Value.same, Value.text?, numberOrder?, Value.integer?]

theorem contains_texts (refs : List String) (s : String) :
    (texts refs).contains (.str s) = refs.contains s := by
  induction refs with
  | nil => rfl
  | cons a refs ih =>
    rw [texts_cons, List.contains_cons, List.contains_cons, str_beq, ih]

theorem insert_texts (s : OrderedSet String) (a : String) :
    OrderedSet.insert ⟨texts s.toList⟩ (.str a) = ⟨texts (s.insert a).toList⟩ := by
  unfold OrderedSet.insert OrderedSet.contains
  rw [contains_texts]
  split
  · rfl
  · simp [texts]

/-- References are collected as values the way they are as texts. -/
theorem insertMany_texts (s : OrderedSet String) (refs : List String) :
    OrderedSet.insertMany ⟨texts s.toList⟩ (texts refs) = ⟨texts (s.insertMany refs).toList⟩ := by
  induction refs generalizing s with
  | nil => rfl
  | cons a refs ih =>
    rw [texts_cons, OrderedSet.insertMany_cons, insert_texts, ih, OrderedSet.insertMany_cons]

/-! ## Items one at a time -/

section

variable {m : Interpreter} {w u : World} {it s : Ref} {x : Option Value}

theorem advance_cons {v : Value} {rest : List Value} {failure : Option Value}
    (hit : w.at' it = .iterator (.values (v :: rest) failure)) (h : advance m it w = .ok x u) :
    x = some v ∧ u = w.put it (.iterator (.values rest failure)) := by
  unfold advance at h
  cases hm : m.rounds with
  | zero => exact absurd (hm ▸ h) throw_eq_ok
  | succ depth =>
    rw [hm, advance.go, bind_of_ok (load_ok w it), hit] at h
    simp only [bind_eq_ok, store_eq_ok, pure_eq_ok] at h
    obtain ⟨_, _, rfl, rfl, rfl⟩ := h
    exact ⟨rfl, rfl⟩

theorem advance_nil (hit : w.at' it = .iterator (.values [] none)) (h : advance m it w = .ok x u) :
    x = none ∧ u = w := by
  unfold advance at h
  cases hm : m.rounds with
  | zero => exact absurd (hm ▸ h) throw_eq_ok
  | succ depth =>
    rw [hm, advance.go, bind_of_ok (load_ok w it), hit] at h
    obtain ⟨rfl, rfl⟩ := pure_eq_ok.1 h
    exact ⟨rfl, rfl⟩

theorem advance_members {kind : AssetKind} {refs : OrderedSet Value} {i : Nat}
    (hit : w.at' it = .iterator (.members s i refs.size)) (hs : w.at' s = .assets kind refs)
    (h : advance m it w = .ok x u) :
    x = refs.toList[i]? ∧
      u = w.put it (.iterator
        (if i < refs.size then .members s (i + 1) refs.size else .values [] none)) := by
  unfold advance at h
  cases hm : m.rounds with
  | zero => exact absurd (hm ▸ h) throw_eq_ok
  | succ depth =>
    rw [hm, advance.go, bind_of_ok (load_ok w it), hit] at h
    dsimp only at h
    rw [bind_of_ok (load_ok w s), hs] at h
    simp only [bne_self_eq_false, Bool.false_eq_true, if_false] at h
    cases hi : refs.toList[i]? with
    | some v =>
      have hlt : i < refs.size := (List.getElem?_eq_some_iff.1 hi).1
      simp only [hi, bind_eq_ok, store_eq_ok, pure_eq_ok] at h
      obtain ⟨_, _, rfl, rfl, rfl⟩ := h
      exact ⟨rfl, by rw [if_pos hlt]⟩
    | none =>
      have hle : ¬ i < refs.size := Nat.not_lt.2 (List.getElem?_eq_none_iff.1 hi)
      simp only [hi, bind_eq_ok, store_eq_ok, pure_eq_ok] at h
      obtain ⟨_, _, rfl, rfl, rfl⟩ := h
      exact ⟨rfl, by rw [if_neg hle]⟩

end

/-! ## New sets -/

section

variable {m : Interpreter} {w u : World} {kind : AssetKind}

theorem collect_tuple {items vs : List Value} (h : collect m (.tuple items) w = .ok vs u) :
    vs = items ∧ w.ChangesOnly [] u := by
  simp only [collect, iterate, iterator?, iteratorOf, bind_eq_ok, alloc_eq_ok, pure_eq_ok] at h
  obtain ⟨it, v, ⟨_, _, ⟨_, _, ⟨rfl, rfl⟩, rfl, rfl⟩, rfl, rfl⟩, h⟩ := h
  simp only [drain, bind_eq_ok, pure_eq_ok] at h
  obtain ⟨acc, _, h, rfl, rfl⟩ := h
  -- What has been taken and what is left are the items together.
  refine repeatUntil_eq_ok
    (fun acc x => ∃ rest, x.at' w.objects.size = .iterator (.values rest none) ∧
      acc.toList ++ rest = items ∧ w.objects.size < x.objects.size ∧
      (w.push (.iterator (.values items none))).ChangesOnly [w.objects.size] x)
    (fun acc x => acc.toList = items ∧ w.ChangesOnly [] x) ?_ ?_ h
  · rintro acc x r y ⟨rest, hit, hacc, hlt, hx⟩ hr
    rw [bind_eq_ok] at hr
    obtain ⟨next, z, hn, hr⟩ := hr
    cases rest with
    | nil =>
      obtain ⟨rfl, rfl⟩ := advance_nil hit hn
      obtain ⟨rfl, rfl⟩ := pure_eq_ok.1 hr
      exact ⟨by simpa using hacc, hx.push_then⟩
    | cons v rest =>
      obtain ⟨rfl, rfl⟩ := advance_cons hit hn
      obtain ⟨rfl, rfl⟩ := pure_eq_ok.1 hr
      exact ⟨rest, World.at'_put_self hlt hit rfl, by simp [← hacc], by simpa using hlt,
        hx.trans (.put (by simp) _ _)⟩
  · exact ⟨items, by simp, by simp, by simp, .refl _ _⟩

theorem checkKey_texts {refs : List String} :
    (texts refs).forM checkKey w = .ok () u ↔ w = u := by
  induction refs generalizing w with
  | nil => simp [texts]
  | cons r refs ih =>
    change ((checkKey (.str r)) >>= fun _ => (texts refs).forM checkKey) w = _ ↔ _
    rw [bind_eq_ok]
    constructor
    · rintro ⟨_, _, h, h'⟩
      obtain ⟨_, rfl⟩ := pure_eq_ok.1 h
      exact ih.1 h'
    · rintro rfl
      exact ⟨(), w, rfl, ih.2 rfl⟩

/-- A new set of references. -/
theorem make_texts {refs : List String} {r : Nat}
    (h : AssetSet.make m kind (.tuple (texts refs)) w = .ok r u) :
    u.at' r = .assets kind ⟨texts (OrderedSet.ofList refs).toList⟩ ∧
      w.objects.size ≤ r ∧ r < u.objects.size ∧ w.ChangesOnly [] u := by
  simp only [AssetSet.make, truth, length?, bind_eq_ok, pure_eq_ok] at h
  obtain ⟨_, _, ⟨_, _, ⟨rfl, rfl⟩, rfl, rfl⟩, h⟩ := h
  split at h
  · simp only [bind_eq_ok, alloc_eq_ok] at h
    obtain ⟨items, v, hc, ⟨⟩, _, hk, rfl, rfl⟩ := h
    obtain ⟨rfl, hv⟩ := collect_tuple hc
    obtain rfl := checkKey_texts.1 hk
    refine ⟨?_, hv.size, by simp, hv.trans (.push _ _ _)⟩
    rw [World.at'_push_size]
    exact congrArg _ (insertMany_texts {} refs)
  · rename_i hn
    obtain rfl : refs = [] := by simpa [texts] using hn
    obtain ⟨rfl, rfl⟩ := alloc_eq_ok.1 h
    exact ⟨World.at'_push_size _ _, Nat.le_refl _, by simp, .push _ _ _⟩

end

/-! ## Adding to sets -/

section

variable {m : Interpreter} {w u : World} {r s : Nat} {dst src : List String}

theorem members_eq {kind : AssetKind} {refs : OrderedSet Value} (hr : w.at' r = .assets kind refs) :
    AssetSet.members r w = .ok (kind, refs) w := by
  unfold AssetSet.members
  rw [bind_of_ok (load_ok w r), hr]
  rfl

theorem add_text {kind : AssetKind} {a : String} {b : Unit}
    (hr : w.at' r = .assets kind ⟨texts dst⟩) (h : AssetSet.add r (.str a) w = .ok b u) :
    u = w.put r (.assets kind ⟨texts (OrderedSet.insert ⟨dst⟩ a).toList⟩) := by
  obtain ⟨_, _, hk, h⟩ := bind_eq_ok.1 h
  obtain ⟨_, rfl⟩ := pure_eq_ok.1 hk
  rw [AssetSet.change, bind_of_ok (members_eq hr)] at h
  rw [← store_eq_ok.1 h, ← insert_texts]

/-- Adding the members of one set to another. -/
theorem update_set {kind : AssetKind} (hr : w.at' r = .assets kind ⟨texts dst⟩)
    (hs : w.Holds s src) (hrw : r < w.objects.size) (hsw : s < w.objects.size) (hrs : r ≠ s)
    (h : AssetSet.update m r (.ref s) w = .ok () u) :
    u.at' r = .assets kind ⟨texts (OrderedSet.insertMany ⟨dst⟩ src).toList⟩ ∧
      w.ChangesOnly [r] u := by
  obtain ⟨k, hs⟩ := hs
  simp only [AssetSet.update, AssetSet.each, findItem, iterate, iterator?, bind_eq_ok, load_eq_ok,
    pure_eq_ok] at h
  obtain ⟨_, _, ⟨it, v, ⟨_, _, ⟨_, _, ⟨rfl, rfl⟩, hi⟩, hit⟩, h⟩, ⟨⟩, rfl⟩ := h
  rw [hs] at hi
  simp only [bind_eq_ok, alloc_eq_ok, pure_eq_ok] at hi
  obtain ⟨_, _, ⟨rfl, rfl⟩, rfl, rfl⟩ := hi
  obtain ⟨rfl, rfl⟩ := pure_eq_ok.1 hit
  have hsize : (⟨texts src⟩ : OrderedSet Value).size = src.length := by
    simp [OrderedSet.size, texts]
  rw [hsize] at h
  -- The iterator has come to an index, and the members before it have been added.
  refine repeatUntil_eq_ok
    (fun _ x => ∃ i, x.at' w.objects.size = .iterator (.members s i src.length) ∧
      x.at' r = .assets kind ⟨texts (OrderedSet.insertMany ⟨dst⟩ (src.take i)).toList⟩ ∧
      (w.push (.iterator (.members s 0 src.length))).ChangesOnly [w.objects.size, r] x)
    (fun _ x => x.at' r = .assets kind ⟨texts (OrderedSet.insertMany ⟨dst⟩ src).toList⟩ ∧
      w.ChangesOnly [r] x) ?_ ?_ h
  · rintro _ x a y ⟨i, hit, hxr, hx⟩ ha
    have hxs : x.at' s = .assets k ⟨texts src⟩ := by
      rw [hx.same s (by simp; omega) (by simp; omega), World.at'_push_of_lt hsw, hs]
    have hlt : w.objects.size < x.objects.size := by
      have hsize := hx.size
      rw [World.size_push] at hsize
      omega
    rw [bind_eq_ok] at ha
    obtain ⟨next, z, hn, ha⟩ := ha
    obtain ⟨rfl, rfl⟩ := advance_members (by rwa [hsize]) hxs hn
    rw [hsize] at ha
    have hne : r ≠ w.objects.size := by omega
    cases hi : src[i]? with
    | none =>
      have hle : ¬ i < src.length := Nat.not_lt.2 (List.getElem?_eq_none_iff.1 hi)
      simp only [texts, List.getElem?_map, hi, Option.map_none, if_neg hle] at ha
      obtain ⟨rfl, rfl⟩ := pure_eq_ok.1 ha
      refine ⟨?_, ?_⟩
      · rw [World.at'_put_of_ne hne, hxr, List.take_of_length_le (Nat.not_lt.1 hle)]
      · exact (hx.trans (.put (by simp) _ _)).push_then
    | some t =>
      obtain ⟨hlt', rfl⟩ := List.getElem?_eq_some_iff.1 hi
      simp only [texts, List.getElem?_map, hi, Option.map_some, if_pos hlt'] at ha
      rw [bind_eq_ok] at ha
      obtain ⟨found, v, hadd, ha⟩ := ha
      rw [bind_eq_ok] at hadd
      obtain ⟨_, v', hadd, hf⟩ := hadd
      obtain ⟨rfl, rfl⟩ := pure_eq_ok.1 hf
      obtain ⟨rfl, rfl⟩ := pure_eq_ok.1 ha
      obtain rfl := add_text ((World.at'_put_of_ne hne).trans hxr) hadd
      refine ⟨i + 1, ?_, ?_, (hx.trans (.put (by simp) _ _)).trans (.put (by simp) _ _)⟩
      · rw [World.at'_put_of_ne (Ne.symm hne)]
        exact World.at'_put_self hlt hit rfl
      · rw [World.at'_put_self (by simp; omega) ((World.at'_put_of_ne hne).trans hxr),
          List.take_add_one, hi, Option.toList_some, OrderedSet.insertMany_append] <;> rfl
  · refine ⟨0, World.at'_push_size _ _, ?_, .refl _ _⟩
    · rw [World.at'_push_of_lt hrw, hr]
      rfl

end

end Stencil
