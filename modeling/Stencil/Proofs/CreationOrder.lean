import Stencil.Proofs.Pending

/-!
# Deferred expressions in the order of their creation

A pass evaluates the expressions that are pending, each once and in the order of their creation, wherever
they stand in the fragments. An expression that raises stops it; the ones before it keep their texts, and
resolving the pass again goes on with the one that raised. This needs expressions that keep to themselves:
one that evaluates other expressions of its pass changes the order.
-/

namespace Stencil

open World Evaluation

/-! ## Joining -/

namespace Fragment

variable {w : World} {r : Ref}

theorem checkResolved_of_not_pending {c : Value} (h : ∀ b, c = .ref b → w.isPending b = false) :
    checkResolved c w = .ok () w := by
  unfold checkResolved
  cases c with
  | ref b =>
    have hb := h b rfl
    rw [bind_of_ok (object?_ref w b)]
    unfold isPending at hb
    cases ho : w.at' b with
    | binding x =>
      rw [ho] at hb
      simp only [Bool.not_eq_false'] at hb
      simp only [hb, Bool.not_true, Bool.false_eq_true, if_false]
      rfl
    | _ => rfl
  | _ => rfl

theorem chunkText_of_shows {i : Nat} {c : Value} {s : String} (h : w.shows? c = some s) :
    chunkText i c w = .ok s w := by
  unfold chunkText
  cases c with
  | ref b =>
    rw [bind_of_ok (object?_ref w b)]
    cases ho : w.at' b with
    | binding x =>
      simp only [shows?, ho] at h
      simp only [h]
      rfl
    | _ => simp [shows?, ho] at h
  | _ =>
    first
    | obtain rfl := Option.some.inj h
      rfl
    | cases h

/-- A fragment can be joined when each of its chunks shows a text and no expression in it is pending. -/
theorem join_of_shows (hp : ∀ b, .ref b ∈ (w.at' r).chunks → w.isPending b = false)
    (hs : ∀ c ∈ (w.at' r).chunks, (w.shows? c).isSome = true) :
    ∃ texts, (w.at' r).chunks.mapM w.shows? = some texts ∧
      join r w = .ok (String.join texts) w := by
  have hchecks : (w.at' r).chunks.forM checkResolved w = .ok () w := by
    generalize (w.at' r).chunks = cs at hp
    clear hs
    induction cs with
    | nil => rfl
    | cons c cs ih =>
      have hc : checkResolved c w = .ok () w :=
        checkResolved_of_not_pending fun b hb => hp b (hb ▸ List.mem_cons_self)
      exact (bind_of_ok hc).trans (ih fun b hb => hp b (List.mem_cons_of_mem _ hb))
  have htexts (i : Nat) : ∃ texts, (w.at' r).chunks.mapM w.shows? = some texts ∧
      ((w.at' r).chunks.zipIdx i).mapM (fun p => chunkText p.2 p.1) w = .ok texts w := by
    clear hchecks hp
    generalize (w.at' r).chunks = cs at hs
    induction cs generalizing i with
    | nil => exact ⟨[], rfl, rfl⟩
    | cons c cs ih =>
      obtain ⟨s, hc⟩ := Option.isSome_iff_exists.1 (hs c List.mem_cons_self)
      obtain ⟨texts, hcs, hrest⟩ := ih (i + 1) fun c hc => hs c (List.mem_cons_of_mem _ hc)
      refine ⟨s :: texts, by rw [List.mapM_cons, hc, hcs]; rfl, ?_⟩
      rw [List.zipIdx_cons, List.mapM_cons, bind_of_ok (chunkText_of_shows hc), bind_of_ok hrest]
      rfl
  obtain ⟨texts, hshown, htexts⟩ := htexts 0
  refine ⟨texts, hshown, ?_⟩
  unfold join
  rw [bind_of_ok (chunks_eq r w), List.toList_toArray]
  change ((w.at' r).chunks.forM checkResolved >>= _) w = _
  rw [bind_of_ok hchecks, bind_of_ok htexts]
  rfl

end Fragment

/-! ## Evaluating what is pending -/

namespace RenderPass

/-- Evaluations of pending expressions of a pass, always of the first one, with the texts they give. -/
inductive Evaluations (m : Interpreter) (r : Ref) : World → List (Ref × String) → World → Prop
  | none (w : World) : Evaluations m r w [] w
  | next {w u y : World} {b : Ref} {rest : List Ref} {x : Binding} {s : String}
      {done : List (Ref × String)} :
      w.pending r = b :: rest → w.at' b = .binding x → x.compute m w = .ok s y →
      Evaluations m r (y.put b (.binding (x.settle s))) done u → Evaluations m r w ((b, s) :: done) u

/-- The expressions of a pass keep to themselves: one whose turn has come neither adds expressions to the
pass nor evaluates any of them, whether or not it raises. -/
def SelfContained (m : Interpreter) (r : Ref) (w : World) : Prop :=
  ∀ done u b rest x, Evaluations m r w done u → u.pending r = b :: rest → u.at' b = .binding x →
    LeavesAlone r u (u.after (x.compute m))

variable {m : Interpreter} {r : Ref} {w u y : World} {b : Ref} {x : Binding} {s : String} {e : Stop}
  {rest : List Ref} {done : List (Ref × String)}

theorem SelfContained.first (h : SelfContained m r w) (hp : w.pending r = b :: rest)
    (hb : w.at' b = .binding x) : LeavesAlone r w (w.after (x.compute m)) :=
  h [] w b rest x (.none w) hp hb

theorem SelfContained.of_ok (h : SelfContained m r w) (hp : w.pending r = b :: rest)
    (hb : w.at' b = .binding x) (hs : x.compute m w = .ok s y) : LeavesAlone r w y :=
  after_of_ok hs ▸ h.first hp hb

theorem SelfContained.next (h : SelfContained m r w) (hp : w.pending r = b :: rest)
    (hb : w.at' b = .binding x) (hs : x.compute m w = .ok s y) :
    SelfContained m r (y.put b (.binding (x.settle s))) :=
  fun done u _ _ _ he => h ((b, s) :: done) u _ _ _ (.next hp hb hs he)

theorem SelfContained.of_error (h : SelfContained m r w) (he : Evaluations m r w done u)
    (hp : u.pending r = b :: rest) (hb : u.at' b = .binding x) (hs : x.compute m u = .error e y) :
    LeavesAlone r u y :=
  after_of_error hs ▸ h done u b rest x he hp hb

namespace Evaluations

theorem mem (hp : w.pending r = b :: rest) : b ∈ (w.at' r).bindings ∧ w.isPending b = true :=
  mem_pending.1 (hp ▸ List.mem_cons_self)

theorem resolved (hp : w.pending r = b :: rest) (hb : w.at' b = .binding x) : x.resolved = false := by
  obtain ⟨x', hx', hr⟩ := isPending_eq_true.1 (mem hp).2
  cases hb.symm.trans hx'
  exact hr

/-- Where nothing is pending nothing is evaluated. -/
theorem of_pending_eq_nil (h : Evaluations m r w done u) (hp : w.pending r = []) :
    done = [] ∧ u = w := by
  cases h with
  | none => exact ⟨rfl, rfl⟩
  | next hp' _ _ _ => cases hp.symm.trans hp'

theorem evolves [m.Evolves] (h : Evaluations m r w done u) : w.Evolves u := by
  induction h with
  | none => exact .refl _
  | next hp hb hs _ ih =>
    exact (Evolving.of_ok inferInstance (Binding.evaluate_of_ok hb (resolved hp hb) hs)).trans ih

/-- The expressions get their turns in order. -/
theorem pending_eq (h : Evaluations m r w done u) (hw : SelfContained m r w) :
    w.pending r = done.map (·.1) ++ u.pending r := by
  induction h with
  | none => rfl
  | next hp hb hs _ ih =>
    rw [hp, List.map_cons, List.cons_append, ← ih (hw.next hp hb hs),
      (hw.of_ok hp hb hs).pending_settle hp hb]

theorem pass (h : Evaluations m r w done u) (hw : SelfContained m r w) : u.at' r = w.at' r := by
  induction h with
  | none => rfl
  | next hp hb hs _ ih =>
    rw [ih (hw.next hp hb hs), (hw.of_ok hp hb hs).pass_settle (mem hp).1 hb]

theorem holds (h : Evaluations m r w done u) (hw : SelfContained m r w)
    (hr : w.HoldsExpressions r) : u.HoldsExpressions r := by
  induction h with
  | none => exact hr
  | next hp hb hs _ ih =>
    exact ih (hw.next hp hb hs) ((hw.of_ok hp hb hs).holds_settle (mem hp).1 hb hr)

/-- An expression that has been evaluated has its text. -/
theorem settled [m.Evolves] (h : Evaluations m r w done u) (hw : SelfContained m r w) :
    ∀ p ∈ done, ∃ x, u.at' p.1 = .binding x ∧ x.resolved = true ∧ x.value = some p.2 := by
  induction h with
  | none => exact fun _ hp => absurd hp List.not_mem_nil
  | next hp hb hs he ih =>
    refine List.forall_mem_cons.2 ⟨?_, ih (hw.next hp hb hs)⟩
    exact ⟨_, he.evolves.settled ((hw.of_ok hp hb hs).at'_settle (mem hp).1 hb) rfl, rfl, rfl⟩

/-- What has been evaluated shows its text from then on, and has no further turn. -/
theorem shown [m.Evolves] {z : World} (h : Evaluations m r w done u) (hw : SelfContained m r w)
    (hz : u.Evolves z) :
    ∀ p ∈ done, z.shows? (.ref p.1) = some p.2 ∧ z.isPending p.1 = false := by
  intro p hp
  obtain ⟨x, hx, hr, hv⟩ := h.settled hw p hp
  have hzx := hz.settled hx hr
  simp [shows?, isPending, hzx, hr, hv]

end Evaluations

/-! ## The evaluation of a pass -/

/-- The turn at an index. -/
def turn (m : Interpreter) (r : Ref) (i : Nat) : Action (Except Unit Nat) := do
  match (← bindings r)[i]? with
  | some b =>
    let _ ← Binding.evaluate m b
    return .ok (i + 1)
  | none => return .error ()

theorem evaluateFrom_eq (m : Interpreter) (r : Ref) :
    evaluateFrom m r = Interpreter.repeatUntil.go (turn m r) m.rounds 0 := rfl

theorem turn_eq (m : Interpreter) (r : Ref) (i : Nat) (w : World) :
    turn m r i w =
      (match (w.at' r).bindings[i]? with
        | some b => Binding.evaluate m b >>= fun _ => pure (.ok (i + 1))
        | none => pure (.error ()) : Action (Except Unit Nat)) w := by
  unfold turn
  rw [bind_of_ok (bindings_eq r w), List.getElem?_toArray]

/-- An expression that is not pending does nothing in its turn. -/
theorem turn_of_not_pending {i : Nat} (hi : (w.at' r).bindings[i]? = some b)
    (hb : w.isPending b = false) : turn m r i w = .ok (.ok (i + 1)) w := by
  have h : ∃ v, Binding.evaluate m b w = .ok v w := by
    unfold Binding.evaluate
    rw [bind_of_ok (load_ok w b)]
    unfold isPending at hb
    cases ho : w.at' b with
    | binding x =>
      rw [ho] at hb
      simp only [Bool.not_eq_false'] at hb
      simp only [hb, if_true]
      exact ⟨_, rfl⟩
    | _ => exact ⟨_, rfl⟩
  obtain ⟨v, hv⟩ := h
  rw [turn_eq, hi]
  exact bind_of_ok hv

/-- The first expression that is pending has the next turn. -/
theorem pending_eq_cons {i : Nat} (hi : (w.at' r).bindings[i]? = some b)
    (hbefore : ∀ b ∈ (w.at' r).bindings.take i, w.isPending b = false)
    (hb : w.isPending b = true) : ∃ rest, w.pending r = b :: rest := by
  have hsplit : (w.at' r).bindings =
      (w.at' r).bindings.take i ++ b :: (w.at' r).bindings.drop (i + 1) := by
    obtain ⟨hlt, rfl⟩ := List.getElem?_eq_some_iff.1 hi
    rw [← List.drop_eq_getElem_cons hlt, List.take_append_drop]
  unfold pending
  rw [hsplit, List.filter_append, List.filter_eq_nil_iff.2 (by simpa using hbefore),
    List.filter_cons_of_pos hb, List.nil_append, List.eraseDups_cons]
  exact ⟨_, rfl⟩

/-- The turns from an index on evaluate what is pending, until an expression raises. -/
theorem go_turn (left i : Nat) (hw : SelfContained m r w) (hi : i ≤ (w.at' r).bindings.length)
    (hbefore : ∀ b ∈ (w.at' r).bindings.take i, w.isPending b = false)
    (hleft : (w.at' r).bindings.length < i + left) :
    ∃ done u, Evaluations m r w done u ∧
      (u.pending r = [] ∧ Interpreter.repeatUntil.go (turn m r) left i w = .ok () u ∨
        ∃ b rest x e y, u.pending r = b :: rest ∧ u.at' b = .binding x ∧ x.compute m u = .error e y ∧
          Interpreter.repeatUntil.go (turn m r) left i w = .error e y) := by
  induction left generalizing i w with
  | zero => omega
  | succ left ih =>
    rw [Interpreter.repeatUntil.go]
    rcases Nat.eq_or_lt_of_le hi with rfl | hlt
    · -- Every expression has had its turn.
      rw [List.take_length] at hbefore
      refine ⟨[], w, .none w, .inl ⟨pending_eq_nil.2 hbefore, ?_⟩⟩
      have hturn : turn m r (w.at' r).bindings.length w = .ok (.error ()) w := by
        rw [turn_eq, List.getElem?_eq_none (Nat.le_refl _)]
        rfl
      rw [bind_of_ok hturn]
      rfl
    have hb : (w.at' r).bindings[i]? = some (w.at' r).bindings[i] := List.getElem?_eq_getElem hlt
    have htake := List.take_succ_eq_append_getElem hlt
    generalize (w.at' r).bindings[i] = b at hb htake
    cases hpending : w.isPending b with
    | false =>
      rw [bind_of_ok (turn_of_not_pending hb hpending)]
      refine ih (i + 1) hw hlt ?_ (by omega)
      rw [htake]
      simpa [or_imp, forall_and, hpending] using hbefore
    | true =>
      obtain ⟨x, hx, hr⟩ := isPending_eq_true.1 hpending
      obtain ⟨rest, hp⟩ := pending_eq_cons hb hbefore hpending
      cases hs : x.compute m w with
      | error e y =>
        refine ⟨[], w, .none w, .inr ⟨b, _, x, e, y, hp, hx, hs, ?_⟩⟩
        refine bind_of_error ?_
        rw [turn_eq, hb]
        exact bind_of_error (Binding.evaluate_of_error hx hr hs)
      | ok s y =>
        have hy := hw.of_ok hp hx hs
        have hmem := (Evaluations.mem hp).1
        have hpass := hy.pass_settle (s := s) hmem hx
        have hturn : turn m r i w = .ok (.ok (i + 1)) (y.put b (.binding (x.settle s))) := by
          rw [turn_eq, hb]
          exact bind_of_ok (Binding.evaluate_of_ok hx hr hs)
        -- The expressions up to this one have had their turns.
        have hsettled : ∀ c ∈ (w.at' r).bindings.take (i + 1),
            (y.put b (.binding (x.settle s))).isPending c = false := by
          intro c hc
          rw [hy.isPending_settle hmem hx (List.mem_of_mem_take hc)]
          rw [htake, List.mem_append, List.mem_singleton] at hc
          rcases hc with hc | rfl
          · simp [hbefore c hc]
          · simp
        obtain ⟨done, u, he, h⟩ := ih (i + 1) (hw.next hp hx hs) (by rw [hpass]; exact hlt)
          (by rw [hpass]; exact hsettled) (by rw [hpass]; omega)
        refine ⟨(b, s) :: done, u, .next hp hx hs he, ?_⟩
        rw [bind_of_ok hturn]
        exact h

/-! ## Resolving a pass -/

theorem leavesAlone_announced (r : Ref) (w : World) : LeavesAlone r w (announced r w) :=
  ⟨at'_announced r w r, fun b _ => at'_announced r w b⟩

theorem resolve_eq (hm : 0 < m.rounds) (fragment : Ref) :
    resolve m r fragment w = (evaluateFrom m r >>= fun _ => Fragment.join fragment) (announced r w) := by
  unfold resolve
  rw [bind_of_ok (bindings_eq r w), List.size_toArray]
  by_cases hlen : (w.at' r).bindings.length = 0
  · have hnone : evaluateFrom m r w = .ok () w := by
      obtain ⟨n, hn⟩ := Nat.exists_eq_succ_of_ne_zero (Nat.ne_of_gt hm)
      have hturn : turn m r 0 w = .ok (.error ()) w := by
        rw [turn_eq, List.getElem?_eq_none (by omega)]
        rfl
      rw [evaluateFrom_eq, hn, Interpreter.repeatUntil.go, bind_of_ok hturn]
      rfl
    simp only [hlen, if_true, announced]
    rw [bind_of_ok hnone]
  · simp only [hlen, if_false, announced]
    rfl

/-- What resolving a pass does: it evaluates expressions, and stops at one that raises. -/
inductive Resolves (m : Interpreter) (r : Ref) (w : World) :
    List (Ref × String) → List Ref → World → Prop
  /-- All pending expressions are evaluated, and the fragment is joined. -/
  | finished {done : List (Ref × String)} {u : World} :
      Evaluations m r (announced r w) done u → u.pending r = [] →
      (∀ fragment, resolve m r fragment w = Fragment.join fragment u) → Resolves m r w done [] u
  /-- An expression whose turn has come raises. -/
  | stopped {done : List (Ref × String)} {b : Ref} {rest : List Ref} {x : Binding} {e : Stop}
      {u y : World} :
      Evaluations m r (announced r w) done u → u.pending r = b :: rest → u.at' b = .binding x →
      x.compute m u = .error e y → (∀ fragment, resolve m r fragment w = .error e y) →
      Resolves m r w done (b :: rest) y

theorem exists_resolves (hm : (w.at' r).bindings.length < m.rounds)
    (hw : SelfContained m r (announced r w)) : ∃ done left u, Resolves m r w done left u := by
  have hgo := go_turn (w := announced r w) m.rounds 0 hw (Nat.zero_le _) (by simp) (by simpa using hm)
  rw [← evaluateFrom_eq] at hgo
  have hresolve := resolve_eq (r := r) (w := w) (Nat.lt_of_le_of_lt (Nat.zero_le _) hm)
  obtain ⟨done, u, he, ⟨hp, hok⟩ | ⟨b, rest, x, e, y, hp, hx, hs, herror⟩⟩ := hgo
  · exact ⟨done, [], u, .finished he hp fun f => by rw [hresolve, bind_of_ok hok]⟩
  · exact ⟨done, b :: rest, y, .stopped he hp hx hs fun f => by rw [hresolve, bind_of_error herror]⟩

namespace Resolves

variable {left : List Ref} {z : World}

/-- The expressions that are left over are pending, and all others of the pass are not. -/
theorem pending_eq (h : Resolves m r w done left u) (hw : SelfContained m r (announced r w)) :
    w.pending r = done.map (·.1) ++ left ∧ u.pending r = left := by
  rw [← (leavesAlone_announced r w).pending_eq]
  cases h with
  | finished he hp _ => exact ⟨hp ▸ he.pending_eq hw, hp⟩
  | stopped he hp hx hs _ =>
    exact ⟨hp ▸ he.pending_eq hw, (hw.of_error he hp hx hs).pending_eq.trans hp⟩

theorem shown [m.Evolves] (h : Resolves m r w done left u) (hw : SelfContained m r (announced r w))
    (hz : u.Evolves z) :
    ∀ p ∈ done, z.shows? (.ref p.1) = some p.2 ∧ z.isPending p.1 = false := by
  cases h with
  | finished he _ _ => exact he.shown hw hz
  | stopped he _ _ hs _ =>
    have hy := after_of_error hs ▸ Evolving.evolves (x := Binding.compute m _) _
    exact he.shown hw (hy.trans hz)

theorem pass (h : Resolves m r w done left u) (hw : SelfContained m r (announced r w)) :
    u.at' r = w.at' r := by
  rw [← at'_announced r w r]
  cases h with
  | finished he _ _ => exact he.pass hw
  | stopped he hp hx hs _ =>
    exact (hw.of_error he hp hx hs).pass.trans (he.pass hw)

theorem holds (h : Resolves m r w done left u) (hw : SelfContained m r (announced r w))
    (hr : w.HoldsExpressions r) : u.HoldsExpressions r := by
  have hr' := (leavesAlone_announced r w).holds hr
  cases h with
  | finished he _ _ => exact he.holds hw hr'
  | stopped he hp hx hs _ =>
    exact (hw.of_error he hp hx hs).holds (he.holds hw hr')

end Resolves

/-- A pass that has nothing pending is resolved by joining alone. -/
theorem resolve_of_pending_eq_nil (hm : (w.at' r).bindings.length < m.rounds)
    (hp : w.pending r = []) (fragment : Ref) :
    resolve m r fragment w = Fragment.join fragment (announced r w) := by
  have hp' := (leavesAlone_announced r w).pending_eq.trans hp
  have hw : SelfContained m r (announced r w) := by
    intro done u b rest x he hu _
    obtain ⟨-, rfl⟩ := he.of_pending_eq_nil hp'
    cases hp'.symm.trans hu
  obtain ⟨done, left, u, h⟩ := exists_resolves hm hw
  cases h with
  | finished he _ hresolve =>
    obtain ⟨-, rfl⟩ := he.of_pending_eq_nil hp'
    exact hresolve fragment
  | stopped he hu _ _ _ =>
    obtain ⟨-, rfl⟩ := he.of_pending_eq_nil hp'
    cases hp'.symm.trans hu

/-- Once every expression has its text, a fragment of texts and expressions can be joined. -/
theorem join_of_pending_eq_nil (hr : w.HoldsExpressions r) (hp : w.pending r = []) {fragment : Ref}
    (hf : ∀ c ∈ (w.at' fragment).chunks, (∃ s, c = .str s) ∨ ∃ b ∈ (w.at' r).bindings, c = .ref b) :
    ∃ texts, (w.at' fragment).chunks.mapM w.shows? = some texts ∧
      Fragment.join fragment w = .ok (String.join texts) w := by
  rw [pending_eq_nil] at hp
  refine Fragment.join_of_shows (fun b hb => ?_) fun c hc => ?_
  · rcases hf _ hb with ⟨_, ⟨⟩⟩ | ⟨_, hb, ⟨⟩⟩
    exact hp b hb
  · rcases hf c hc with ⟨s, rfl⟩ | ⟨b, hb, rfl⟩
    · rfl
    · obtain ⟨x, hx, hv⟩ := hr b hb
      have hres := hp b hb
      simp only [isPending, hx, Bool.not_eq_false'] at hres
      simpa [shows?, hx] using hv hres

/-! ## Checking that expressions keep to themselves -/

/-- Whether a number of expressions keep to themselves. -/
def selfContained? (m : Interpreter) (r : Ref) : Nat → World → Bool
  | 0, w => (w.pending r).isEmpty
  | n + 1, w =>
    match w.pending r with
    | [] => true
    | b :: _ =>
      match w.at' b with
      | .binding x =>
        let u := w.after (x.compute m)
        (u.at' r).bindings == (w.at' r).bindings &&
          (w.at' r).bindings.all (fun b => u.textOf? b == w.textOf? b) &&
          match x.compute m w with
          | .ok s y => selfContained? m r n (y.put b (.binding (x.settle s)))
          | .error _ _ => true
      | _ => true

theorem selfContained_of_selfContained? [m.Evolves] {r : Nat} {bs : Array Ref} {n : Nat}
    (hpass : w.at' r = .pass bs) (hr : w.HoldsExpressions r) (h : selfContained? m r n w = true) :
    SelfContained m r w := by
  induction n generalizing w with
  | zero =>
    have hnil : w.pending r = [] := List.isEmpty_iff.1 h
    intro done u b rest x he hp _
    obtain ⟨-, rfl⟩ := he.of_pending_eq_nil hnil
    cases hnil.symm.trans hp
  | succ n ih =>
    have hfirst (b : Ref) (rest : List Ref) (x : Binding) (hp : w.pending r = b :: rest)
        (hx : w.at' b = .binding x) : LeavesAlone r w (w.after (x.compute m)) ∧
          ∀ s y, x.compute m w = .ok s y →
            selfContained? m r n (y.put b (.binding (x.settle s))) = true := by
      simp only [selfContained?, hp, hx, Bool.and_eq_true, beq_iff_eq, List.all_eq_true] at h
      obtain ⟨⟨hbs, htexts⟩, hnext⟩ := h
      refine ⟨.of_evolves (Evolving.evolves w) hpass hr hbs htexts, fun s y hs => ?_⟩
      simpa only [hs] using hnext
    intro done u b rest x he hp hx
    cases he with
    | none => exact (hfirst b rest x hp hx).1
    | @next _ _ y b' rest' x' s done hp' hx' hs he =>
      obtain ⟨hleave, hnext⟩ := hfirst b' rest' x' hp' hx'
      rw [after_of_ok hs] at hleave
      have hmem := (Evaluations.mem hp').1
      exact ih ((hleave.pass_settle hmem hx').trans hpass) (hleave.holds_settle hmem hx' hr)
        (hnext s y hs) done u b rest x he hp hx

/-! ## The order of creation -/

/-- **Deferred expressions get their texts once, in the order of their creation**, provided that they keep
to themselves. Which fragment is joined has no part in it. -/
theorem resolve_in_creation_order (m : Interpreter) [m.Evolves] {r : Ref} {w₀ w : World}
    {bs : Array Ref} {created : List Ref}
    -- Executions of templates share a pass.
    (hpass : w₀.at' r = .pass bs) (hr : w₀.HoldsExpressions r) (hrun : Deferring r w₀ created w)
    (hm : (w.at' r).bindings.length < m.rounds) (hw : SelfContained m r (announced r w)) :
    ∃ done left u, Resolves m r w done left u ∧
      w₀.pending r ++ created = done.map (·.1) ++ left ∧ u.pending r = left ∧
      -- What has been evaluated keeps its text.
      (∀ z, u.Evolves z →
        ∀ p ∈ done, z.shows? (.ref p.1) = some p.2 ∧ z.isPending p.1 = false) ∧
      -- Resolving again goes on with what is left, and with what has been deferred since.
      (∀ created' z, Deferring r u created' z → (z.at' r).bindings.length < m.rounds →
        SelfContained m r (announced r z) →
        ∃ done' left' u', Resolves m r z done' left' u' ∧
          left ++ created' = done'.map (·.1) ++ left') ∧
      -- Once nothing is left nothing is evaluated again, and everything can be joined.
      (left = [] → ∀ z, u.Evolves z → z.at' r = w.at' r →
        (∀ fragment, resolve m r fragment z = Fragment.join fragment (announced r z)) ∧
        ∀ fragment,
          (∀ c ∈ (z.at' fragment).chunks, (∃ s, c = .str s) ∨ ∃ b ∈ (w.at' r).bindings, c = .ref b) →
          ∃ texts, (z.at' fragment).chunks.mapM z.shows? = some texts ∧
            Fragment.join fragment z = .ok (String.join texts) z) := by
  obtain ⟨hpending, hrw, cs, hcs⟩ := hrun.pending_eq hpass hr
  obtain ⟨done, left, u, h⟩ := exists_resolves hm hw
  obtain ⟨hall, hleft⟩ := h.pending_eq hw
  have hupass := h.pass hw
  refine ⟨done, left, u, h, hpending ▸ hall, hleft, fun z hz => h.shown hw hz,
    fun created' z hz hmz hself => ?_, fun hnil z hz hzr => ?_⟩
  · obtain ⟨done', left', u', h'⟩ := exists_resolves hmz hself
    have hz' := (hz.pending_eq (hupass.trans hcs) (h.holds hw hrw)).1
    exact ⟨done', left', u', h', by rw [← (h'.pending_eq hself).1, hz', hleft]⟩
  · -- Expressions that have their text are the same from then on.
    have hsame : LeavesAlone r u z := by
      refine ⟨hzr.trans hupass.symm, fun b hb => ?_⟩
      obtain ⟨x, hx, -⟩ := h.holds hw hrw b hb
      have hres := pending_eq_nil.1 (hleft.trans hnil) b hb
      simp only [isPending, hx, Bool.not_eq_false'] at hres
      rw [hx, hz.settled hx hres]
    have hp : z.pending r = [] := hsame.pending_eq.trans (hleft.trans hnil)
    refine ⟨resolve_of_pending_eq_nil (by rwa [hzr]) hp, fun fragment hf => ?_⟩
    exact join_of_pending_eq_nil (hsame.holds (h.holds hw hrw)) hp (by rwa [hzr])

end RenderPass

/-- Two templates that share a pass. The second one shows what the first one wrote twice, and the first
one defers an expression that raises as long as there are no items. -/
def sharedPass : World := World.after (do
  let pass ← alloc (.pass #[])
  let items ← allocValue (.list #[])
  let inner ← Template.make "inner" "<%-> 'a' %>,<%-> items[0] %>;"
  let outer ← Template.make "outer" "<%-> 'b' %>[<%= part %><%= part %>]"
  let part ← Template.execute machine inner .none (some pass) .none [("items", items)]
  let _ ← Template.execute machine outer .none (some pass) .none [("part", .ref part)]) {}

/-- A third template that is started with the same pass. -/
def lateRun : Action Run := do
  let late ← Template.make "late" "<%-> 'c' %>"
  Template.startRun machine late .none (some 0) .none []

instance evolving_lateRun : Evolving lateRun := by
  unfold lateRun
  infer_instance

theorem sharedPass_checks :
    (sharedPass.at' 0 matches .pass _) = true ∧ sharedPass.holdsExpressions? 0 = true ∧
      sharedPass.pending 0 = [7, 9, 15] := by
  decide +kernel

theorem lateRun_checks : (sharedPass.value? lateRun).any (fun x =>
    let started := sharedPass.after lateRun
    let late := started.after (x.defer (.int 0))
    x.pass == 0 && (started.at' 0).bindings == (sharedPass.at' 0).bindings &&
      (sharedPass.at' 0).bindings.all (fun b => started.textOf? b == sharedPass.textOf? b) &&
      (started.value? (x.defer (.int 0))).isSome &&
      (late.at' 0).bindings == (started.at' 0).bindings ++ [21] &&
      (late.at' 0).bindings.length < machine.rounds &&
      RenderPass.selfContained? machine 0 4 (RenderPass.announced 0 late)) = true := by
  decide +kernel

/-- The expressions of three templates have their turns together, in the order in which they were
deferred. -/
theorem sharedPass_resolves : ∃ w, RenderPass.Deferring 0 sharedPass [21] w ∧
    ∃ done left u, RenderPass.Resolves machine 0 w done left u ∧
      [7, 9, 15, 21] = done.map (·.1) ++ left ∧
      ∀ z, u.Evolves z → ∀ p ∈ done, z.shows? (.ref p.1) = some p.2 ∧ z.isPending p.1 = false := by
  obtain ⟨hpass, hholds, hpending⟩ := sharedPass_checks
  have hpass : ∃ bs, sharedPass.at' 0 = .pass bs := by
    split at hpass
    · exact ⟨_, by assumption⟩
    · cases hpass
  obtain ⟨bs, hbs⟩ := hpass
  have hr := holdsExpressions_of_holdsExpressions? hholds
  obtain ⟨x, -, h⟩ := (Option.any_eq_true _ _).1 lateRun_checks
  simp only [Bool.and_eq_true, beq_iff_eq, List.all_eq_true, decide_eq_true_eq] at h
  obtain ⟨⟨⟨⟨⟨⟨hx, hsame⟩, htexts⟩, hdefer⟩, hadded⟩, hrounds⟩, hself⟩ := h
  obtain ⟨_, hdefer⟩ := Option.isSome_iff_exists.1 hdefer
  -- The third template has been started, and then its directive has deferred.
  have hstart : LeavesAlone 0 sharedPass (sharedPass.after lateRun) :=
    .of_evolves (Evolving.evolves sharedPass) hbs hr hsame htexts
  have hrun : RenderPass.Deferring 0 sharedPass [21] _ :=
    .other hstart (.defer hx (World.ok_of_value? hdefer) hadded (.done _))
  obtain ⟨-, hlate, cs, hcs⟩ := hrun.pending_eq hbs hr
  have hw := RenderPass.selfContained_of_selfContained? ((RenderPass.at'_announced 0 _ 0).trans hcs)
    ((RenderPass.leavesAlone_announced 0 _).holds hlate) hself
  obtain ⟨done, left, u, h, hall, -, hshown, -⟩ :=
    RenderPass.resolve_in_creation_order machine hbs hr hrun hrounds hw
  rw [hpending] at hall
  exact ⟨_, hrun, done, left, u, h, hall, hshown⟩

/-- A template whose first deferred expression evaluates the third one. -/
def nestedPass : World := World.after (do
  let pass ← alloc (.pass #[])
  let log ← allocValue (.list #[])
  let t ← Template.make "nested" ("<%-> p.bindings[2].evaluate() %><%-> log.append(1) or 'x' %>" ++
    "<%-> log.append(2) or 'y' %><%-> log %>")
  let _ ← Template.execute machine t .none (some pass) .none [("p", .ref pass), ("log", log)]) {}

/-- No expression adds another one to the pass, and none raises; but the third one is evaluated before the
second one, as the list shows in which they write down when they are. -/
theorem nested_evaluation_changes_order :
    nestedPass.pending 0 = [7, 9, 11, 13] ∧
      nestedPass.value? (RenderPass.resolve machine 0 3) = some "yxy[2, 1]" ∧
      ((nestedPass.after (RenderPass.resolve machine 0 3)).at' 0).bindings = [7, 9, 11, 13] := by
  decide +kernel

end Stencil
