import Stencil.Proofs.Attribution
import Stencil.Proofs.Failures

/-!
# Where a script fails

Each statement of a script stands on a line of its listing, so an exception that leaves the script comes
with a line, and the line leads to the segment that wrote it.
-/

namespace Stencil

namespace Script

/-- A statement that stands on a line. -/
def Stmt.IsPlaced (s : Stmt) : Prop := ∃ line inner, s = .at line inner

namespace Reading

variable {α β : Type}

/-- Whatever a reading takes has a property. -/
def Gives (r : Reading α) (P : α → Prop) : Prop := ∀ ts c a c', r ts c = (some a, c') → P a

variable {r s : Reading α} {P : α → Prop}

theorem gives_pure {a : α} (h : P a) : Gives (pure a) P := by
  rintro ts c b c' ⟨⟩
  exact h

theorem gives_bind {f : α → Reading β} {Q : β → Prop} (h : ∀ a, Gives (f a) Q) :
    Gives (r >>= f) Q := by
  intro ts c b c' hb
  change Reading.bind r f ts c = _ at hb
  unfold Reading.bind at hb
  rcases hr : r ts c with ⟨_ | a, c₁⟩
  · rw [hr] at hb
    cases hb
  · rw [hr] at hb
    exact h a ts c₁ b c' hb

/-- What a reading gives may be used for what follows. -/
theorem Gives.bind {f : α → Reading β} {Q : β → Prop} (hr : Gives r P) (h : ∀ a, P a → Gives (f a) Q) :
    Gives (r >>= f) Q := by
  intro ts c b c' hb
  change Reading.bind r f ts c = _ at hb
  unfold Reading.bind at hb
  rcases ha : r ts c with ⟨_ | a, c₁⟩
  · rw [ha] at hb
    cases hb
  · rw [ha] at hb
    exact h a (hr ts c a c₁ ha) ts c₁ b c' hb

theorem Gives.orElse (hr : Gives r P) (hs : Gives s P) : Gives (Reading.orElse r s) P := by
  intro ts c a c' h
  unfold Reading.orElse at h
  rcases hr' : r ts c with ⟨_ | b, c₁⟩
  · rw [hr'] at h
    exact hs _ _ _ _ h
  · rw [hr'] at h
    cases h
    exact hr ts c a c' hr'

theorem Gives.many {r : Reading (Option α)} (h : Gives r fun o => ∀ a ∈ o, P a) (fuel : Nat) :
    Gives (many fuel r) fun l => ∀ a ∈ l, P a := by
  induction fuel with
  | zero => rintro ts c l c' ⟨⟩
  | succ fuel ih =>
    rw [Reading.many]
    refine h.bind fun o ho => ?_
    cases o with
    | none => exact gives_pure (by simp)
    | some a =>
      refine ih.bind fun l hl => gives_pure ?_
      simpa [ho a rfl] using hl

end Reading

namespace Statement

open Reading

variable {rules : Rules}

theorem gives_simpleLine : Gives (simpleLine rules) fun b => ∀ s ∈ b, s.IsPlaced := by
  have hone : Gives (do
      let t ← peek
      setLine t.line
      return .at t.line (← simple rules)) Stmt.IsPlaced :=
    gives_bind fun t => gives_bind fun _ => gives_bind fun s => gives_pure ⟨t.line, s, rfl⟩
  unfold simpleLine
  refine hone.bind fun first hfirst => gives_bind fun n => ?_
  refine Gives.bind (Gives.many (P := Stmt.IsPlaced) ?_ n) fun rest hrest => gives_bind fun _ =>
    gives_pure ?_
  · refine gives_bind fun b => ?_
    split
    · refine gives_bind fun t => ?_
      split
      · exact gives_pure (by simp)
      · exact hone.bind fun s hs => gives_pure (by simpa using hs)
    · exact gives_pure (by simp)
  · simpa [hfirst] using hrest

theorem gives_statements : Gives (statements rules) fun b => ∀ s ∈ b, s.IsPlaced := by
  have hplaced {t : Token} {r : Reading Stmt} :
      Gives (do return [.at t.line (← r)]) fun b => ∀ s ∈ b, Stmt.IsPlaced s :=
    gives_bind fun s => gives_pure (by simpa using ⟨t.line, s, rfl⟩)
  unfold statements
  refine gives_bind fun t => gives_bind fun _ => ?_
  split
  · exact hplaced
  · split
    · exact hplaced.orElse (gives_bind fun _ => gives_simpleLine)
    · exact gives_simpleLine

/-- Every statement of a script stands on a line. -/
theorem gives_script : Gives (script rules) fun b => ∀ s ∈ b, s.IsPlaced := by
  unfold script
  refine gives_bind fun n => ?_
  refine Gives.bind (Gives.many (P := fun b => ∀ s ∈ b, Stmt.IsPlaced s) ?_ n) fun all hall =>
    gives_pure ?_
  · refine gives_bind fun t => ?_
    split
    · exact gives_pure (by simp)
    · exact gives_statements.bind fun b hb => gives_pure (by simpa using hb)
  · intro s hs
    obtain ⟨b, hb, hs⟩ := List.mem_flatten.1 hs
    exact hall b hb s hs

end Statement

theorem readScript_isPlaced {source : List Char} {b : Block} (h : readScript source = .ok b) :
    ∀ s ∈ b, s.IsPlaced := by
  unfold readScript readWith at h
  dsimp only at h
  split at h
  · rename_i b' _ hread
    cases h
    exact Statement.gives_script _ _ _ _ hread
  · cases h

end Script

open World Evaluation

section

variable {m : Interpreter} {env : Env} {w u : World} {r : Raised}

/-- At the outermost level of a script an exception takes the line of what it comes from. -/
theorem onLine_raises {α : Type} {line : Nat} {x : Action α} (henv : env.frames = [])
    (h : onLine env line x w = .error (.raised r) u) :
    ∃ d, x w = .error (.raised d) u ∧ r = { d with line := d.line <|> some line } := by
  unfold onLine at h
  rw [henv, List.isEmpty_nil, if_pos rfl] at h
  cases hx : x w with
  | ok a v =>
    rw [bind_of_ok (attempt_of_ok hx)] at h
    cases h
  | error d v =>
    rw [bind_of_ok (attempt_of_error hx)] at h
    cases d with
    | exhausted => cases h
    | raised d =>
      cases h
      exact ⟨d, rfl, rfl⟩

/-- An exception that leaves statements which stand on lines comes with a line. -/
theorem executeBlock_raises {b : Script.Block} (henv : env.frames = [])
    (hb : ∀ s ∈ b, Script.Stmt.IsPlaced s) (h : executeBlock m env b w = .error (.raised r) u) :
    ∃ line, r.line = some line := by
  induction b generalizing w with
  | nil => cases h
  | cons s rest ih =>
    obtain ⟨line, inner, rfl⟩ := hb s List.mem_cons_self
    rw [executeBlock] at h
    obtain h | ⟨flow, v, -, h⟩ := bind_eq_error.1 h
    · obtain ⟨d, -, rfl⟩ := onLine_raises henv h
      exact ⟨d.line.getD line, by cases d.line <;> rfl⟩
    · cases flow with
      | next => exact ih (fun s hs => hb s (List.mem_cons_of_mem _ hs)) h
      | _ => cases h

end

namespace Template

variable {name source : String} {t : Template}

theorem readListing_of_compile (h : compile name source = .ok t) :
    readListing t.program t.listing = .ok t.script := by
  obtain ⟨-, hparse, hlisting⟩ := compile_eq_ok h
  unfold compile at h
  simp only [hparse, hlisting, Except.mapError, bind, Except.bind] at h
  split at h
  · cases h
  · rename_i script hscript
    split at h
    · cases h
    · rw [← Except.ok.inj h]
      exact hscript

theorem readScript_of_readListing {p : Program} {l : Listing} {b : Script.Block}
    (h : readListing p l = .ok b) : Script.readScript l.source = .ok b := by
  unfold readListing at h
  dsimp only at h
  split at h
  · cases h
  · cases hread : Script.readScript l.source with
    | error line =>
      rw [hread] at h
      cases h
    | ok b' =>
      rw [hread] at h
      dsimp only at h
      split at h
      · cases h
      · cases h
        rfl

theorem readScript_of_compile (h : compile name source = .ok t) :
    Script.readScript t.listing.source = .ok t.script :=
  readScript_of_readListing (readListing_of_compile h)

/-- The listing of a script that does something has lines. -/
theorem lines_ne_nil (h : compile name source = .ok t) (hne : t.script ≠ []) :
    t.listing.lines ≠ [] := by
  intro hnil
  have hread := readScript_of_compile h
  have hsource : t.listing.source = ['\n'] := by
    unfold Listing.source
    rw [hnil]
    rfl
  have hempty : (Script.readScript ['\n']).toOption.any List.isEmpty = true := by decide +kernel
  rw [← hsource, hread] at hempty
  exact hne (List.isEmpty_iff.1 hempty)

/-- An exception that leaves the script of a template is blamed on the segment that wrote its line, and
the line on which that segment ends in the template is reported. -/
theorem script_blames_line {pieces : List String} {blocks : List (List (List Char))} {n : Nat}
    {globals : Ref} {e : Raised} {w u : World} (h : compile name source = .ok t)
    (hattribution : t.Attribution source pieces blocks)
    (hscript : (interpreter n).execute { globals } t.script w = .error (.raised e) u) :
    ∃ line i s, e.line = some line ∧ t.program.segments[i]? = some s ∧ t.blamed e = s ∧
      Listing.HoldsLine blocks i (t.listing.nearestLine line) := by
  cases n with
  | zero => cases hscript
  | succ n =>
    obtain ⟨line, hline⟩ := executeBlock_raises rfl
      (Script.readScript_isPlaced (readScript_of_compile h)) hscript
    have hne : t.script ≠ [] := by
      intro hnil
      change executeBlock (interpreter n) { globals } t.script w = _ at hscript
      rw [hnil] at hscript
      cases hscript
    obtain ⟨i, s, hs, hholds, hat⟩ := hattribution.segmentAt_nearest line (lines_ne_nil h hne)
    refine ⟨line, i, s, hline, hs, ?_, hholds⟩
    unfold blamed
    rw [hline]
    exact hat

end Template

end Stencil
