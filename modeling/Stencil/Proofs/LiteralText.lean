import Stencil.Proofs.BlockStructure
import Stencil.Proofs.Parsing
import Stencil.Proofs.SegmentLines
import Stencil.Proofs.ViewAssets
import Stencil.Proofs.WritingLines

/-!
# Literal text

What stands outside directives is written as it stands. A line of the listing carries each literal text in
its quoted form, the line reads as a call with the text itself, and the call adds the text to what the run
has written so far.
-/

namespace Stencil

open World Evaluation Script

namespace World

variable {w : World} {f g : Nat} {cs : Array Value}

/-! ## What the statements write -/

theorem object?_ok (v : Value) (w : World) : ∃ o, object? v w = .ok o w := by
  cases v with
  | ref r => exact ⟨some (w.at' r), rfl⟩
  | _ => exact ⟨none, rfl⟩

theorem typeName_fragment (h : w.at' f = .fragment cs) : typeName (.ref f) w = .ok "Fragment" w := by
  have hload : load f w = .ok (.fragment cs) w := by rw [load_ok, h]
  have htype : typeOf (.ref f) w = .ok (.plain "Fragment") w := bind_of_ok hload
  exact bind_of_ok htype

theorem append_fragment (v : Value) (h : w.at' f = .fragment cs) :
    Fragment.append f v w = .ok () (w.put f (.fragment (cs.push v))) := by
  have hload : load f w = .ok (.fragment cs) w := by rw [load_ok, h]
  have hchunks : Fragment.chunks f w = .ok cs w := bind_of_ok hload
  exact bind_of_ok hchunks

theorem callMethod_append (m : Interpreter) (v : Value) (h : w.at' f = .fragment cs) :
    callMethod m (.ref f) "append" { items := [v] } w = .ok .none (w.put f (.fragment (cs.push v))) := by
  have hload : load f w = .ok (.fragment cs) w := by rw [load_ok, h]
  refine (bind_of_ok hload).trans ?_
  refine (bind_of_ok (typeName_fragment h)).trans ?_
  exact bind_of_ok (append_fragment v h)

/-- A world in which the function that writes text adds to a fragment. -/
structure WritesTo (w : World) (g f : Ref) (cs : Array Value) : Prop where
  fragment : w.at' f = .fragment cs
  names : ∃ n, w.at' g = .globals n ∧ named? n.values "_tpl_write" = some (.method (.ref f) "append")

theorem WritesTo.put (h : w.WritesTo g f cs) (more : Array Value) :
    (w.put f (.fragment more)).WritesTo g f more := by
  obtain ⟨hfragment, n, hnames, hwrite⟩ := h
  have hlt : f < w.objects.size := by
    refine Nat.lt_of_not_le fun hle => ?_
    rw [at'_of_size_le hle] at hfragment
    cases hfragment
  have hne : g ≠ f := by
    rintro rfl
    rw [hfragment] at hnames
    cases hnames
  exact ⟨at'_put_self hlt hfragment rfl, n, (at'_put_of_ne hne).trans hnames, hwrite⟩

theorem readName_write (m : Interpreter) (h : w.WritesTo g f cs) :
    readName m { globals := g } "_tpl_write" w = .ok (.method (.ref f) "append") w := by
  obtain ⟨-, n, hnames, hwrite⟩ := h
  have hload : load g w = .ok (.globals n) w := by rw [load_ok, hnames]
  have hnamespace : namespaceAt g w = .ok n w := bind_of_ok hload
  have howner : ownerOf [] "_tpl_write" w = .ok none w := rfl
  refine (bind_of_ok howner).trans ((bind_of_ok hnamespace).trans ?_)
  dsimp only
  rw [hwrite]
  rfl

/-- A statement that calls a function with one value has done when the call has. -/
theorem executeStmt_call {k line : Nat} {env : Env} {name : String} {e : Expr} {function v y : Value}
    {w w₁ u : World} (hname : readName (interpreter k) env name w = .ok function w)
    (hv : (interpreter (k + 1)).evaluate env e w = .ok v w₁)
    (hcall : callValue (interpreter k) function { items := [v] } w₁ = .ok y u) :
    executeStmt (interpreter (k + 3)) env (.at line (.expr (.call (.name name) [.positional e]))) w =
      .ok .next u := by
  have harguments : arguments (interpreter (k + 1)) env function {} [.positional e] w =
      .ok { items := [v] } w₁ := (bind_of_ok hv).trans rfl
  have hevaluate : evaluateExpr (interpreter (k + 1)) env (.call (.name name) [.positional e]) w =
      .ok y u := (bind_of_ok hname).trans ((bind_of_ok harguments).trans hcall)
  have hexpr : executeStmt (interpreter (k + 2)) env (.expr (.call (.name name) [.positional e])) w =
      .ok .next u := bind_of_ok hevaluate
  have hblock : executeBlock (interpreter (k + 2)) env [.expr (.call (.name name) [.positional e])] w =
      .ok .next u := bind_of_ok hexpr
  change onLine env line (executeBlock (interpreter (k + 2)) env _) w = _
  unfold onLine
  split
  · exact bind_of_ok (attempt_of_ok hblock)
  · exact hblock

/-- A statement that writes a text adds it to the fragment and does nothing else. -/
theorem executeStmt_writingStmt (k line : Nat) (s : String) (h : w.WritesTo g f cs) :
    executeStmt (interpreter (k + 3)) { globals := g } (writingStmt line s) w =
      .ok .next (w.put f (.fragment (cs.push (.str s)))) := by
  have hcall := callMethod_append (interpreter k) (.str s) h.fragment
  exact executeStmt_call (readName_write (interpreter k) h) rfl hcall

/-- Statements that write texts add them to the fragment in order. -/
theorem executeBlock_writingStmts (k : Nat) (texts : List String) (line : Nat)
    (h : w.WritesTo g f cs) :
    ∃ u, executeBlock (interpreter (k + 3)) { globals := g } (writingStmts line texts) w =
        .ok .next u ∧
      u.at' f = .fragment (cs ++ (texts.map Value.str).toArray) ∧ ∀ r ≠ f, u.at' r = w.at' r := by
  induction texts generalizing w cs line with
  | nil => exact ⟨w, rfl, by simpa using h.fragment, fun _ _ => rfl⟩
  | cons s texts ih =>
    obtain ⟨u, hu, hfragment, hothers⟩ := ih (line + 1) (h.put (cs.push (.str s)))
    refine ⟨u, (bind_of_ok (executeStmt_writingStmt k line s h)).trans hu, ?_, fun r hr => ?_⟩
    · rw [hfragment]
      refine congrArg Object.fragment ?_
      simp
    · rw [hothers r hr, at'_put_of_ne hr]

/-- A fragment that holds texts is joined into them. -/
theorem join_texts {texts : List String} (h : w.at' f = .fragment (texts.map Value.str).toArray) :
    Fragment.join f w = .ok (String.join texts) w := by
  have hload : load f w = .ok (.fragment (texts.map Value.str).toArray) w := by rw [load_ok, h]
  have hchunks : Fragment.chunks f w = .ok (texts.map Value.str).toArray w := bind_of_ok hload
  have hresolved (l : List String) : (l.map Value.str).forM Fragment.checkResolved w = .ok () w := by
    induction l with
    | nil => rfl
    | cons s l ih => exact (bind_of_ok (a := ()) (u := w) rfl).trans ih
  have htexts (l : List String) (i : Nat) :
      (((l.map Value.str).zipIdx i).mapM fun p => Fragment.chunkText p.2 p.1) w = .ok l w := by
    induction l generalizing i with
    | nil => rfl
    | cons s l ih =>
      rw [List.map_cons, List.zipIdx_cons, List.mapM_cons]
      exact (bind_of_ok (a := s) (u := w) rfl).trans (bind_of_ok (ih (i + 1)))
  refine (bind_of_ok hchunks).trans ?_
  rw [List.toList_toArray]
  exact (bind_of_ok (hresolved texts)).trans (bind_of_ok (htexts texts 0))

end World

/-! ## The listing of a literal program -/

namespace Listing

variable {l : Listing} {index : Nat} {ss : List Segment}

end Listing
namespace Listing
variable {l : Listing} {texts : List String}
end Listing
namespace Template
variable {p : Program} {l : Listing} {texts : List String}
variable {m : Interpreter} {w u v : World} {context c : Value} {t : Template}

end Template

end Stencil
