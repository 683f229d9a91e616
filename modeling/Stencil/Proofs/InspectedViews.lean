import Stencil.Proofs.Inspection
import Stencil.Proofs.TwinTexts

/-!
# Inspecting views

Whether a view is ordinary can be computed: what it gives under each name is looked up, and is of the kind
that views are made with.
-/

namespace Stencil

open World Evaluation Script

/-- Whether a value is one that names have. -/
def Value.isName : Value → Bool
  | .none | .str _ => true
  | _ => false

theorem Value.isName_iff {x : Value} : x.isName = true ↔ x.IsName := by
  constructor
  · intro h
    cases x with
    | none => exact .none
    | str s => exact .text s
    | _ => cases h
  · rintro (_ | _) <;> rfl

/-- Whether the names of a configuration are names. -/
def ViewConfig.isOrdinary (k : ViewConfig) : Bool :=
  (["template", "theme", "layout", "output_format"].all fun name => (k.get? name).any (·.isName)) &&
    match k.useLayout with
    | .bool _ => true
    | _ => false

theorem ViewConfig.ordinary_of_isOrdinary {k : ViewConfig} (h : k.isOrdinary = true) : k.Ordinary := by
  obtain ⟨hnames, huse⟩ := Bool.and_eq_true_iff.1 h
  refine ⟨fun name hname => ?_, ?_⟩
  · obtain ⟨x, hx, hxname⟩ := (Option.any_eq_true _ _).1 (List.all_eq_true.1 hnames name hname)
    exact ⟨x, hx, Value.isName_iff.1 hxname⟩
  · split at huse
    · rename_i b hb
      exact ⟨b, hb⟩
    · cases huse

/-- Whether the names of settings are names, with an encoding. -/
def ViewerSettings.isOrdinary (s : ViewerSettings) : Bool :=
  (["templates_root", "template_extension", "default_layout", "default_format"].all fun name =>
    (s.get name).isName) &&
    match s.get "encoding" with
    | .str _ => true
    | _ => false

theorem ViewerSettings.ordinary_of_isOrdinary {s : ViewerSettings} (h : s.isOrdinary = true) :
    s.Ordinary := by
  obtain ⟨hnames, hencoding⟩ := Bool.and_eq_true_iff.1 h
  refine ⟨fun name hname => Value.isName_iff.1 (List.all_eq_true.1 hnames name hname), ?_⟩
  split at hencoding
  · rename_i e he
    exact ⟨e, he⟩
  · cases hencoding

namespace World

/-- Whether a place has no function. -/
def isPlain (w : World) (k : Ref) : Bool :=
  match w.at' k with
  | .function _ => false
  | _ => true

/-- What a view gives under a name that its class does not compute. -/
def given? (w : World) (v : Ref) (name : String) : Option Value :=
  match w.classOf? v with
  | none => none
  | some cls =>
    match w.own? v name with
    | some x => if w.isComputed cls name then none else some x
    | none =>
      match w.classValue cls name with
      | some (.ref k) => if w.isPlain k then some (.ref k) else none
      | _ => none

/-- Whether a class computes the attributes of views as the built-in one does. -/
def computesViews? (w : World) (cls : Nat) : Bool :=
  (View.propertyNames.all fun name =>
    match w.classValue cls name with
    | some (.property p) => p == name
    | _ => false) &&
  (match w.classValue cls "templates_path_list" with
    | some (.member f) => f == "templates_path_list"
    | _ => false) &&
  progressNames.all fun name => !w.isComputed cls name

/-- Whether a view gives an object of a kind under a name. -/
def givesObject? (w : World) (v : Ref) (name : String) (p : Ref → Object → Bool) : Bool :=
  match w.given? v name with
  | some (.ref r) => p r (w.at' r)
  | _ => false

/-- Whether a view is as it is meant to be, with its configuration at a place. -/
def ordinary? (w : World) (v c : Ref) : Bool :=
  (w.classOf? v).any w.computesViews? && (w.own? v "templates_path_list").isNone &&
  (overrideNames.all fun name => (w.given? v name).any (·.isName)) &&
  (w.givesObject? v "config" fun r o => r == c &&
    match o with
    | .config k => k.isOrdinary
    | _ => false) &&
  (w.givesObject? v "settings" fun _ o =>
    match o with
    | .settings s => s.isOrdinary
    | _ => false) &&
  w.givesObject? v "loader" fun _ o => o matches .loader _

/-- Whether a view has a bundle for what is registered on it. -/
def hasRegistered? (w : World) (v : Ref) : Bool :=
  (w.bundled? v "_registered").isSome && (w.classOf? v).any fun cls => !w.isComputed cls "_registered"

/-- Whether a view has the method of its class that sees each value before it is written. -/
def hooksItself? (w : World) (v : Ref) : Bool :=
  (w.own? v "hook").isNone && (w.classOf? v).any fun cls =>
    (w.classAt' cls).kind == .view &&
      match w.classValue cls "hook" with
      | some (.member f) => f == "hook"
      | _ => false

variable {w : World} {v c : Ref} {cls : Nat} {name : String} {x : Value}

theorem gives_of_given? (h : w.given? v name = some x) : w.Gives v name x := by
  unfold given? at h
  split at h
  · cases h
  · rename_i cls hcls
    split at h
    · rename_i y hy
      split at h
      · cases h
      · rename_i hcomputed
        cases h
        exact .own hcls (isComputed_eq_false (Bool.eq_false_iff.2 hcomputed)) hy
    · rename_i hown
      split at h
      · rename_i k hk
        split at h
        · rename_i hplain
          cases h
          refine .ofClass hcls hown hk fun f hf => ?_
          rw [isPlain, hf] at hplain
          cases hplain
        · cases h
      · cases h

theorem computesViews_of_computesViews? (h : w.computesViews? cls = true) : w.ComputesViews cls := by
  simp only [computesViews?, Bool.and_eq_true] at h
  obtain ⟨⟨hproperties, hdirectories⟩, hprogress⟩ := h
  refine ⟨fun name hname => ?_, ?_, fun name hname => ?_⟩
  · have hproperty := List.all_eq_true.1 hproperties name hname
    split at hproperty
    · rename_i p hp
      rw [hp, beq_iff_eq.1 hproperty]
    · cases hproperty
  · split at hdirectories
    · rename_i f hf
      rw [hf, beq_iff_eq.1 hdirectories]
    · cases hdirectories
  · have hcomputed := List.all_eq_true.1 hprogress name hname
    exact isComputed_eq_false (by simpa using hcomputed)

theorem gives_of_givesObject? {p : Ref → Object → Bool} (h : w.givesObject? v name p = true) :
    ∃ r, w.Gives v name (.ref r) ∧ p r (w.at' r) = true := by
  unfold givesObject? at h
  split at h
  · rename_i r hr
    exact ⟨r, gives_of_given? hr, h⟩
  · cases h

theorem ordinaryView_of_ordinary? (h : w.ordinary? v c = true) : w.OrdinaryView v c := by
  simp only [ordinary?, Bool.and_eq_true] at h
  obtain ⟨⟨⟨⟨⟨hcomputes, hun⟩, hoverrides⟩, hconfig⟩, hsettings⟩, hloader⟩ := h
  refine ⟨?_, Option.isNone_iff_eq_none.1 hun, fun name hname => ?_, ?_, ?_, ?_⟩
  · obtain ⟨cls, hcls, hcomputes⟩ := (Option.any_eq_true _ _).1 hcomputes
    exact ⟨cls, hcls, computesViews_of_computesViews? hcomputes⟩
  · obtain ⟨x, hx, hxname⟩ := (Option.any_eq_true _ _).1 (List.all_eq_true.1 hoverrides name hname)
    exact ⟨x, gives_of_given? hx, Value.isName_iff.1 hxname⟩
  · obtain ⟨r, hgives, hplace⟩ := gives_of_givesObject? hconfig
    obtain ⟨hrc, hr⟩ := Bool.and_eq_true_iff.1 hplace
    split at hr
    · rename_i k hk
      exact ⟨beq_iff_eq.1 hrc ▸ hgives, k, beq_iff_eq.1 hrc ▸ hk, ViewConfig.ordinary_of_isOrdinary hr⟩
    · cases hr
  · obtain ⟨r, hgives, hr⟩ := gives_of_givesObject? hsettings
    split at hr
    · rename_i s hs
      exact ⟨r, s, hgives, hs, ViewerSettings.ordinary_of_isOrdinary hr⟩
    · cases hr
  · obtain ⟨r, hgives, hr⟩ := gives_of_givesObject? hloader
    split at hr
    · rename_i l hl
      exact ⟨r, l, hgives, hl⟩
    · cases hr

theorem hasRegistered_of_hasRegistered? (h : w.hasRegistered? v = true) : w.HasRegistered v := by
  obtain ⟨hbundled, hclass⟩ := Bool.and_eq_true_iff.1 h
  obtain ⟨refs, hrefs⟩ := Option.isSome_iff_exists.1 hbundled
  obtain ⟨b, css, js, hown, hparts, ⟨kind, hcss⟩, ⟨kind', hjs⟩⟩ := bundled?_eq_some hrefs
  obtain ⟨cls, hcls, hcomputed⟩ := (Option.any_eq_true _ _).1 hclass
  refine ⟨b, .own hcls (isComputed_eq_false (by simpa using hcomputed)) hown, ?_⟩
  exact ⟨css, js, kind, kind', _, _, hparts, hcss, hjs⟩

theorem hooksItself_of_hooksItself? (h : w.hooksItself? v = true) : w.HooksItself v := by
  obtain ⟨hown, hclass⟩ := Bool.and_eq_true_iff.1 h
  obtain ⟨cls, hcls, hclass⟩ := (Option.any_eq_true _ _).1 hclass
  obtain ⟨hkind, hhook⟩ := Bool.and_eq_true_iff.1 hclass
  refine ⟨cls, hcls, beq_iff_eq.1 hkind, ?_, Option.isNone_iff_eq_none.1 hown⟩
  split at hhook
  · rename_i f hf
    rw [hf, beq_iff_eq.1 hhook]
  · cases hhook

end World

end Stencil
