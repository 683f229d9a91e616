import Mathlib.Data.List.Forall2
import Stencil.Proofs.Traversals
import Stencil.Settings.Schema

/-!
# Values of declared types

A value that is taken for a setting is of its type, and it is taken again as it is; only texts are ever
read as something else. A value that is refused is a fault of the setting. Data gives a value to every
field or fails at the first one that has none.
-/

namespace Stencil.Settings

/-- The values of a type without parameters. -/
inductive Plain.IsOf : Plain → Datum → Prop
  | text (s : String) : IsOf .text (.str s)
  | whole (i : Int) : IsOf .whole (.int i)
  | wholeTruth (b : Bool) : IsOf .whole (.bool b)
  | decimal (x : Float) : IsOf .decimal (.float x)
  | truth (b : Bool) : IsOf .truth (.bool b)
  | table (es : List (Datum × Datum)) : IsOf .table (.dict es)
  | list (ds : List Datum) : IsOf .list (.list ds)

/-- The values of a type. -/
inductive Kind.IsOf : Kind → Datum → Prop
  | plain {p : Plain} {d : Datum} (h : p.IsOf d) : IsOf (.plain p) d
  | list (name : String) (ds : List Datum) : IsOf (.listOf none name) (.list ds)
  | listOf {p : Plain} {ds : List Datum} (name : String) (h : ∀ d ∈ ds, p.IsOf d) :
    IsOf (.listOf (some p) name) (.list ds)
  | anything (name : String) (d : Datum) : IsOf (.anything name) d

theorem Plain.has_iff {p : Plain} {d : Datum} : p.has d = true ↔ p.IsOf d := by
  constructor
  · intro h
    cases p <;> cases d <;> first | constructor | cases h
  · rintro ⟨⟩ <;> rfl

theorem Kind.has_iff {kind : Kind} {d : Datum} : kind.has d = true ↔ kind.IsOf d := by
  constructor
  · intro h
    cases kind with
    | plain p => exact .plain (Plain.has_iff.1 h)
    | anything name => exact .anything name d
    | listOf item name =>
      cases d with
      | list ds =>
        cases item with
        | none => exact .list name ds
        | some p => exact .listOf name fun d hd => Plain.has_iff.1 (List.all_eq_true.1 h d hd)
      | _ => cases item <;> cases h
  · intro h
    cases h with
    | plain hp => exact Plain.has_iff.2 hp
    | list name ds => rfl
    | listOf name hds => exact List.all_eq_true.2 fun d hd => Plain.has_iff.2 (hds d hd)
    | anything name d => rfl

/-! ## Taking values -/

variable {kind : Kind} {d d' : Datum} {key : String}

theorem check_eq_ok : check kind d = .ok d' ↔ kind.IsOf d ∧ d = d' := by
  rw [check, ← Kind.has_iff]
  split
  · rename_i h
    simp [h]
  · rename_i h
    simp [h]

theorem take_of_not_text (h : ∀ s, d ≠ .str s) : take kind d = check kind d := by
  cases d with
  | str s => exact absurd rfl (h s)
  | _ => rfl

theorem take_text_eq_ok {s : String} :
    take kind (.str s) = .ok d ↔ ofText kind s = .ok d ∧ kind.IsOf d := by
  rw [take]
  cases ofText kind s with
  | error e => simp [bind, Except.bind]
  | ok d₀ =>
    change check kind d₀ = .ok d ↔ _
    rw [check_eq_ok, Except.ok.injEq]
    constructor
    · rintro ⟨h, rfl⟩
      exact ⟨rfl, h⟩
    · rintro ⟨rfl, h⟩
      exact ⟨h, rfl⟩

/-- A text that is read as a text stays what it is. -/
theorem eq_of_ofText {s s' : String} (h : ofText kind s = .ok (.str s')) : s' = s := by
  cases kind with
  | listOf item name => cases h
  | anything name =>
    cases h
    rfl
  | plain p =>
    cases p with
    | truth =>
      rw [ofText] at h
      split at h <;> cases h
    | whole =>
      rw [ofText] at h
      split at h <;> cases h
    | decimal =>
      rw [ofText] at h
      split at h <;> cases h
    | _ =>
      cases h
      rfl

theorem isOf_of_take (h : take kind d = .ok d') : kind.IsOf d' := by
  cases d with
  | str s => exact (take_text_eq_ok.1 h).2
  | _ =>
    obtain ⟨hof, rfl⟩ := check_eq_ok.1 h
    exact hof

/-- What is taken is taken again as it is. -/
theorem take_take (h : take kind d = .ok d') : take kind d' = .ok d' := by
  by_cases htext : ∃ s', d' = .str s'
  · obtain ⟨s', rfl⟩ := htext
    cases d with
    | str s => rwa [← eq_of_ofText (take_text_eq_ok.1 h).1] at h
    | _ =>
      obtain ⟨-, heq⟩ := check_eq_ok.1 h
      cases heq
  · rw [take_of_not_text fun s hs => htext ⟨s, hs⟩]
    exact check_eq_ok.2 ⟨isOf_of_take h, rfl⟩

/-- A fault that says which setting has a value that it cannot take. -/
def Blames (e : Fault) (key : String) : Prop := e.kind = .configInvalid ∧ ("key", .str key) ∈ e.metadata

theorem configInvalid_blames (key reason : String) : Blames (Fault.configInvalid key reason) key :=
  ⟨rfl, List.mem_cons_self⟩

theorem coerce_eq_ok : coerce key kind d = .ok d' ↔ take kind d = .ok d' := by
  rw [coerce]
  cases take kind d <;> simp [Except.mapError]

theorem coerce_blames {e : Fault} (h : coerce key kind d = .error e) : Blames e key := by
  rw [coerce] at h
  cases htake : take kind d with
  | ok d' =>
    rw [htake] at h
    cases h
  | error r =>
    rw [htake] at h
    cases h
    exact configInvalid_blames key r.message

/-! ## Fields -/

namespace Field

/-- Data gives a value to a field: one that can be taken, or the default of an absent field. -/
inductive Gives (f : Field) (data : Table) : Datum → Prop
  | present {d d' : Datum} (h : Datum.lookup data (.str f.name) = some d)
    (htake : coerce f.name f.kind d = .ok d') : Gives f data d'
  | absent {d : Datum} (h : Datum.lookup data (.str f.name) = none) (hdefault : f.default = some d) :
    Gives f data d

/-- A field fails on data: its value is refused, or it is absent and required. -/
inductive Fails (f : Field) (data : Table) : Fault → Prop
  | refused {d : Datum} {e : Fault} (h : Datum.lookup data (.str f.name) = some d)
    (hrefuse : coerce f.name f.kind d = .error e) : Fails f data e
  | missing (h : Datum.lookup data (.str f.name) = none) (hdefault : f.default = none) :
    Fails f data (Fault.configInvalid f.name "required setting not provided")

variable {f : Field} {data : Table}

theorem read_eq_ok : f.read data = .ok d ↔ f.Gives data d := by
  constructor
  · intro h
    rw [read] at h
    split at h
    · rename_i hpresent
      exact .present hpresent h
    · rename_i habsent hdefault
      cases h
      exact .absent habsent hdefault
    · cases h
  · intro h
    cases h with
    | present h htake => rw [read, h]; exact htake
    | absent h hdefault => rw [read, h, hdefault]

theorem read_eq_error {e : Fault} : f.read data = .error e ↔ f.Fails data e := by
  constructor
  · intro h
    rw [read] at h
    split at h
    · rename_i hpresent
      exact .refused hpresent h
    · cases h
    · rename_i habsent hdefault
      cases h
      exact .missing habsent hdefault
  · intro h
    cases h with
    | refused h hrefuse => rw [read, h]; exact hrefuse
    | missing h hdefault => rw [read, h, hdefault]

theorem Fails.blames {e : Fault} (h : f.Fails data e) : Blames e f.name := by
  cases h with
  | refused h hrefuse => exact coerce_blames hrefuse
  | missing h hdefault => exact configInvalid_blames _ _

end Field

/-! ## Declared settings -/

variable {fields : List Field} {data : Table}

theorem readFields_eq_ok {vs : Values} : readFields fields data = .ok vs ↔
    List.Forall₂ (fun f v => v.1 = f.name ∧ f.Gives data v.2) fields vs := by
  have hstep (f : Field) (v : String × Datum) :
      (f.read data).map (fun d => (f.name, d)) = .ok v ↔ v.1 = f.name ∧ f.Gives data v.2 := by
    rw [← Field.read_eq_ok]
    cases f.read data with
    | error e => simp [Except.map]
    | ok d =>
      obtain ⟨name, d'⟩ := v
      simp only [Except.map, Except.ok.injEq, Prod.mk.injEq]
      exact and_congr_left' eq_comm
  rw [readFields, Traversal.mapM_eq_ok_iff, ← List.forall₂_eq_eq_eq, List.forall₂_map_left_iff,
    List.forall₂_map_right_iff]
  simp only [hstep]

theorem exists_named_eq_ok {f : Field} :
    (∃ v, (f.read data).map (fun d => (f.name, d)) = .ok v) ↔ ∃ d, f.Gives data d := by
  simp only [← Field.read_eq_ok]
  cases f.read data <;> simp [Except.map]

theorem named_eq_error {f : Field} {e : Fault} :
    (f.read data).map (fun d => (f.name, d)) = .error e ↔ f.Fails data e := by
  rw [← Field.read_eq_error]
  cases f.read data <;> simp [Except.map]

theorem exists_readFields_eq_ok :
    (∃ vs, readFields fields data = .ok vs) ↔ ∀ f ∈ fields, ∃ d, f.Gives data d := by
  unfold readFields
  rw [Traversal.exists_mapM_eq_ok]
  exact forall₂_congr fun f _ => exists_named_eq_ok

theorem readFields_eq_error {e : Fault} : readFields fields data = .error e ↔
    ∃ before f after, fields = before ++ f :: after ∧ (∀ g ∈ before, ∃ d, g.Gives data d) ∧
      f.Fails data e := by
  rw [readFields, Traversal.mapM_eq_error_iff]
  simp only [exists_named_eq_ok, named_eq_error]

/-- The outcome of a schema is that of its fields. -/
theorem read_record_eq_ok {vs : Values} :
    (Schema.record fields).read data = .ok vs ↔ readFields fields data = .ok vs := by
  rw [Schema.read]
  cases readFields fields data <;> simp [Except.mapError]

theorem read_record_eq_error {x : SchemaError} : (Schema.record fields).read data = .error x ↔
    ∃ e, readFields fields data = .error e ∧ x = .fault e := by
  rw [Schema.read]
  cases readFields fields data <;> simp [Except.mapError, eq_comm]

/-- Coercion gives a value of the type that it leaves alone, or a fault of the setting; only texts are
ever read as something else. A schema gives a value to every field, or it fails as its first field that
has none. -/
theorem coercion_sound (fields : List Field) (data : Table) :
    (∀ key kind d, (∃ e, coerce key kind d = .error e ∧ Blames e key) ∨
      ∃ d', coerce key kind d = .ok d' ∧ kind.IsOf d' ∧ coerce key kind d' = .ok d') ∧
    (∀ key kind d, (∀ s, d ≠ .str s) → ∀ d', coerce key kind d = .ok d' ↔ kind.IsOf d ∧ d' = d) ∧
    ((∃ vs, (Schema.record fields).read data = .ok vs) ↔ ∀ f ∈ fields, ∃ d, f.Gives data d) ∧
    (∀ vs, (Schema.record fields).read data = .ok vs →
      List.Forall₂ (fun f v => v.1 = f.name ∧ f.Gives data v.2) fields vs) ∧
    ∀ x, (Schema.record fields).read data = .error x ↔
      ∃ before f after e, fields = before ++ f :: after ∧ (∀ g ∈ before, ∃ d, g.Gives data d) ∧
        f.Fails data e ∧ Blames e f.name ∧ x = .fault e := by
  refine ⟨fun key kind d => ?_, fun key kind d hd d' => ?_, ?_, fun vs h => ?_, fun x => ?_⟩
  · cases h : coerce key kind d with
    | error e => exact .inl ⟨e, rfl, coerce_blames h⟩
    | ok d' =>
      have htake := coerce_eq_ok.1 h
      exact .inr ⟨d', rfl, isOf_of_take htake, coerce_eq_ok.2 (take_take htake)⟩
  · rw [coerce_eq_ok, take_of_not_text hd, check_eq_ok, eq_comm (a := d)]
  · simp only [read_record_eq_ok]
    exact exists_readFields_eq_ok
  · exact readFields_eq_ok.1 (read_record_eq_ok.1 h)
  · rw [read_record_eq_error]
    constructor
    · rintro ⟨e, he, rfl⟩
      obtain ⟨before, f, after, hfields, hbefore, hf⟩ := readFields_eq_error.1 he
      exact ⟨before, f, after, e, hfields, hbefore, hf, hf.blames, rfl⟩
    · rintro ⟨before, f, after, e, hfields, hbefore, hf, -, rfl⟩
      exact ⟨e, readFields_eq_error.2 ⟨before, f, after, hfields, hbefore, hf⟩, rfl⟩

end Stencil.Settings
