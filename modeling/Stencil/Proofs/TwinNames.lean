import Stencil.Proofs.Registrations
import Stencil.Proofs.Twins

/-!
# Names that views look up

A view finds its template, its layout and the directories it looks in by names: its own overrides, the
names in its configuration and the settings. Looking these up changes nothing, and apart from the layout
none of it depends on whether the configuration uses layouts.
-/

namespace Stencil

open World Evaluation

/-- What a configuration has for a name: a text, or the absent value. -/
inductive Value.IsName : Value → Prop
  | none : IsName .none
  | text (s : String) : IsName (.str s)

/-- A configuration whose names are names. -/
structure ViewConfig.Ordinary (k : ViewConfig) : Prop where
  names : ∀ name ∈ ["template", "theme", "layout", "output_format"], ∃ x, k.get? name = some x ∧ x.IsName
  useLayout : ∃ b, k.useLayout = .bool b

/-- Settings whose names are names, with an encoding. -/
structure ViewerSettings.Ordinary (s : ViewerSettings) : Prop where
  names : ∀ name ∈ ["templates_root", "template_extension", "default_layout", "default_format"],
    (s.get name).IsName
  encoding : ∃ e, s.get "encoding" = .str e

/-- The names that a view can override. -/
def overrideNames : List String := ["_template", "_theme", "_layout", "_output_format"]

/-- The names of what a render changes of its view. -/
def progressNames : List String := ["stage", "_assets"]

namespace World

/-- What a view gives under a name that its class does not compute: what it has itself, or else the object
that its class has. -/
inductive Gives (w : World) (v : Ref) (name : String) : Value → Prop
  | own {cls : Nat} {x : Value} (hv : w.classOf? v = some cls)
      (hclass : ∀ p, w.classValue cls name ≠ some (.property p)) (hx : w.own? v name = some x) :
      w.Gives v name x
  | ofClass {cls : Nat} {k : Ref} (hv : w.classOf? v = some cls) (hown : w.own? v name = none)
      (hk : w.classValue cls name = some (.ref k)) (hfun : ∀ f, w.at' k ≠ .function f) :
      w.Gives v name (.ref k)

/-- A class that computes the attributes of views as the built-in one does. -/
structure ComputesViews (w : World) (cls : Nat) : Prop where
  properties : ∀ name ∈ View.propertyNames, w.classValue cls name = some (.property name)
  directories : w.classValue cls "templates_path_list" = some (.member "templates_path_list")
  progress : ∀ name ∈ progressNames, ∀ p, w.classValue cls name ≠ some (.property p)

/-- A view as it is meant to be: its class computes what views compute, and it has names for names, a
configuration, settings and a loader. -/
structure OrdinaryView (w : World) (v c : Ref) : Prop where
  computes : ∃ cls, w.classOf? v = some cls ∧ w.ComputesViews cls
  unshadowed : w.own? v "templates_path_list" = none
  overrides : ∀ name ∈ overrideNames, ∃ x, w.Gives v name x ∧ x.IsName
  config : w.Gives v "config" (.ref c) ∧ ∃ k : ViewConfig, w.at' c = .config k ∧ k.Ordinary
  settings : ∃ (r : Ref) (s : ViewerSettings), w.Gives v "settings" (.ref r) ∧ w.at' r = .settings s ∧
    s.Ordinary
  loader : ∃ (r : Ref) (l : Loader), w.Gives v "loader" (.ref r) ∧ w.at' r = .loader l

end World

/-- A computation comes to a name, the same one in every twin, and changes nothing. -/
abbrev Looks (c : Ref) (x : Action Value) (w : World) : Prop := Steady c x w fun a u => u = w ∧ a.IsName

section

variable {n : Nat} {c v k : Nat} {w w' u : World} {name : String} {x : Value}

theorem World.Twin.classOf? (h : w.Twin c w') {cls : Nat} (hv : w.classOf? v = some cls) :
    w'.classOf? v = some cls := by
  obtain ⟨attrs, hat⟩ := World.classOf?_eq_some hv
  rw [World.classOf?, h.at'_eq hat (by rintro k ⟨⟩)]

theorem World.Twin.own? (h : w.Twin c w') (v : Ref) (name : String) : w'.own? v name = w.own? v name := by
  by_cases hv : v = c
  · obtain ⟨k, k', hk, hk', -⟩ := h.config
    rw [World.own?, World.own?, hv, hk, hk']
  · rw [World.own?, World.own?, h.same v hv]

theorem World.Twin.not_function (h : w.Twin c w') (hk : ∀ f, w.at' k ≠ .function f) (f : Function) :
    w'.at' k ≠ .function f := by
  by_cases hkc : k = c
  · obtain ⟨config, hconfig⟩ := h.config_right
    rw [hkc, hconfig]
    rintro ⟨⟩
  · rw [h.same k hkc]
    exact hk f

theorem World.Twin.gives (h : w.Twin c w') (hx : w.Gives v name x) : w'.Gives v name x := by
  have hclass := World.classValue_congr (w := w) (u := w') h.classes
  cases hx with
  | own hv hp hx =>
    refine .own (h.classOf? hv) ?_ ((h.own? v name).trans hx)
    rwa [hclass]
  | ofClass hv hown hk hfun =>
    refine .ofClass (h.classOf? hv) ((h.own? v name).trans hown) ?_ (h.not_function hfun)
    rwa [hclass]

/-- Reading what a view gives. -/
theorem read_gives (hname : IsPlainName name) (hx : w.Gives v name x) :
    (interpreter (n + 1)).attributeOf (.ref v) name w = .ok x w := by
  cases hx with
  | own hv hclass hx => exact read_own? hv hname hclass hx
  | @ofClass cls k hv hown hk hfun =>
    obtain ⟨attrs, hat⟩ := World.classOf?_eq_some hv
    rw [World.own?_eq hat] at hown
    rw [attributeOf_class hat hname hk (by simp) hown, bindAttribute, bind_of_ok (load_ok w k)]
    generalize w.at' k = o at hfun
    cases o with
    | function f => exact absurd rfl (hfun f)
    | _ => rfl

theorem sees_gives (hname : IsPlainName name) (hx : w.Gives v name x) :
    Sees c ((interpreter (n + 1)).attributeOf (.ref v) name) x w :=
  ⟨read_gives hname hx, fun _ h => read_gives hname (h.gives hx)⟩

theorem isPlainName_property (hname : name ∈ View.propertyNames) : IsPlainName name := by
  simp only [View.propertyNames, List.mem_cons, List.not_mem_nil, or_false] at hname
  rcases hname with rfl | rfl | rfl | rfl | rfl | rfl | rfl <;> simp [IsPlainName]

theorem World.OrdinaryView.property_eq (hv : w.OrdinaryView v k) (hname : name ∈ View.propertyNames) :
    (interpreter (n + 1)).attributeOf (.ref v) name w = View.property (interpreter n) (.ref v) name w := by
  obtain ⟨cls, hcls, hcomputes⟩ := hv.computes
  obtain ⟨attrs, hat⟩ := World.classOf?_eq_some hcls
  exact attributeOf_property hat (isPlainName_property hname) (hcomputes.properties name hname)

/-- A computed attribute of a view. -/
theorem World.OrdinaryView.property {P : Value → World → Prop} (hv : w.OrdinaryView v k)
    (hname : name ∈ View.propertyNames)
    (h : Steady c (View.property (interpreter n) (.ref v) name) w P) :
    Steady c ((interpreter (n + 1)).attributeOf (.ref v) name) w P := by
  obtain ⟨cls, hcls, hcomputes⟩ := hv.computes
  obtain ⟨attrs, hat⟩ := World.classOf?_eq_some hcls
  refine h.congr (hv.property_eq hname) fun w' htwin => ?_
  refine attributeOf_property (htwin.at'_eq hat (by rintro k ⟨⟩)) (isPlainName_property hname) ?_
  rw [World.classValue_congr htwin.classes]
  exact hcomputes.properties name hname

/-! ## Names in configurations and settings -/

theorem ViewConfig.get?_of_bare {k k' : ViewConfig} (h : k'.bare = k.bare) (hname : name ≠ "use_layout") :
    k'.get? name = k.get? name := by
  have hbare (k : ViewConfig) : k.get? name = k.bare.get? name := by
    unfold ViewConfig.get? ViewConfig.bare
    split <;> first | rfl | exact absurd rfl hname
  rw [hbare, hbare k, h]

theorem sees_config {config : ViewConfig} (hk : w.at' k = .config config) (hname : IsPlainName name)
    (hlayout : k = c → name ≠ "use_layout") (hx : config.get? name = some x) :
    Sees c ((interpreter (n + 1)).attributeOf (.ref k) name) x w := by
  have hread {w : World} {config : ViewConfig} (hk : w.at' k = .config config)
      (hx : config.get? name = some x) :
      (interpreter (n + 1)).attributeOf (.ref k) name w = .ok x w := by
    rw [attributeOf_succ]
    refine readAttribute_data hk (by simp) hname ?_
    simp only [objectAttribute?, hx]
    rfl
  refine ⟨hread hk hx, fun w' h => ?_⟩
  by_cases hkc : k = c
  · obtain ⟨config₁, config₂, hleft, hright, hbare⟩ := h.config
    rw [← hkc, hk] at hleft
    cases hleft
    refine hread (hkc ▸ hright) ?_
    rwa [ViewConfig.get?_of_bare hbare (hlayout hkc)]
  · exact hread ((h.same k hkc).trans hk) hx

theorem sees_setting {r : Nat} {s : ViewerSettings} (hr : w.at' r = .settings s) (hname : IsPlainName name)
    (hfield : ViewerSettings.fieldNames.contains name = true) :
    Sees c ((interpreter (n + 1)).attributeOf (.ref r) name) (s.get name) w := by
  have hread {w : World} (hr : w.at' r = .settings s) :
      (interpreter (n + 1)).attributeOf (.ref r) name w = .ok (s.get name) w := by
    rw [attributeOf_succ]
    refine readAttribute_data hr (by simp) hname ?_
    simp only [objectAttribute?, hfield, if_true]
    rfl
  exact ⟨hread hr, fun w' h => hread (h.at'_eq hr (by rintro k ⟨⟩))⟩

theorem Sees.looks {y : Action Value} (h : Sees c y x w) (hx : x.IsName) : Looks c y w := by
  refine ⟨h.unread, fun a u hu => ?_⟩
  rw [h.here] at hu
  cases hu
  exact ⟨rfl, hx⟩

namespace World.OrdinaryView

/-- What the configuration has for a name. -/
theorem config_name (hv : w.OrdinaryView v k) (hname : name ∈ ["template", "theme", "layout", "output_format"]) :
    Looks c (View.attributeIn (interpreter (n + 1)) (.ref v) "config" name) w := by
  obtain ⟨hconfig, config, hk, hnames⟩ := hv.config
  obtain ⟨x, hx, hxname⟩ := hnames.names name hname
  refine ((sees_gives (by simp [IsPlainName]) hconfig).bind (sees_config hk ?_ ?_ hx)).looks hxname
  · simp only [List.mem_cons, List.not_mem_nil, or_false] at hname
    rcases hname with rfl | rfl | rfl | rfl <;> simp [IsPlainName]
  · rintro - rfl
    simp at hname

/-- What the settings have for a name. -/
theorem setting_name (hv : w.OrdinaryView v k)
    (hname : name ∈ ["templates_root", "template_extension", "default_layout", "default_format"]) :
    Looks c (View.attributeIn (interpreter (n + 1)) (.ref v) "settings" name) w := by
  obtain ⟨r, s, hsettings, hr, hs⟩ := hv.settings
  refine ((sees_gives (by simp [IsPlainName]) hsettings).bind (sees_setting hr ?_ ?_)).looks
    (hs.names name hname)
  · simp only [List.mem_cons, List.not_mem_nil, or_false] at hname
    rcases hname with rfl | rfl | rfl | rfl <;> simp [IsPlainName]
  · simp only [List.mem_cons, List.not_mem_nil, or_false] at hname
    rcases hname with rfl | rfl | rfl | rfl <;> decide

/-- What a view has itself for a name. -/
theorem override_name (hv : w.OrdinaryView v k) (hname : name ∈ overrideNames) :
    Looks c ((interpreter (n + 1)).attributeOf (.ref v) name) w := by
  obtain ⟨x, hx, hxname⟩ := hv.overrides name hname
  refine (sees_gives ?_ hx).looks hxname
  simp only [overrideNames, List.mem_cons, List.not_mem_nil, or_false] at hname
  rcases hname with rfl | rfl | rfl | rfl <;> simp [IsPlainName]

end World.OrdinaryView

/-! ## Names of views -/

theorem Value.IsName.truth (hx : x.IsName) : ∃ b, Sees c (truth x) b w := by
  cases hx with
  | none => exact ⟨false, rfl, fun _ _ => rfl⟩
  | text s => exact ⟨_, rfl, fun _ _ => rfl⟩

theorem Value.IsName.text_of (hx : x.IsName) : ∃ s, Sees c ((interpreter (n + 1)).text x) s w := by
  cases hx with
  | none => exact ⟨_, rfl, fun _ _ => rfl⟩
  | text s => exact ⟨s, rfl, fun _ _ => rfl⟩

/-- The first of several names that counts as true. -/
theorem firstTrue_looks {l : List (Action Value)} (hl : ∀ y ∈ l, Looks c y w) :
    Looks c (View.firstTrue l) w := by
  induction l with
  | nil => exact .pure ⟨rfl, .none⟩
  | cons y rest ih =>
    cases rest with
    | nil => exact hl y (by simp)
    | cons z rest =>
      refine (hl y (by simp)).bind fun a u hout => ?_
      obtain ⟨hu, ha⟩ := hout
      subst hu
      obtain ⟨b, hb⟩ := ha.truth (c := c) (w := u)
      refine .next hb ?_
      cases b with
      | true => exact .pure ⟨rfl, ha⟩
      | false => exact ih fun y hy => hl y (by simp [hy])

theorem Steady.raiseFault {α : Type} {f : Fault} {P : α → World → Prop} :
    Steady c (raiseFault f : Action α) w P := by
  refine .stops ((blind_raiseFault f).unread w) fun a u h => ?_
  cases h

/-- Choosing among values by what is seen of each. -/
theorem sees_filterM {f : Value → Action Bool} {l : List Value} (hf : ∀ x ∈ l, ∃ b, Sees c (f x) b w) :
    ∃ kept, Sees c (l.filterM f) kept w := by
  have haux (acc : List Value) : ∃ kept, Sees c (l.filterAuxM f acc) kept w := by
    induction l generalizing acc with
    | nil => exact ⟨acc, rfl, fun _ _ => rfl⟩
    | cons x l ih =>
      obtain ⟨b, hb⟩ := hf x (by simp)
      obtain ⟨kept, hkept⟩ := ih (fun y hy => hf y (by simp [hy])) (bif b then x :: acc else acc)
      exact ⟨kept, hb.bind hkept⟩
  obtain ⟨kept, hkept⟩ := haux []
  exact ⟨kept.reverse, hkept.bind ⟨rfl, fun _ _ => rfl⟩⟩

theorem partTexts_steady (message : String → String) (rest : List Value) :
    Steady c (rest.mapM fun x => match x.text? with
      | some s => pure s
      | none => typeName x >>= fun t => typeError (message t)) w fun _ u => u = w := by
  induction rest with
  | nil => exact .pure rfl
  | cons x rest ih =>
    rw [List.mapM_cons]
    refine Steady.bind (P := fun _ u => u = w) ?_ fun s u hu => ?_
    · cases x.text? with
      | some s => exact .pure rfl
      | none =>
        obtain ⟨t, ht⟩ := Sees.of_blind (c := c) (x := typeName x) w
        exact .next ht .raiseText
    · subst hu
      exact ih.bind fun l u hu => .pure hu

/-- Parts of a path are joined in the same way, as far as they are texts. -/
theorem joinParts_steady (parts : List Value) : Steady c (View.joinParts parts) w fun _ u => u = w := by
  cases parts with
  | nil => exact .pure rfl
  | cons first rest =>
    unfold View.joinParts
    dsimp only
    cases first.text? with
    | some s =>
      dsimp only
      rw [pure_bind]
      refine (partTexts_steady _ rest).bind fun texts u hu => ?_
      exact .pure hu
    | none =>
      obtain ⟨t, ht⟩ := Sees.of_blind (c := c) (x := typeName first) w
      refine .next ht (Steady.bind (P := fun _ _ => False) ?_ fun _ _ h => h.elim)
      exact .raiseText

namespace World.OrdinaryView

/-- The name of the content template. -/
theorem template_looks (hv : w.OrdinaryView v k) :
    Looks c (View.template (interpreter (n + 1)) (.ref v)) w := by
  have hnames : Looks c (View.firstTrue [(interpreter (n + 1)).attributeOf (.ref v) "_template",
      View.attributeIn (interpreter (n + 1)) (.ref v) "config" "template"]) w := by
    refine firstTrue_looks fun y hy => ?_
    simp only [List.mem_cons, List.not_mem_nil, or_false] at hy
    rcases hy with rfl | rfl
    · exact hv.override_name (by simp [overrideNames])
    · exact hv.config_name (by simp)
  refine hnames.bind fun a u hout => ?_
  obtain ⟨hu, ha⟩ := hout
  subst hu
  obtain ⟨b, hb⟩ := ha.truth (c := c) (w := u)
  refine .next hb ?_
  cases b with
  | true => exact .pure ⟨rfl, ha⟩
  | false =>
    obtain ⟨t, ht⟩ := Sees.of_blind (c := c) (x := typeName (.ref v)) u
    exact .next ht .raiseFault

theorem theme_looks (hv : w.OrdinaryView v k) :
    Looks c (View.theme (interpreter (n + 1)) (.ref v)) w := by
  refine firstTrue_looks fun y hy => ?_
  simp only [List.mem_cons, List.not_mem_nil, or_false] at hy
  rcases hy with rfl | rfl
  · exact hv.override_name (by simp [overrideNames])
  · exact hv.config_name (by simp)

theorem outputFormat_looks (hv : w.OrdinaryView v k) :
    Looks c (View.outputFormat (interpreter (n + 1)) (.ref v)) w := by
  refine firstTrue_looks fun y hy => ?_
  simp only [List.mem_cons, List.not_mem_nil, or_false] at hy
  rcases hy with rfl | rfl | rfl
  · exact hv.override_name (by simp [overrideNames])
  · exact hv.config_name (by simp)
  · exact hv.setting_name (by simp)

/-- The name of the layout, for twins that have the configuration of the view in common. -/
theorem layout_looks (hv : w.OrdinaryView v k) (hne : k ≠ c) :
    Looks c (View.layout (interpreter (n + 1)) (.ref v)) w := by
  obtain ⟨hconfig, config, hk, -, b, hb⟩ := hv.config
  have hget : config.get? "use_layout" = some (.bool b) := congrArg some hb
  refine .next ((sees_gives (by simp [IsPlainName]) hconfig).bind
    (sees_config hk (by simp [IsPlainName]) (fun h => absurd h hne) hget)) ?_
  refine .next (a := b) ⟨rfl, fun _ _ => rfl⟩ ?_
  cases b with
  | false => exact .pure ⟨rfl, .none⟩
  | true =>
    refine firstTrue_looks fun y hy => ?_
    simp only [List.mem_cons, List.not_mem_nil, or_false] at hy
    rcases hy with rfl | rfl | rfl
    · exact hv.override_name (by simp [overrideNames])
    · exact hv.config_name (by simp)
    · exact hv.setting_name (by simp)

/-- The directories that templates lie in. -/
theorem templateDirectories_steady (hv : w.OrdinaryView v k) :
    Steady c (View.templateDirectories (interpreter (n + 2)) (.ref v)) w fun _ u => u = w := by
  refine (hv.setting_name (by simp)).bind fun root u hout => ?_
  obtain ⟨hu, hroot⟩ := hout
  subst hu
  refine (hv.property (by simp [View.propertyNames]) hv.theme_looks).bind fun theme u' hout => ?_
  obtain ⟨hu, htheme⟩ := hout
  subst hu
  obtain ⟨b, hb⟩ := hroot.truth (c := c) (w := u')
  obtain ⟨b', hb'⟩ := htheme.truth (c := c) (w := u')
  obtain ⟨kept, hkept⟩ := sees_filterM (f := truth) (l := [root, theme]) (c := c) (w := u') fun x hx => by
    simp only [List.mem_cons, List.not_mem_nil, or_false] at hx
    rcases hx with rfl | rfl
    · exact hroot.truth
    · exact htheme.truth
  refine ⟨hkept.unread, fun a u hu => ?_⟩
  rw [hkept.here] at hu
  cases hu
  rfl

theorem listedDirectories_steady (hv : w.OrdinaryView v k) :
    Steady c (View.listedDirectories (interpreter (n + 2)) (.ref v)) w fun _ u => u = w := by
  obtain ⟨cls, hcls, hcomputes⟩ := hv.computes
  obtain ⟨attrs, hat⟩ := World.classOf?_eq_some hcls
  have hun := hv.unshadowed
  rw [World.own?_eq hat] at hun
  have hread {w : World} (hat : w.at' v = .instance cls attrs)
      (hclass : w.classValue cls "templates_path_list" = some (.member "templates_path_list")) :
      (interpreter (n + 2)).attributeOf (.ref v) "templates_path_list" w =
        .ok (.method (.ref v) "templates_path_list") w := by
    rw [attributeOf_class hat (by simp [IsPlainName]) hclass (by simp) hun]
    rfl
  refine .next (a := .method (.ref v) "templates_path_list") ⟨hread hat hcomputes.directories, fun w' h => ?_⟩ ?_
  · refine hread (h.at'_eq hat (by rintro k ⟨⟩)) ?_
    rw [World.classValue_congr h.classes]
    exact hcomputes.directories
  · exact hv.templateDirectories_steady.bind fun parts u hu => .pure hu

/-- The path of a template by its name. -/
theorem pathFor_looks (hv : w.OrdinaryView v k) (hx : x.IsName) :
    Looks c (View.pathFor (interpreter (n + 2)) (.ref v) x) w := by
  obtain ⟨s, hs⟩ := hx.text_of (n := n + 1) (c := c) (w := w)
  refine .next hs ?_
  refine (hv.property (by simp [View.propertyNames]) hv.outputFormat_looks).bind fun format u hout => ?_
  obtain ⟨hu, hf⟩ := hout
  subst hu
  obtain ⟨format, hformat⟩ := hf.text_of (n := n + 1) (c := c) (w := u)
  refine .next hformat ?_
  refine (hv.setting_name (by simp)).bind fun extension u hout => ?_
  obtain ⟨hu, he⟩ := hout
  subst hu
  obtain ⟨extension, hextension⟩ := he.text_of (n := n + 1) (c := c) (w := u)
  refine .next hextension ?_
  refine hv.listedDirectories_steady.bind fun parts u hu => ?_
  subst hu
  cases parts with
  | none => exact .pure ⟨rfl, .text _⟩
  | some parts => exact (joinParts_steady _).bind fun path u hu => .pure ⟨hu, .text path⟩

/-- The path of the content template. -/
theorem template_path (hv : w.OrdinaryView v k) :
    Looks c ((interpreter (n + 3)).attributeOf (.ref v) "template_path") w := by
  refine hv.property (by simp [View.propertyNames]) ?_
  refine (hv.property (by simp [View.propertyNames]) hv.template_looks).bind fun name u hout => ?_
  obtain ⟨hu, hname⟩ := hout
  subst hu
  exact hv.pathFor_looks hname

/-- The path of the layout, for twins that have the configuration of the view in common. -/
theorem layout_path (hv : w.OrdinaryView v k) (hne : k ≠ c) :
    Looks c ((interpreter (n + 3)).attributeOf (.ref v) "layout_path") w := by
  refine hv.property (by simp [View.propertyNames]) ?_
  refine (hv.property (by simp [View.propertyNames]) (hv.layout_looks hne)).bind
    fun name u hout => ?_
  obtain ⟨hu, hname⟩ := hout
  subst hu
  obtain ⟨b, hb⟩ := hname.truth (c := c) (w := u)
  refine .next hb ?_
  cases b with
  | true => exact hv.pathFor_looks hname
  | false => exact .pure ⟨rfl, .none⟩

/-- Reading the path of the layout changes nothing. -/
theorem layout_path_eq_ok (hv : w.OrdinaryView v k)
    (h : (interpreter (n + 3)).attributeOf (.ref v) "layout_path" w = .ok x u) : u = w ∧ x.IsName := by
  -- There is no configuration where no object is.
  obtain ⟨-, config, hk, -⟩ := hv.config
  have hlt : k < w.objects.size := lt_size_of_at' hk (by rintro ⟨⟩)
  exact (hv.layout_path (Nat.ne_of_lt hlt)).ends x u h

/-- A view whose configuration uses no layouts has no path of a layout. -/
theorem layout_path_off (hv : w.OrdinaryView v k) {config : ViewConfig} (hk : w.at' k = .config config)
    (hoff : config.useLayout = .bool false) :
    (interpreter (n + 3)).attributeOf (.ref v) "layout_path" w = .ok .none w := by
  obtain ⟨hconfig, -⟩ := hv.config
  have hget : config.get? "use_layout" = some (.bool false) := congrArg some hoff
  have huse : View.attributeIn (interpreter (n + 1)) (.ref v) "config" "use_layout" w =
      .ok (.bool false) w := by
    refine (bind_of_ok (read_gives (by simp [IsPlainName]) hconfig)).trans ?_
    exact (sees_config (c := w.objects.size) hk (by simp [IsPlainName])
      (fun h => absurd h (Nat.ne_of_lt (lt_size_of_at' hk (by rintro ⟨⟩)))) hget).here
  have hlayout : (interpreter (n + 2)).attributeOf (.ref v) "layout" w = .ok .none w :=
    (hv.property_eq (by simp [View.propertyNames])).trans (bind_of_ok huse)
  rw [hv.property_eq (by simp [View.propertyNames])]
  exact bind_of_ok hlayout

/-- The encoding of a render is a text, the one that is asked for or that of the settings. -/
theorem encodingFor_sees (hv : w.OrdinaryView v k) (hx : x.IsName) :
    ∃ e, Sees c (View.encodingFor (interpreter (n + 1)) (.ref v) x) (.str e) w := by
  obtain ⟨r, s, hsettings, hr, hs⟩ := hv.settings
  obtain ⟨e, he⟩ := hs.encoding
  have hread : Sees c (View.attributeIn (interpreter (n + 1)) (.ref v) "settings" "encoding")
      (s.get "encoding") w :=
    (sees_gives (by simp [IsPlainName]) hsettings).bind
      (sees_setting hr (by simp [IsPlainName]) (by decide))
  rw [he] at hread
  have hasked : Sees c (pure x : Action Value) x w := ⟨rfl, fun _ _ => rfl⟩
  cases hx with
  | none => exact ⟨e, hasked.bind (Sees.bind (a := false) ⟨rfl, fun _ _ => rfl⟩ hread)⟩
  | text t =>
    obtain ⟨b, hb⟩ := (Value.IsName.text t).truth (c := c) (w := w)
    cases b with
    | true => exact ⟨t, hasked.bind (hb.bind ⟨rfl, fun _ _ => rfl⟩)⟩
    | false => exact ⟨e, hasked.bind (hb.bind hread)⟩

end World.OrdinaryView

end

end Stencil
