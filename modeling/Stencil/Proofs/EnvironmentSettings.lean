import Stencil.Proofs.SettingLayers

/-!
# Settings of a viewer in the environment

Every setting of a viewer has a text, and a variable with this text in the environment gives the setting
back, whatever else the text looks like. Search paths are joined by colons, so they come back when none
of them is empty or has a colon. Overrides give back the values that they have.
-/

namespace Stencil.Settings

/-- The settings of a viewer with their types. -/
structure TypedSettings where
  templatesRoot : String
  templateExtension : String
  defaultLayout : String
  defaultFormat : String
  encoding : String
  searchPaths : List String

namespace TypedSettings

/-- The settings by name, with something for the search paths. -/
def entries (s : TypedSettings) (paths : Datum) : Values :=
  [("templates_root", .str s.templatesRoot), ("template_extension", .str s.templateExtension),
    ("default_layout", .str s.defaultLayout), ("default_format", .str s.defaultFormat),
    ("encoding", .str s.encoding), ("search_paths", paths)]

/-- The values of the settings. -/
def values (s : TypedSettings) : Values := s.entries (.list (s.searchPaths.map .str))

/-- The text of the search paths. -/
def joinedPaths (s : TypedSettings) : String := ":".intercalate s.searchPaths

/-- The texts of the settings. -/
def texts (s : TypedSettings) : List (String × String) :=
  [("templates_root", s.templatesRoot), ("template_extension", s.templateExtension),
    ("default_layout", s.defaultLayout), ("default_format", s.defaultFormat),
    ("encoding", s.encoding), ("search_paths", s.joinedPaths)]

/-- The name of the variable for a setting. -/
def variableName (name : String) : String := "VIEWER_" ++ Text.upper name

/-- The variables of an environment for the settings have their texts, and no other variable is for one
of them. -/
structure SetBy (s : TypedSettings) (env : List Variable) : Prop where
  present : ∀ e ∈ s.texts,
    Variable.last? env (variableName e.1) = some ⟨variableName e.1, some e.2⟩
  only : ∀ u ∈ env, ∀ e ∈ s.texts, ∀ value, u.Writes "VIEWER_" e.1 value →
    u.name = variableName e.1

end TypedSettings

/-! ## Texts of paths -/

/-- Paths that are joined by colons are read one by one. -/
theorem readParts_intercalate {paths : List String} (h : ∀ p ∈ paths, p ≠ "" ∧ ':' ∉ p.toList) :
    readParts (":".intercalate paths) = paths := by
  unfold readParts
  rw [String.toList_intercalate, ← Text.joinWith_eq_intercalate]
  have hfull : ∀ l ∈ paths.map String.toList, (!l.isEmpty) = true := by
    intro l hl
    obtain ⟨p, hp, rfl⟩ := List.mem_map.1 hl
    simpa using (h p hp).1
  have hcut : (Text.cutAt ':' (Text.joinWith ":".toList (paths.map String.toList))).filter (!·.isEmpty) =
      paths.map String.toList := by
    cases paths with
    | nil => rfl
    | cons p ps =>
      rw [show ":".toList = [':'] from rfl, Text.cutAt_joinWith (by simp), List.filter_eq_self.2 hfull]
      intro l hl
      obtain ⟨p', hp', rfl⟩ := List.mem_map.1 hl
      exact (h p' hp').2
  rw [hcut, List.map_map]
  refine List.map_id'' (fun p => ?_) paths
  exact String.ofList_toList

theorem coerce_paths (key : String) (paths : List String) :
    coerce key .texts (.list (paths.map .str)) = .ok (.list (paths.map .str)) := by
  have hall : (paths.map Datum.str).all (Plain.has .text) = true := by
    rw [List.all_map, List.all_eq_true]
    exact fun _ _ => rfl
  have hhas : Kind.texts.has (.list (paths.map .str)) = true := hall
  rw [coerce, take, check, if_pos hhas]
  · rfl
  · rintro s ⟨⟩

theorem coerce_paths_text (key : String) {paths : List String}
    (h : ∀ p ∈ paths, p ≠ "" ∧ ':' ∉ p.toList) :
    coerce key .texts (.str (":".intercalate paths)) = .ok (.list (paths.map .str)) := by
  have hparts := readParts_intercalate h
  rw [← coerce_paths key paths, coerce, take, Kind.texts, ofText, hparts]
  rfl

/-! ## Reading the settings back -/

theorem read_of_lookup {name : String} {t : Table} {d : Datum} (kind : Kind) (default : Option Datum)
    (h : Datum.lookup t (.str name) = some d) :
    (Field.mk name kind default).read t = coerce name kind d := by
  rw [Field.read, h]

namespace TypedSettings

variable {s : TypedSettings} {env : List Variable}

/-- Data with all settings reads as these, when the search paths are taken. -/
theorem read_entries {t : Table} (paths : Datum)
    (h : ∀ e ∈ s.entries paths, Datum.lookup t (.str e.1) = some e.2)
    (hpaths : coerce "search_paths" .texts paths = .ok (.list (s.searchPaths.map .str))) :
    (Schema.record viewerFields).read t = .ok s.values := by
  have hread : readFields viewerFields t = .ok s.values := by
    rw [readFields, Traversal.mapM_eq_ok_iff]
    simp only [entries, List.forall_mem_cons] at h
    obtain ⟨h₁, h₂, h₃, h₄, h₅, h₆, -⟩ := h
    simp only [viewerFields, values, entries, List.map_cons, List.map_nil, read_of_lookup _ _ h₁,
      read_of_lookup _ _ h₂, read_of_lookup _ _ h₃, read_of_lookup _ _ h₄, read_of_lookup _ _ h₅,
      read_of_lookup _ _ h₆, hpaths]
    rfl
  rw [Schema.read, hread]
  rfl

theorem lower_upper_name {e : String × String} (he : e ∈ s.texts) :
    Text.lower (Text.upper e.1) = e.1 := by
  have hnames : ∀ name ∈ ["templates_root", "template_extension", "default_layout", "default_format",
      "encoding", "search_paths"], Text.lower (Text.upper name) = name := by
    decide +kernel
  exact hnames e.1 (List.mem_map_of_mem (f := Prod.fst) he)

/-- The variable with the text of a setting is the last one for it. -/
theorem SetBy.lastWrites (h : s.SetBy env) {e : String × String} (he : e ∈ s.texts) :
    Variable.LastWrites "VIEWER_" env e.1 e.2 := by
  have hlast := h.present e he
  have hthere : ⟨variableName e.1, some e.2⟩ ∈ Variable.mapping env := Variable.mem_mapping.2 hlast
  obtain ⟨before, after, hsplit, hafter⟩ := exists_last_occurrence hthere
  refine ⟨before, _, after, hsplit, ⟨(Text.upper e.1).toList, ?_, ?_, rfl⟩, fun u hu value hwrites => ?_⟩
  · exact String.toList_append
  · rw [String.ofList_toList, lower_upper_name he]
  · have hmem : u ∈ Variable.mapping env := hsplit ▸ List.mem_append_right _ (List.mem_cons_of_mem _ hu)
    have hself := Variable.mem_mapping.1 hmem
    have henv : u ∈ env := List.mem_reverse.1 (List.mem_of_find?_eq_some hself)
    rw [h.only u henv e he value hwrites, hlast] at hself
    cases hself
    exact hafter hu

theorem load_variables {o : Datum} {es : Table}
    (h : ({ environment := env, overrides := o } : Sources).table .overrides = .ok es) :
    ({ environment := env, overrides := o } : Sources).load.1 =
      .ok (merge [[], ofVariables "VIEWER_" env, es]) := by
  rw [Sources.load_eq, Sources.mapM_origins, h]
  rfl

theorem lookup_merged (ts us : Table) (k : Datum) : Datum.lookup (merge [[], ts, us]) k =
    (Datum.lookup us.reverse k).or (Datum.lookup ts.reverse k) := by
  rw [Sources.merge_eq, Datum.lookup_foldl_insert, Sources.lookup_reverse_flatten,
    show Datum.lookup [] k = none from rfl, Option.or_none,
    show [[], ts, us].reverse = [us, ts, []] from rfl, List.findSome?_cons, List.findSome?_cons]
  cases Datum.lookup us.reverse k <;> cases Datum.lookup ts.reverse k <;> rfl

theorem lookup_entries {e : String × Datum} (paths : Datum) (he : e ∈ s.entries paths) :
    Datum.lookup ((s.entries paths).map fun e => (.str e.1, e.2)).reverse (.str e.1) = some e.2 := by
  simp only [entries, List.mem_cons, List.not_mem_nil, or_false] at he
  rcases he with rfl | rfl | rfl | rfl | rfl | rfl <;> rfl

/-- Settings come back from an environment with their texts, and from overrides with their values. -/
theorem settings_round_trip (s : TypedSettings) (env : List Variable)
    (hpaths : ∀ p ∈ s.searchPaths, p ≠ "" ∧ ':' ∉ p.toList) :
    (s.SetBy env → ∃ t, ({ environment := env } : Sources).load.1 = .ok t ∧
      (Schema.record viewerFields).read t = .ok s.values) ∧
    ∃ t, ({ environment := env, overrides := .dict (s.values.map fun e => (.str e.1, e.2)) } :
        Sources).load.1 = .ok t ∧
      (Schema.record viewerFields).read t = .ok s.values := by
  refine ⟨fun h => ⟨_, load_variables rfl, ?_⟩, _, load_variables rfl, ?_⟩
  · refine read_entries (.str s.joinedPaths) (fun e he => ?_) (coerce_paths_text _ hpaths)
    obtain ⟨e', he', rfl⟩ : ∃ e' ∈ s.texts, (e'.1, Datum.str e'.2) = e :=
      List.mem_map.1 (show e ∈ s.texts.map fun e' => (e'.1, Datum.str e'.2) from he)
    rw [lookup_merged]
    exact lookup_ofVariables_iff.2 ⟨e'.1, e'.2, rfl, rfl, h.lastWrites he'⟩
  · refine read_entries _ (fun e he => ?_) (coerce_paths _ _)
    rw [lookup_merged, values, lookup_entries _ he, Option.some_or]

theorem setBy_of_keys (hpresent : ∀ e ∈ s.texts,
      Variable.last? env (variableName e.1) = some ⟨variableName e.1, some e.2⟩)
    (hkeys : ∀ u ∈ env, ∀ e ∈ s.texts, keyOf? "VIEWER_" u.name = some e.1 → u.name = variableName e.1) :
    s.SetBy env := by
  refine ⟨hpresent, fun u hu e he value hwrites => ?_⟩
  obtain ⟨rest, hname, hkey, -⟩ := hwrites
  exact hkeys u hu e he (keyOf?_eq_some.2 ⟨rest, hname, hkey⟩)

/-- Settings whose texts look like values of other types. -/
def oddSettings : TypedSettings where
  templatesRoot := "007"
  templateExtension := "true"
  defaultLayout := "a:b"
  defaultFormat := ""
  encoding := "[1, 2]"
  searchPaths := ["0", "no", "x y"]

/-- An environment with the texts of these settings among others. -/
def oddEnvironment : List Variable :=
  [⟨"PATH", some "/bin:/usr/bin"⟩, ⟨"VIEWER_SEARCH_PATHS", some "0:no:x y"⟩,
    ⟨"VIEWER_TEMPLATES_ROOT", some "007"⟩, ⟨"VIEWER_TEMPLATE_EXTENSION", some "true"⟩,
    ⟨"VIEWER_COLOR", some "red"⟩, ⟨"VIEWER_DEFAULT_LAYOUT", some "a:b"⟩,
    ⟨"VIEWER_DEFAULT_FORMAT", some ""⟩, ⟨"VIEWER_ENCODING", some "[1, 2]"⟩]

theorem oddSettings_round_trip :
    (∃ t, ({ environment := oddEnvironment } : Sources).load.1 = .ok t ∧
      (Schema.record viewerFields).read t = .ok oddSettings.values) ∧
    ∃ t, ({ environment := oddEnvironment,
            overrides := .dict (oddSettings.values.map fun e => (.str e.1, e.2)) } :
          Sources).load.1 = .ok t ∧
      (Schema.record viewerFields).read t = .ok oddSettings.values := by
  have hset : oddSettings.SetBy oddEnvironment :=
    setBy_of_keys (by decide +kernel) (by decide +kernel)
  have h := settings_round_trip oddSettings oddEnvironment (by decide)
  exact ⟨h.1 hset, h.2⟩

end TypedSettings

end Stencil.Settings
