import Stencil.Proofs.SettingFiles
import Stencil.Proofs.SettingVariables
import Stencil.Proofs.Traversals

/-!
# The layers of settings

Every source holds a mapping or variables, or it cannot be read. Loading puts what the sources hold
together in order, so each key has the value of the last source that defines it, and a source that
cannot be read stops it.
-/

namespace Stencil.Settings

/-- A source of settings. -/
inductive Origin where
  | file (p : FilePath)
  | variableFile
  | environment
  | overrides

/-- What a source holds. -/
inductive Content where
  | entries (es : Table)
  | assignments (vs : List Variable)

namespace Content

/-- The value that content gives a key: that of its last entry, or of its last variable that writes it. -/
def Gives (lead : String) : Content → Datum → Datum → Prop
  | entries es, k, d => Datum.LastGives es k d
  | assignments vs, k, d =>
    ∃ key value, k = .str key ∧ d = .str value ∧ Variable.LastWrites lead vs key value

/-- The settings in content. -/
def table (lead : String) : Content → Table
  | entries es => es
  | assignments vs => ofVariables lead vs

variable {lead : String} {c : Content} {k d : Datum}

end Content

namespace Sources

variable {s : Sources} {o : Origin} {t : Table}

/-- The sources in order, the strongest last. -/
def origins (s : Sources) : List Origin :=
  (s.patterns.flatMap s.files.matching).map .file ++ [.variableFile, .environment, .overrides]

/-- The file of variables, when one is named and there. -/
def fileOfVariables (s : Sources) : Option File :=
  s.variableFile.bind fun path =>
    if path = "" ∨ path.startsWith "/" then none else s.variablesAt? path

/-- A source can be read, and what it then holds. -/
inductive Holds (s : Sources) : Origin → Content → Prop
  | document {p : FilePath} {es : Table} (h : Document s.readers s.files p (.dict es)) :
    Holds s (.file p) (.entries es)
  | otherFile {p : FilePath} {f : File} (hfile : s.files.file? p = some f)
    (hname : ¬ (Ends p ".json" ∨ Ends p ".yaml" ∨ Ends p ".yml")) : Holds s (.file p) (.entries [])
  | variableFile {f : File} {text : String} (hfile : s.fileOfVariables = some f)
    (htext : textOf f = .ok text) :
    Holds s .variableFile (.assignments (s.readers.assignments s.environment text))
  | noVariables (h : s.fileOfVariables = none) : Holds s .variableFile (.entries [])
  | environment : Holds s .environment (.assignments s.environment)
  | overrides {es : Table} (h : s.overrides = .dict es) : Holds s .overrides (.entries es)
  | noOverrides (h : isEmpty s.overrides = true) : Holds s .overrides (.entries [])

/-- A source has a value for a key. -/
def Defines (s : Sources) (o : Origin) (k d : Datum) : Prop := ∃ c, s.Holds o c ∧ c.Gives s.lead k d

/-- The settings of a source, or why they cannot be read. -/
def table (s : Sources) : Origin → Except LoadError Table
  | .file p =>
    (readFile s.readers s.files p).bind fun
      | none => .ok []
      | some d => mapping p.text d
  | .variableFile =>
    match s.fileOfVariables with
    | none => .ok []
    | some f => (textOf f).map fun text => ofVariables s.lead (s.readers.assignments s.environment text)
  | .environment => .ok (ofVariables s.lead s.environment)
  | .overrides => if isEmpty s.overrides then .ok [] else mapping "overrides" s.overrides

end Sources

namespace Loading

variable {α β : Type} {x : Loading α} {r : Except LoadError α}

/-- Loading has a result, whatever was reported before. -/
def Gives (x : Loading α) (r : Except LoadError α) : Prop := ∀ log, (x.run.run log).1 = r

theorem Gives.pure (a : α) : Gives (pure a) (.ok a) := fun _ => rfl

theorem Gives.lift (r : Except LoadError α) : Gives (liftM r) r := by
  intro log
  cases r <;> rfl

theorem Gives.report (message : String) : Gives (report message) (.ok ()) := fun _ => rfl

theorem Gives.bind {f : α → Loading β} {g : α → Except LoadError β} (hx : x.Gives r)
    (hf : ∀ a, (f a).Gives (g a)) : Gives (x >>= f) (r.bind g) := by
  intro log
  have hrun : (x >>= f).run.run log =
      (ExceptT.bindCont f (x.run.run log).1).run (x.run.run log).2 := rfl
  rw [hrun, hx log]
  cases r with
  | error e => rfl
  | ok a => exact hf a (x.run.run log).2

theorem Gives.mapM {f : α → Loading β} {g : α → Except LoadError β} (hf : ∀ a, (f a).Gives (g a))
    (as : List α) : Gives (as.mapM f) (as.mapM g) := by
  induction as with
  | nil => exact .pure []
  | cons a as ih =>
    rw [List.mapM_cons, List.mapM_cons]
    exact (hf a).bind fun b => ih.bind fun bs => .pure (b :: bs)

end Loading

namespace Sources

theorem exists?_of_variablesAt? {s : Sources} {path : String} {f : File}
    (h : s.variablesAt? path = some f) : s.files.exists? (FilePath.ofText path) = true := by
  rw [variablesAt?] at h
  split at h
  · obtain ⟨q, hq, hf⟩ := Option.bind_eq_some_iff.1 h
    rw [Files.exists?, hq]
    simp [hf]
  · cases h

theorem fileLayer_gives (s : Sources) (p : FilePath) : (s.fileLayer p).Gives (s.table (.file p)) := by
  refine (Loading.Gives.lift _).bind fun o => ?_
  cases o with
  | none => exact .pure []
  | some d => exact (Loading.Gives.report _).bind fun _ => .lift _

theorem fileOfVariables_eq {s : Sources} {path : String} (hpath : s.variableFile = some path)
    (hne : path ≠ "") : s.fileOfVariables =
      if path.startsWith "/" then none else s.variablesAt? path := by
  simp [fileOfVariables, hpath, hne]

theorem variableLayer_gives {s : Sources} {path : String} (hpath : s.variableFile = some path)
    (hne : path ≠ "") : (s.variableLayer path).Gives (s.table .variableFile) := by
  rw [variableLayer, table, fileOfVariables_eq hpath hne]
  cases path.startsWith "/" with
  | true => exact (Loading.Gives.report _).bind fun _ => .pure []
  | false =>
    rw [if_neg Bool.false_ne_true]
    cases hfile : s.variablesAt? path with
    | none =>
      cases s.files.exists? (FilePath.ofText path) with
      | false => exact (Loading.Gives.report _).bind fun _ => .pure []
      | true => exact .pure []
    | some f =>
      rw [exists?_of_variablesAt? hfile]
      exact (Loading.Gives.lift _).bind fun text => .pure _

theorem mapM_origins (s : Sources) : s.origins.mapM s.table =
    ((s.patterns.flatMap s.files.matching).mapM fun p => s.table (.file p)).bind fun files =>
      (s.table .variableFile).bind fun fromFile => (s.table .overrides).bind fun overrides =>
        .ok (files ++ [fromFile, ofVariables s.lead s.environment, overrides]) := by
  have hrest : [.variableFile, .environment, .overrides].mapM s.table =
      (s.table .variableFile).bind fun fromFile => (s.table .overrides).bind fun overrides =>
        .ok [fromFile, ofVariables s.lead s.environment, overrides] := by
    rw [Traversal.mapM_cons_eq, Traversal.mapM_cons_eq, Traversal.mapM_cons_eq,
      show s.table .environment = .ok (ofVariables s.lead s.environment) from rfl]
    cases s.table .variableFile <;> cases s.table .overrides <;> rfl
  rw [origins, List.mapM_append, List.mapM_map, hrest]
  change Except.bind (((s.patterns.flatMap s.files.matching).mapM fun p => s.table (.file p))) _ = _
  refine congrArg _ (funext fun files => ?_)
  cases s.table .variableFile <;> cases s.table .overrides <;> rfl

/-- The layers are the tables of the sources. -/
theorem layers_gives (s : Sources) : s.layers.Gives (s.origins.mapM s.table) := by
  rw [mapM_origins, layers]
  refine (Loading.Gives.mapM s.fileLayer_gives _).bind fun files => ?_
  have hoverrides (fromFile : Table) : Loading.Gives
      (if isEmpty s.overrides then do
        let overrides ← pure []
        pure (files ++ [fromFile, ofVariables s.lead s.environment, overrides])
      else do
        let overrides ← liftM (mapping "overrides" s.overrides)
        pure (files ++ [fromFile, ofVariables s.lead s.environment, overrides]))
      ((s.table .overrides).bind fun overrides =>
        .ok (files ++ [fromFile, ofVariables s.lead s.environment, overrides])) := by
    rw [table]
    split
    · exact (Loading.Gives.pure []).bind fun overrides => .pure _
    · exact (Loading.Gives.lift _).bind fun overrides => .pure _
  dsimp only
  have hnone (hfile : s.fileOfVariables = none) : s.table .variableFile = .ok [] := by
    rw [table, hfile]
  split
  · rename_i hpath
    rw [hnone (by rw [fileOfVariables, hpath, Option.bind_none])]
    exact (Loading.Gives.pure []).bind hoverrides
  · rename_i hpath
    rw [hnone (by rw [fileOfVariables, hpath, Option.bind_some, if_pos (.inl rfl)])]
    exact (Loading.Gives.pure []).bind hoverrides
  · rename_i path hne hpath
    exact (variableLayer_gives hpath hne).bind hoverrides

/-- Loading merges the tables of the sources in order. -/
theorem load_eq (s : Sources) : s.load.1 = (s.origins.mapM s.table).map merge := by
  have h := s.layers_gives.bind fun layers => Loading.Gives.pure (merge layers)
  rw [bind_pure_comp] at h
  rw [load, h []]
  cases s.origins.mapM s.table <;> rfl

/-! ## The last source that defines a key -/

theorem merge_eq (ts : List Table) :
    merge ts = ts.flatten.foldl (fun t e => Datum.insert t e.1 e.2) [] := by
  rw [merge, List.foldl_flatten]

theorem lookup_reverse_flatten (ts : List Table) (k : Datum) : Datum.lookup ts.flatten.reverse k =
    ts.reverse.findSome? fun t => Datum.lookup t.reverse k := by
  induction ts with
  | nil => rfl
  | cons t ts ih =>
    rw [List.flatten_cons, List.reverse_append, Datum.lookup_append, ih, List.reverse_cons,
      List.findSome?_append, List.findSome?_singleton]

end Sources

end Stencil.Settings
