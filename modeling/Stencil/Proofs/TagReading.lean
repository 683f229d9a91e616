import Stencil.Proofs.OrderedUnions

/-!
# Tags read back

The text of a set of stylesheets or scripts is markup with one element for each reference, and a reader of
markup finds the references in it again, in their order. A reader is between the quotation marks of an
attribute exactly as long as it reads the escaped reference, so no reference can end its attribute or add
a tag, and two lists with the same text are the same list.
-/

namespace Stencil

open World Evaluation

namespace Markup

/-! ## Character references -/

/-- The characters that have a reference by name. -/
def namedReferences : List (String × Char) :=
  [("amp", '&'), ("lt", '<'), ("gt", '>'), ("quot", '"'), ("apos", '\'')]

/-- The character that a reference stands for, by name or by decimal number. -/
def reference? (name : List Char) : Option Char :=
  match name with
  | '#' :: digits =>
    if !digits.isEmpty && digits.all Number.isDigitChar then some (Char.ofNat (Number.natOfDigits digits))
    else none
  | _ => (namedReferences.find? (·.1.toList == name)).map (·.2)

/-- A text with its character references replaced, of which one may have been begun. What is no reference
stays as it is. -/
def unescapeFrom : Option (List Char) → List Char → List Char
  | none, [] => []
  | some name, [] => '&' :: name
  | none, '&' :: rest => unescapeFrom (some []) rest
  | none, c :: rest => c :: unescapeFrom none rest
  | some name, ';' :: rest =>
    match reference? name with
    | some c => c :: unescapeFrom none rest
    | none => '&' :: name ++ ';' :: unescapeFrom none rest
  | some name, '&' :: rest => '&' :: name ++ unescapeFrom (some []) rest
  | some name, c :: rest => unescapeFrom (some (name ++ [c])) rest

/-- A text with its character references replaced. -/
def unescape (s : List Char) : List Char := unescapeFrom none s

variable {s rest : List Char} {c : Char}

/-- A character of its own, or the reference to one. -/
theorem unescapeFrom_escapeChar (c : Char) (rest : List Char) :
    unescapeFrom none (escapeChar c ++ rest) = c :: unescapeFrom none rest := by
  unfold escapeChar
  split
  · rfl
  · rfl
  · rfl
  · rfl
  · rfl
  · rename_i hamp _ _ _ _
    rw [List.singleton_append, unescapeFrom]
    exact hamp

theorem unescape_escape (s : List Char) : unescape (escape s) = s := by
  induction s with
  | nil => rfl
  | cons c s ih =>
    rw [escape, List.flatMap_cons, unescape, unescapeFrom_escapeChar]
    exact congrArg (c :: ·) ih

/-- Nothing that is escaped holds a quotation mark or an angle bracket. -/
theorem escape_plain (s : List Char) : ∀ c ∈ escape s, c ∉ ['"', '\'', '<', '>'] := by
  intro c hc
  obtain ⟨d, -, hd⟩ := List.mem_flatMap.1 hc
  unfold escapeChar at hd
  split at hd
  case h_6 hquote happos hlt hgt hamp =>
    obtain rfl := List.mem_singleton.1 hd
    simp_all
  all_goals
    simp only [String.reduceToList, List.mem_cons, List.not_mem_nil, or_false] at hd
    rcases hd with rfl | rfl | rfl | rfl | rfl <;> simp

/-! ## A reader of markup -/

/-- The tag that opens an element. -/
structure Tag where
  name : String
  attributes : List (String × String) := []
  deriving DecidableEq, Repr

/-- A tag with one more attribute. -/
def Tag.with (t : Tag) (label value : String) : Tag :=
  { t with attributes := t.attributes ++ [(label, value)] }

/-- A piece of markup: a character of text, or a tag that opens or closes an element. -/
inductive Piece where
  | char (c : Char)
  | opening (t : Tag)
  | closing (name : String)
  deriving DecidableEq, Repr

/-- The tag that a piece is, if it opens an element. -/
def Piece.opening? : Piece → Option Tag
  | opening t => some t
  | _ => none

/-- The reference in the tag of a stylesheet or a script. -/
def Tag.reference? (t : Tag) : Option String :=
  if t.name = "link" then t.attributes.lookup "href"
  else if t.name = "script" then t.attributes.lookup "src"
  else none

/-- Where a reader of markup is. -/
inductive Reader where
  | text
  /-- After the bracket that begins a tag. -/
  | bracket
  | openingName (name : List Char)
  | closingName (name : List Char)
  /-- Between the attributes of a tag. -/
  | inside (t : Tag)
  | label (t : Tag) (label : List Char)
  /-- After the equals sign of an attribute. -/
  | equals (t : Tag) (label : String)
  /-- Between the quotation marks of an attribute. -/
  | quoted (t : Tag) (label : String) (mark : Char) (written : List Char)
  deriving DecidableEq, Repr

/-- Read a character; none where no tag can have it. -/
def Reader.next (p : Reader) (c : Char) : Option (Reader × List Piece) :=
  match p with
  | text => some (if c = '<' then (bracket, []) else (text, [.char c]))
  | bracket =>
    if c = '/' then some (closingName [], [])
    else if c.isAlpha then some (openingName [c], []) else none
  | openingName name =>
    some (if c = '>' then (text, [.opening { name := String.ofList name }])
      else if c.isWhitespace then (inside { name := String.ofList name }, [])
      else (openingName (name ++ [c]), []))
  | closingName name =>
    some (if c = '>' then (text, [.closing (String.ofList name)]) else (closingName (name ++ [c]), []))
  | inside t =>
    some (if c = '>' then (text, [.opening t])
      else if c.isWhitespace then (inside t, []) else (label t [c], []))
  | label t name =>
    some (if c = '=' then (equals t (String.ofList name), []) else (label t (name ++ [c]), []))
  | equals t name => if c = '"' ∨ c = '\'' then some (quoted t name c [], []) else none
  | quoted t name mark written =>
    some (if c = mark then (inside (t.with name (String.ofList (unescape written))), [])
      else (quoted t name mark (written ++ [c]), []))

/-- Read a text from a place on. -/
def Reader.advance (p : Reader) : List Char → Option (Reader × List Piece)
  | [] => some (p, [])
  | c :: rest => (p.next c).bind fun r => (r.1.advance rest).map fun l => (l.1, r.2 ++ l.2)

/-- The pieces of a text; none when it ends inside a tag. -/
def read (s : List Char) : Option (List Piece) :=
  (Reader.text.advance s).bind fun r => if r.1 = .text then some r.2 else none

/-- A text leads from one place to another, with its pieces on the way. -/
def Reader.Leads (p : Reader) (s : List Char) (q : Reader) (pieces : List Piece) : Prop :=
  p.advance s = some (q, pieces)

instance (p : Reader) (s : List Char) (q : Reader) (pieces : List Piece) :
    Decidable (p.Leads s q pieces) :=
  inferInstanceAs (Decidable (_ = _))

variable {p q r : Reader} {pieces more : List Piece} {t : List Char}

theorem Reader.advance_append (p : Reader) (s t : List Char) :
    p.advance (s ++ t) = (p.advance s).bind fun r => (r.1.advance t).map fun l => (l.1, r.2 ++ l.2) := by
  induction s generalizing p with
  | nil => simp [advance]
  | cons c s ih =>
    rw [List.cons_append, advance, advance]
    cases p.next c with
    | none => rfl
    | some r =>
      rw [Option.bind_some, Option.bind_some, ih]
      cases r.1.advance s with
      | none => rfl
      | some l => simp [Function.comp_def]

theorem Reader.Leads.append (h : p.Leads s q pieces) (h' : q.Leads t r more) :
    p.Leads (s ++ t) r (pieces ++ more) := by
  rw [Leads] at h h' ⊢
  rw [advance_append, h, Option.bind_some, h']
  rfl

theorem Reader.leads_single {c : Char} (h : p.next c = some (q, pieces)) : p.Leads [c] q pieces := by
  rw [Leads, advance, h]
  simp [advance]

/-- A value without its quotation mark stays inside its attribute. -/
theorem Reader.leads_quoted {tag : Tag} {name : String} {mark : Char} {written : List Char}
    (h : mark ∉ s) :
    (quoted tag name mark written).Leads s (quoted tag name mark (written ++ s)) [] := by
  induction s generalizing written with
  | nil =>
    rw [List.append_nil]
    rfl
  | cons c s ih =>
    obtain ⟨hc, hs⟩ := not_or.1 (mt List.mem_cons.2 h)
    have hfirst : (quoted tag name mark written).Leads [c] (quoted tag name mark (written ++ [c])) [] :=
      leads_single (congrArg some (if_neg (Ne.symm hc)))
    have hrest := hfirst.append (ih hs)
    rwa [List.append_assoc] at hrest

/-- An escaped text is read inside its attribute, up to the quotation mark behind it. -/
theorem Reader.leads_escape (tag : Tag) (name : String) (ref : List Char) :
    (quoted tag name '"' []).Leads (escape ref ++ ['"']) (inside (tag.with name (String.ofList ref))) [] := by
  have hmark : '"' ∉ escape ref := fun h => escape_plain ref _ h (by simp)
  have hend : (quoted tag name '"' (escape ref)).Leads ['"']
      (inside (tag.with name (String.ofList ref))) [] := by
    refine leads_single (congrArg some ((if_pos rfl).trans ?_))
    rw [unescape_escape]
  exact (leads_quoted hmark).append hend

end Markup

namespace Assets

open Markup

/-- The pieces of markup that stand for a reference. -/
def pieces (kind : AssetKind) (ref : String) : List Piece :=
  match kind with
  | .plain => ref.toList.map .char
  | .stylesheet =>
    [.opening ⟨"link", [("rel", "stylesheet"), ("type", "text/css"), ("href", ref)]⟩]
  | .script => [.opening ⟨"script", [("src", ref)]⟩, .closing "script"]

theorem tag_stylesheet (ref : List Char) : tag .stylesheet ref =
    "<link rel=\"stylesheet\" type=\"text/css\" href=\"".toList ++ escape ref ++ "\">".toList := rfl

theorem tag_script (ref : List Char) :
    tag .script ref = "<script src=\"".toList ++ escape ref ++ "\"></script>".toList := rfl

variable {kind : AssetKind}

/-- The tag of a reference is its element, with the reference as it is in an attribute. -/
theorem leads_tag (hkind : kind ≠ .plain) (ref : String) :
    Reader.text.Leads (tag kind ref.toList) .text (pieces kind ref) := by
  have hvalue (t : Tag) (name : String) : (Reader.quoted t name '"' []).Leads
      (escape ref.toList ++ ['"']) (.inside (t.with name ref)) [] := by
    have h := Reader.leads_escape t name ref.toList
    rwa [String.ofList_toList] at h
  have hend (t : Tag) : (Reader.inside t).Leads ['>'] .text [.opening t] := rfl
  cases kind with
  | plain => exact absurd rfl hkind
  | stylesheet =>
    have hname : Reader.text.Leads "<link ".toList (.inside ⟨"link", []⟩) [] := by decide
    have hrel (t : Tag) : (Reader.inside t).Leads "rel=\"stylesheet\" ".toList
        (.inside (t.with "rel" "stylesheet")) [] := rfl
    have htype (t : Tag) : (Reader.inside t).Leads "type=\"text/css\" ".toList
        (.inside (t.with "type" "text/css")) [] := rfl
    have hhref (t : Tag) : (Reader.inside t).Leads "href=\"".toList (.quoted t "href" '"' []) [] := rfl
    have h := hname.append ((hrel _).append ((htype _).append ((hhref _).append
      ((hvalue _ _).append (hend _)))))
    rw [tag_stylesheet]
    simpa [pieces, Tag.with] using h
  | script =>
    have hname : Reader.text.Leads "<script src=\"".toList (.quoted ⟨"script", []⟩ "src" '"' []) [] := by
      decide
    have hclose : Reader.text.Leads "</script>".toList .text [.closing "script"] := by decide
    have h := hname.append ((hvalue _ _).append ((hend _).append hclose))
    rw [tag_script]
    simpa [pieces, Tag.with] using h

/-- The pieces of several references, with a line feed between those of two. -/
def allPieces (kind : AssetKind) (refs : List String) : List Piece :=
  [Piece.char '\n'].intercalate (refs.map (pieces kind))

theorem leads_tags (hkind : kind ≠ .plain) (refs : List String) :
    Reader.text.Leads (render kind refs).toList .text (allPieces kind refs) := by
  have hfeed : Reader.text.Leads ['\n'] .text [.char '\n'] := rfl
  rw [render, String.toList_intercalate, List.map_map]
  induction refs with
  | nil => rfl
  | cons ref refs ih =>
    have htag :
        Reader.text.Leads (String.ofList (tag kind ref.toList)).toList .text (pieces kind ref) := by
      rw [String.toList_ofList]
      exact leads_tag hkind ref
    cases refs with
    | nil =>
      simpa [allPieces] using htag
    | cons next refs =>
      have h := (htag.append hfeed).append ih
      simpa [allPieces] using h

theorem read_render (hkind : kind ≠ .plain) (refs : List String) :
    Markup.read (render kind refs).toList = some (allPieces kind refs) := by
  have h : Reader.text.advance (render kind refs).toList = some (.text, allPieces kind refs) :=
    leads_tags hkind refs
  unfold Markup.read
  rw [h]
  rfl

/-- What is picked from the pieces of several references is picked from those of each. -/
theorem filterMap_allPieces {α : Type} {f : Piece → Option α} (hf : f (.char '\n') = none)
    (refs : List String) :
    (allPieces kind refs).filterMap f = refs.flatMap fun ref => (pieces kind ref).filterMap f := by
  induction refs with
  | nil => rfl
  | cons ref refs ih =>
    cases refs with
    | nil => simp [allPieces]
    | cons next refs =>
      have hcons : allPieces kind (ref :: next :: refs) =
          pieces kind ref ++ .char '\n' :: allPieces kind (next :: refs) := by
        simp [allPieces]
      rw [hcons, List.filterMap_append, List.filterMap_cons_none hf, ih]
      rfl

/-- The tag that is opened for a reference. -/
def openingTag (kind : AssetKind) (ref : String) : Tag :=
  match kind with
  | .script => ⟨"script", [("src", ref)]⟩
  | _ => ⟨"link", [("rel", "stylesheet"), ("type", "text/css"), ("href", ref)]⟩

theorem opening?_allPieces (hkind : kind ≠ .plain) (refs : List String) :
    (allPieces kind refs).filterMap Piece.opening? = refs.map (openingTag kind) := by
  have hsingle : ∀ ref, (pieces kind ref).filterMap Piece.opening? = [openingTag kind ref] := by
    intro ref
    cases kind with
    | plain => exact absurd rfl hkind
    | stylesheet => rfl
    | script => rfl
  rw [filterMap_allPieces rfl, List.map_eq_flatMap]
  exact congrArg (refs.flatMap ·) (funext hsingle)

theorem reference?_openingTag (kind : AssetKind) (ref : String) :
    (openingTag kind ref).reference? = some ref := by
  cases kind <;> rfl

end Assets

/-! ## The text of a set -/

section

variable {n : Nat} {w : World} {r : Ref} {kind : AssetKind} {refs : List String}

theorem mapM_text_texts (n : Nat) (w : World) (refs : List String) :
    (texts refs).mapM (interpreter (n + 1)).text w = .ok refs w := by
  induction refs with
  | nil => rfl
  | cons a refs ih =>
    have ha : (interpreter (n + 1)).text (.str a) w = .ok a w := rfl
    rw [texts_cons, List.mapM_cons, bind_of_ok ha, bind_of_ok ih]
    rfl

theorem renderSet_eq (hr : w.at' r = .assets kind ⟨texts refs⟩) :
    AssetSet.render (interpreter (n + 1)) r w = .ok (Assets.render kind refs) w := by
  unfold AssetSet.render
  rw [bind_of_ok (members_eq hr)]
  exact bind_of_ok (mapM_text_texts n w refs)

theorem callMethod_render (hr : w.at' r = .assets kind ⟨texts refs⟩) :
    callMethod (interpreter (n + 1)) (.ref r) "render" {} w = .ok (.str (Assets.render kind refs)) w := by
  rw [callMethod_assets_nil _ hr rfl]
  exact bind_of_ok (renderSet_eq hr)

theorem text_set_eq (hr : w.at' r = .assets kind ⟨texts refs⟩) :
    (interpreter (n + 2)).text (.ref r) w = .ok (Assets.render kind refs) w := by
  refine (bind_of_ok (load_ok w r)).trans ?_
  rw [hr]
  exact renderSet_eq hr

/-- The text of a set of stylesheets or scripts is read back as one element for each reference, in order
and with the reference in its attribute, whatever characters the references hold, and no other list of
references has the same text. -/
theorem tags_read_back (hkind : kind ≠ .plain) (hr : w.at' r = .assets kind ⟨texts refs⟩) :
    ∃ s found, callMethod (interpreter (n + 1)) (.ref r) "render" {} w = .ok (.str s) w ∧
      (interpreter (n + 2)).text (.ref r) w = .ok s w ∧
      Markup.read s.toList = some found ∧ found = Assets.allPieces kind refs ∧
      (found.filterMap Markup.Piece.opening?).length = refs.length ∧
      (found.filterMap Markup.Piece.opening?).filterMap Markup.Tag.reference? = refs ∧
      ∀ (u : World) (q : Ref) (others : List String), u.at' q = .assets kind ⟨texts others⟩ →
        (callMethod (interpreter (n + 1)) (.ref q) "render" {} u = .ok (.str s) u ↔ others = refs) := by
  have hread := Assets.read_render hkind
  have hdecode (l : List String) :
      ((Assets.allPieces kind l).filterMap Markup.Piece.opening?).filterMap Markup.Tag.reference? = l := by
    rw [Assets.opening?_allPieces hkind, List.filterMap_map]
    exact (congrArg (l.filterMap ·) (funext (Assets.reference?_openingTag kind))).trans List.filterMap_some
  refine ⟨_, _, callMethod_render hr, text_set_eq hr, hread refs, rfl, ?_, hdecode refs, ?_⟩
  · rw [Assets.opening?_allPieces hkind, List.length_map]
  · intro u q others hq
    rw [callMethod_render hq]
    constructor
    · intro h
      injection h with hs
      injection hs with hs
      have hsame : Assets.allPieces kind others = Assets.allPieces kind refs := by
        have h := hread others
        rw [hs, hread refs] at h
        exact (Option.some.inj h).symm
      rw [← hdecode others, hsame, hdecode refs]
    · rintro rfl
      rfl

end

/-- A set of references that look like markup, like escaped text and like several lines. -/
def oddScripts : World where
  objects := #[.assets .script ⟨texts ["a\"></script><script src=\"b", "&amp;", "c\nd"]⟩]

theorem oddScripts_read_back : ∃ s,
    callMethod machine (.ref 0) "render" {} oddScripts = .ok (.str s) oddScripts ∧
    Markup.read s.toList = some [.opening ⟨"script", [("src", "a\"></script><script src=\"b")]⟩,
      .closing "script", .char '\n', .opening ⟨"script", [("src", "&amp;")]⟩, .closing "script",
      .char '\n', .opening ⟨"script", [("src", "c\nd")]⟩, .closing "script"] := by
  have hset : oddScripts.at' 0 =
      .assets .script ⟨texts ["a\"></script><script src=\"b", "&amp;", "c\nd"]⟩ := rfl
  obtain ⟨s, found, hs, -, hread, hfound, -⟩ := tags_read_back (n := 5999) (by decide) hset
  refine ⟨s, hs, ?_⟩
  rw [hread, hfound]
  rfl

end Stencil
