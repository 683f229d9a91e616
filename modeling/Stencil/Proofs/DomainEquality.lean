import Mathlib.Data.List.Find
import Stencil.Proofs.DoubleTexts
import Stencil.Proofs.Lines
import Stencil.Proofs.Outcome
import Stencil.Proofs.TableKeys

/-!
# Equality with domains

A domain is compared by text with anything, and other values are compared by what they are. The two
agree on texts. A number, a truth value or nothing is equal to the domain that has its text for a name,
but not to that text. So equality with a domain is symmetric, but it is passed on only where equal values
are written alike and values that are written alike are equal, and a domain is found in a table under its
name and nothing else.
-/

namespace Stencil

open World Evaluation

/-- A domain, or a value without parts that it is compared with. -/
inductive Comparand where
  | none
  | bool (b : Bool)
  | int (i : Int)
  | float (x : Float)
  | text (s : String)
  | domain (d : Domain)

namespace Comparand

/-- A comparand in scripts. -/
def value : Comparand → Value
  | none => .none
  | bool b => .bool b
  | int i => .int i
  | float x => .float x
  | text s => .str s
  | domain d => .domain d

/-- The data of a comparand; a domain counts as its name. -/
def datum : Comparand → Datum
  | none => .none
  | bool b => .bool b
  | int i => .int i
  | float x => .float x
  | text s => .str s
  | domain d => .str d.name

/-- A comparand as a domain sees it. -/
def operand : Comparand → Domain.Operand
  | domain d => .domain d
  | a => .value a.datum

/-- The text of a comparand. -/
def written (a : Comparand) : String := a.datum.text

/-- What can be written; an integer with too many digits cannot. -/
def IsShort : Comparand → Prop
  | int i => i.natAbs < Number.digitLimit
  | _ => True

def IsDomain : Comparand → Prop
  | domain _ => True
  | _ => False

/-- Texts, and domains as their names. -/
def IsText : Comparand → Prop
  | text _ => True
  | domain _ => True
  | _ => False

/-- Numbers that are written differently even if they are equal: they have different types, or they are
doubles of different sign, as the two zeros are. -/
def WrittenApart : Comparand → Comparand → Prop
  | bool _, int _ => True
  | bool _, float _ => True
  | int _, bool _ => True
  | int _, float _ => True
  | float _, bool _ => True
  | float _, int _ => True
  | float x, float y => Number.sign x ≠ Number.sign y
  | _, _ => False

/-- Values that are not equal even if they are written alike: one of them is a text and the other one is
not, or they are doubles that are no numbers. -/
def KeptApart : Comparand → Comparand → Prop
  | domain _, _ => False
  | _, domain _ => False
  | text _, text _ => False
  | text _, _ => True
  | _, text _ => True
  | float x, float y => x.isNaN = true ∧ y.isNaN = true
  | _, _ => False

/-- Where a chain with a domain in it does not pass equality on from `a` by `b` to `c`. -/
def PartsWays (a b c : Comparand) : Prop :=
  (b.IsDomain ∧ KeptApart a c) ∨ (a.IsDomain ∧ WrittenApart b c) ∨ (c.IsDomain ∧ WrittenApart b a)

/-- Scripts that are evaluated with `n + 1` levels find two comparands equal. -/
def Equal (n : Nat) (w : World) (a b : Comparand) : Prop :=
  compareValues (interpreter (n + 1)) .eq a.value b.value w = .ok true w

end Comparand

variable {n : Nat} {w : World} {write : Value → Action String} {d e : Domain} {v : Value}
  {a b c : Comparand} {i : Int} {x y : Float} {t : Table}

/-! ## Texts of numbers and words -/

namespace Text

theorem mem_intText {c : Char} (h : c ∈ (intText i).toList) : c.isDigit = true ∨ c = '-' := by
  cases i with
  | ofNat n => exact .inl (isDigit_of_mem_natText h)
  | negSucc n =>
    rw [intText, String.toList_append, List.mem_append] at h
    rcases h with h | h
    · exact .inr (List.mem_singleton.1 h)
    · exact .inl (isDigit_of_mem_natText h)

theorem natText_injective : Function.Injective natText := by
  intro m n h
  have hdigits := congrArg (Nat.ofDigitChars 10 · 0) (String.ofList_injective h)
  simpa only [Nat.ofDigitChars_ten_toDigits] using hdigits

theorem natText_ne_minus {m n : ℕ} : natText m ≠ "-" ++ natText n := by
  intro h
  have hminus : '-' ∈ (natText m).toList := by simp [h]
  exact absurd (isDigit_of_mem_natText hminus) (by decide)

theorem intText_injective : Function.Injective intText := by
  intro i j h
  cases i with
  | ofNat m =>
    cases j with
    | ofNat n => exact congrArg _ (natText_injective h)
    | negSucc n => exact absurd h natText_ne_minus
  | negSucc m =>
    cases j with
    | ofNat n => exact absurd h.symm natText_ne_minus
    | negSucc n =>
      have hdigits : m + 1 = n + 1 := natText_injective ((String.append_right_inj "-").1 h)
      exact congrArg _ (Nat.succ.inj hdigits)

/-- The text of a double has a character in it that is in the text of no integer. -/
theorem intText_ne_floatText : intText i ≠ Number.floatText x := by
  intro h
  obtain ⟨c, hc, hdigit, hminus⟩ := Number.exists_mem_floatText x
  rw [← h] at hc
  rcases mem_intText hc with h | h
  · rw [hdigit] at h
    cases h
  · exact hminus h

/-- A text with a character in it that is in the text of no number. -/
def IsWord (s : String) : Prop := ∃ c ∈ s.toList, c.isDigit = false ∧ c ∉ "naninfe.-+".toList

theorem boolText_injective : Function.Injective Datum.boolText := by
  unfold Function.Injective
  decide

theorem isWord_none : IsWord "None" := ⟨'N', by decide, by decide, by decide⟩

theorem isWord_boolText (b : Bool) : IsWord (Datum.boolText b) := by
  cases b
  · exact ⟨'F', by decide, by decide, by decide⟩
  · exact ⟨'T', by decide, by decide, by decide⟩

theorem IsWord.ne_floatText {s : String} (h : IsWord s) : s ≠ Number.floatText x := by
  rintro rfl
  obtain ⟨c, hc, hdigit, hmark⟩ := h
  rcases Number.mem_floatText hc with h | h
  · rw [hdigit] at h
    cases h
  · exact hmark h

theorem IsWord.ne_intText {s : String} (h : IsWord s) : s ≠ intText i := by
  rintro rfl
  obtain ⟨c, hc, hdigit, hmark⟩ := h
  rcases mem_intText hc with h | rfl
  · rw [hdigit] at h
    cases h
  · exact hmark (by decide)

end Text

/-! ## What scripts compare -/

namespace Evaluation

theorem equals_eq (write : Value → Action String) (v v' : Value) :
    equals write v v' = equalsWithin write (999 + 1) v v' := rfl

theorem compareValues_eq (m : Interpreter) (v v' : Value) :
    compareValues m .eq v v' = equals m.text v v' := rfl

theorem equals_domains : equals write (.domain d) (.domain e) = pure (d.name == e.name) := by
  rw [equals_eq, equalsWithin]

theorem equals_domain (h : ∀ e, v ≠ .domain e) :
    equals write (.domain d) v = (do return d.name == (← write v)) := by
  rw [equals_eq, equalsWithin]
  exact h

theorem equals_of_domain (h : ∀ e, v ≠ .domain e) :
    equals write v (.domain d) = (do return d.name == (← write v)) := by
  rw [equals_eq, equalsWithin]
  exact h

/-- It does not matter on which side a domain is compared. -/
theorem equals_domain_comm (write : Value → Action String) (d : Domain) (v : Value) :
    equals write v (.domain d) = equals write (.domain d) v := by
  cases v with
  | domain e => rw [equals_domains, equals_domains, BEq.comm]
  | _ => rw [equals_domain (by rintro _ ⟨⟩), equals_of_domain (by rintro _ ⟨⟩)]

theorem equals_floats : equals write (.float x) (.float y) = pure (x == y) := by
  rw [equals_eq, equalsWithin]

/-- A whole number is compared with a double through what the double stands for. -/
theorem numberOrder?_float (h : v.integer? = some i) :
    (numberOrder? v (.float x) == some (some .eq)) = true ↔ Number.extended? x = some (.finite i) := by
  have hne (p : Prop) [Decidable p] : (if p then Ordering.lt else .gt) ≠ .eq := by
    split <;> decide
  have horder : numberOrder? v (.float x) = some (if x.isNaN = true then none
      else if x.isInf = true then some (if x > 0 then .lt else .gt)
      else some (Number.compareInt i x)) := by
    rw [numberOrder?, h]
    · rfl
    · rintro y rfl
      cases h
  rw [horder, ← Datum.finite_compareInt_iff]
  cases x.isNaN <;> cases x.isInf <;> simp [hne]

theorem numberOrder?_of_float (h : v.integer? = some i) :
    (numberOrder? (.float x) v == some (some .eq)) = true ↔ Number.extended? x = some (.finite i) := by
  have hne (p : Prop) [Decidable p] : (if p then Ordering.gt else .lt) ≠ .eq := by
    split <;> decide
  have horder : numberOrder? (.float x) v = some (if x.isNaN = true then none
      else if x.isInf = true then some (if x > 0 then .gt else .lt)
      else some (Number.compareInt i x).swap) := by
    rw [numberOrder?, h]
    · rfl
    · rintro y rfl
      cases h
  rw [horder, ← Datum.finite_compareInt_iff]
  cases x.isNaN <;> cases x.isInf <;> simp [hne]

theorem reprOf_int (i : Int) : reprOf (.int i) = intNotation i := by
  have hwithin : reprOf (.int i) = notate (999 + 1) [] (.int i) := by
    rw [reprOf]
    rfl
  rw [hwithin, notate]

theorem text_int (n : Nat) (i : Int) : (interpreter (n + 1)).text (.int i) = intNotation i := by
  have htext : (interpreter (n + 1)).text =
      textOf (interpreter n) fun self => View.render (interpreter n) self .none := rfl
  rw [htext]
  exact reprOf_int i

end Evaluation

namespace Comparand

theorem text_value (h : a.IsShort) : (interpreter (n + 1)).text a.value w = .ok a.written w := by
  cases a with
  | int i =>
    have hshort : i.natAbs < Number.digitLimit := h
    rw [value, text_int, intNotation, if_pos hshort]
    rfl
  | _ => rfl

theorem text_value_of_not_isShort (h : ¬ a.IsShort) : (interpreter (n + 1)).text a.value =
    valueError (Number.tooManyDigits ++ Number.raiseLimit) := by
  cases a with
  | int i =>
    have hlong : ¬ i.natAbs < Number.digitLimit := h
    rw [value, text_int, intNotation, if_neg hlong]
  | _ => exact absurd trivial h

theorem equals_operand (d : Domain) (a : Comparand) : d.equals a.operand = (d.name == a.written) := by
  cases a <;> rfl

theorem value_ne_domain (h : ¬ a.IsDomain) (d : Domain) : a.value ≠ .domain d := by
  cases a with
  | domain e => exact absurd trivial h
  | _ => rintro ⟨⟩

/-- A domain is compared with a comparand by its text. -/
theorem compareValues_domain (h : a.IsShort) :
    compareValues (interpreter (n + 1)) .eq (.domain d) a.value w = .ok (d.equals a.operand) w := by
  rw [equals_operand, compareValues_eq]
  by_cases hd : a.IsDomain
  · cases a with
    | domain e =>
      rw [value, equals_domains]
      rfl
    | _ => exact absurd hd id
  · rw [equals_domain (value_ne_domain hd), bind_of_ok (text_value h)]
    rfl

/-- An integer with too many digits cannot be compared with a domain. -/
theorem compareValues_domain_of_not_isShort (h : ¬ a.IsShort) :
    compareValues (interpreter (n + 1)) .eq (.domain d) a.value w =
      (valueError (Number.tooManyDigits ++ Number.raiseLimit) : Action Bool) w := by
  have hd : ¬ a.IsDomain := by
    intro hd
    cases a with
    | domain e => exact h trivial
    | _ => exact hd
  rw [compareValues_eq, equals_domain (value_ne_domain hd), text_value_of_not_isShort h]
  rfl

theorem equal_domain_iff : Equal n w (domain d) a ↔ a.IsShort ∧ a.written = d.name := by
  by_cases h : a.IsShort
  · rw [Equal, value, compareValues_domain h, equals_operand, EStateM.Result.ok.injEq, and_iff_left rfl,
      beq_iff_eq, eq_comm, and_iff_right h]
  · rw [Equal, value, compareValues_domain_of_not_isShort h]
    simp [h, valueError]

theorem equal_comm_domain : Equal n w a (domain d) ↔ Equal n w (domain d) a := by
  rw [Equal, Equal, compareValues_eq, compareValues_eq, value, equals_domain_comm]

/-- Comparands are the same key of a table as their data are. -/
theorem sameKey_eq (h : ∀ x y, a = float x → b ≠ float y) :
    sameKey a.value b.value = Datum.sameKey a.datum b.datum := by
  -- Only numbers need an argument: a double and a whole number agree through what they stand for.
  cases a with
  | bool p =>
    cases b with
    | bool q => cases p <;> cases q <;> rfl
    | float x =>
      have horder := numberOrder?_float (x := x) (v := .bool p) rfl
      rw [datum, datum, Datum.sameKey, Bool.eq_iff_iff, Datum.truth_beq_iff]
      simpa [value, sameKey, Value.same, Value.text?] using horder
    | _ =>
      simp [value, datum, sameKey, Value.same, numberOrder?, Value.integer?, Value.text?, Datum.sameKey]
  | int i =>
    cases b with
    | float x =>
      have horder := numberOrder?_float (x := x) (v := .int i) rfl
      rw [datum, datum, Datum.sameKey, Bool.eq_iff_iff, Datum.finite_compareInt_iff]
      simpa [value, sameKey, Value.same, Value.text?] using horder
    | _ =>
      simp [value, datum, sameKey, Value.same, numberOrder?, Value.integer?, Value.text?, Datum.sameKey]
  | float x =>
    cases b with
    | bool p =>
      have horder := numberOrder?_of_float (x := x) (v := .bool p) rfl
      rw [datum, datum, Datum.sameKey, Bool.eq_iff_iff, Datum.float_truth_beq_iff]
      simpa [value, sameKey, Value.same, Value.text?] using horder
    | int i =>
      have horder := numberOrder?_of_float (x := x) (v := .int i) rfl
      rw [datum, datum, Datum.sameKey, Bool.eq_iff_iff, Datum.finite_compareInt_iff]
      simpa [value, sameKey, Value.same, Value.text?] using horder
    | float y => exact absurd rfl (h x y rfl)
    | _ =>
      simp [value, datum, sameKey, Value.same, numberOrder?, Value.integer?, Value.text?, Datum.sameKey]
  | _ =>
    cases b <;>
      simp [value, datum, sameKey, Value.same, numberOrder?, Value.integer?, Value.text?, Datum.sameKey]

theorem equals_value (ha : ¬ a.IsDomain) (hb : ¬ b.IsDomain) :
    equals write a.value b.value = pure (Datum.sameKey a.datum b.datum) := by
  by_cases h : ∀ x y, a = float x → b ≠ float y
  · rw [← sameKey_eq h]
    cases a with
    | domain d => exact absurd trivial ha
    | float x =>
      cases b with
      | domain d => exact absurd trivial hb
      | float y => exact absurd rfl (h x y rfl)
      | _ =>
        simp only [value]
        rw [equals_eq, equalsWithin] <;> simp
    | _ =>
      cases b with
      | domain d => exact absurd trivial hb
      | _ =>
        simp only [value]
        rw [equals_eq, equalsWithin] <;> simp
  · push Not at h
    obtain ⟨x, y, rfl, rfl⟩ := h
    exact equals_floats

/-- Comparands that are no domains are compared as keys of tables are. -/
theorem equal_iff (ha : ¬ a.IsDomain) (hb : ¬ b.IsDomain) :
    Equal n w a b ↔ Datum.sameKey a.datum b.datum = true := by
  rw [Equal, compareValues_eq, equals_value ha hb]
  change EStateM.Result.ok _ w = .ok true w ↔ _
  rw [EStateM.Result.ok.injEq, and_iff_left rfl]

/-! ## Equal values and equal texts -/

/-- Equal values are written alike, unless they are numbers that are written apart. -/
theorem isShort_and_written_eq_iff (h : Datum.sameKey a.datum b.datum = true) (ha : a.IsShort) :
    b.IsShort ∧ b.written = a.written ↔ ¬ WrittenApart a b := by
  have hapart (hne : a.written ≠ b.written) (hdiffer : WrittenApart a b) :
      b.IsShort ∧ b.written = a.written ↔ ¬ WrittenApart a b :=
    iff_of_false (fun h => hne h.2.symm) (not_not_intro hdiffer)
  cases a with
  | none =>
    cases b with
    | none => exact iff_of_true ⟨trivial, rfl⟩ id
    | _ => exact absurd h Bool.false_ne_true
  | bool p =>
    cases b with
    | bool q =>
      obtain rfl : p = q := beq_iff_eq.1 h
      exact iff_of_true ⟨trivial, rfl⟩ id
    | int i => exact hapart (Text.isWord_boolText p).ne_intText trivial
    | float x => exact hapart (Text.isWord_boolText p).ne_floatText trivial
    | _ => exact absurd h Bool.false_ne_true
  | int i =>
    cases b with
    | bool q => exact hapart (Text.isWord_boolText q).ne_intText.symm trivial
    | int j =>
      obtain rfl : i = j := beq_iff_eq.1 h
      exact iff_of_true ⟨ha, rfl⟩ id
    | float x => exact hapart Text.intText_ne_floatText trivial
    | _ => exact absurd h Bool.false_ne_true
  | float x =>
    cases b with
    | bool q => exact hapart (Text.isWord_boolText q).ne_floatText.symm trivial
    | int i => exact hapart Text.intText_ne_floatText.symm trivial
    | float y =>
      calc True ∧ Number.floatText y = Number.floatText x
        _ ↔ Number.sign x = Number.sign y := by
          rw [true_and, eq_comm, Number.floatText_eq_iff_of_beq h]
        _ ↔ ¬ Number.sign x ≠ Number.sign y := not_not.symm
    | _ => exact absurd h Bool.false_ne_true
  | text s =>
    cases b with
    | text t =>
      obtain rfl : s = t := beq_iff_eq.1 h
      exact iff_of_true ⟨trivial, rfl⟩ id
    | domain d =>
      obtain rfl : s = d.name := beq_iff_eq.1 h
      exact iff_of_true ⟨trivial, rfl⟩ id
    | _ => exact absurd h Bool.false_ne_true
  | domain d =>
    cases b with
    | text t =>
      obtain rfl : d.name = t := beq_iff_eq.1 h
      exact iff_of_true ⟨trivial, rfl⟩ id
    | domain e => exact iff_of_true ⟨trivial, (beq_iff_eq.1 h).symm⟩ id
    | _ => exact absurd h Bool.false_ne_true

/-- Values that are written alike are equal, unless they are kept apart. -/
theorem sameKey_iff_of_written_eq (h : a.written = b.written) (ha : ¬ a.IsDomain) (hb : ¬ b.IsDomain) :
    Datum.sameKey a.datum b.datum = true ↔ ¬ KeptApart a b := by
  cases a with
  | domain d => exact absurd trivial ha
  | none =>
    cases b with
    | domain d => exact absurd trivial hb
    | none => exact iff_of_true rfl id
    | bool q => exact absurd h (by cases q <;> decide)
    | int i => exact absurd h Text.isWord_none.ne_intText
    | float x => exact absurd h Text.isWord_none.ne_floatText
    | text s => exact iff_of_false Bool.false_ne_true (not_not_intro trivial)
  | bool p =>
    cases b with
    | domain d => exact absurd trivial hb
    | none => exact absurd h (by cases p <;> decide)
    | bool q =>
      obtain rfl : p = q := Text.boolText_injective h
      exact iff_of_true (beq_self_eq_true p) id
    | int i => exact absurd h (Text.isWord_boolText p).ne_intText
    | float x => exact absurd h (Text.isWord_boolText p).ne_floatText
    | text s => exact iff_of_false Bool.false_ne_true (not_not_intro trivial)
  | int i =>
    cases b with
    | domain d => exact absurd trivial hb
    | none => exact absurd h.symm Text.isWord_none.ne_intText
    | bool q => exact absurd h.symm (Text.isWord_boolText q).ne_intText
    | int j =>
      obtain rfl : i = j := Text.intText_injective h
      exact iff_of_true (beq_self_eq_true i) id
    | float x => exact absurd h Text.intText_ne_floatText
    | text s => exact iff_of_false Bool.false_ne_true (not_not_intro trivial)
  | float x =>
    cases b with
    | domain d => exact absurd trivial hb
    | none => exact absurd h.symm Text.isWord_none.ne_floatText
    | bool q => exact absurd h.symm (Text.isWord_boolText q).ne_floatText
    | int j => exact absurd h.symm Text.intText_ne_floatText
    | float y =>
      have hnan := Number.isNaN_eq_of_floatText_eq h
      calc (x == y) = true
        _ ↔ x.isNaN = false := Number.beq_iff_of_floatText_eq h
        _ ↔ ¬ (x.isNaN = true ∧ y.isNaN = true) := by rw [← hnan, and_self, Bool.not_eq_true]
    | text s => exact iff_of_false Bool.false_ne_true (not_not_intro trivial)
  | text s =>
    cases b with
    | domain d => exact absurd trivial hb
    | text t =>
      obtain rfl : s = t := h
      exact iff_of_true (beq_self_eq_true s) id
    | _ => exact iff_of_false Bool.false_ne_true (not_not_intro trivial)

theorem not_writtenApart_domain : ¬ WrittenApart a (domain d) := by
  cases a <;> exact id

theorem not_keptApart_domain : ¬ KeptApart a (domain d) := by
  cases a <;> exact id

theorem isDomain_domain : (domain d).IsDomain := trivial

theorem exists_eq_domain (h : a.IsDomain) : ∃ d, a = domain d := by
  cases a with
  | domain d => exact ⟨d, rfl⟩
  | _ => exact absurd h id

/-! ## Chains -/

theorem equal_comm : Equal n w a b ↔ Equal n w b a := by
  by_cases ha : a.IsDomain
  · obtain ⟨d, rfl⟩ := exists_eq_domain ha
    exact equal_comm_domain.symm
  by_cases hb : b.IsDomain
  · obtain ⟨d, rfl⟩ := exists_eq_domain hb
    exact equal_comm_domain
  · rw [equal_iff ha hb, equal_iff hb ha, Datum.sameKey_comm]

/-- What is equal to one domain is equal, unless it is kept apart. -/
theorem equal_iff_not_keptApart (ha : Equal n w (domain d) a) (hb : Equal n w (domain d) b) :
    Equal n w a b ↔ ¬ KeptApart a b := by
  obtain ⟨hshort, hwritten⟩ := equal_domain_iff.1 ha
  obtain ⟨hshort', hwritten'⟩ := equal_domain_iff.1 hb
  by_cases had : a.IsDomain
  · obtain ⟨e, rfl⟩ := exists_eq_domain had
    rw [equal_domain_iff]
    exact iff_of_true ⟨hshort', hwritten'.trans hwritten.symm⟩ id
  by_cases hbd : b.IsDomain
  · obtain ⟨e, rfl⟩ := exists_eq_domain hbd
    rw [equal_comm, equal_domain_iff]
    exact iff_of_true ⟨hshort, hwritten.trans hwritten'.symm⟩ not_keptApart_domain
  · rw [equal_iff had hbd]
    exact sameKey_iff_of_written_eq (hwritten.trans hwritten'.symm) had hbd

/-- A domain that is equal to one of two equal values is equal to the other one, unless the values are
written apart. -/
theorem equal_domain_iff_not_writtenApart (ha : Equal n w (domain d) a) (hab : Equal n w a b)
    (h : ¬ a.IsDomain) : Equal n w (domain d) b ↔ ¬ WrittenApart a b := by
  by_cases hb : b.IsDomain
  · obtain ⟨e, rfl⟩ := exists_eq_domain hb
    obtain ⟨-, hd⟩ := equal_domain_iff.1 ha
    obtain ⟨-, he⟩ := equal_domain_iff.1 (equal_comm.1 hab)
    rw [equal_domain_iff]
    exact iff_of_true ⟨trivial, he.symm.trans hd⟩ not_writtenApart_domain
  · obtain ⟨hshort, hwritten⟩ := equal_domain_iff.1 ha
    rw [equal_domain_iff, ← hwritten]
    exact isShort_and_written_eq_iff ((equal_iff h hb).1 hab) hshort

/-- Equality is passed on from one end of a chain with a domain in it to the other one, but for where
the chain parts ways. -/
theorem equal_iff_of_chain (hab : Equal n w a b) (hbc : Equal n w b c)
    (h : a.IsDomain ∨ b.IsDomain ∨ c.IsDomain) : Equal n w a c ↔ ¬ PartsWays a b c := by
  by_cases hb : b.IsDomain
  · obtain ⟨d, rfl⟩ := exists_eq_domain hb
    have hparts : PartsWays a (domain d) c ↔ KeptApart a c := by
      simp [PartsWays, isDomain_domain, WrittenApart]
    rw [hparts]
    exact equal_iff_not_keptApart (equal_comm.1 hab) hbc
  by_cases ha : a.IsDomain
  · obtain ⟨d, rfl⟩ := exists_eq_domain ha
    have hparts : PartsWays (domain d) b c ↔ WrittenApart b c := by
      simp [PartsWays, isDomain_domain, not_writtenApart_domain, hb]
    rw [hparts]
    exact equal_domain_iff_not_writtenApart hab hbc hb
  · obtain ⟨d, rfl⟩ := exists_eq_domain (h.resolve_left ha |>.resolve_left hb)
    have hparts : PartsWays a b (domain d) ↔ WrittenApart b a := by
      simp [PartsWays, isDomain_domain, ha, hb]
    rw [hparts, equal_comm]
    exact equal_domain_iff_not_writtenApart (equal_comm.1 hbc) (equal_comm.1 hab) hb

end Comparand

/-! ## Tables -/

/-- A table none of whose keys is a member of an enumeration of texts. -/
def PlainKeys (t : Table) : Prop := ∀ e ∈ t, ∀ s, e.1.text? = some s → e.1 = .str s

/-- What a key finds in the table of the presets of domains. -/
def Domain.presetOf? (k : Value) : Option Preset :=
  (presets.find? fun e => sameKey (.domain e.1) k).map (·.2)

/-- A fault has the preset that its domain finds, or else that of a plain error. -/
theorem Domain.preset_eq (d : Domain) : d.preset = (presetOf? (.domain d)).getD ⟨.error, false⟩ := by
  have hkey (e : Domain) : sameKey (.domain e) (.domain d) = e.equals (.domain d) := by
    rw [sameKey]
    rfl
  rw [preset, presetOf?]
  simp only [hkey]

theorem sameKey_domain_iff : sameKey v (.domain d) = true ↔
    v = .str d.name ∨ ∃ e, v = .domain e ∧ e.name = d.name := by
  cases v <;> simp [sameKey, Value.same, numberOrder?, Value.integer?, Value.text?]

theorem sameKey_str_iff {s : String} (h : ∀ r, v.text? = some r → v = .str r) :
    sameKey v (.str s) = true ↔ v = .str s ∨ ∃ e, v = .domain e ∧ e.name = s := by
  cases v <;> simp_all [sameKey, Value.same, numberOrder?, Value.integer?, Value.text?]

namespace Comparand

theorem sameHash_of_isText (heq : Equal n w (domain d) a) (h : a.IsText) :
    d.sameHash a.operand = true := by
  obtain ⟨-, hwritten⟩ := equal_domain_iff.1 heq
  cases a with
  | text s => exact beq_iff_eq.2 hwritten.symm
  | domain e => exact beq_iff_eq.2 hwritten.symm
  | _ => exact absurd h id

/-- The same keys stand for a domain and for a text that is equal to it. -/
theorem sameKey_eq_of_isText (heq : Equal n w (domain d) a) (h : a.IsText)
    (hv : ∀ s, v.text? = some s → v = .str s) : sameKey v a.value = sameKey v (.domain d) := by
  obtain ⟨-, hwritten⟩ := equal_domain_iff.1 heq
  rw [Bool.eq_iff_iff, sameKey_domain_iff]
  cases a with
  | text s =>
    obtain rfl : s = d.name := hwritten
    exact sameKey_str_iff hv
  | domain e =>
    have hname : e.name = d.name := hwritten
    rw [value, sameKey_domain_iff, hname]
  | _ => exact absurd h id

theorem find?_eq_of_isText (heq : Equal n w (domain d) a) (h : a.IsText) (ht : PlainKeys t) :
    t.find? a.value = t.find? (.domain d) := by
  unfold Table.find?
  rw [List.find?_congr fun e he => sameKey_eq_of_isText heq h (ht e he)]

theorem isWord_of_mem_presets {p : Domain × Domain.Preset} (hp : p ∈ Domain.presets) :
    Text.IsWord p.1.name ∧ p.1.name ∉ ["None", Datum.boolText false, Datum.boolText true] := by
  simp only [Domain.presets, List.mem_cons, List.not_mem_nil, or_false] at hp
  obtain rfl | rfl | rfl := hp
  · exact ⟨⟨'c', by decide, by decide, by decide⟩, by decide⟩
  · exact ⟨⟨'t', by decide, by decide, by decide⟩, by decide⟩
  · exact ⟨⟨'v', by decide, by decide, by decide⟩, by decide⟩

/-- No number and no word is the name of a domain that has a preset. -/
theorem written_ne_of_mem_presets {p : Domain × Domain.Preset} (hp : p ∈ Domain.presets)
    (h : ¬ a.IsText) : a.written ≠ p.1.name := by
  obtain ⟨hword, hother⟩ := isWord_of_mem_presets hp
  intro heq
  rw [← heq] at hword hother
  cases a with
  | none => exact hother (by decide)
  | bool b => cases b <;> exact hother (by decide)
  | int i => exact hword.ne_intText rfl
  | float x => exact hword.ne_floatText rfl
  | _ => exact h trivial

/-- What is equal to a domain finds the same preset. -/
theorem presetOf?_eq (heq : Equal n w (domain d) a) :
    Domain.presetOf? a.value = Domain.presetOf? (.domain d) := by
  unfold Domain.presetOf?
  by_cases h : a.IsText
  · have hkey (e : Domain) : sameKey (.domain e) a.value = sameKey (.domain e) (.domain d) :=
      sameKey_eq_of_isText heq h (by rintro _ ⟨⟩)
    simp only [hkey]
  · obtain ⟨-, hwritten⟩ := equal_domain_iff.1 heq
    -- Neither finds one: other values are no keys, and their texts are no names.
    have hkey (e : Domain) : sameKey (.domain e) a.value = false := by
      cases a <;> first | rfl | exact absurd trivial h
    have hname (p) (hp : p ∈ Domain.presets) : sameKey (.domain p.1) (.domain d) = false := by
      rw [sameKey, ← hwritten, beq_eq_false_iff_ne]
      exact (written_ne_of_mem_presets hp h).symm
    rw [List.find?_eq_none.2, List.find?_eq_none.2]
    · simpa using hname
    · intro p _
      rw [hkey]
      exact Bool.false_ne_true

/-- The laws of equality with a domain. It does not matter on which side the domain stands. A domain is
compared with what has a text by this text, and with an integer that has too many digits it cannot be
compared. A chain with a domain in it passes equality on, but for where it parts ways. A text or another
domain that is equal to a domain has the same hash and finds the same entry of every table with plain
keys, and whatever is equal to a domain finds the same preset, which is that of the faults of the domain. -/
theorem equality_laws (n : Nat) (w : World) (d : Domain) :
    (∀ m v, compareValues m .eq v (.domain d) = compareValues m .eq (.domain d) v) ∧
    (∀ a, IsShort a →
      compareValues (interpreter (n + 1)) .eq (.domain d) a.value w = .ok (d.equals a.operand) w) ∧
    (∀ a, ¬ IsShort a → compareValues (interpreter (n + 1)) .eq (.domain d) a.value w =
      (valueError (Number.tooManyDigits ++ Number.raiseLimit) : Action Bool) w) ∧
    (∀ a b c, Equal n w a b → Equal n w b c → a.IsDomain ∨ b.IsDomain ∨ c.IsDomain →
      (Equal n w a c ↔ ¬ PartsWays a b c)) ∧
    (∀ a, Equal n w (domain d) a → a.IsText → d.sameHash a.operand = true ∧
      ∀ t, PlainKeys t → Table.find? t a.value = Table.find? t (.domain d)) ∧
    (∀ a, Equal n w (domain d) a → Domain.presetOf? a.value = Domain.presetOf? (.domain d) ∧
      (Domain.presetOf? a.value).getD ⟨.error, false⟩ = d.preset) := by
  refine ⟨fun m v => equals_domain_comm m.text d v, fun a h => compareValues_domain h,
    fun a h => compareValues_domain_of_not_isShort h,
    fun a b c hab hbc h => equal_iff_of_chain hab hbc h,
    fun a heq h => ⟨sameHash_of_isText heq h, fun t ht => find?_eq_of_isText heq h ht⟩,
    fun a heq => ⟨presetOf?_eq heq, ?_⟩⟩
  rw [presetOf?_eq heq, Domain.preset_eq]

theorem equality_laws_config :
    Equal 5999 {} (domain .config) (domain ⟨"config", ""⟩) ∧
    Domain.sameHash .config (text "config").operand = true ∧
    Domain.presetOf? (.str "config") = some ⟨.fatal, false⟩ := by
  have hname : Equal 5999 {} (domain .config) (text "config") := equal_domain_iff.2 ⟨trivial, rfl⟩
  have hother : Equal 5999 {} (text "config") (domain ⟨"config", ""⟩) :=
    equal_comm_domain.2 (equal_domain_iff.2 ⟨trivial, rfl⟩)
  obtain ⟨-, -, -, hchain, htext, hpreset⟩ := equality_laws 5999 {} .config
  have hpasses : ¬ PartsWays (domain .config) (text "config") (domain ⟨"config", ""⟩) := by
    simp [PartsWays, IsDomain, WrittenApart]
  exact ⟨(hchain _ _ _ hname hother (.inl trivial)).2 hpasses, (htext _ hname trivial).1,
    (hpreset _ hname).1.trans rfl⟩

/-- The domain that is named `1` is equal to the number one, and this number is equal to true; but the
domain is not equal to true, and its hash is not that of the number. -/
theorem equality_not_passed_on : Equal 5999 {} (domain ⟨"1", ""⟩) (int 1) ∧
    Equal 5999 {} (int 1) (bool true) ∧ ¬ Equal 5999 {} (domain ⟨"1", ""⟩) (bool true) ∧
    Domain.sameHash ⟨"1", ""⟩ (int 1).operand = false := by
  have hshort : (int 1).IsShort := by
    rw [IsShort, Number.digitLimit, Number.tenTo, Nat.pow_eq]
    exact Nat.one_lt_pow (by decide) (by decide)
  refine ⟨equal_domain_iff.2 ⟨hshort, rfl⟩, (equal_iff id id).2 rfl, ?_, rfl⟩
  rw [equal_domain_iff]
  exact fun h => absurd h.2 (by decide)

end Comparand

end Stencil
