import PersianCalendar.Proofs.FixedWidth.Reading
import PersianCalendar.Proofs.Reading.Fields

/-!
# The grammar of dates with the year in front

Which cleaned texts are dates with the year in front, and what they mean, is said by a relation that
does not read them (`DateText`): an optional minus sign, and three numbers with separators and blanks
between them.  The reader accepts just these texts, with just this meaning.  Every other text is
refused for the one reason that is given for it by a second relation (`Refused`).
-/

namespace PersianCalendar.Reading

open Outcome

/-! ### The grammar -/

/-- The text is three fields that are numbers. -/
def HasNumbers (cs : List Char) (t : Triple Nat) : Prop :=
  ∃ fields, HasFields cs fields ∧
    Denotes fields.first t.first ∧ Denotes fields.middle t.middle ∧ Denotes fields.last t.last

/-- The cleaned text is a year, a month and a day. -/
inductive DateText : List Char → Ymd → Prop
  | positive {cs : List Char} {t : Triple Nat} (h : HasNumbers cs t) :
      DateText cs ⟨t.first, t.middle, t.last⟩
  | negative {cs : List Char} {t : Triple Nat} (h : HasNumbers cs t) :
      DateText ('-' :: cs) ⟨-(t.first : Int), t.middle, t.last⟩

/-- What follows an optional minus sign. -/
def afterSign : List Char → List Char
  | '-' :: cs => cs
  | cs => cs

/-- The field is the first one that is no number. -/
inductive Offends : Triple (List Char) → List Char → Prop
  | first {t : Triple (List Char)} (h : ∀ n, ¬ Denotes t.first n) : Offends t t.first
  | middle {t : Triple (List Char)} {y : Nat} (hfirst : Denotes t.first y)
      (h : ∀ n, ¬ Denotes t.middle n) : Offends t t.middle
  | last {t : Triple (List Char)} {y m : Nat} (hfirst : Denotes t.first y)
      (hmiddle : Denotes t.middle m) (h : ∀ n, ¬ Denotes t.last n) : Offends t t.last

/-- The cleaned text is no date, for this reason. -/
inductive Refused : List Char → ReadError → Prop
  | empty : Refused [] .empty
  | notThreeFields {cs : List Char} (hne : cs ≠ []) (h : ∀ fields, ¬ HasFields (afterSign cs) fields) :
      Refused cs (.notThreeFields (String.ofList (afterSign cs)))
  | notANumeral {cs field : List Char} {fields : Triple (List Char)}
      (h : HasFields (afterSign cs) fields) (hfield : Offends fields field) :
      Refused cs (.notANumeral (String.ofList field))

/-! ### Numbers -/

section

variable {cs : List Char} {fields : Triple (List Char)} {t : Triple Nat} {e : ReadError}

lemma numbers_eq_ok_iff : numbers cs = .ok t ↔ HasNumbers cs t := by
  rw [numbers, bind_eq_ok]
  refine exists_congr fun fields => ?_
  rw [split_eq_ok_iff]
  refine and_congr_right fun hfields => ?_
  obtain ⟨hfirst, hmiddle, hlast⟩ := hfields.ne_nil
  rw [traverse_eq_ok_iff, numeral_eq_ok_iff hfirst, numeral_eq_ok_iff hmiddle,
    numeral_eq_ok_iff hlast]

lemma traverse_eq_error_iff_offends (h : HasFields cs fields) :
    fields.traverse numeral = .error e ↔
      ∃ field, Offends fields field ∧ e = .notANumeral (String.ofList field) := by
  obtain ⟨hfirst, hmiddle, hlast⟩ := h.ne_nil
  simp only [traverse_eq_error_iff, numeral_eq_error_iff hfirst, numeral_eq_error_iff hmiddle,
    numeral_eq_error_iff hlast, numeral_eq_ok_iff hfirst, numeral_eq_ok_iff hmiddle]
  constructor
  · rintro (⟨hnone, rfl⟩ | ⟨y, hy, ⟨hnone, rfl⟩ | ⟨m, hm, hnone, rfl⟩⟩)
    · exact ⟨_, .first hnone, rfl⟩
    · exact ⟨_, .middle hy hnone, rfl⟩
    · exact ⟨_, .last hy hm hnone, rfl⟩
  · rintro ⟨field, hnone | ⟨hy, hnone⟩ | ⟨hy, hm, hnone⟩, rfl⟩
    · exact Or.inl ⟨hnone, rfl⟩
    · exact Or.inr ⟨_, hy, Or.inl ⟨hnone, rfl⟩⟩
    · exact Or.inr ⟨_, hy, Or.inr ⟨_, hm, hnone, rfl⟩⟩

lemma numbers_eq_error_iff :
    numbers cs = .error e ↔
      (∀ fields, ¬ HasFields cs fields) ∧ e = .notThreeFields (String.ofList cs) ∨
      ∃ fields field, HasFields cs fields ∧ Offends fields field ∧
        e = .notANumeral (String.ofList field) := by
  rw [numbers, bind_eq_error, split_eq_error_iff]
  refine or_congr_right (exists_congr fun fields => ?_)
  rw [split_eq_ok_iff, exists_and_left]
  exact and_congr_right traverse_eq_error_iff_offends

end

/-! ### The sign -/

section

variable {cs : List Char} {f : Ymd} {e : ReadError}

/-- A minus sign is a separator, so a text with one in front has an empty first field. -/
lemma not_hasFields_minus (cs : List Char) (fields : Triple (List Char)) :
    ¬ HasFields ('-' :: cs) fields := by
  rintro ⟨s, t, a, b, c, hcs, -, -, ha, -, -⟩
  cases a with
  | nil => exact ha.part_ne_nil rfl
  | cons x a =>
    cases hcs
    exact absurd (ha.free '-' List.mem_cons_self) (by decide)

lemma not_hasFields_nil (fields : Triple (List Char)) : ¬ HasFields [] fields := by
  rintro ⟨s, t, a, b, c, hcs, -⟩
  exact List.append_ne_nil_of_right_ne_nil a (List.cons_ne_nil s _) hcs.symm

lemma signedOfCleaned_eq_ok_iff :
    (signedOfCleaned cs).map Signed.toYmd = .ok f ↔ DateText cs f := by
  rw [map_eq_ok]
  fun_cases signedOfCleaned cs with
  | case1 =>
    constructor
    · rintro ⟨_, ⟨⟩, -⟩
    · rintro ⟨fields, hfields, -⟩
      exact absurd hfields (not_hasFields_nil fields)
  | case2 rest =>
    simp only [map_eq_ok, numbers_eq_ok_iff]
    constructor
    · rintro ⟨_, ⟨t, ht, rfl⟩, rfl⟩
      exact .negative ht
    · rintro (⟨fields, hfields, -⟩ | ht)
      · exact absurd hfields (not_hasFields_minus rest fields)
      · exact ⟨_, ⟨_, ht, rfl⟩, rfl⟩
  | case3 cs _ hplain =>
    simp only [map_eq_ok, numbers_eq_ok_iff]
    constructor
    · rintro ⟨_, ⟨t, ht, rfl⟩, rfl⟩
      exact .positive ht
    · rintro (ht | ht)
      · exact ⟨_, ⟨_, ht, rfl⟩, rfl⟩
      · exact absurd rfl (hplain _)

/-- Behind the sign there are no numbers, for the reason for which the text is refused. -/
lemma numbers_afterSign_eq_error_iff (h0 : cs ≠ []) :
    numbers (afterSign cs) = .error e ↔ Refused cs e := by
  rw [numbers_eq_error_iff]
  constructor
  · rintro (⟨hnone, rfl⟩ | ⟨fields, field, hfields, hfield, rfl⟩)
    · exact .notThreeFields h0 hnone
    · exact .notANumeral hfields hfield
  · rintro (_ | ⟨-, hnone⟩ | ⟨hfields, hfield⟩)
    · exact absurd rfl h0
    · exact Or.inl ⟨hnone, rfl⟩
    · exact Or.inr ⟨_, _, hfields, hfield, rfl⟩

lemma signedOfCleaned_of_ne_nil (h0 : cs ≠ []) :
    ∃ sign, signedOfCleaned cs = (numbers (afterSign cs)).map (Signed.mk sign) := by
  fun_cases signedOfCleaned cs with
  | case1 => exact absurd rfl h0
  | case2 rest => exact ⟨true, rfl⟩
  | case3 cs _ hplain =>
    have hself : afterSign cs = cs := by
      rw [afterSign]
      exact hplain
    exact ⟨false, by rw [hself]⟩

lemma signedOfCleaned_eq_error_iff : signedOfCleaned cs = .error e ↔ Refused cs e := by
  by_cases h0 : cs = []
  · subst h0
    constructor
    · rintro ⟨⟩
      exact .empty
    · rintro (_ | ⟨hne, -⟩ | ⟨hfields, -⟩)
      · rfl
      · exact absurd rfl hne
      · exact absurd hfields (not_hasFields_nil _)
  · obtain ⟨sign, hsigned⟩ := signedOfCleaned_of_ne_nil h0
    simp [hsigned, numbers_afterSign_eq_error_iff h0]

end

end PersianCalendar.Reading

namespace PersianCalendar

open Outcome Reading

/-! ### Dates -/

/-- The reader of fields with the year in front accepts just the texts of the grammar, with their
meaning, and refuses every other text for its own reason.  A date is then made of the fields that are
meant, or is refused for the reason why there is no such date. -/
theorem yearFirst_grammar (s : String) :
    (∀ f, yearFirst s.toList = .ok f ↔ DateText (Text.clean s.toList) f) ∧
    (∀ e, yearFirst s.toList = .error e ↔ Refused (Text.clean s.toList) e) ∧
    (∀ c d, Date.read c s = .ok d ↔
      ∃ f, DateText (Text.clean s.toList) f ∧ Date.ofYmd c f = .ok d) ∧
    (∀ c e, Date.read c s = .error e ↔ Refused (Text.clean s.toList) e ∨
      ∃ f, DateText (Text.clean s.toList) f ∧ ∃ e', Date.ofYmd c f = .error e' ∧ e = .date e') ∧
    ∀ c, FixedWidth.Reading.date c s = FixedWidth.Checked.ofExcept (Date.read c s) := by
  have hok : ∀ f, yearFirst s.toList = .ok f ↔ DateText (Text.clean s.toList) f := by
    intro f
    exact signedOfCleaned_eq_ok_iff
  have herror : ∀ e, yearFirst s.toList = .error e ↔ Refused (Text.clean s.toList) e := by
    intro e
    rw [yearFirst, map_eq_error]
    exact signedOfCleaned_eq_error_iff
  refine ⟨hok, herror, fun c d => ?_, fun c e => ?_, fun c => ?_⟩
  · simp only [Date.read, dateOfChars_eq_ok_iff, hok]
  · simp only [Date.read, dateOfChars_eq_error_iff, hok, herror]
  · exact FixedWidth.Reading.date_eq c s

/-- A quoted text with digits of three scripts, and a text for each of the reasons. -/
theorem yearFirst_grammar_mixed :
    DateText (Text.clean " \"- ۱۴۰۳/ 007.٠30\" ".toList) ⟨-1403, 7, 30⟩ ∧
    Date.ofYmd .jalali ⟨-1403, 7, 30⟩ = .error (.unsupportedYear (-1403)) ∧
    Date.read .jalali " \"- ۱۴۰۳/ 007.٠30\" " = .error (.date (.unsupportedYear (-1403))) ∧
    Date.read .gregorian " \"- ۱۴۰۳/ 007.٠30\" " = .ok ⟨⟨-1403, 7, 30⟩⟩ ∧
    Refused (Text.clean "' '".toList) .empty ∧
    Refused (Text.clean "--1403/1/1".toList) (.notThreeFields "-1403/1/1") ∧
    Refused (Text.clean "1403/ x /2147483648".toList) (.notANumeral "x") := by
  have hmixed := yearFirst_grammar " \"- ۱۴۰۳/ 007.٠30\" "
  have hfields := (hmixed.1 _).1 rfl
  have hjalali : Date.ofYmd .jalali ⟨-1403, 7, 30⟩ = .error (.unsupportedYear (-1403)) := by decide
  refine ⟨hfields, hjalali, ?_, ?_, ?_, ?_, ?_⟩
  · exact (hmixed.2.2.2.1 _ _).2 (Or.inr ⟨_, hfields, _, hjalali, rfl⟩)
  · exact (hmixed.2.2.1 _ _).2 ⟨_, hfields, by decide⟩
  · exact ((yearFirst_grammar "' '").2.1 _).1 rfl
  · exact ((yearFirst_grammar "--1403/1/1").2.1 _).1 rfl
  · exact ((yearFirst_grammar "1403/ x /2147483648").2.1 _).1 rfl

end PersianCalendar
