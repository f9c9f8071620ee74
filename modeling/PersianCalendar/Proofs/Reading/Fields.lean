import PersianCalendar.Proofs.Outcome
import PersianCalendar.Proofs.Text.Clean
import PersianCalendar.Proofs.Text.Decimal
import PersianCalendar.Reading.Fields

/-!
# Numerals between separators

What the three fields of a text are is said without splitting it (`HasFields`), and the text is split
into just these (`split_eq_ok_iff`).  A field is read as a number exactly if it is this number in
digits, with zeros in front, and the number has 32 bits (`numeral_eq_ok_iff`).  Where something else
is found, the text or the first such field is refused (`split_eq_error_iff`, `traverse_eq_error_iff`).
-/

namespace PersianCalendar.Reading

open Outcome

/-! ### Parts between separators -/

section

variable {α : Type} {p : α → Bool} {l a b c : List α}

/-- The parts of a text are the text up to its first separator and the parts after it. -/
lemma splitOnP_eq_cons_iff {rest : List (List α)} :
    l.splitOnP p = a :: rest ↔ (∀ x ∈ a, p x = false) ∧
      (l = a ∧ rest = [] ∨ ∃ s tail, p s ∧ l = a ++ s :: tail ∧ tail.splitOnP p = rest) := by
  constructor
  · intro h
    cases hfind : l.find? p with
    | none =>
      have hfree : ∀ x ∈ l, p x = false := fun x hx => by
        simpa using List.find?_eq_none.1 hfind x hx
      rw [List.splitOnP_eq_singleton hfree] at h
      cases h
      exact ⟨hfree, Or.inl ⟨rfl, rfl⟩⟩
    | some s =>
      obtain ⟨hs, before, tail, rfl, hbefore⟩ := List.find?_eq_some_iff_append.1 hfind
      have hfree : ∀ x ∈ before, p x = false := fun x hx => by simpa using hbefore x hx
      rw [List.splitOnP_append_cons_of_forall_mem hfree s hs] at h
      cases h
      exact ⟨hfree, Or.inr ⟨s, tail, hs, rfl, rfl⟩⟩
  · rintro ⟨hfree, ⟨rfl, rfl⟩ | ⟨s, tail, hs, rfl, rfl⟩⟩
    · exact List.splitOnP_eq_singleton hfree
    · exact List.splitOnP_append_cons_of_forall_mem hfree s hs _

lemma splitOnP_eq_three_iff :
    l.splitOnP p = [a, b, c] ↔ (∀ x ∈ a, p x = false) ∧ (∀ x ∈ b, p x = false) ∧
      (∀ x ∈ c, p x = false) ∧ ∃ s t, p s ∧ p t ∧ l = a ++ s :: (b ++ t :: c) := by
  constructor
  · intro hsplit
    obtain ⟨ha, ⟨-, ⟨⟩⟩ | ⟨s, afterFirst, hs, rfl, hrest⟩⟩ := splitOnP_eq_cons_iff.1 hsplit
    obtain ⟨hb, ⟨-, ⟨⟩⟩ | ⟨t, afterSecond, ht, rfl, hlast⟩⟩ := splitOnP_eq_cons_iff.1 hrest
    obtain ⟨hc, ⟨rfl, -⟩ | ⟨-, afterThird, -, -, hnone⟩⟩ := splitOnP_eq_cons_iff.1 hlast
    · exact ⟨ha, hb, hc, s, t, hs, ht, rfl⟩
    · exact absurd hnone (List.splitOnP_ne_nil _ _)
  · rintro ⟨ha, hb, hc, s, t, hs, ht, rfl⟩
    rw [List.splitOnP_append_cons_of_forall_mem ha s hs,
      List.splitOnP_append_cons_of_forall_mem hb t ht, List.splitOnP_eq_singleton hc]

end

/-! ### Fields -/

/-- The part of a text has no separator in it, and is the field with blanks around it. -/
structure IsField (part field : List Char) : Prop where
  free : ∀ c ∈ part, isSeparator c = false
  trims : Text.TrimsTo Text.isBlank part field
  ne_nil : field ≠ []

lemma IsField.part_ne_nil {part field : List Char} (h : IsField part field) : part ≠ [] := by
  rintro rfl
  exact h.ne_nil (Text.trimWhere_eq_iff.2 h.trims).symm

/-- The text is three fields with one separator between each two of them. -/
def HasFields (cs : List Char) (fields : Triple (List Char)) : Prop :=
  ∃ s t a b c, cs = a ++ s :: (b ++ t :: c) ∧ isSeparator s ∧ isSeparator t ∧
    IsField a fields.first ∧ IsField b fields.middle ∧ IsField c fields.last

section

variable {cs : List Char} {fields : Triple (List Char)}

/-- The parts of a text, none of them empty, are its fields. -/
lemma parts_eq_iff (h : fields.first ≠ [] ∧ fields.middle ≠ [] ∧ fields.last ≠ []) :
    parts cs = [fields.first, fields.middle, fields.last] ↔ HasFields cs fields := by
  obtain ⟨hfirst, hmiddle, hlast⟩ := h
  have hpart : ∀ {part field : List Char}, field ≠ [] →
      ((∀ x ∈ part, isSeparator x = false) ∧ Text.trim part = field ↔ IsField part field) := by
    intro part field hne
    rw [Text.trim, Text.trimWhere_eq_iff]
    exact ⟨fun ⟨hfree, htrims⟩ => ⟨hfree, htrims, hne⟩, fun h => ⟨h.free, h.trims⟩⟩
  constructor
  · intro h
    obtain ⟨a, rest, hsplit, ha, hrest⟩ := List.map_eq_cons_iff.1 h
    obtain ⟨b, rest, rfl, hb, hrest⟩ := List.map_eq_cons_iff.1 hrest
    obtain ⟨c, rest, rfl, hc, hrest⟩ := List.map_eq_cons_iff.1 hrest
    obtain rfl := List.map_eq_nil_iff.1 hrest
    obtain ⟨hfreeA, hfreeB, hfreeC, s, t, hs, ht, hcs⟩ := splitOnP_eq_three_iff.1 hsplit
    exact ⟨s, t, a, b, c, hcs, hs, ht, (hpart hfirst).1 ⟨hfreeA, ha⟩,
      (hpart hmiddle).1 ⟨hfreeB, hb⟩, (hpart hlast).1 ⟨hfreeC, hc⟩⟩
  · rintro ⟨s, t, a, b, c, hcs, hs, ht, ha, hb, hc⟩
    obtain ⟨hfreeA, ha⟩ := (hpart hfirst).2 ha
    obtain ⟨hfreeB, hb⟩ := (hpart hmiddle).2 hb
    obtain ⟨hfreeC, hc⟩ := (hpart hlast).2 hc
    have hsplit := splitOnP_eq_three_iff.2 ⟨hfreeA, hfreeB, hfreeC, s, t, hs, ht, hcs⟩
    rw [parts, hsplit, ← ha, ← hb, ← hc]
    rfl

lemma HasFields.ne_nil (h : HasFields cs fields) :
    fields.first ≠ [] ∧ fields.middle ≠ [] ∧ fields.last ≠ [] := by
  obtain ⟨s, t, a, b, c, -, -, -, ha, hb, hc⟩ := h
  exact ⟨ha.ne_nil, hb.ne_nil, hc.ne_nil⟩

lemma split_eq_ok_iff : split cs = .ok fields ↔ HasFields cs fields := by
  constructor
  · intro h
    rw [split] at h
    split at h
    · rename_i hparts
      split at h
      · cases h
      · rename_i hne
        cases h
        simp only [not_or] at hne
        exact (parts_eq_iff hne).1 hparts
    · cases h
  · intro h
    obtain ⟨hfirst, hmiddle, hlast⟩ := h.ne_nil
    rw [split, (parts_eq_iff h.ne_nil).2 h]
    exact if_neg (by simp [hfirst, hmiddle, hlast])

lemma split_eq_error_iff {e : ReadError} :
    split cs = .error e ↔
      (∀ fields, ¬ HasFields cs fields) ∧ e = .notThreeFields (String.ofList cs) := by
  have honly : (∃ fields, split cs = .ok fields) ∨
      split cs = .error (.notThreeFields (String.ofList cs)) := by
    rw [split]
    split
    · split
      · exact Or.inr rfl
      · exact Or.inl ⟨_, rfl⟩
    · exact Or.inr rfl
  simp only [eq_error_iff_of_only honly, ne_eq, split_eq_ok_iff]

end

/-! ### Numerals -/

/-- The text is a number of a signed word of 32 bits, with any number of zeros in front. -/
def Denotes (cs : List Char) (n : Nat) : Prop :=
  n ≤ 2147483647 ∧ ∃ width, cs = Decimal.padded width n

lemma Denotes.isDigit_of_mem {cs : List Char} {n : Nat} (h : Denotes cs n) {c : Char} (hc : c ∈ cs) :
    c.isDigit := by
  obtain ⟨-, width, rfl⟩ := h
  exact Decimal.isDigit_of_mem_padded hc

section

variable {width n : Nat}

lemma numeral_padded (h : n ≤ 2147483647) : numeral (Decimal.padded width n) = .ok n := by
  have hvalue := Decimal.value_padded width n
  have hnumeral : IsNumeral (Decimal.padded width n) := by
    refine ⟨fun c hc => Decimal.isDigit_of_mem_padded hc, ?_⟩
    rw [hvalue]
    exact Int.ofNat_le.2 h
  rw [numeral, if_pos hnumeral, hvalue]

lemma numeral_padded_of_gt (h : 2147483647 < n) :
    numeral (Decimal.padded width n) =
      .error (.notANumeral (String.ofList (Decimal.padded width n))) := by
  refine if_neg fun hnumeral => ?_
  have hle := hnumeral.2
  rw [Decimal.value_padded] at hle
  exact absurd (Int.ofNat_le.1 hle) (Nat.not_le.2 h)

end

section

variable {cs : List Char} {n : Nat}

lemma numeral_eq_ok_iff (h0 : cs ≠ []) : numeral cs = .ok n ↔ Denotes cs n := by
  constructor
  · intro h
    rw [numeral] at h
    split at h
    · rename_i hnumeral
      cases h
      exact ⟨Int.ofNat_le.1 hnumeral.2, cs.length, Decimal.eq_padded_of_digits h0 hnumeral.1⟩
    · cases h
  · rintro ⟨hle, width, rfl⟩
    exact numeral_padded hle

lemma numeral_eq_error_iff {e : ReadError} (h0 : cs ≠ []) :
    numeral cs = .error e ↔ (∀ n, ¬ Denotes cs n) ∧ e = .notANumeral (String.ofList cs) := by
  have honly : (∃ n, numeral cs = .ok n) ∨
      numeral cs = .error (.notANumeral (String.ofList cs)) := by
    rw [numeral]
    split
    · exact Or.inl ⟨_, rfl⟩
    · exact Or.inr rfl
  simp only [eq_error_iff_of_only honly, ne_eq, numeral_eq_ok_iff h0]

end

/-! ### Three fields one after the other -/

section

variable {α β ε : Type} {f : α → Except ε β} {t : Triple α}

lemma traverse_eq_ok_iff {u : Triple β} :
    t.traverse f = .ok u ↔
      f t.first = .ok u.first ∧ f t.middle = .ok u.middle ∧ f t.last = .ok u.last := by
  simp only [Triple.traverse, bind_eq_ok]
  constructor
  · rintro ⟨first, hfirst, middle, hmiddle, last, hlast, ⟨⟩⟩
    exact ⟨hfirst, hmiddle, hlast⟩
  · rintro ⟨hfirst, hmiddle, hlast⟩
    exact ⟨_, hfirst, _, hmiddle, _, hlast, rfl⟩

/-- The error of three fields is that of the first one that has an error. -/
lemma traverse_eq_error_iff {e : ε} :
    t.traverse f = .error e ↔ f t.first = .error e ∨ ∃ y, f t.first = .ok y ∧
      (f t.middle = .error e ∨ ∃ m, f t.middle = .ok m ∧ f t.last = .error e) := by
  have hlast : ∀ {r : Except ε β} {y m : β},
      (r >>= fun d => pure (⟨y, m, d⟩ : Triple β)) = .error e ↔ r = .error e := by
    intro r y m
    rw [bind_eq_error]
    constructor
    · rintro (h | ⟨d, -, ⟨⟩⟩)
      exact h
    · exact Or.inl
  simp only [Triple.traverse, bind_eq_error, hlast]

end

/-! ### Padded numbers -/

section

variable {s t : Char} {u v w : Nat} {y m d : Nat}

lemma isSeparator_of_isDigit {d : Char} (h : d.isDigit) : isSeparator d = false := by
  cases hsep : isSeparator d with
  | false => rfl
  | true =>
    have hmem : d ∈ separators := List.contains_iff_mem.1 hsep
    simp only [separators, List.mem_cons, List.not_mem_nil, or_false] at hmem
    rcases hmem with rfl | rfl | rfl | rfl <;> exact absurd h (by decide)

lemma isField_padded (width n : Nat) :
    IsField (Decimal.padded width n) (Decimal.padded width n) where
  free := fun _ hc => isSeparator_of_isDigit (Decimal.isDigit_of_mem_padded hc)
  trims := by
    refine Text.trimWhere_eq_iff.1 (Text.trimWhere_eq_self fun c hc => ?_)
    exact (Text.plain_of_isDigit (Decimal.isDigit_of_mem_padded hc)).1.2.2
  ne_nil := Decimal.padded_ne_nil width n

/-- A number is a field without blanks around it. -/
lemma Denotes.isField {cs : List Char} {n : Nat} (h : Denotes cs n) : IsField cs cs := by
  obtain ⟨-, width, rfl⟩ := h
  exact isField_padded width n

/-- Padded numbers between separators, one after the other. -/
lemma numbers_padded (hs : isSeparator s) (ht : isSeparator t) :
    numbers (Decimal.padded u y ++ s :: (Decimal.padded v m ++ t :: Decimal.padded w d)) =
      Triple.traverse numeral
        ⟨Decimal.padded u y, Decimal.padded v m, Decimal.padded w d⟩ := by
  have hfields : HasFields
      (Decimal.padded u y ++ s :: (Decimal.padded v m ++ t :: Decimal.padded w d))
      ⟨Decimal.padded u y, Decimal.padded v m, Decimal.padded w d⟩ :=
    ⟨s, t, _, _, _, rfl, hs, ht, isField_padded u y, isField_padded v m, isField_padded w d⟩
  rw [numbers, split_eq_ok_iff.2 hfields]
  rfl

end

end PersianCalendar.Reading
