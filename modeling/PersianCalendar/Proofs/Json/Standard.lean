import Mathlib.Data.List.Nodup
import PersianCalendar.Json.Standard
import PersianCalendar.Proofs.Json.Value
import PersianCalendar.Proofs.Outcome

/-!
# A backend that keeps the laws

The reader and the writer of this library, with the forms derived in `Backend.standard`, are a backend
that keeps the laws (`lawful_standard`).
-/

namespace PersianCalendar.Json

open Outcome

variable {α : Type}

/-! ### Flat values -/

lemma Scalar.regular {j : Json} (h : j.Scalar) : j.Regular := by
  cases h with
  | null => exact .null
  | bool b => exact .bool b
  | integer _ => exact .integer _
  | string s => exact .string s

lemma Flat.regular {j : Json} (h : j.Flat) : j.Regular := by
  cases h with
  | scalar h => exact h.regular
  | object hnames h => exact .object hnames fun field hfield => (h field hfield).regular

/-! ### Parts -/

/-- A field is found by its name where no other field has this name. -/
lemma field?_eq_some {name : String} {fields : List (String × Json)} {j : Json}
    (hnames : (fields.map Prod.fst).Nodup) (h : (name, j) ∈ fields) : field? name fields = some j := by
  induction fields with
  | nil => cases h
  | cons field fields ih =>
    obtain ⟨name', j'⟩ := field
    obtain ⟨hnew, hnames⟩ := List.nodup_cons.1 hnames
    rcases List.mem_cons.1 h with heq | hmem
    · cases heq
      exact List.lookup_cons_self
    · have hne : name ≠ name' := by
        rintro rfl
        exact hnew (List.mem_map.2 ⟨(name, j), hmem, rfl⟩)
      rw [field?, List.lookup_cons, beq_false_of_ne hne]
      exact ih hnames hmem

/-! ### Names -/

/-- A value is found by its name where no other value goes by this name. -/
lemma ofKey_key {values : List α} {key : α → String} {x : α} (hkeys : (values.map key).Nodup)
    (hx : x ∈ values) : ofKey values key (key x) = .ok x := by
  have hfind : (values.find? fun y => key y = key x) = some x := by
    induction values with
    | nil => cases hx
    | cons y values ih =>
      obtain ⟨hnew, hkeys⟩ := List.nodup_cons.1 hkeys
      rcases List.mem_cons.1 hx with rfl | hx
      · exact List.find?_cons_of_pos (decide_eq_true rfl)
      · have hne : key y ≠ key x := by
          intro heq
          exact hnew (heq ▸ List.mem_map_of_mem hx)
        rw [List.find?_cons_of_neg (by simpa using hne)]
        exact ih hkeys hx
  rw [ofKey, hfind]

/-! ### Variants -/

section

variable {ι : Type} {β : ι → Type} {tag content : String} {variants : List ι} {key : ι → String}
  {form : ∀ i, Form (β i)} {i : ι} {x : β i}

lemma ofContent_eq_ok_iff {j : Json} : ofContent form i j = .ok ⟨i, x⟩ ↔ (form i).ofJson j = .ok x := by
  simp [ofContent, map_eq_ok]

/-- Whatever is read, the content was read by the form of the variant. -/
lemma accepts_of_ofTagged {j : Json} (h : ofTagged tag content variants key form j = .ok ⟨i, x⟩) :
    (form i).Accepts x := by
  have haccepts : ∀ i' j', ofContent form i' j' = .ok ⟨i, x⟩ → (form i).Accepts x := by
    intro i' j' h
    obtain ⟨x', hx', heq⟩ := map_eq_ok.1 h
    cases heq
    exact ⟨j', hx'⟩
  revert h
  fun_cases ofTagged tag content variants key form j with
  | case1 fields =>
    simp only [bind_eq_ok]
    rintro ⟨_, -, i', -, _, -, h⟩
    exact haccepts _ _ h
  | case2 name value others =>
    simp only [bind_eq_ok]
    rintro ⟨i', -, y, hy, h⟩
    split at h
    · cases h
      exact haccepts _ _ hy
    · cases h
  | case3 => rintro ⟨⟩

end

/-! ### Records -/

namespace Fields

variable {F : Fields α} {fields : List (String × Json)} {x : α}

/-- A record is read from an object that holds its fields. -/
lemma ofFields_of_reads (hnames : (fields.map Prod.fst).Nodup) (hx : F.Reads fields x) :
    F.ofFields fields = .ok x := by
  induction F with
  | nil => rfl
  | cons name form rest ih =>
    obtain ⟨⟨j, hj, hread⟩, hrest⟩ := hx
    simp only [ofFields, bind_eq_ok, field_eq_ok_iff]
    exact ⟨j, field?_eq_some hnames hj, _, hread, _, ih hrest, rfl⟩

lemma accepts_of_ofFields (h : F.ofFields fields = .ok x) : F.Accepts x := by
  induction F with
  | nil => trivial
  | cons name form rest ih =>
    simp only [ofFields, bind_eq_ok, field_eq_ok_iff] at h
    obtain ⟨j, -, _, hread, _, hrest, h⟩ := h
    cases h
    exact ⟨⟨j, hread⟩, ih hrest⟩

lemma accepts_of_ofItems {items : List Json} (h : F.ofItems items = .ok x) : F.Accepts x := by
  induction F generalizing items with
  | nil => trivial
  | cons name form rest ih =>
    cases items with
    | nil => cases h
    | cons item items =>
      simp only [ofItems, bind_eq_ok] at h
      obtain ⟨_, hread, _, hrest, h⟩ := h
      cases h
      exact ⟨⟨item, hread⟩, ih hrest⟩

/-- Whatever is read, the value of each field was read by its own form. -/
lemma accepts_of_ofJson {j : Json} (h : F.ofJson j = .ok x) : F.Accepts x := by
  cases j with
  | object fields => exact accepts_of_ofFields h
  | array items => exact accepts_of_ofItems h
  | _ => cases h

end Fields

/-! ### The backend -/

/-- The backend with this library's own reader and writer keeps the laws. -/
theorem lawful_standard : Backend.standard.Lawful where
  parse_print {j} h := ⟨j, read?_text h.regular, .refl j⟩
  toJson_int32 _ := rfl
  ofJson_int32 h := asInteger_eq_ok_iff.2 ⟨rfl, h⟩
  holds_of_int32 := by
    rintro n ⟨j, h⟩
    exact (asInteger_eq_ok_iff.1 h).2
  toJson_bool _ := rfl
  ofJson_bool _ := rfl
  toJson_choice _ := rfl
  ofJson_choice := ofKey_key
  toJson_tagged _ := rfl
  ofJson_tagged {ι β tag content variants key form fields i j x} _ hkeys hi hnames htag hcontent hx := by
    have hchoice : ofChoice variants key (.string (key i)) = .ok i := ofKey_key hkeys hi
    simp [Backend.standard, ofTagged]
    exact ⟨_, field?_eq_some hnames htag, i, hchoice, j, field?_eq_some hnames hcontent,
      ofContent_eq_ok_iff.2 hx⟩
  accepts_of_tagged := by
    rintro ι β tag content variants key form i x ⟨j, h⟩
    exact accepts_of_ofTagged h
  toJson_record _ _ := rfl
  ofJson_record _ hnames hx := Fields.ofFields_of_reads hnames hx
  accepts_of_record := by
    rintro α F x ⟨j, h⟩
    exact Fields.accepts_of_ofJson h

end PersianCalendar.Json
