import Mathlib.Tactic.Lemma
import PersianCalendar.Json.Backend
import PersianCalendar.Proofs.Outcome

/-!
# Forms that settle

Of the JSON values that are read as one value, one is written, and its text is read as the same value
again (`Backend.Settles`).  For a form that writes scalars it is enough that it reads what it writes for
the values that it accepts (`KeepsScalars`); variants and records settle when the forms of their contents
and fields do this (`settles_tagged`, `settles_record`).
-/

namespace PersianCalendar.Json

open Outcome

variable {α β : Type}

/-! ### Values written in another way -/

lemma Scalar.eq_of_alike {j k : Json} (h : j.Scalar) (hk : j.Alike k) : k = j := by
  cases hk with
  | refl => rfl
  | object _ => cases h

lemma exists_of_alike_object {fields : List (String × Json)} {k : Json} (h : Alike (object fields) k) :
    ∃ fields', k = object fields' ∧ fields.Perm fields' := by
  cases h with
  | refl => exact ⟨fields, rfl, List.Perm.refl fields⟩
  | object h => exact ⟨_, rfl, h⟩

/-! ### Forms -/

/-- What a form accepts is written as a scalar and read from it again. -/
structure Form.KeepsScalars (F : Form α) : Prop where
  scalar {x : α} (h : F.Accepts x) : (F.toJson x).Scalar
  ofJson_toJson {x : α} (h : F.Accepts x) : F.ofJson (F.toJson x) = .ok x

/-- The form of each field keeps scalars. -/
def Fields.KeepScalars : {α : Type} → Fields α → Prop
  | _, nil => True
  | _, cons _ form rest => form.KeepsScalars ∧ rest.KeepScalars

namespace Fields

@[simp] lemma map_fst_toJson (F : Fields α) (x : α) : (F.toJson x).map Prod.fst = F.names := by
  induction F with
  | nil => rfl
  | cons name form rest ih =>
    simp [toJson, names, ih]

variable {F : Fields α} {x : α}

lemma scalar_of_mem_toJson (hF : F.KeepScalars) (hx : F.Accepts x) :
    ∀ field ∈ F.toJson x, field.2.Scalar := by
  induction F with
  | nil => exact nofun
  | cons name form rest ih =>
    intro field hfield
    rcases List.mem_cons.1 hfield with rfl | hfield
    · exact hF.1.scalar hx.1
    · exact ih hF.2 hx.2 field hfield

lemma flat_toJson (hF : F.KeepScalars) (hnames : F.names.Nodup) (hx : F.Accepts x) :
    (object (F.toJson x)).Flat :=
  .object (by rwa [map_fst_toJson]) (scalar_of_mem_toJson hF hx)

/-- The fields that are written for a record are read wherever they stand. -/
lemma reads_of_subset {fields : List (String × Json)} (hF : F.KeepScalars) (hx : F.Accepts x)
    (hfields : F.toJson x ⊆ fields) : F.Reads fields x := by
  induction F with
  | nil => trivial
  | cons name form rest ih =>
    obtain ⟨hfield, hrest⟩ := List.cons_subset.1 hfields
    exact ⟨⟨_, hfield, hF.1.ofJson_toJson hx.1⟩, ih hF.2 hx.2 hrest⟩

end Fields

/-! ### Backends -/

namespace Backend

variable {B : Backend}

lemma read_eq_ok_iff {F : Form α} {text : String} {x : α} :
    B.read F text = .ok x ↔ ∃ j, B.parse text = some j ∧ F.ofJson j = .ok x := by
  rw [read]
  split <;> simp [*]

/-- A value is read from the text that is written for it if it is read from every value like the one
that is written. -/
lemma Lawful.read_write (hB : B.Lawful) {F : Form α} {x : α} (hflat : (F.toJson x).Flat)
    (hread : ∀ k, (F.toJson x).Alike k → F.ofJson k = .ok x) : B.read F (B.write F x) = .ok x := by
  obtain ⟨k, hparse, hk⟩ := hB.parse_print hflat
  exact read_eq_ok_iff.2 ⟨k, hparse, hread k hk⟩

lemma Lawful.settles_of_keepsScalars (hB : B.Lawful) {F : Form α} (hF : F.KeepsScalars) :
    B.Settles F := by
  intro j x h
  have hx : F.Accepts x := ⟨j, h⟩
  refine hB.read_write (.scalar (hF.scalar hx)) fun k hk => ?_
  rw [(hF.scalar hx).eq_of_alike hk]
  exact hF.ofJson_toJson hx

/-- A form settles along with the one that it is carried over from. -/
lemma Settles.along {F : Form α} (hF : B.Settles F) {f : α → β} {g : β → α} (hgf : ∀ x, g (f x) = x) :
    B.Settles (F.along f g) := by
  intro j y h
  obtain ⟨x, hx, rfl⟩ := map_eq_ok.1 h
  have hwrite : B.write (F.along f g) (f x) = B.write F x := by
    simp only [write, Form.along, hgf]
  obtain ⟨k, hparse, hk⟩ := read_eq_ok_iff.1 (hF j x hx)
  rw [hwrite, read_eq_ok_iff]
  exact ⟨k, hparse, map_eq_ok.2 ⟨x, hk, rfl⟩⟩

lemma Lawful.keepsScalars_int32 (hB : B.Lawful) : B.int32.KeepsScalars where
  scalar {n} h := by
    have hn : Width.signed32.Holds n := hB.holds_of_int32 h
    rw [hB.toJson_int32 hn]
    refine .integer ?_
    simp at hn ⊢
    omega
  ofJson_toJson {n} h := by
    have hn : Width.signed32.Holds n := hB.holds_of_int32 h
    rw [hB.toJson_int32 hn, hB.ofJson_int32 hn]

lemma Lawful.keepsScalars_bool (hB : B.Lawful) : B.bool.KeepsScalars where
  scalar {b} _ := by
    rw [hB.toJson_bool]
    exact .bool b
  ofJson_toJson {b} _ := by
    rw [hB.toJson_bool, hB.ofJson_bool]

lemma Lawful.keepsScalars_choice (hB : B.Lawful) {values : List α} {key : α → String}
    (hkeys : (values.map key).Nodup) (hvalues : ∀ x, x ∈ values) :
    (B.choice values key).KeepsScalars where
  scalar {x} _ := by
    rw [hB.toJson_choice (hvalues x)]
    exact .string (key x)
  ofJson_toJson {x} _ := by
    rw [hB.toJson_choice (hvalues x), hB.ofJson_choice hkeys (hvalues x)]

/-- Variants settle whose contents keep scalars: whichever of its two fields comes first, the content
that is read is the one that was written. -/
lemma Lawful.settles_tagged (hB : B.Lawful) {ι : Type} {β : ι → Type} {tag content : String}
    {variants : List ι} {key : ι → String} {form : ∀ i, Form (β i)} (htag : tag ≠ content)
    (hkeys : (variants.map key).Nodup) (hvariants : ∀ i, i ∈ variants)
    (hform : ∀ i, (form i).KeepsScalars) :
    B.Settles (B.tagged tag content variants key form) := by
  rintro j ⟨i, x⟩ h
  have hx : (form i).Accepts x := hB.accepts_of_tagged ⟨j, h⟩
  have htoJson : (B.tagged tag content variants key form).toJson ⟨i, x⟩ =
      object [(tag, .string (key i)), (content, (form i).toJson x)] := hB.toJson_tagged (hvariants i)
  have hnames : ([(tag, string (key i)), (content, (form i).toJson x)].map Prod.fst).Nodup := by
    simp [htag]
  refine hB.read_write ?_ fun k hk => ?_
  · rw [htoJson]
    refine .object hnames ?_
    simp only [List.forall_mem_cons, List.not_mem_nil, false_imp_iff, implies_true, and_true]
    exact ⟨.string (key i), (hform i).scalar hx⟩
  · rw [htoJson] at hk
    obtain ⟨fields, rfl, hperm⟩ := exists_of_alike_object hk
    refine hB.ofJson_tagged htag hkeys (hvariants i) ((hperm.map Prod.fst).nodup_iff.1 hnames) ?_ ?_
      ((hform i).ofJson_toJson hx)
    · exact hperm.subset List.mem_cons_self
    · exact hperm.subset (List.mem_cons_of_mem _ List.mem_cons_self)

/-- Records settle whose fields keep scalars. -/
lemma Lawful.settles_record (hB : B.Lawful) {F : Fields α} (hnames : F.names.Nodup)
    (hF : F.KeepScalars) : B.Settles (B.record F) := by
  intro j x h
  have hx : F.Accepts x := hB.accepts_of_record ⟨j, h⟩
  have htoJson := hB.toJson_record F x
  refine hB.read_write ?_ fun k hk => ?_
  · rw [htoJson]
    exact F.flat_toJson hF hnames hx
  · rw [htoJson] at hk
    obtain ⟨fields, rfl, hperm⟩ := exists_of_alike_object hk
    refine hB.ofJson_record hnames ?_ (F.reads_of_subset hF hx hperm.subset)
    rw [← (hperm.map Prod.fst).nodup_iff, F.map_fst_toJson]
    exact hnames

end Backend

end PersianCalendar.Json
