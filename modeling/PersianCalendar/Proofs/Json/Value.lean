import Mathlib.Data.Bool.AllAny
import PersianCalendar.Proofs.Json.String
import PersianCalendar.Proofs.Text.Decimal

/-!
# JSON values read back

A value is read back from its text (`read?_text`) if its numbers are integers and none of its objects
has two fields of one name (`Regular`).  The reader is followed part by part: a value is read from its
characters whatever stands behind them (`ReadsBack`), unless this could be more of the value (`Ends`).
-/

namespace PersianCalendar.Json

/-- A value whose numbers are integers and whose objects have no two fields of one name. -/
inductive Regular : Json → Prop
  | null : Regular null
  | bool (b : Bool) : Regular (bool b)
  | integer (n : Int) : Regular (integer n)
  | string (s : String) : Regular (string s)
  | array {items : List Json} (h : ∀ item ∈ items, Regular item) : Regular (array items)
  | object {fields : List (String × Json)} (hnames : (fields.map Prod.fst).Nodup)
      (h : ∀ field ∈ fields, Regular field.2) : Regular (object fields)

/-- Nothing, or what stands behind a value in an array or an object. -/
def Ends (rest : List Char) : Prop := ∀ c ∈ rest.head?, c ∈ [',', ']', '\x7d']

/-- The value is read from its characters, and what stands behind them is left. -/
def ReadsBack (j : Json) : Prop :=
  ∀ (depth : Nat) (rest : List Char), (chars j).length ≤ depth → Ends rest →
    readValue depth (chars j ++ rest) = some (j, rest)

lemma ends_nil : Ends [] := by
  rintro c ⟨⟩

lemma ends_cons {c : Char} {rest : List Char} (h : c ∈ [',', ']', '\x7d']) : Ends (c :: rest) := by
  rintro x ⟨⟩
  exact h

/-! ### Numbers -/

section

variable {rest : List Char}

/-- What ends a value is no digit, so it ends a run of them. -/
lemma readDigits_append {digits : List Char} (h0 : digits ≠ []) (hdigits : ∀ c ∈ digits, c.isDigit)
    (hrest : Ends rest) : readDigits (digits ++ rest) = some (digits, rest) := by
  have hstop : ∀ c ∈ rest.head?, ¬c.isDigit := by
    intro c hc
    have hmem := hrest c hc
    simp only [List.mem_cons, List.not_mem_nil, or_false] at hmem
    rcases hmem with rfl | rfl | rfl <;> decide
  have htake : (digits ++ rest).takeWhile Char.isDigit = digits := by
    rw [List.takeWhile_append_of_pos hdigits]
    cases rest with
    | nil => exact List.append_nil _
    | cons c rest => rw [List.takeWhile_cons_of_neg (hstop c rfl), List.append_nil]
  have hdrop : (digits ++ rest).dropWhile Char.isDigit = rest := by
    rw [List.dropWhile_append_of_pos hdigits]
    cases rest with
    | nil => rfl
    | cons c rest => exact List.dropWhile_cons_of_neg (hstop c rfl)
  simp only [readDigits, htake, hdrop, if_neg h0]

lemma isDigit_of_mem_toDigits {n : Nat} {c : Char} (h : c ∈ Nat.toDigits 10 n) : c.isDigit :=
  Nat.isDigit_of_mem_toDigits (by decide) (by decide) h

lemma readWhole_toDigits (n : Nat) (hrest : Ends rest) :
    readWhole (Nat.toDigits 10 n ++ rest) = some (Nat.toDigits 10 n, rest) := by
  rw [readWhole, readDigits_append Nat.toDigits_ne_nil (fun _ => isDigit_of_mem_toDigits) hrest]
  split
  · -- a zero with a digit behind it is no whole number
    rename_i c cs rest' hread
    have hzero : Nat.toDigits 10 n = '0' :: c :: cs := congrArg Prod.fst (Option.some.inj hread)
    rcases Nat.eq_zero_or_pos n with rfl | hn
    · cases hzero
    · exact absurd (congrArg List.head? hzero) (Decimal.head?_toDigits hn)
  · rfl

lemma readFraction_of_ends (hrest : Ends rest) : readFraction rest = some ([], rest) := by
  rw [readFraction]
  rintro cs rfl
  exact absurd (hrest '.' rfl) (by decide)

lemma readExponent_of_ends (hrest : Ends rest) : readExponent rest = some ([], rest) := by
  rw [readExponent]
  · rintro cs rfl
    exact absurd (hrest 'e' rfl) (by decide)
  · rintro cs rfl
    exact absurd (hrest 'E' rfl) (by decide)

lemma readUnsigned_toDigits (negative : Bool) (n : Nat) (h : negative = true → 0 < n)
    (hrest : Ends rest) :
    readUnsigned negative (Nat.toDigits 10 n ++ rest) =
      some (integer (if negative then -(n : Int) else n), rest) := by
  have hzero : ¬(negative = true ∧ Nat.toDigits 10 n = ['0']) := by
    rintro ⟨hnegative, hdigits⟩
    exact Decimal.head?_toDigits (h hnegative) (congrArg List.head? hdigits)
  have hparts : ofParts negative (Nat.toDigits 10 n) [] [] =
      integer (if negative then -(n : Int) else n) := by
    rw [ofParts, if_pos ⟨rfl, rfl, hzero⟩, Decimal.value_toDigits]
  simp only [readUnsigned, readWhole_toDigits n hrest, readFraction_of_ends hrest,
    readExponent_of_ends hrest, Option.bind_eq_bind, Option.bind_some, hparts]
  rfl

/-- The first character of a number. -/
def StartsNumber (c : Char) : Prop := c.isDigit ∨ c = '-'

/-- A character that starts a number starts no value of another form, nor does it end an array. -/
lemma StartsNumber.ne {c : Char} (h : StartsNumber c) :
    ∀ x ∈ [' ', '\t', '\n', '\r', 'n', 't', 'f', '[', ']', '\x7b', '"'], c ≠ x := by
  have hnone : [' ', '\t', '\n', '\r', 'n', 't', 'f', '[', ']', '\x7b', '"'].all
      fun x => ¬(x.isDigit ∨ x = '-') := by decide
  rintro x hx rfl
  exact List.all_iff_forall_prop.1 hnone c hx h

lemma StartsNumber.isSpace_eq_false {c : Char} (h : StartsNumber c) : isSpace c = false := by
  simp [isSpace, h.ne]

lemma readValue_of_startsNumber {depth : Nat} {c : Char} {cs : List Char} (h : StartsNumber c) :
    readValue (depth + 1) (c :: cs) = readNumber (c :: cs) := by
  rw [readValue, skipSpaces_cons h.isSpace_eq_false]
  split
  case h_7 => rfl
  all_goals
    rename_i hcs
    exact absurd (List.cons.inj hcs).1 (h.ne _ (by decide))

/-- An integer is written as its digits, behind a minus sign where it is negative. -/
lemma chars_integer (n : Int) :
    chars (integer n) = (if n < 0 then ['-'] else []) ++ Nat.toDigits 10 n.natAbs := by
  simp only [chars, Decimal.chars, List.leftpad, Nat.zero_sub, List.replicate_zero,
    List.nil_append]
  split <;> rfl

lemma exists_toDigits (n : Nat) : ∃ c cs, Nat.toDigits 10 n = c :: cs ∧ c.isDigit := by
  obtain ⟨c, cs, hcs⟩ := List.exists_cons_of_ne_nil (Nat.toDigits_ne_nil : Nat.toDigits 10 n ≠ [])
  exact ⟨c, cs, hcs, isDigit_of_mem_toDigits (hcs ▸ List.mem_cons_self)⟩

lemma exists_chars_integer (n : Int) : ∃ c cs, chars (integer n) = c :: cs ∧ StartsNumber c := by
  obtain ⟨c, cs, hcs, hc⟩ := exists_toDigits n.natAbs
  rw [chars_integer, hcs]
  split
  · exact ⟨'-', c :: cs, rfl, Or.inr rfl⟩
  · exact ⟨c, cs, rfl, Or.inl hc⟩

lemma readNumber_integer (n : Int) (hrest : Ends rest) :
    readNumber (chars (integer n) ++ rest) = some (integer n, rest) := by
  rw [chars_integer]
  by_cases hn : n < 0
  · have hvalue : -(n.natAbs : Int) = n := by omega
    have hread := readUnsigned_toDigits true n.natAbs (fun _ => by omega) hrest
    rw [if_pos rfl, hvalue] at hread
    rw [if_pos hn]
    exact hread
  · have hvalue : (n.natAbs : Int) = n := by omega
    have hread := readUnsigned_toDigits false n.natAbs (by rintro ⟨⟩) hrest
    obtain ⟨c, cs, hcs, hc⟩ := exists_toDigits n.natAbs
    rw [if_neg Bool.false_ne_true, hvalue, hcs] at hread
    rw [if_neg hn, List.nil_append, hcs, List.cons_append, readNumber]
    · exact hread
    · -- a minus sign is no digit
      rintro rest' ⟨⟩
      exact absurd hc (by decide)

end

/-! ### Values without parts -/

lemma readsBack_null : ReadsBack null := by
  intro depth rest hdepth _
  obtain ⟨depth, rfl⟩ := Nat.exists_eq_add_one.2 (Nat.lt_of_lt_of_le (by decide) hdepth)
  rfl

lemma readsBack_bool (b : Bool) : ReadsBack (bool b) := by
  intro depth rest hdepth _
  cases b with
  | false =>
    obtain ⟨depth, rfl⟩ := Nat.exists_eq_add_one.2 (Nat.lt_of_lt_of_le (by decide) hdepth)
    rfl
  | true =>
    obtain ⟨depth, rfl⟩ := Nat.exists_eq_add_one.2 (Nat.lt_of_lt_of_le (by decide) hdepth)
    rfl

lemma readsBack_integer (n : Int) : ReadsBack (integer n) := by
  intro depth rest hdepth hrest
  have hread := readNumber_integer n hrest
  obtain ⟨c, cs, hcs, hc⟩ := exists_chars_integer n
  rw [hcs, List.cons_append] at hread
  rw [hcs, List.length_cons] at hdepth
  obtain ⟨depth, rfl⟩ := Nat.exists_eq_add_one.2 (by omega : 0 < depth)
  rw [hcs, List.cons_append, readValue_of_startsNumber hc, hread]

lemma readsBack_string (s : String) : ReadsBack (string s) := by
  intro depth rest hdepth _
  rw [chars, quoted, List.length_cons] at hdepth
  obtain ⟨depth, rfl⟩ := Nat.exists_eq_add_one.2 (by omega : 0 < depth)
  rw [chars, readValue_quoted]

/-! ### Arrays -/

/-- No value starts with a blank or with the end of an array. -/
lemma Regular.exists_chars {j : Json} (h : Regular j) :
    ∃ c cs, chars j = c :: cs ∧ isSpace c = false ∧ c ≠ ']' := by
  cases h with
  | null => exact ⟨_, _, rfl, by decide⟩
  | bool b => cases b <;> exact ⟨_, _, rfl, by decide⟩
  | integer n =>
    obtain ⟨c, cs, hcs, hc⟩ := exists_chars_integer n
    exact ⟨c, cs, hcs, hc.isSpace_eq_false, hc.ne _ (by decide)⟩
  | string s => exact ⟨_, _, rfl, by decide⟩
  | array h => exact ⟨_, _, rfl, by decide⟩
  | object hnames h => exact ⟨_, _, rfl, by decide⟩

lemma exists_charsOfItems {item : Json} (items : List Json) (h : Regular item) :
    ∃ c cs, charsOfItems (item :: items) = c :: cs ∧ isSpace c = false ∧ c ≠ ']' := by
  obtain ⟨c, cs, hcs, hc⟩ := h.exists_chars
  cases items with
  | nil => exact ⟨c, cs ++ [']'], by rw [charsOfItems, hcs, List.cons_append], hc⟩
  | cons next items =>
    exact ⟨c, cs ++ ',' :: charsOfItems (next :: items),
      by rw [charsOfItems, hcs, List.cons_append], hc⟩

/-- The items of an array are read one by one: behind each stands a comma or the bracket. -/
lemma readItems_charsOfItems {items : List Json} {depth : Nat} {rest : List Char} (h0 : items ≠ [])
    (hitems : ∀ item ∈ items, ReadsBack item) (hdepth : (charsOfItems items).length ≤ depth) :
    readItems depth (charsOfItems items ++ rest) = some (items, rest) := by
  induction items generalizing depth with
  | nil => exact absurd rfl h0
  | cons item items ih =>
    obtain ⟨hitem, hitems⟩ := List.forall_mem_cons.1 hitems
    cases items with
    | nil =>
      rw [charsOfItems, List.length_append, List.length_singleton] at hdepth
      obtain ⟨depth, rfl⟩ := Nat.exists_eq_add_one.2 (by omega : 0 < depth)
      have hread := hitem depth (']' :: rest) (by omega) (ends_cons (by decide))
      rw [charsOfItems, List.append_assoc, List.singleton_append, readItems, hread]
      rfl
    | cons next items =>
      rw [charsOfItems, List.length_append, List.length_cons] at hdepth
      obtain ⟨depth, rfl⟩ := Nat.exists_eq_add_one.2 (by omega : 0 < depth)
      have hread := hitem depth (',' :: (charsOfItems (next :: items) ++ rest)) (by omega)
        (ends_cons (by decide))
      have hothers := ih (List.cons_ne_nil _ _) hitems (by omega : _ ≤ depth)
      rw [charsOfItems, List.append_assoc, List.cons_append, readItems, hread]
      simp only [skipSpaces_cons (by decide : isSpace ',' = false), hothers, Option.map_some]

lemma readsBack_array {items : List Json} (hregular : ∀ item ∈ items, Regular item)
    (hitems : ∀ item ∈ items, ReadsBack item) : ReadsBack (array items) := by
  intro depth rest hdepth _
  rw [chars, List.length_cons] at hdepth
  obtain ⟨depth, rfl⟩ := Nat.exists_eq_add_one.2 (by omega : 0 < depth)
  rw [chars, List.cons_append, readValue, skipSpaces_cons (by decide)]
  cases items with
  | nil => rfl
  | cons item items =>
    have hread : readItems depth (charsOfItems (item :: items) ++ rest) =
        some (item :: items, rest) :=
      readItems_charsOfItems (List.cons_ne_nil _ _) hitems (by omega)
    obtain ⟨c, cs, hcs, hspace, hc⟩ :=
      exists_charsOfItems items (hregular item List.mem_cons_self)
    rw [hcs, List.cons_append] at hread ⊢
    simp only [skipSpaces_cons hspace]
    split
    · rename_i hbracket
      exact absurd (List.cons.inj hbracket).1 hc
    · rw [hread]
      rfl

/-! ### Objects -/

lemma consField_of_notMem {name : String} {value : Json} {fields : List (String × Json)}
    (h : name ∉ fields.map Prod.fst) : consField name value fields = (name, value) :: fields := by
  have hnone : field? name fields = none := by
    rw [field?, List.lookup_eq_none_iff]
    intro field hfield
    refine bne_iff_ne.2 ?_
    rintro rfl
    exact h (List.mem_map_of_mem hfield)
  rw [consField, hnone]
  rfl

/-- The fields of an object start with the quote of a name. -/
lemma exists_charsOfFields (field : String × Json) (fields : List (String × Json)) :
    ∃ cs, charsOfFields (field :: fields) = '"' :: cs := by
  obtain ⟨name, value⟩ := field
  cases fields with
  | nil => exact ⟨_, rfl⟩
  | cons next fields => exact ⟨_, rfl⟩

/-- The fields of an object are read one by one, and no later one has the name of an earlier one. -/
lemma readFields_charsOfFields {fields : List (String × Json)} {depth : Nat} {rest : List Char}
    (h0 : fields ≠ []) (hnames : (fields.map Prod.fst).Nodup)
    (hfields : ∀ field ∈ fields, ReadsBack field.2)
    (hdepth : (charsOfFields fields).length ≤ depth) :
    readFields depth (charsOfFields fields ++ rest) = some (fields, rest) := by
  have hcolon : ∀ cs, skipSpaces (':' :: cs) = ':' :: cs := skipSpaces_cons (by decide)
  induction fields generalizing depth with
  | nil => exact absurd rfl h0
  | cons field fields ih =>
    obtain ⟨name, value⟩ := field
    obtain ⟨hvalue, hfields⟩ := List.forall_mem_cons.1 hfields
    obtain ⟨hnew, hnames⟩ := List.nodup_cons.1 hnames
    cases fields with
    | nil =>
      simp only [charsOfFields, List.length_append, List.length_cons, List.length_nil] at hdepth
      obtain ⟨depth, rfl⟩ := Nat.exists_eq_add_one.2 (by omega : 0 < depth)
      have hread := hvalue depth ('\x7d' :: rest) (by dsimp only; omega) (ends_cons (by decide))
      simp only [charsOfFields, List.append_assoc, List.cons_append, List.nil_append]
      rw [readFields, skipSpaces_quoted, readString_quoted]
      simp only [hcolon, hread]
      rfl
    | cons next fields =>
      simp only [charsOfFields, List.length_append, List.length_cons] at hdepth
      obtain ⟨depth, rfl⟩ := Nat.exists_eq_add_one.2 (by omega : 0 < depth)
      have hread := hvalue depth (',' :: (charsOfFields (next :: fields) ++ rest))
        (by dsimp only; omega) (ends_cons (by decide))
      have hothers := ih (List.cons_ne_nil _ _) hnames hfields (by omega : _ ≤ depth)
      simp only [charsOfFields, List.append_assoc, List.cons_append]
      rw [readFields, skipSpaces_quoted, readString_quoted]
      simp only [hcolon, hread, skipSpaces_cons (by decide : isSpace ',' = false), hothers,
        Option.map_some, consField_of_notMem hnew]

lemma readsBack_object {fields : List (String × Json)} (hnames : (fields.map Prod.fst).Nodup)
    (hfields : ∀ field ∈ fields, ReadsBack field.2) : ReadsBack (object fields) := by
  intro depth rest hdepth _
  rw [chars, List.length_cons] at hdepth
  obtain ⟨depth, rfl⟩ := Nat.exists_eq_add_one.2 (by omega : 0 < depth)
  rw [chars, List.cons_append, readValue, skipSpaces_cons (by decide)]
  cases fields with
  | nil => rfl
  | cons field fields =>
    have hread : readFields depth (charsOfFields (field :: fields) ++ rest) =
        some (field :: fields, rest) :=
      readFields_charsOfFields (List.cons_ne_nil _ _) hnames hfields (by omega)
    obtain ⟨cs, hcs⟩ := exists_charsOfFields field fields
    rw [hcs, List.cons_append] at hread ⊢
    simp only [skipSpaces_cons (by decide : isSpace '"' = false)]
    split
    · rename_i hbrace
      exact absurd (List.cons.inj hbrace).1 (by decide)
    · rw [hread]
      rfl

/-! ### All values -/

lemma Regular.readsBack {j : Json} (h : Regular j) : ReadsBack j := by
  induction h with
  | null => exact readsBack_null
  | bool b => exact readsBack_bool b
  | integer n => exact readsBack_integer n
  | string s => exact readsBack_string s
  | array h ih => exact readsBack_array h ih
  | object hnames _ ih => exact readsBack_object hnames ih

/-- A value is read back from its text. -/
theorem read?_text {j : Json} (h : Regular j) : read? j.text = some j := by
  have hchars : j.text.toList = chars j := String.toList_ofList
  have hread := h.readsBack _ [] (Nat.le_succ (chars j).length) ends_nil
  rw [List.append_nil] at hread
  rw [read?, hchars, hread]
  rfl

end PersianCalendar.Json
