import PersianCalendar.Json.Form
import PersianCalendar.Width

/-!
# What reads and writes JSON

The reading and writing of JSON texts, and the forms of types that are derived from how the types
are built, are not part of this library: they are left open (`Backend`).  What the library relies on
is that they keep the laws that are documented for them (`Backend.Lawful`).  They are laws about one
step each: about a text and its value, an object and its fields, a variant and its content.
-/

namespace PersianCalendar.Json

/-! ### Values of a simple form -/

/-- A value without parts, with integers of 64 bits. -/
inductive Scalar : Json → Prop
  | null : Scalar null
  | bool (b : Bool) : Scalar (bool b)
  | integer {n : Int} (h : Width.signed64.Holds n) : Scalar (integer n)
  | string (s : String) : Scalar (string s)

/-- A value without parts, or an object of such values in which no two fields have one name. -/
inductive Flat : Json → Prop
  | scalar {j : Json} (h : j.Scalar) : Flat j
  | object {fields : List (String × Json)} (hnames : (fields.map Prod.fst).Nodup)
      (h : ∀ field ∈ fields, field.2.Scalar) : Flat (object fields)

/-- Two ways of writing one value: the order of the fields of an object does not count. -/
inductive Alike : Json → Json → Prop
  | refl (j : Json) : Alike j j
  | object {fields fields' : List (String × Json)} (h : fields.Perm fields') :
      Alike (object fields) (object fields')

/-! ### Backends -/

/-- A reader and a writer of JSON texts, with the forms that it derives for types. -/
structure Backend where
  /-- The text that is written for a value. -/
  print : Json → String
  /-- The value that a text stands for, if it stands for one. -/
  parse : String → Option Json
  /-- The form of integers of 32 bits. -/
  int32 : Form Int
  /-- The form of the two truth values. -/
  bool : Form Bool
  /-- The form derived for a type with the given values and the names they go by. -/
  choice {α : Type} (values : List α) (key : α → String) : Form α
  /-- The form derived for a type of variants with a content each: the name of the variant stands in
  one field, and the content in another one beside it. -/
  tagged {ι : Type} {β : ι → Type} (tag content : String) (variants : List ι) (key : ι → String)
    (form : ∀ i, Form (β i)) : Form ((i : ι) × β i)
  /-- The form derived for a record with the given fields. -/
  record {α : Type} (fields : Fields α) : Form α

namespace Backend

/-- The documented behaviour of a backend, as far as this library relies on it. -/
structure Lawful (B : Backend) : Prop where
  /-- What is written for a flat value stands for this value. -/
  parse_print {j : Json} (h : j.Flat) : ∃ k, B.parse (B.print j) = some k ∧ j.Alike k
  /-- An integer of 32 bits is written as the number. -/
  toJson_int32 {n : Int} (h : Width.signed32.Holds n) : B.int32.toJson n = .integer n
  /-- A number of 32 bits is read as the integer. -/
  ofJson_int32 {n : Int} (h : Width.signed32.Holds n) : B.int32.ofJson (.integer n) = .ok n
  /-- Nothing but integers of 32 bits is read. -/
  holds_of_int32 {n : Int} (h : B.int32.Accepts n) : Width.signed32.Holds n
  /-- A truth value is written as it is. -/
  toJson_bool (b : Bool) : B.bool.toJson b = .bool b
  /-- A truth value is read as it is. -/
  ofJson_bool (b : Bool) : B.bool.ofJson (.bool b) = .ok b
  /-- One of several values is written as its name. -/
  toJson_choice {α : Type} {values : List α} {key : α → String} {x : α} (hx : x ∈ values) :
    (B.choice values key).toJson x = .string (key x)
  /-- One of several values is read from its name. -/
  ofJson_choice {α : Type} {values : List α} {key : α → String} {x : α}
    (hkeys : (values.map key).Nodup) (hx : x ∈ values) :
    (B.choice values key).ofJson (.string (key x)) = .ok x
  /-- A variant is written as an object with its name and its content. -/
  toJson_tagged {ι : Type} {β : ι → Type} {tag content : String} {variants : List ι}
    {key : ι → String} {form : ∀ i, Form (β i)} {i : ι} {x : β i} (hi : i ∈ variants) :
    (B.tagged tag content variants key form).toJson ⟨i, x⟩ =
      .object [(tag, .string (key i)), (content, (form i).toJson x)]
  /-- A variant is read from an object that holds its name and its content, whatever other fields it
  holds and in whatever order. -/
  ofJson_tagged {ι : Type} {β : ι → Type} {tag content : String} {variants : List ι}
    {key : ι → String} {form : ∀ i, Form (β i)} {fields : List (String × Json)} {i : ι} {j : Json}
    {x : β i} (hne : tag ≠ content) (hkeys : (variants.map key).Nodup) (hi : i ∈ variants)
    (hnames : (fields.map Prod.fst).Nodup) (htag : (tag, .string (key i)) ∈ fields)
    (hcontent : (content, j) ∈ fields) (hx : (form i).ofJson j = .ok x) :
    (B.tagged tag content variants key form).ofJson (.object fields) = .ok ⟨i, x⟩
  /-- The content of a variant is read by its own form. -/
  accepts_of_tagged {ι : Type} {β : ι → Type} {tag content : String} {variants : List ι}
    {key : ι → String} {form : ∀ i, Form (β i)} {i : ι} {x : β i}
    (h : (B.tagged tag content variants key form).Accepts ⟨i, x⟩) : (form i).Accepts x
  /-- A record is written as an object with its fields. -/
  toJson_record {α : Type} (F : Fields α) (x : α) :
    (B.record F).toJson x = .object (F.toJson x)
  /-- A record is read from an object that holds its fields, whatever other fields it holds and in
  whatever order. -/
  ofJson_record {α : Type} {F : Fields α} {fields : List (String × Json)} {x : α}
    (hF : F.names.Nodup) (hnames : (fields.map Prod.fst).Nodup) (hx : F.Reads fields x) :
    (B.record F).ofJson (.object fields) = .ok x
  /-- The value of each field of a record is read by its own form. -/
  accepts_of_record {α : Type} {F : Fields α} {x : α} (h : (B.record F).Accepts x) : F.Accepts x

variable {α : Type} (B : Backend)

/-- The text that is written for a value of a type. -/
def write (F : Form α) (x : α) : String :=
  B.print (F.toJson x)

/-- The value of a type that is read from a text. -/
def read (F : Form α) (text : String) : Except Refusal α :=
  match B.parse text with
  | some j => F.ofJson j
  | none => .error .shape

/-- Whatever is read as `x`, the text that is written for `x` is read as `x` again. -/
def Settles (F : Form α) : Prop :=
  ∀ j x, F.ofJson j = .ok x → B.read F (B.write F x) = .ok x

end Backend

end PersianCalendar.Json
