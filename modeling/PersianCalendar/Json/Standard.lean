import PersianCalendar.Json.Backend
import PersianCalendar.Json.Reader
import PersianCalendar.Json.Writer

/-!
# A backend

Texts are read and written by this library's own reader and writer.  One of several values is read
from its name, or from an object with the name for its only field and no value.  A variant and a
record are also read from an array of their parts, in which a variant is given by its name alone.
Fields of other names are left out of account.
-/

namespace PersianCalendar.Json

variable {α : Type}

/-! ### Parts -/

/-- A field of an object that has to be there. -/
def field (name : String) (fields : List (String × Json)) : Except Refusal Json :=
  match field? name fields with
  | some value => .ok value
  | none => .error .shape

@[simp] theorem field_eq_ok_iff {name : String} {fields : List (String × Json)} {j : Json} :
    field name fields = .ok j ↔ field? name fields = some j := by
  rw [field]
  split <;> simp [*]

/-- An integer of 32 bits. -/
def asInteger : Json → Except Refusal Int
  | integer n => if Width.signed32.Holds n then .ok n else .error .shape
  | _ => .error .shape

@[simp] theorem asInteger_eq_ok_iff {j : Json} {n : Int} :
    j.asInteger = .ok n ↔ j = .integer n ∧ Width.signed32.Holds n := by
  constructor
  · intro h
    cases j with
    | integer m =>
      rw [asInteger] at h
      split at h
      · cases h
        exact ⟨rfl, ‹_›⟩
      · cases h
    | _ => cases h
  · rintro ⟨rfl, hn⟩
    exact if_pos hn

/-- One of the values `true` and `false`. -/
def asBool : Json → Except Refusal Bool
  | bool b => .ok b
  | _ => .error .shape

/-! ### Names -/

/-- The value that goes by a name. -/
def ofKey (values : List α) (key : α → String) (name : String) : Except Refusal α :=
  match values.find? fun x => key x = name with
  | some x => .ok x
  | none => .error .shape

/-- Reads one of several values from its name. -/
def ofName (values : List α) (key : α → String) : Json → Except Refusal α
  | string name => ofKey values key name
  | _ => .error .shape

/-- Reads one of several values from its name, or from an object with the name for its only field
and no value. -/
def ofChoice (values : List α) (key : α → String) : Json → Except Refusal α
  | object [(name, null)] => ofKey values key name
  | j => ofName values key j

/-! ### Variants -/

section

variable {ι : Type} {β : ι → Type}

/-- Reads the content of a variant. -/
def ofContent (form : ∀ i, Form (β i)) (i : ι) (content : Json) : Except Refusal ((i : ι) × β i) :=
  ((form i).ofJson content).map (Sigma.mk i)

/-- Reads a variant with its content.  A text that is refused is the reason even where the array
goes on after it. -/
def ofTagged (tag content : String) (variants : List ι) (key : ι → String)
    (form : ∀ i, Form (β i)) : Json → Except Refusal ((i : ι) × β i)
  | object fields => do
    let i ← ofChoice variants key (← field tag fields)
    ofContent form i (← field content fields)
  | array (name :: value :: others) => do
    let i ← ofName variants key name
    let x ← ofContent form i value
    if others.isEmpty then return x else throw .shape
  | _ => .error .shape

end

/-! ### Records -/

namespace Fields

/-- Reads a record from the fields of an object. -/
def ofFields (fields : List (String × Json)) : {α : Type} → Fields α → Except Refusal α
  | _, nil => .ok ()
  | _, cons name form rest => do
    let x ← form.ofJson (← field name fields)
    let xs ← rest.ofFields fields
    return (x, xs)

/-- Reads a record from the items of an array. -/
def ofItems : {α : Type} → Fields α → List Json → Except Refusal α
  | _, nil, items => if items.isEmpty then .ok () else .error .shape
  | _, cons _ form rest, items =>
    match items with
    | [] => .error .shape
    | item :: items => do
      let x ← form.ofJson item
      let xs ← rest.ofItems items
      return (x, xs)

/-- Reads a record. -/
def ofJson (F : Fields α) : Json → Except Refusal α
  | object fields => F.ofFields fields
  | array items => F.ofItems items
  | _ => .error .shape

end Fields

/-! ### The backend -/

/-- The backend with this library's own reader and writer. -/
def Backend.standard : Backend where
  print := text
  parse := read?
  int32 := ⟨integer, asInteger⟩
  bool := ⟨Json.bool, asBool⟩
  choice values key := ⟨fun x => string (key x), ofChoice values key⟩
  tagged tag content variants key form :=
    ⟨fun ⟨i, x⟩ => object [(tag, string (key i)), (content, (form i).toJson x)],
      ofTagged tag content variants key form⟩
  record F := ⟨fun x => object (F.toJson x), F.ofJson⟩

end PersianCalendar.Json
