import Mathlib.Data.Bool.AllAny
import Mathlib.Logic.Relation
import Mathlib.Tactic.Lemma
import PersianCalendar.Proofs.Text.Clean

/-!
# Spellings of a text

The same text can be typed with digits of three scripts, with marks anywhere in it, and with blanks
around it.  Two texts are spelled alike when a number of such changes leads from one to the other
(`SpelledAlike`).  This is the case exactly if they are the same once the digits are ASCII digits and
the marks and the outer blanks are gone (`spelledAlike_iff`), and then nothing that only looks at the
cleaned text can tell them apart (`SpelledAlike.clean_eq`).
-/

namespace PersianCalendar

/-! ### Digits of three scripts -/

namespace Digit

variable {a b c : Char}

/-- The digits for a number below ten, one of each script. -/
def digitsOf (n : Nat) : List Char :=
  [Nat.digitChar n, persianDigits.getD n '۰', arabicDigits.getD n '٠']

/-- The characters are digits of the same value. -/
def SameValue (a b : Char) : Prop :=
  ∃ n < 10, a ∈ digitsOf n ∧ b ∈ digitsOf n

instance (a b : Char) : Decidable (SameValue a b) :=
  inferInstanceAs (Decidable (∃ n < 10, _))

lemma western_eq_of_sameValue (h : SameValue a b) : western a = western b := by
  obtain ⟨n, hn, ha, hb⟩ := h
  have hall : ∀ n < 10, (digitsOf n).all fun c => western c = Nat.digitChar n := by decide
  have hdigits := List.all_iff_forall_prop.1 (hall n hn)
  rw [hdigits a ha, hdigits b hb]

/-- Only Persian and Arabic-Indic digits become another character. -/
lemma western_eq_self (h : c ∉ persianDigits ++ arabicDigits) : western c = c := by
  obtain ⟨hpersian, harabic⟩ := not_or.1 fun hmem => h (List.mem_append.2 hmem)
  have hnone : foreignValue? c = none := by
    rw [foreignValue?, List.idxOf?_eq_none_iff.2 hpersian, List.idxOf?_eq_none_iff.2 harabic]
    rfl
  rw [western, hnone]

/-- A class without such digits stays as it is. -/
lemma western_of_class {p : Char → Bool} (hp : (persianDigits ++ arabicDigits).all fun d => !p d)
    (h : p c) : western c = c := by
  refine western_eq_self fun hmem => ?_
  have hnot := List.all_eq_true.1 hp c hmem
  rw [h] at hnot
  cases hnot

lemma western_eq_self_or_sameValue (c : Char) : western c = c ∨ SameValue c (western c) := by
  by_cases h : c ∈ persianDigits ++ arabicDigits
  · have hall : (persianDigits ++ arabicDigits).all fun d => SameValue d (western d) := by decide
    exact Or.inr (List.all_iff_forall_prop.1 hall c h)
  · exact Or.inl (western_eq_self h)

end Digit

namespace Text

open Relation

variable {c : Char} {cs ds : List Char}

/-! ### What is left of a text without its spelling -/

lemma western_of_isMark (h : isMark c) : Digit.western c = c :=
  Digit.western_of_class (by decide) h

lemma western_of_isBlank (h : isBlank c) : Digit.western c = c :=
  Digit.western_of_class (by decide) h

lemma isMark_of_isBlank (h : isBlank c) : isMark c = false := by
  by_contra hmark
  simp only [isMark, Bool.not_eq_false, Bool.or_eq_true, beq_iff_eq, Bool.and_eq_true,
    decide_eq_true_eq, Char.le_def] at hmark
  rcases hmark with ((rfl | rfl) | rfl) | ⟨hlow, hhigh⟩
  · cases h
  · cases h
  · cases h
  · have hlow' : 0x202a ≤ c.toNat := hlow
    have hhigh' : c.toNat ≤ 0x202e := hhigh
    simp only [isBlank, Bool.or_eq_true, Bool.and_eq_true, decide_eq_true_eq, beq_iff_eq] at h
    omega

@[simp] lemma plain_append (cs ds : List Char) : plain (cs ++ ds) = plain cs ++ plain ds := by
  simp only [plain, dropMarks, List.map_append, List.filter_append]

lemma plain_cons (c : Char) (cs : List Char) :
    plain (c :: cs) = if isMark (Digit.western c) then plain cs else Digit.western c :: plain cs := by
  simp only [plain, dropMarks, List.map_cons, List.filter_cons]
  cases isMark (Digit.western c) <;> rfl

lemma plain_cons_of_plain (h : Plain c) (cs : List Char) : plain (c :: cs) = c :: plain cs := by
  rw [plain_cons, h.1, h.2.1]
  rfl

lemma plain_of_blanks (h : ∀ b ∈ cs, isBlank b) : plain cs = cs := by
  induction cs with
  | nil => rfl
  | cons b cs ih =>
    obtain ⟨hb, hcs⟩ := List.forall_mem_cons.1 h
    rw [plain_cons, western_of_isBlank hb, isMark_of_isBlank hb, ih hcs]
    rfl

/-- Only blanks are left of blanks and marks. -/
lemma isBlank_of_mem_plain (h : ∀ b ∈ cs, isBlank b ∨ isMark b) : ∀ b ∈ plain cs, isBlank b := by
  intro b hb
  obtain ⟨hmem, hmark⟩ := List.mem_filter.1 hb
  obtain ⟨d, hd, rfl⟩ := List.mem_map.1 hmem
  rcases h d hd with hblank | hd
  · rwa [western_of_isBlank hblank]
  · rw [western_of_isMark hd, hd] at hmark
    cases hmark

/-- Blanks around a text are gone once it is plain and trimmed. -/
lemma trim_plain_append (cs : List Char) {before after : List Char} (hb : ∀ b ∈ before, isBlank b)
    (ha : ∀ b ∈ after, isBlank b) : trim (plain (before ++ cs ++ after)) = trim (plain cs) := by
  rw [plain_append, plain_append, plain_of_blanks hb, plain_of_blanks ha]
  exact trimWhere_append hb ha

/-! ### Changes of spelling -/

/-- A single change of spelling: a digit of another script, one more mark, or one more blank at an
end. -/
inductive Respelling : List Char → List Char → Prop
  | digit {a b : Char} (before after : List Char) (h : Digit.SameValue a b) :
      Respelling (before ++ a :: after) (before ++ b :: after)
  | mark {m : Char} (before after : List Char) (h : isMark m) :
      Respelling (before ++ after) (before ++ m :: after)
  | blankBefore {b : Char} (cs : List Char) (h : isBlank b) : Respelling cs (b :: cs)
  | blankAfter {b : Char} (cs : List Char) (h : isBlank b) : Respelling cs (cs ++ [b])

/-- Any number of changes of spelling leads from one text to the other; each of them may be made or
taken back. -/
def SpelledAlike : List Char → List Char → Prop := EqvGen Respelling

lemma trim_plain_of_respelling (h : Respelling cs ds) : trim (plain cs) = trim (plain ds) := by
  cases h with
  | digit before after hdigit =>
    simp [plain_cons, Digit.western_eq_of_sameValue hdigit]
  | mark before after hmark =>
    simp [plain_cons, western_of_isMark hmark, if_pos hmark]
  | blankBefore cs hblank =>
    have h := trim_plain_append cs (List.forall_mem_singleton.2 hblank) (List.forall_mem_nil _)
    rw [List.append_nil] at h
    exact h.symm
  | blankAfter cs hblank =>
    exact (trim_plain_append cs (List.forall_mem_nil _) (List.forall_mem_singleton.2 hblank)).symm

namespace SpelledAlike

lemma trim_plain_eq (h : SpelledAlike cs ds) : trim (plain cs) = trim (plain ds) := by
  induction h with
  | rel _ _ h => exact trim_plain_of_respelling h
  | refl _ => rfl
  | symm _ _ _ ih => exact ih.symm
  | trans _ _ _ _ _ ih ih' => exact ih.trans ih'

/-- Digit by digit and mark by mark a text is brought to its plain form. -/
lemma plain_right (cs : List Char) : SpelledAlike cs (plain cs) := by
  -- what has been brought there already stands before the rest of the text
  have hrest : ∀ before, SpelledAlike (before ++ cs) (before ++ plain cs) := by
    induction cs with
    | nil => exact fun before => .refl _
    | cons c cs ih =>
      intro before
      have hdigit : SpelledAlike (before ++ c :: cs) (before ++ Digit.western c :: cs) := by
        rcases Digit.western_eq_self_or_sameValue c with h | h
        · rw [h]
          exact .refl _
        · exact .rel _ _ (.digit before cs h)
      refine .trans _ _ _ hdigit ?_
      rw [plain_cons]
      split
      · rename_i hmark
        exact .trans _ _ _ (.symm _ _ (.rel _ _ (.mark before cs hmark))) (ih before)
      · have hnext := ih (before ++ [Digit.western c])
        rwa [List.append_assoc, List.append_assoc] at hnext
  exact hrest []

lemma blanks_before {before : List Char} (h : ∀ b ∈ before, isBlank b) :
    SpelledAlike cs (before ++ cs) := by
  induction before with
  | nil => exact .refl _
  | cons b before ih =>
    obtain ⟨hb, hbefore⟩ := List.forall_mem_cons.1 h
    exact .trans _ _ _ (ih hbefore) (.rel _ _ (.blankBefore _ hb))

lemma blanks_after {after : List Char} (h : ∀ b ∈ after, isBlank b) :
    SpelledAlike cs (cs ++ after) := by
  induction after generalizing cs with
  | nil =>
    rw [List.append_nil]
    exact .refl _
  | cons b after ih =>
    obtain ⟨hb, hafter⟩ := List.forall_mem_cons.1 h
    have hrest : SpelledAlike (cs ++ [b]) (cs ++ [b] ++ after) := ih hafter
    rw [List.append_assoc] at hrest
    exact .trans _ _ _ (.rel _ _ (.blankAfter cs hb)) hrest

lemma trim_right (cs : List Char) : SpelledAlike cs (trim cs) := by
  obtain ⟨-, before, after, hcs, hbefore, hafter⟩ := trimsTo_trimWhere isBlank cs
  have hblanks : SpelledAlike (trim cs) (before ++ trim cs ++ after) :=
    .trans _ _ _ (blanks_before hbefore) (blanks_after hafter)
  rw [trim, ← hcs] at hblanks
  exact .symm _ _ hblanks

/-- Blanks at the end of the plain form make no difference either. -/
lemma rdropWhile_right (cs : List Char) : SpelledAlike cs ((plain cs).rdropWhile isBlank) := by
  have hblanks : SpelledAlike ((plain cs).rdropWhile isBlank)
      ((plain cs).rdropWhile isBlank ++ (plain cs).rtakeWhile isBlank) :=
    blanks_after fun _ => List.mem_rtakeWhile_imp
  rw [List.rdropWhile_append_rtakeWhile] at hblanks
  exact .trans _ _ _ (plain_right cs) (.symm _ _ hblanks)

end SpelledAlike

/-- Two texts are spelled alike exactly if the same is left of them in ASCII digits, without marks and
without outer blanks. -/
theorem spelledAlike_iff : SpelledAlike cs ds ↔ trim (plain cs) = trim (plain ds) := by
  have hleft : ∀ cs, SpelledAlike cs (trim (plain cs)) := fun cs =>
    .trans _ _ _ (SpelledAlike.plain_right cs) (SpelledAlike.trim_right _)
  constructor
  · exact SpelledAlike.trim_plain_eq
  · intro h
    have hds := hleft ds
    rw [← h] at hds
    exact .trans _ _ _ (hleft cs) (.symm _ _ hds)

instance (cs ds : List Char) : Decidable (SpelledAlike cs ds) :=
  decidable_of_iff _ spelledAlike_iff.symm

/-- Cleaning leaves nothing of the spelling. -/
lemma SpelledAlike.clean_eq (h : SpelledAlike cs ds) : clean cs = clean ds := by
  rw [clean, clean, h.trim_plain_eq]

lemma SpelledAlike.map_persian (cs : List Char) : SpelledAlike cs (cs.map Digit.persian) := by
  rw [spelledAlike_iff, plain_map_persian]

end Text

end PersianCalendar
