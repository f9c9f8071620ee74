import Mathlib.Data.List.DropRight
import Mathlib.Data.List.TakeWhile
import Mathlib.Tactic.Lemma
import PersianCalendar.Text.Blank

/-!
# What trimming leaves of a text

Trimming by a class of characters is a relation between texts that says nothing about how it is done:
the characters taken off belong to the class, and what is left has none of them at its ends
(`trimWhere_eq_iff`).  A text without characters of the class stays as it is (`trimWhere_eq_self`).
-/

namespace PersianCalendar.Text

variable {p : Char → Bool} {cs core : List Char}

/-- Neither the first nor the last character of the text belongs to the class. -/
def Bare (p : Char → Bool) (cs : List Char) : Prop :=
  (∀ c, cs.head? = some c → p c = false) ∧ ∀ c, cs.getLast? = some c → p c = false

lemma bare_of_forall (h : ∀ c ∈ cs, p c = false) : Bare p cs :=
  ⟨fun c hc => h c (List.mem_of_head? hc), fun c hc => h c (List.mem_of_getLast? hc)⟩

lemma bare_cons_concat {a b : Char} (ha : p a = false) (hb : p b = false) :
    Bare p (a :: (cs ++ [b])) := by
  constructor
  · rintro c ⟨⟩
    exact ha
  · intro c hc
    rw [← List.cons_append, List.getLast?_concat] at hc
    cases hc
    exact hb

lemma bare_reverse : Bare p cs.reverse ↔ Bare p cs := by
  rw [Bare, Bare, List.head?_reverse, List.getLast?_reverse]
  exact and_comm

/-- The text is `core` between characters of the class, and they go no further into it. -/
def TrimsTo (p : Char → Bool) (cs core : List Char) : Prop :=
  Bare p core ∧ ∃ before after, cs = before ++ core ++ after ∧
    (∀ c ∈ before, p c) ∧ ∀ c ∈ after, p c

/-! ### What is taken off -/

/-- Characters of the class that stand in front of a text or after it are trimmed with it. -/
lemma trimWhere_append {before after : List Char} (hb : ∀ c ∈ before, p c) (ha : ∀ c ∈ after, p c) :
    trimWhere p (before ++ cs ++ after) = trimWhere p cs := by
  have hafter : ∀ c ∈ after.reverse, p c := fun c hc => ha c (List.mem_reverse.1 hc)
  simp only [trimWhere, List.append_assoc, List.dropWhile_append_of_pos hb]
  rw [List.dropWhile_append]
  split
  · -- nothing is left of the text itself, nor of what comes after it
    have hnil : cs.dropWhile p = [] := List.isEmpty_iff.1 ‹_›
    have hall : after.dropWhile p = [] := List.dropWhile_eq_nil_iff.2 ha
    rw [hnil, hall]
  · rw [List.reverse_append, List.dropWhile_append_of_pos hafter]

lemma dropWhile_eq_self_of_head (h : ∀ c, cs.head? = some c → p c = false) :
    cs.dropWhile p = cs := by
  cases cs with
  | nil => rfl
  | cons c cs => exact List.dropWhile_cons_of_neg (by simp [h c rfl])

lemma eq_false_of_head_dropWhile {c : Char} (h : (cs.dropWhile p).head? = some c) :
    p c = false := by
  have hnot := List.head?_dropWhile_not p cs
  rwa [h] at hnot

/-- What is trimmed off at the end comes after what is left. -/
lemma dropWhile_eq_trimWhere_append (p : Char → Bool) (cs : List Char) :
    cs.dropWhile p =
      trimWhere p cs ++ ((cs.dropWhile p).reverse.takeWhile p).reverse := by
  rw [trimWhere, ← List.reverse_append, List.takeWhile_append_dropWhile, List.reverse_reverse]

lemma bare_trimWhere (p : Char → Bool) (cs : List Char) : Bare p (trimWhere p cs) := by
  constructor
  · intro c hc
    -- the first character left is the first one after those dropped in front
    have hfirst : (cs.dropWhile p).head? = some c := by
      rw [dropWhile_eq_trimWhere_append, List.head?_append, hc]
      rfl
    exact eq_false_of_head_dropWhile hfirst
  · intro c hc
    rw [trimWhere, List.getLast?_reverse] at hc
    exact eq_false_of_head_dropWhile hc

lemma trimsTo_trimWhere (p : Char → Bool) (cs : List Char) : TrimsTo p cs (trimWhere p cs) := by
  refine ⟨bare_trimWhere p cs, cs.takeWhile p, ((cs.dropWhile p).reverse.takeWhile p).reverse,
    ?_, ?_, ?_⟩
  · rw [List.append_assoc, ← dropWhile_eq_trimWhere_append, List.takeWhile_append_dropWhile]
  · intro c hc
    exact List.mem_takeWhile_imp hc
  · intro c hc
    exact List.mem_takeWhile_imp (List.mem_reverse.1 hc)

lemma trimWhere_of_bare (h : Bare p cs) : trimWhere p cs = cs := by
  have hlast : ∀ c, cs.reverse.head? = some c → p c = false := by
    intro c hc
    rw [List.head?_reverse] at hc
    exact h.2 c hc
  rw [trimWhere, dropWhile_eq_self_of_head h.1, dropWhile_eq_self_of_head hlast,
    List.reverse_reverse]

lemma trimWhere_eq_iff : trimWhere p cs = core ↔ TrimsTo p cs core := by
  constructor
  · rintro rfl
    exact trimsTo_trimWhere p cs
  · rintro ⟨hbare, before, after, rfl, hbefore, hafter⟩
    rw [trimWhere_append hbefore hafter, trimWhere_of_bare hbare]

/-- Trimming by a class and then by a wider one is trimming by the wider one. -/
lemma trimWhere_trimWhere {r : Char → Bool} (h : ∀ c, p c → r c) (cs : List Char) :
    trimWhere r (trimWhere p cs) = trimWhere r cs := by
  obtain ⟨-, before, after, hcs, hbefore, hafter⟩ := trimsTo_trimWhere p cs
  have htrim : trimWhere r (before ++ trimWhere p cs ++ after) = trimWhere r (trimWhere p cs) :=
    trimWhere_append (fun c hc => h c (hbefore c hc)) fun c hc => h c (hafter c hc)
  rw [← htrim, ← hcs]

lemma trimWhere_reverse (p : Char → Bool) (cs : List Char) :
    trimWhere p cs.reverse = (trimWhere p cs).reverse := by
  obtain ⟨hbare, before, after, hcs, hbefore, hafter⟩ := trimsTo_trimWhere p cs
  refine trimWhere_eq_iff.2 ⟨bare_reverse.2 hbare, after.reverse, before.reverse, ?_, ?_, ?_⟩
  · rw [← List.reverse_append, ← List.reverse_append, ← List.append_assoc, ← hcs]
  · exact fun c hc => hafter c (List.mem_reverse.1 hc)
  · exact fun c hc => hbefore c (List.mem_reverse.1 hc)

/-! ### What stays -/

/-- A character in front that does not belong to the class stays in front. -/
lemma head?_trimWhere_cons {c : Char} (h : p c = false) :
    (trimWhere p (c :: cs)).head? = some c := by
  have hnot : ¬p c = true := by
    rw [h]
    exact Bool.false_ne_true
  rw [trimWhere, List.dropWhile_cons_of_neg hnot, List.reverse_cons, List.dropWhile_append]
  split
  · rw [List.dropWhile_cons_of_neg hnot]
    rfl
  · rw [List.reverse_append]
    rfl

lemma trimWhere_eq_self (h : ∀ c ∈ cs, p c = false) : trimWhere p cs = cs :=
  trimWhere_of_bare (bare_of_forall h)

/-- Behind a text with neither end in the class, only the end of what follows is trimmed. -/
lemma trimWhere_append_right (h : Bare p cs) (h0 : cs ≠ []) (after : List Char) :
    trimWhere p (cs ++ after) = cs ++ after.rdropWhile p := by
  refine trimWhere_eq_iff.2 ⟨⟨?_, ?_⟩, [], after.rtakeWhile p, ?_, List.forall_mem_nil _,
    fun c => List.mem_rtakeWhile_imp⟩
  · intro c hc
    rw [List.head?_append_of_ne_nil cs h0] at hc
    exact h.1 c hc
  · intro c hc
    by_cases hafter : after.rdropWhile p = []
    · rw [hafter, List.append_nil] at hc
      exact h.2 c hc
    · rw [List.getLast?_append_of_ne_nil cs hafter, List.getLast?_eq_some_getLast hafter] at hc
      cases hc
      simpa using List.rdropWhile_last_not p after hafter
  · rw [List.nil_append, List.append_assoc, List.rdropWhile_append_rtakeWhile]

lemma trimWhere_sublist (p : Char → Bool) (cs : List Char) : (trimWhere p cs).Sublist cs := by
  obtain ⟨-, before, after, hcs, -, -⟩ := trimsTo_trimWhere p cs
  have hsub : (trimWhere p cs).Sublist (before ++ trimWhere p cs ++ after) :=
    (List.sublist_append_right before _).trans (List.sublist_append_left _ after)
  rwa [← hcs] at hsub

/-- Unless a text stays as it is, some of the characters of the class are taken off. -/
lemma countP_trimWhere_lt (h : trimWhere p cs ≠ cs) : (trimWhere p cs).countP p < cs.countP p := by
  obtain ⟨-, before, after, hcs, hbefore, hafter⟩ := trimsTo_trimWhere p cs
  have hlength := congrArg List.length hcs
  have hcount := congrArg (List.countP p) hcs
  simp only [List.length_append] at hlength
  simp only [List.countP_append, List.countP_eq_length.2 hbefore, List.countP_eq_length.2 hafter]
    at hcount
  have hshorter : (trimWhere p cs).length < cs.length :=
    Nat.lt_of_not_le fun hle => h ((trimWhere_sublist p cs).eq_of_length_le hle)
  omega

lemma mem_of_mem_trimWhere {c : Char} (h : c ∈ trimWhere p cs) : c ∈ cs :=
  (trimWhere_sublist p cs).subset h

end PersianCalendar.Text
