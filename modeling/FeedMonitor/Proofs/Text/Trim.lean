import FeedMonitor.Text.Blank
import Mathlib.Data.List.TakeWhile

/-!
Trimming, told without an order in which the ends are cut: a trimmed text is what stands between
blanks and has none at its own ends. There is one such text inside every text.
-/

namespace FeedMonitor.Text

def AllBlank (cs : List Char) : Prop := ∀ c ∈ cs, isBlank c = true

/-- No blank at either end. -/
structure Trimmed (cs : List Char) : Prop where
  first : ∀ c ∈ cs.head?, isBlank c = false
  last : ∀ c ∈ cs.getLast?, isBlank c = false

/-- `inside` is `whole` without the blanks at its ends. -/
structure Trims (whole inside : List Char) : Prop where
  around : ∃ front back, whole = front ++ inside ++ back ∧ AllBlank front ∧ AllBlank back
  trimmed : Trimmed inside

variable {cs front back whole inside : List Char}

theorem trimStart_append (blank : AllBlank front) (cs : List Char) :
    trimStart (front ++ cs) = trimStart cs :=
  List.dropWhile_append_of_pos blank

theorem trimEnd_eq (cs : List Char) : trimEnd cs = (trimStart cs.reverse).reverse := rfl

theorem trimEnd_append (blank : AllBlank back) (cs : List Char) :
    trimEnd (cs ++ back) = trimEnd cs := by
  have reversed : AllBlank back.reverse := fun c member => blank c (List.mem_reverse.mp member)
  rw [trimEnd_eq, trimEnd_eq, List.reverse_append, trimStart_append reversed]

theorem trimEnd_eq_self (visible : ∀ c ∈ cs.getLast?, isBlank c = false) : trimEnd cs = cs := by
  have first : ∀ c ∈ cs.reverse.head?, isBlank c = false := by
    rw [List.head?_reverse]
    exact visible
  rw [trimEnd_eq, trimStart_eq_self first, List.reverse_reverse]

theorem exists_trimStart (cs : List Char) :
    ∃ front, AllBlank front ∧ cs = front ++ trimStart cs :=
  ⟨cs.takeWhile isBlank, fun _ => List.mem_takeWhile_imp,
    List.takeWhile_append_dropWhile.symm⟩

theorem exists_trimEnd (cs : List Char) : ∃ back, AllBlank back ∧ cs = trimEnd cs ++ back := by
  obtain ⟨front, blank, split⟩ := exists_trimStart cs.reverse
  refine ⟨front.reverse, fun c member => blank c (List.mem_reverse.mp member), ?_⟩
  have reversed := congrArg List.reverse split
  rw [List.reverse_reverse, List.reverse_append] at reversed
  exact reversed

theorem last_trimEnd (cs : List Char) : ∀ c ∈ (trimEnd cs).getLast?, isBlank c = false := by
  rw [trimEnd_eq, List.getLast?_reverse]
  exact head?_trimStart cs.reverse

/-- Cutting the end leaves the first character, or nothing. -/
theorem first_trimEnd (visible : ∀ c ∈ cs.head?, isBlank c = false) :
    ∀ c ∈ (trimEnd cs).head?, isBlank c = false := by
  obtain ⟨back, -, split⟩ := exists_trimEnd cs
  intro c first
  apply visible
  rw [split, List.head?_append, Option.mem_def.mp first]
  rfl

theorem trimmed_trimChars (cs : List Char) : Trimmed (trimChars cs) :=
  ⟨first_trimEnd (head?_trimStart cs), last_trimEnd (trimStart cs)⟩

theorem trims_trimChars (cs : List Char) : Trims cs (trimChars cs) := by
  obtain ⟨front, frontBlank, cut⟩ := exists_trimStart cs
  obtain ⟨back, backBlank, rest⟩ := exists_trimEnd (trimStart cs)
  refine ⟨⟨front, back, ?_, frontBlank, backBlank⟩, trimmed_trimChars cs⟩
  rw [List.append_assoc, trimChars, ← rest]
  exact cut

theorem trimChars_ne_nil (visible : ¬AllBlank cs) : trimChars cs ≠ [] := by
  intro nothing
  obtain ⟨front, back, split, frontBlank, backBlank⟩ := (trims_trimChars cs).around
  rw [nothing, List.append_nil] at split
  apply visible
  rw [split]
  intro c member
  rcases List.mem_append.mp member with before | after
  · exact frontBlank c before
  · exact backBlank c after

theorem Trimmed.trimChars_eq (trimmed : Trimmed cs) : trimChars cs = cs := by
  rw [trimChars, trimStart_eq_self trimmed.first, trimEnd_eq_self trimmed.last]

theorem Trimmed.trims (trimmed : Trimmed cs) : Trims cs cs := by
  refine ⟨⟨[], [], ?_, ?_, ?_⟩, trimmed⟩
  · rw [List.nil_append, List.append_nil]
  · exact fun c member => absurd member List.not_mem_nil
  · exact fun c member => absurd member List.not_mem_nil

theorem Trims.eq (trims : Trims whole inside) : inside = trimChars whole := by
  obtain ⟨front, back, rfl, frontBlank, backBlank⟩ := trims.around
  rw [List.append_assoc, trimChars, trimStart_append frontBlank]
  cases inside with
  | nil =>
    have nothing : trimStart back = [] := List.dropWhile_eq_nil_iff.mpr backBlank
    rw [List.nil_append, nothing]
    rfl
  | cons c rest =>
    have first : ∀ d ∈ (c :: rest ++ back).head?, isBlank d = false := trims.trimmed.first
    rw [trimStart_eq_self first, trimEnd_append backBlank, trimEnd_eq_self trims.trimmed.last]

theorem toList_trim (s : String) : (trim s).toList = trimChars s.toList := String.toList_ofList

theorem trimmed_iff : Trimmed cs ↔ trimChars cs = cs := by
  constructor
  · exact Trimmed.trimChars_eq
  · intro same
    rw [← same]
    exact trimmed_trimChars cs

theorem isEmpty_trim_iff {s : String} : (trim s).isEmpty = true ↔ AllBlank s.toList := by
  rw [isEmpty_trim, List.all_eq_true, AllBlank]

theorem nonBlank?_eq_none_iff {s : String} : nonBlank? s = none ↔ AllBlank s.toList := by
  simp only [nonBlank?, ite_eq_left_iff, reduceCtorEq, imp_false, not_not, isEmpty_trim_iff]

theorem nonBlank?_eq_some {s : String} (visible : ¬AllBlank s.toList) :
    nonBlank? s = some (trim s) := by
  rw [nonBlank?, if_neg (mt isEmpty_trim_iff.mp visible)]

theorem nonBlank?_ofList (trims : Trims whole inside) (some : inside ≠ []) :
    nonBlank? (String.ofList whole) = .some (String.ofList inside) := by
  have chars : trim (String.ofList whole) = String.ofList inside := by
    rw [trim, String.toList_ofList, ← trims.eq]
  have filled : ¬(String.ofList inside).isEmpty = true := by
    rw [String.isEmpty_iff, String.ofList_eq_empty_iff]
    exact some
  rw [nonBlank?, chars, if_neg filled]

theorem nonBlank?_eq_some_iff {s part : String} :
    nonBlank? s = some part ↔ Trims s.toList part.toList ∧ part ≠ "" := by
  constructor
  · intro visible
    simp only [nonBlank?] at visible
    split at visible
    · contradiction
    · rename_i filled
      obtain rfl := Option.some.inj visible
      rw [toList_trim]
      exact ⟨trims_trimChars s.toList, fun same => filled (String.isEmpty_iff.mpr same)⟩
  · rintro ⟨trims, filled⟩
    have chars := nonBlank?_ofList trims fun nothing => filled (String.toList_eq_nil_iff.mp nothing)
    rwa [String.ofList_toList, String.ofList_toList] at chars

/-- The last character of a text is one of its second part. -/
theorem last_append (some : back ≠ []) (visible : ∀ c ∈ back, isBlank c = false) :
    ∀ c ∈ (front ++ back).getLast?, isBlank c = false := by
  intro c last
  rw [List.getLast?_append, List.getLast?_eq_some_getLast some, Option.some_or] at last
  obtain rfl := Option.some.inj last
  exact visible _ (List.getLast_mem some)

theorem Trimmed.append (trimmed : Trimmed front) (frontSome : front ≠ []) (some : back ≠ [])
    (visible : ∀ c ∈ back, isBlank c = false) : Trimmed (front ++ back) := by
  refine ⟨?_, last_append some visible⟩
  cases front with
  | nil => contradiction
  | cons c rest => exact trimmed.first

end FeedMonitor.Text
