import FeedMonitor.Number.Numeral
import Mathlib.Algebra.Group.Nat.Defs
import Mathlib.Data.List.Basic

/-!
Digits in front of other text are read up to where they stop, and their number bounds their value. A
text that is a number and nothing else has digits only, after a sign.
-/

namespace FeedMonitor.Numeral

/-- The text does not go on with a digit. -/
def Stops (rest : List Char) : Prop := ∀ c ∈ rest.head?, c.isDigit = false

theorem Stops.nil : Stops [] := by simp [Stops]

theorem Stops.cons {c : Char} (other : c.isDigit = false) (rest : List Char) : Stops (c :: rest) := by
  simpa [Stops] using other

theorem Stops.take {rest : List Char} (stops : Stops rest) (count : Nat) :
    Stops (rest.take count) := by
  cases count with
  | zero => exact Stops.nil
  | succ count => cases rest with
    | nil => exact stops
    | cons c rest => simpa [Stops] using stops

section

variable {digits rest : List Char} (all : ∀ c ∈ digits, c.isDigit = true) (stops : Stops rest)

include all stops

theorem takeWhile_digits : (digits ++ rest).takeWhile Char.isDigit = digits := by
  have none : rest.takeWhile Char.isDigit = [] := by
    cases rest with
    | nil => rfl
    | cons c rest => simp [stops c rfl]
  rw [List.takeWhile_append_of_pos all, none, List.append_nil]

theorem dropWhile_digits : (digits ++ rest).dropWhile Char.isDigit = rest := by
  have none : rest.dropWhile Char.isDigit = rest := by
    cases rest with
    | nil => rfl
    | cons c rest => simp [stops c rfl]
  rw [List.dropWhile_append_of_pos all, none]

theorem takeDigits_digits : takeDigits (digits ++ rest) = (digits, rest) := by
  rw [takeDigits, takeWhile_digits all stops, dropWhile_digits all stops]

end

theorem isDigit_toDigits (n : Nat) : ∀ c ∈ Nat.toDigits 10 n, c.isDigit = true :=
  fun _ => Nat.isDigit_of_mem_toDigits (by decide) (by decide)

theorem toNat_of_isDigit {c : Char} (digit : c.isDigit = true) : 48 ≤ c.toNat ∧ c.toNat ≤ 57 := by
  simp only [Char.isDigit, Bool.and_eq_true, decide_eq_true_eq, ge_iff_le,
    UInt32.le_iff_toNat_le] at digit
  exact digit

theorem ofDigits_lt {digits : List Char} (all : ∀ c ∈ digits, c.isDigit = true) :
    ofDigits digits < 10 ^ digits.length := by
  induction digits with
  | nil => decide
  | cons c rest ih =>
    have below := ih fun c member => all c (List.mem_cons_of_mem _ member)
    have digit := toNat_of_isDigit (all c List.mem_cons_self)
    have first : c.toNat - '0'.toNat ≤ 9 := by
      have zero : '0'.toNat = 48 := rfl
      omega
    have scaled := Nat.mul_le_mul_left (10 ^ rest.length) first
    simp only [ofDigits] at below ⊢
    rw [Nat.ofDigitChars_cons, Nat.ofDigitChars_eq_ofDigitChars_zero, List.length_cons, Nat.pow_succ,
      Nat.mul_zero, Nat.zero_add]
    omega

/-- Digits, one at least, after an optional plus sign, of a value of at most `most`. -/
def Whole (most : Nat) (cs : List Char) : Prop :=
  ∃ digits, (cs = digits ∨ cs = '+' :: digits) ∧ digits ≠ [] ∧ (∀ c ∈ digits, c.isDigit = true) ∧
    ofDigits digits ≤ most

theorem unsigned?_isSome_iff {most : Nat} {s : String} :
    (unsigned? most s).isSome = true ↔ Whole most s.toList := by
  have read (digits : List Char) :
      (if digits.isEmpty || !digits.all Char.isDigit || most < ofDigits digits then none
        else some (ofDigits digits)).isSome = true ↔
      digits ≠ [] ∧ (∀ c ∈ digits, c.isDigit = true) ∧ ofDigits digits ≤ most := by
    rw [Option.isSome_ite', Bool.or_eq_true, Bool.or_eq_true, not_or, not_or]
    simp [and_assoc]
  unfold unsigned?
  split
  · rename_i rest signed
    rw [read]
    constructor
    · intro number
      exact ⟨rest, .inr signed, number⟩
    · rintro ⟨digits, same | same, some, all, fits⟩
      · -- A plus sign is no digit.
        rw [← same, signed] at all
        exact absurd (all '+' List.mem_cons_self) (by decide)
      · obtain rfl := (List.cons.inj (signed.symm.trans same)).2
        exact ⟨some, all, fits⟩
  · rename_i unsigned
    rw [read]
    constructor
    · intro number
      exact ⟨s.toList, .inl rfl, number⟩
    · rintro ⟨digits, same | same, number⟩
      · rwa [same]
      · exact absurd same (unsigned digits)

end FeedMonitor.Numeral
