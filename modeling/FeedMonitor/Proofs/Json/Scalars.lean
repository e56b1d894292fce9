import FeedMonitor.Json.Reader
import FeedMonitor.Json.Writer
import FeedMonitor.Proofs.Number.Numeral

/-!
Strings and whole numbers are read back as they were written.

A string is read character by character, whatever it holds, and ends at its own quote. A number ends
where the text goes on with a mark between values.
-/

namespace FeedMonitor.Json

/-! ### Strings -/

theorem hexQuad?_control {code : Nat} (below : code < 32) :
    hexQuad? '0' '0' (Text.hexDigit (code / 16)) (Text.hexDigit (code % 16)) = some code := by
  have zero : Text.hexValue? '0' = some 0 := by decide
  simp only [hexQuad?, zero, Text.hexValue?_hexDigit (code / 16) (by omega),
    Text.hexValue?_hexDigit (code % 16) (by omega), Option.bind_eq_bind, Option.bind_some]
  congr 1
  omega

theorem readChars_escape {c plain : Char} (other : c ≠ 'u') (escape : simpleEscape? c = some plain)
    (rest : List Char) :
    readChars ('\\' :: c :: rest) = (readChars rest).map fun read => (plain :: read.1, read.2) := by
  rw [readChars.eq_def]
  split
  · contradiction
  · rename_i same
    simp at same
  · rename_i same
    cases same
    contradiction
  · rename_i same
    cases same
    simp only [escape]
  · rename_i apart same
    cases same
    exact absurd rfl (apart _ _ rfl)

theorem readChars_control {code : Nat} (below : code < 32) (rest : List Char) :
    readChars (['\\', 'u', '0', '0', Text.hexDigit (code / 16), Text.hexDigit (code % 16)] ++ rest)
      = (readChars rest).map fun read => (Char.ofNat code :: read.1, read.2) := by
  have high : isHighSurrogate code = false := by
    simp only [isHighSurrogate, Bool.and_eq_false_iff, decide_eq_false_iff_not]
    omega
  have low : isLowSurrogate code = false := by
    simp only [isLowSurrogate, Bool.and_eq_false_iff, decide_eq_false_iff_not]
    omega
  simp [readChars, hexQuad?_control below, high, low]

theorem readChars_plain {c : Char} (quote : c ≠ '"') (backslash : c ≠ '\\')
    (visible : ¬ c.toNat < 0x20) (rest : List Char) :
    readChars (c :: rest) = (readChars rest).map fun read => (c :: read.1, read.2) := by
  rw [readChars.eq_def]
  split
  · contradiction
  · rename_i same
    cases same
    contradiction
  · rename_i same
    cases same
    contradiction
  · rename_i same
    cases same
    contradiction
  · rename_i same
    cases same
    simp [visible, backslash]

theorem readChars_writeChar (c : Char) (rest : List Char) :
    readChars (writeChar c ++ rest) = (readChars rest).map fun read => (c :: read.1, read.2) := by
  have escape {mark plain : Char} (same : c = plain) (other : mark ≠ 'u')
      (escape : simpleEscape? mark = some plain) :
      readChars (['\\', mark] ++ rest) = (readChars rest).map fun read => (c :: read.1, read.2) := by
    rw [same]
    exact readChars_escape other escape rest
  unfold writeChar
  split
  · exact escape ‹_› (by decide) (by decide)
  split
  · exact escape ‹_› (by decide) (by decide)
  split
  · exact escape ‹_› (by decide) (by decide)
  split
  · exact escape ‹_› (by decide) (by decide)
  split
  · exact escape ‹_› (by decide) (by decide)
  split
  · exact escape ‹_› (by decide) (by decide)
  split
  · exact escape ‹_› (by decide) (by decide)
  split
  · rename_i control
    rw [readChars_control control, Char.ofNat_toNat]
  · exact readChars_plain ‹_› ‹_› ‹_› rest

theorem readChars_flatMap (cs rest : List Char) :
    readChars (cs.flatMap writeChar ++ '"' :: rest) = some (cs, rest) := by
  induction cs with
  | nil => simp [readChars]
  | cons c cs ih =>
    rw [List.flatMap_cons, List.append_assoc, readChars_writeChar, ih]
    rfl

/-- The text of a string after its opening quote. -/
theorem readString_flatMap (s : String) (rest : List Char) :
    readString (s.toList.flatMap writeChar ++ '"' :: rest) = .ok (s, rest) := by
  rw [readString, readChars_flatMap]
  simp

/-! ### Whole numbers -/

/-- The text ends, or goes on with what may stand after a value. -/
def Ended (rest : List Char) : Prop := ∀ c ∈ rest.head?, c = ',' ∨ c = ']' ∨ c = '\x7d'

namespace Ended

theorem nil : Ended [] := by simp [Ended]

theorem comma (rest : List Char) : Ended (',' :: rest) := by simp [Ended]

theorem bracket (rest : List Char) : Ended (']' :: rest) := by simp [Ended]

theorem brace (rest : List Char) : Ended ('\x7d' :: rest) := by simp [Ended]

variable {rest : List Char} (ended : Ended rest)

include ended

theorem stops : Numeral.Stops rest := by
  intro c head
  rcases ended c head with rfl | rfl | rfl <;> decide

end Ended

theorem head?_toDigits {n : Nat} (positive : 0 < n) : (Nat.toDigits 10 n).head? ≠ some '0' := by
  induction n using Nat.strongRecOn with
  | ind n ih =>
    rw [Nat.toDigits_eq_if (by decide)]
    -- The first digit of a longer number is that of a tenth of it.
    split
    · rename_i small
      have range : ∀ digit < 10, 0 < digit → Nat.digitChar digit ≠ '0' := by decide
      simpa using range n small positive
    · have front := ih (n / 10) (by omega) (by omega)
      rwa [List.head?_append_of_ne_nil _ Nat.toDigits_ne_nil]

theorem absorbWhole_eq {digits : List Char} {significand : Nat}
    (fits : Nat.ofDigitChars 10 digits significand < significandLimit) :
    absorbWhole significand digits = (Nat.ofDigitChars 10 digits significand, 0) := by
  induction digits generalizing significand with
  | nil => rfl
  | cons c rest ih =>
    have next : 10 * significand + Numeral.ofDigits [c] = Nat.ofDigitChars 10 [c] significand := by
      simp [Numeral.ofDigits, Nat.ofDigitChars_cons]
    have split : Nat.ofDigitChars 10 (c :: rest) significand
        = Nat.ofDigitChars 10 rest (10 * significand + Numeral.ofDigits [c]) := by
      rw [next, ← Nat.ofDigitChars_append]
      rfl
    rw [split] at fits ⊢
    -- The digits that follow make the significand no less, so it fits all along.
    have below : 10 * significand + Numeral.ofDigits [c] < significandLimit := by
      rw [Nat.ofDigitChars_eq_ofDigitChars_zero] at fits
      have power : 0 < 10 ^ rest.length := Nat.pow_pos (by decide)
      have grows := Nat.le_mul_of_pos_left (10 * significand + Numeral.ofDigits [c]) power
      omega
    rw [absorbWhole]
    simp only [if_pos below]
    exact ih fits

theorem readNumberText_toDigits (negative : Bool) (n : Nat) {rest : List Char} (ended : Ended rest) :
    readNumberText negative (Nat.toDigits 10 n ++ rest)
      = .ok (⟨negative, Nat.toDigits 10 n, [], none⟩, rest) := by
  have digits := Numeral.takeDigits_digits (Numeral.isDigit_toDigits n) ended.stops
  have proper : ((Nat.toDigits 10 n).isEmpty
      || ((Nat.toDigits 10 n).head? == some '0' && 1 < (Nat.toDigits 10 n).length)) = false := by
    have some : (Nat.toDigits 10 n).isEmpty = false := by simp
    rcases Nat.eq_zero_or_pos n with rfl | positive
    · rfl
    · simp [some, head?_toDigits positive]
  rw [readNumberText, digits]
  simp only [proper]
  cases rest with
  | nil => rfl
  | cons c cs =>
    rcases ended c rfl with rfl | rfl | rfl <;> rfl

theorem value?_toDigits (negative : Bool) {n : Nat} (fits : n < significandLimit)
    (signed : negative = true → 0 < n ∧ n ≤ 0x8000000000000000) :
    NumberText.value? ⟨negative, Nat.toDigits 10 n, [], none⟩
      = some (.whole (if negative then -n else n)) := by
  have value : Nat.ofDigitChars 10 (Nat.toDigits 10 n) 0 = n := Nat.ofDigitChars_ten_toDigits
  have absorbed : absorbWhole 0 (Nat.toDigits 10 n) = (n, 0) := by
    rw [absorbWhole_eq (by rwa [value]), value]
  simp only [NumberText.value?, absorbed]
  cases negative with
  | false => simp
  | true => simp [signed rfl]

theorem readNumber_toDigits (negative : Bool) {n : Nat} {rest : List Char} (ended : Ended rest)
    (fits : n < significandLimit) (signed : negative = true → 0 < n ∧ n ≤ 0x8000000000000000) :
    readNumber negative (Nat.toDigits 10 n ++ rest)
      = .ok (.whole (if negative then -n else n), rest) := by
  rw [readNumber, readNumberText_toDigits negative n ended]
  simp only [bind, Except.bind, value?_toDigits negative fits signed]
  rfl

end FeedMonitor.Json
