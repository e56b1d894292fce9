import FeedMonitor.Feed.Timestamp
import FeedMonitor.Proofs.Number.Exact
import FeedMonitor.Proofs.Text.Trim
import FeedMonitor.Proofs.Time.Forms

/-!
The ways in which a feed can write a second.

It is counted in seconds, milliseconds or microseconds, as a number or in digits, or it is a date
and a time of day, with a zone or without. From 2001-09-09 on the sizes of the three counts do not
meet, and up to the year 9999 doubles hold all of them, so each way is read as that second.
-/

namespace FeedMonitor

theorem Numeral.takeSign_digits {cs : List Char} (digits : ∀ c ∈ cs, c.isDigit = true) :
    takeSign cs = (false, cs) := by
  unfold takeSign
  split
  · exact absurd (digits '-' List.mem_cons_self) (by decide)
  · exact absurd (digits '+' List.mem_cons_self) (by decide)
  · rfl

/-- Digits alone are the number that they write. -/
theorem Numeral.real?_digits {n : Nat} (some : 0 < n)
    (short : (Nat.toDigits 10 n).length ≤ 310) :
    real? (String.ofList (Nat.toDigits 10 n)) = Binary64.ofRatio? false n 1 := by
  have digits := isDigit_toDigits n
  have taken := takeDigits_digits digits Stops.nil
  have filled : (Nat.toDigits 10 n).isEmpty = false := by
    rw [List.isEmpty_eq_false_iff, ← List.length_pos_iff]
    exact Nat.length_toDigits_pos
  rw [List.append_nil] at taken
  have read : real? (String.ofList (Nat.toDigits 10 n)) = Binary64.ofDecimal? false n 0 := by
    simp only [real?, String.toList_ofList, takeSign_digits digits, taken, filled, Bool.false_and,
      Bool.false_eq_true, if_false, power?, Option.bind_some, List.append_nil, ofDigits_toDigits]
    rfl
  rw [read, Binary64.ofDecimal?, if_neg (by omega), if_neg (by omega), if_neg (by omega)]
  exact congrArg (Binary64.ofRatio? false · 1) (Nat.mul_one n)

namespace Feed

open Instant

/-- The units in which feeds count. -/
inductive Scale
  | seconds
  | millis
  | micros

def Scale.perSecond : Scale → Nat
  | seconds => 1
  | millis => 1000
  | micros => 1000000

/-- The texts that stand for a second. The clocks of a zone show `shown` at that second. -/
inductive Spells (second : Nat) : List Char → Prop
  | count (scale : Scale) : Spells second (Nat.toDigits 10 (scale.perSecond * second))
  | zoned {shown : Nat} (zone : Zone) (shift : (shown : Int) = second + zone.ahead)
      (year : (Date.after (shown / 86400)).year ≤ 9999) {mark : Char}
      (marks : mark = 'T' ∨ mark = 't' ∨ mark = ' ') (places : Nat) :
      Spells second ((localStamp shown zone.ahead).write mark places ++ zone.write)
  | naive {mark : Char} (marks : mark = 'T' ∨ mark = ' ') (places : Nat) :
      Spells second ((localStamp second 0).write mark places)

/-- The JSON values that stand for a second. -/
inductive Spelling (second : Nat) : Json → Prop
  | number (scale : Scale) : Spelling second (.ofNat (scale.perSecond * second))
  | text {front inside back : List Char} (before : Text.AllBlank front)
      (spells : Spells second inside) (behind : Text.AllBlank back) :
      Spelling second (.string (String.ofList (front ++ inside ++ back)))

section

variable {second : Nat} (first : 1000000000 < second) (last : second ≤ 253402300799)

include first last

theorem Scale.count_range (scale : Scale) :
    0 < scale.perSecond * second ∧ scale.perSecond * second < 10 ^ 18 := by
  cases scale with
  | seconds => simp only [perSecond]; omega
  | millis => simp only [perSecond]; omega
  | micros => simp only [perSecond]; omega

/-- No count of a second is rounded: one in microseconds is even six times over. -/
theorem exists_count (scale : Scale) {den : Nat} (positive : 0 < den) :
    ∃ x, Binary64.ofRatio? false (scale.perSecond * second * den) den = some x ∧
      x.IsWhole (scale.perSecond * second) := by
  have some := (scale.count_range first last).1
  cases scale with
  | seconds =>
    have small : 1 * second < 2 ^ 53 := by omega
    exact Binary64.exists_ofRatio? 0 some positive small (Nat.one_dvd _) (by decide)
  | millis =>
    have small : 1000 * second < 2 ^ 53 := by omega
    exact Binary64.exists_ofRatio? 0 some positive small (Nat.one_dvd _) (by decide)
  | micros =>
    have small : 1000000 * second < 2 ^ 59 := by omega
    have zeros : 2 ^ 6 ∣ 1000000 * second :=
      (by decide : 2 ^ 6 ∣ 1000000).trans (Nat.dvd_mul_right _ _)
    exact Binary64.exists_ofRatio? 6 some positive small zeros (by decide)

/-- The size of a count tells its unit. -/
theorem microsOf?_of_whole {x : Binary64} (scale : Scale)
    (whole : x.IsWhole (scale.perSecond * second)) :
    microsOf? x = Binary64.ofRatio? false (1000000 * second * x.denominator) x.denominator := by
  have factor : (if x.exceeds microsThreshold then 1 else if x.exceeds millisThreshold then 1000
      else 1000000) * (scale.perSecond * second) = 1000000 * second := by
    simp only [whole.exceeds_iff, microsThreshold, millisThreshold]
    cases scale with
    | seconds =>
      rw [Scale.perSecond, if_neg (by omega), if_neg (by omega), Nat.one_mul]
    | millis =>
      rw [Scale.perSecond, if_neg (by omega), if_pos (by omega)]
      omega
    | micros =>
      rw [Scale.perSecond, if_pos (by omega), Nat.one_mul]
  rw [microsOf?, whole.positive, whole.ratio, ← Nat.mul_assoc, factor]

theorem ofEpoch?_of_whole {x : Binary64} (scale : Scale)
    (whole : x.IsWhole (scale.perSecond * second)) : ofEpoch? x = some ⟨second, 0⟩ := by
  have positive := whole.isPositive_eq (scale.count_range first last).1
  obtain ⟨micros, held, exact⟩ := exists_count first last .micros x.denominator_pos
  have below : ¬micros.exceeds 0x7fffffffffffffff = true := by
    rw [exact.exceeds_iff, Scale.perSecond]
    omega
  have seconds : ((1000000 * second : Nat) : Int) / 1000000 = second := by omega
  have rest : ((1000000 * second : Nat) : Int) % 1000000 = 0 := by omega
  rw [Scale.perSecond] at held exact
  rw [ofEpoch?, if_pos positive, microsOf?_of_whole first last scale whole, held,
    Option.bind_some, if_neg below, exact.nearestWhole_eq, Instant.ofMicros?, seconds, rest]
  exact if_pos (inRange_of_le last)

theorem bind_ofEpoch?_count (scale : Scale) :
    (Binary64.ofRatio? false (scale.perSecond * second) 1).bind ofEpoch? = some ⟨second, 0⟩ := by
  obtain ⟨x, held, whole⟩ := exists_count first last scale Nat.one_pos
  rw [Nat.mul_one] at held
  rw [held, Option.bind_some]
  exact ofEpoch?_of_whole first last scale whole

theorem year_le : (Date.after (second / 86400)).year ≤ 9999 := by
  have counted := Date.toDays_after (second / 86400)
  exact Date.year_le_of_toDays (Date.inMonth_after _) (by omega)

theorem Spells.trimmed {inside : List Char} (spells : Spells second inside) :
    Text.Trimmed inside ∧ inside ≠ [] := by
  cases spells with
  | count scale =>
    have visible : ∀ c ∈ Nat.toDigits 10 (scale.perSecond * second), Text.isBlank c = false :=
      fun c member => isBlank_of_isDigit (Numeral.isDigit_toDigits _ c member)
    refine ⟨⟨fun c member => visible c (List.mem_of_mem_head? member),
      fun c member => visible c (List.mem_of_mem_getLast? member)⟩, ?_⟩
    exact List.length_pos_iff.mp Nat.length_toDigits_pos
  | zoned zone shift year marks places =>
    rename_i shown mark
    have some := (localStamp shown zone.ahead).write_ne_nil mark places
    have trimmed := (proper_localStamp year zone.ahead).trimmed_write mark places
    exact ⟨trimmed.append some zone.write_ne_nil zone.isBlank_write,
      List.append_ne_nil_of_left_ne_nil some _⟩
  | naive marks places =>
    exact ⟨(proper_localStamp (year_le first last) 0).trimmed_write _ places,
      Stamp.write_ne_nil _ _ _⟩

/-! ### What is read -/

theorem instantOfText?_of_spells {front inside back : List Char} (before : Text.AllBlank front)
    (spells : Spells second inside) (behind : Text.AllBlank back) :
    instantOfText? (String.ofList (front ++ inside ++ back)) = some ⟨second, 0⟩ := by
  obtain ⟨trimmed, some⟩ := spells.trimmed first last
  have read := Text.nonBlank?_ofList ⟨⟨front, back, rfl, before, behind⟩, trimmed⟩ some
  rw [instantOfText?, read, Option.bind_some]
  -- The readers are tried in turn, so each way also needs that those in front of its own fail.
  cases spells with
  | count scale =>
    have digits : ∀ c ∈ (String.ofList (Nat.toDigits 10 (scale.perSecond * second))).toList,
        c.isDigit = true := by
      rw [String.toList_ofList]
      exact Numeral.isDigit_toDigits _
    obtain ⟨positive, few⟩ := scale.count_range first last
    have short : (Nat.toDigits 10 (scale.perSecond * second)).length ≤ 18 :=
      (Nat.length_toDigits_le_iff (by decide) (by decide)).mpr few
    rw [ofStrict?_digits digits, ofLocal?_digits digits,
      Numeral.real?_digits positive (Nat.le_trans short (by decide)),
      bind_ofEpoch?_count first last scale]
    rfl
  | zoned zone shift year marks places =>
    have made : { localStamp _ zone.ahead with ahead := zone.ahead }.toInstant? =
        .some ⟨second, 0⟩ := toInstant?_localStamp last year shift zone.ahead_lt
    rw [(proper_localStamp year zone.ahead).ofStrict?_write_zone marks places zone, made]
    rfl
  | naive marks places =>
    have year := year_le first last
    have proper := proper_localStamp year 0
    have made := toInstant?_localStamp last year (Int.add_zero _).symm (by decide)
    rw [proper.ofStrict?_write (marks.imp_right .inr) places,
      proper.ofLocal?_write marks places made]
    rfl

/-- All spellings of a second are read as that second. -/
theorem spellings_agree {json : Json} (spelling : Spelling second json) :
    instantOf? json = some ⟨second, 0⟩ := by
  cases spelling with
  | number scale => exact bind_ofEpoch?_count first last scale
  | text before spells behind => exact instantOfText?_of_spells first last before spells behind

end

/-- The last second of a February without a leap day, where the clocks have reached March. -/
theorem spellings_agree_marchEast :
    instantOf? (.string " 2100-03-01T23:58:59.00+23:59 ") = some ⟨4107542399, 0⟩ := by
  have march : Date.after (4107628739 / 86400) = ⟨2100, 3, 1⟩ :=
    (Date.eq_after ⟨by decide, by decide⟩ (by decide)).symm
  have shift : ((4107628739 : Nat) : Int) = (4107542399 : Nat) + (Zone.offset false 23 59).ahead :=
    rfl
  have blank : Text.AllBlank [' '] := by
    simp only [Text.AllBlank, List.forall_mem_singleton]
    decide
  have spells := Spells.zoned _ shift (by rw [march]; decide) (.inl rfl) 2
  have written : [' '] ++ ((localStamp 4107628739 (Zone.offset false 23 59).ahead).write 'T' 2 ++
      (Zone.offset false 23 59).write) ++ [' '] = " 2100-03-01T23:58:59.00+23:59 ".toList := by
    rw [localStamp, march]
    decide
  have read := spellings_agree (by decide) (by decide) (.text blank spells blank)
  rwa [written, String.ofList_toList] at read

end Feed

end FeedMonitor
