import FeedMonitor.Proofs.Number.Numeral
import FeedMonitor.Proofs.Time.Calendar
import FeedMonitor.Time.Instant.Reading
import FeedMonitor.Time.Instant.Written
import Mathlib.Data.List.TakeWhile

/-!
The written form of an instant is read back as that instant, by the lenient reader, which reads no
instant that cannot be written.

Each field is written in digits that end where the mark after it stands, so each reader takes exactly
its field and what is left is the text of the fields behind it.
-/

namespace FeedMonitor.Instant

open Numeral (Stops)

/-- The calendar reaches the instant, and if it lies in a leap second, that follows the last second
of a minute. -/
structure Valid (instant : Instant) : Prop where
  inRange : instant.inRange = true
  nanos : instant.nanos < 2000000000
  leap : 1000000000 ≤ instant.nanos → instant.seconds % 60 = 59

/-- An instant of the calendar, in the leap second after any second or in none. -/
structure Held (instant : Instant) : Prop where
  inRange : instant.inRange = true
  nanos : instant.nanos < 2000000000

/-- The instant that is shown. What lies in a leap second within a minute is shown in the second that
comes next. -/
def settled (instant : Instant) : Instant :=
  if 1000000000 ≤ instant.nanos ∧ instant.seconds % 60 ≠ 59 then
    ⟨instant.seconds + 1, instant.nanos - 1000000000⟩
  else instant

theorem settled_eq_self_iff {instant : Instant} :
    instant.settled = instant ↔ (1000000000 ≤ instant.nanos → instant.seconds % 60 = 59) := by
  unfold settled
  split
  · rename_i within
    constructor
    · intro same
      have seconds := congrArg Instant.seconds same
      simp only at seconds
      omega
    · intro last
      exact absurd (last within.1) within.2
  · rename_i outside
    simp only [true_iff]
    omega

theorem Held.valid_settled {instant : Instant} (held : instant.Held) : instant.settled.Valid := by
  have range := held.inRange
  have nanos := held.nanos
  unfold settled
  split
  · rename_i within
    have day : (instant.seconds + 1) / 86400 = instant.seconds / 86400 := by omega
    refine ⟨?_, ?_, ?_⟩
    · rw [Instant.inRange, Instant.day, day]
      exact range
    · change instant.nanos - 1000000000 < 2000000000
      omega
    · change 1000000000 ≤ instant.nanos - 1000000000 → _
      omega
  · rename_i outside
    exact ⟨range, nanos, by omega⟩

theorem write_settled (instant : Instant) : instant.settled.write = instant.write := by
  unfold settled
  split
  · rename_i within
    have day : (instant.seconds + 1) / 86400 = instant.seconds / 86400 := by omega
    have second : ((instant.seconds + 1) % 86400).toNat = (instant.seconds % 86400).toNat + 1 := by
      omega
    have hour : ((instant.seconds % 86400).toNat + 1) / 3600 =
        (instant.seconds % 86400).toNat / 3600 := by omega
    have minute : ((instant.seconds % 86400).toNat + 1) / 60 % 60 =
        (instant.seconds % 86400).toNat / 60 % 60 := by omega
    have shown : ((instant.seconds % 86400).toNat + 1) % 60 +
        (instant.nanos - 1000000000) / 1000000000 =
        (instant.seconds % 86400).toNat % 60 + instant.nanos / 1000000000 := by omega
    have nanos : (instant.nanos - 1000000000) % 1000000000 = instant.nanos % 1000000000 := by omega
    simp only [write, Instant.day, secondOfDay, day, second, hour, minute, shown, nanos]
  · rfl

theorem text_settled (instant : Instant) : instant.settled.text = instant.text := by
  rw [text, write_settled, text]

/-! ### Fields -/

theorem isBlank_of_isDigit {c : Char} (digit : c.isDigit = true) : Text.isBlank c = false := by
  have range := Numeral.toNat_of_isDigit digit
  obtain ⟨code, eq⟩ : ∃ code, code = c.toNat := ⟨_, rfl⟩
  simp only [Text.isBlank, ← eq] at range ⊢
  simp only [Bool.or_eq_false_iff, Bool.and_eq_false_iff, decide_eq_false_iff_not, beq_eq_false_iff_ne]
  omega

theorem trimStart_cons {c : Char} (visible : Text.isBlank c = false) (cs : List Char) :
    Text.trimStart (c :: cs) = c :: cs :=
  Text.trimStart_eq_self (by simpa using visible)

theorem isDigit_padded (width n : Nat) : ∀ c ∈ padded width n, c.isDigit = true := by
  intro c member
  rcases List.mem_append.mp member with zero | digit
  · rw [(List.mem_replicate.mp zero).2]
    decide
  · exact Numeral.isDigit_toDigits n c digit

theorem ofDigits_padded (width n : Nat) : Numeral.ofDigits (padded width n) = n := by
  rw [padded, Numeral.ofDigits, Nat.ofDigitChars_append, Nat.ofDigitChars_replicate_zero, Nat.mul_zero]
  exact Numeral.ofDigits_toDigits n

theorem length_padded {width n : Nat} (positive : 0 < width) (fits : n < 10 ^ width) :
    (padded width n).length = width := by
  have short := (Nat.length_toDigits_le_iff (by decide) positive).mpr fits
  rw [padded, List.length_append, List.length_replicate]
  omega

theorem one_le_length_padded (width n : Nat) : 1 ≤ (padded width n).length := by
  have digits : 0 < (Nat.toDigits 10 n).length := Nat.length_toDigits_pos
  rw [padded, List.length_append]
  omega

theorem exists_padded (width n : Nat) :
    ∃ c cs, padded width n = c :: cs ∧ c.isDigit = true := by
  have digits := isDigit_padded width n
  have length := one_le_length_padded width n
  cases text : padded width n with
  | nil => simp [text] at length
  | cons c cs => exact ⟨c, cs, rfl, digits c (by simp [text])⟩

theorem trimStart_padded (width n : Nat) (rest : List Char) :
    Text.trimStart (padded width n ++ rest) = padded width n ++ rest := by
  obtain ⟨c, cs, text, digit⟩ := exists_padded width n
  rw [text]
  exact trimStart_cons (isBlank_of_isDigit digit) _

variable {rest : List Char}

theorem takeNumber_padded {least most width n : Nat} (enough : least ≤ (padded width n).length)
    (fits : (padded width n).length ≤ most) (stops : Stops rest) :
    takeNumber least most (padded width n ++ rest) = some (n, rest) := by
  have digits : ((padded width n ++ rest).take most).takeWhile Char.isDigit = padded width n := by
    rw [List.take_append, List.take_of_length_le fits]
    exact Numeral.takeWhile_digits (isDigit_padded width n) (stops.take _)
  simp only [takeNumber, digits, ofDigits_padded, List.drop_left]
  rw [if_neg (by omega)]

theorem takeField_padded {n : Nat} (fits : n < 100) (stops : Stops rest) :
    takeField 2 (padded 2 n ++ rest) = some (n, rest) := by
  have length : (padded 2 n).length = 2 := length_padded (by decide) fits
  rw [takeField, trimStart_padded]
  exact takeNumber_padded (by omega) (by omega) stops

theorem takeYear_yearDigits (year : Int) (stops : Stops rest) :
    takeYear (yearDigits year ++ rest) = some (year, rest) := by
  simp only [yearDigits]
  split
  · rename_i plain
    have range : 0 ≤ year ∧ year ≤ 9999 := by simpa using plain
    have length : (padded 4 year.toNat).length = 4 := length_padded (by decide) (by omega)
    have number : takeNumber 1 4 (padded 4 year.toNat ++ rest) = some (year.toNat, rest) :=
      takeNumber_padded (by omega) (by omega) stops
    obtain ⟨c, cs, text, digit⟩ := exists_padded 4 year.toNat
    rw [takeYear, trimStart_padded]
    split
    · rename_i minus
      rw [text] at minus
      cases minus
      contradiction
    · rename_i plus
      rw [text] at plus
      cases plus
      contradiction
    · rw [number]
      simp [range.1]
  · have number (most : Nat) (fits : (padded 4 year.natAbs).length ≤ most) :
        takeNumber 1 most (padded 4 year.natAbs ++ rest) = some (year.natAbs, rest) :=
      takeNumber_padded (one_le_length_padded 4 year.natAbs) fits stops
    have within : (padded 4 year.natAbs).length ≤ (padded 4 year.natAbs ++ rest).length := by
      simp
    split
    · rename_i negative
      rw [List.cons_append, takeYear, trimStart_cons (by decide)]
      have value : -(year.natAbs : Int) = year := by omega
      simp only [number _ within, Option.map_some, value]
    · rename_i positive
      rw [List.cons_append, takeYear, trimStart_cons (by decide)]
      have value : (year.natAbs : Int) = year := by omega
      simp only [number _ within, Option.map_some, value]

theorem takeFraction_padded {width n : Nat} (positive : 0 < width) (places : width ≤ 9)
    (fits : n < 10 ^ width) (stops : Stops rest) :
    takeFraction ('.' :: padded width n ++ rest) = some (n * 10 ^ (9 - width), rest) := by
  have length := length_padded positive fits
  have some : (padded width n).isEmpty = false := by
    rw [List.isEmpty_eq_false_iff, ← List.length_pos_iff]
    omega
  have counted : (padded width n).take 9 = padded width n := List.take_of_length_le (by omega)
  rw [List.cons_append]
  simp only [takeFraction, Numeral.takeDigits_digits (isDigit_padded width n) stops, some, counted,
    ofDigits_padded, length]
  rfl

theorem takeFraction_fraction {nanos : Nat} (below : nanos < 1000000000) :
    takeFraction (fraction nanos ++ ['Z']) = some (nanos, ['Z']) := by
  have stops : Stops ['Z'] := Stops.cons (by decide) _
  simp only [fraction]
  split
  · rename_i zero
    rw [zero]
    rfl
  · split
    · rw [takeFraction_padded (by decide) (by decide) (by omega) stops]
      congr 2
      omega
    · split
      · rw [takeFraction_padded (by decide) (by decide) (by omega) stops]
        congr 2
        omega
      · rw [takeFraction_padded (by decide) (by decide) (by omega) stops]
        congr 2
        omega

theorem stops_fraction (nanos : Nat) : Stops (fraction nanos ++ ['Z']) := by
  simp only [fraction]
  split
  · exact Stops.cons (by decide) _
  · split
    · exact Stops.cons (by decide) _
    · split
      · exact Stops.cons (by decide) _
      · exact Stops.cons (by decide) _

/-! ### The whole text -/

/-- The fields that are written for an instant. -/
def stamp (instant : Instant) : Stamp where
  date := Date.ofDays instant.day
  hour := instant.secondOfDay / 3600
  minute := instant.secondOfDay / 60 % 60
  second := instant.secondOfDay % 60 + instant.nanos / 1000000000
  nanos := instant.nanos % 1000000000
  ahead := 0

def dateText (date : Date) : List Char :=
  yearDigits date.year ++ '-' :: (padded 2 date.month ++ '-' :: padded 2 date.day)

def clockText (hour minute second nanos : Nat) : List Char :=
  padded 2 hour ++ ':' :: (padded 2 minute ++ ':' :: (padded 2 second ++ (fraction nanos ++ ['Z'])))

theorem write_eq (instant : Instant) :
    instant.write = dateText instant.stamp.date ++ 'T' :: clockText instant.stamp.hour
      instant.stamp.minute instant.stamp.second instant.stamp.nanos := by
  simp only [write, dateText, clockText, stamp, List.append_assoc, List.cons_append]

section

variable {blanks : List Char → List Char}

theorem takeDate_dateText (keeps : ∀ cs, blanks ('-' :: cs) = '-' :: cs) {date : Date}
    (months : date.month < 100) (days : date.day < 100) (stops : Stops rest) :
    takeDate blanks (dateText date ++ rest) = some (date, rest) := by
  have dash (cs : List Char) : Stops ('-' :: cs) := Stops.cons (by decide) cs
  have mark (cs : List Char) : takeChar '-' ('-' :: cs) = some cs := rfl
  simp only [takeDate, dateText, List.append_assoc, List.cons_append,
    takeYear_yearDigits _ (dash _), takeField_padded months (dash _), takeField_padded days stops,
    keeps, mark, Option.bind_eq_bind, Option.bind_some]
  rfl

theorem takeClock_padded (keeps : ∀ cs, blanks (':' :: cs) = ':' :: cs)
    {hour minute second nanos : Nat} (hours : hour < 100) (minutes : minute < 100)
    (seconds : second < 100) {after : List Char} (stops : Stops rest)
    (fraction : takeFraction rest = some (nanos, after)) :
    takeClock blanks (padded 2 hour ++ ':' :: (padded 2 minute ++ ':' :: (padded 2 second ++ rest))) =
      some ((hour, minute, second, nanos), after) := by
  have colon (cs : List Char) : Stops (':' :: cs) := Stops.cons (by decide) cs
  have mark (cs : List Char) : takeChar ':' (':' :: cs) = some cs := rfl
  simp only [takeClock, takeField_padded hours (colon _), takeField_padded minutes (colon _),
    takeField_padded seconds stops, fraction, keeps, mark, Option.bind_eq_bind, Option.bind_some]
  rfl

end

theorem secondOfDay_lt (instant : Instant) : instant.secondOfDay < 86400 := by
  simp only [secondOfDay]
  omega

namespace Valid

variable {instant : Instant} (valid : instant.Valid)

include valid

theorem date_isValid : instant.stamp.date.isValid = true := by
  have range := valid.inRange
  simp only [Instant.inRange, Bool.and_eq_true, decide_eq_true_eq] at range
  exact Date.isValid_ofDays range.1 range.2

theorem second_le : instant.stamp.second ≤ 60 := by
  have below := valid.nanos
  have leap := valid.leap
  simp only [stamp, secondOfDay]
  omega

theorem toInstant?_stamp : instant.stamp.toInstant? = some instant := by
  have ofDay := instant.secondOfDay_lt
  have fields : (instant.stamp.date.isValid && instant.stamp.hour ≤ 23 && instant.stamp.minute ≤ 59
      && instant.stamp.second ≤ 60 && instant.stamp.ahead.natAbs < 86400) = true := by
    simp only [Bool.and_eq_true, decide_eq_true_eq]
    refine ⟨⟨⟨⟨valid.date_isValid, ?_⟩, ?_⟩, valid.second_le⟩, ?_⟩
    all_goals
      simp only [stamp]
      omega
  have days : instant.stamp.date.toDays = instant.seconds / 86400 := Date.toDays_ofDays _
  rw [Stamp.toInstant?, if_pos fields]
  by_cases leap : 1000000000 ≤ instant.nanos
  · have last := valid.leap leap
    have below := valid.nanos
    have sixty : instant.stamp.second = 60 := by
      simp only [stamp, secondOfDay]
      omega
    have seconds : instant.stamp.date.toDays * 86400 + (instant.stamp.hour * 3600
        + instant.stamp.minute * 60 + 59) - instant.stamp.ahead = instant.seconds := by
      rw [days]
      simp only [stamp, secondOfDay]
      omega
    have nanos : instant.stamp.nanos + 1000000000 = instant.nanos := by
      simp only [stamp]
      omega
    simp only [sixty, beq_self_eq_true, if_true, Nat.cast_ofNat, seconds, nanos]
    exact if_pos valid.inRange
  · have plain : (instant.stamp.second == 60) = false := by
      simp only [stamp, beq_eq_false_iff_ne]
      omega
    have seconds : instant.stamp.date.toDays * 86400 + (instant.stamp.hour * 3600
        + instant.stamp.minute * 60 + instant.stamp.second) - instant.stamp.ahead
        = instant.seconds := by
      rw [days]
      simp only [stamp, secondOfDay]
      omega
    have nanos : instant.stamp.nanos = instant.nanos := by
      simp only [stamp]
      omega
    simp only [plain, Bool.false_eq_true, if_false, seconds, nanos]
    exact if_pos valid.inRange

theorem takeLenient_write : takeLenient instant.write = some (instant.stamp, []) := by
  have ofDay := instant.secondOfDay_lt
  have second := valid.second_le
  obtain ⟨months, days⟩ : instant.stamp.date.month < 100 ∧ instant.stamp.date.day < 100 := by
    have date := valid.date_isValid
    have length := Date.monthLength_le instant.stamp.date.year instant.stamp.date.month
    simp only [Date.isValid, Bool.and_eq_true, decide_eq_true_eq] at date
    omega
  have date (rest : List Char) := takeDate_dateText (trimStart_cons (by decide)) months days
    (Stops.cons (c := 'T') (by decide) rest)
  have clock : takeClock Text.trimStart (clockText instant.stamp.hour instant.stamp.minute
      instant.stamp.second instant.stamp.nanos) = some ((instant.stamp.hour, instant.stamp.minute,
        instant.stamp.second, instant.stamp.nanos), ['Z']) := by
    refine takeClock_padded (trimStart_cons (by decide)) ?_ ?_ (by omega) (stops_fraction _)
      (takeFraction_fraction ?_)
    all_goals
      simp only [stamp]
      omega
  have separator (cs : List Char) : takeSeparator ('T' :: cs) = some cs := rfl
  have offset : takeLenientOffset ['Z'] = some (0, []) := by decide
  rw [takeLenient, write_eq]
  simp only [date, separator, clock, offset, Option.bind_eq_bind, Option.bind_some]
  rfl

/-- What is written for an instant is read as that instant. -/
theorem ofLenient?_text : ofLenient? instant.text = some instant := by
  rw [ofLenient?, text, String.toList_ofList, valid.takeLenient_write]
  exact valid.toInstant?_stamp

end Valid

/-! ### What is read -/

theorem takeFraction_lt {cs after : List Char} {nanos : Nat}
    (taken : takeFraction cs = some (nanos, after)) : nanos < 1000000000 := by
  unfold takeFraction at taken
  split at taken
  · rename_i rest
    simp only at taken
    split at taken
    · cases taken
    · cases taken
      have digits : ∀ c ∈ (Numeral.takeDigits rest).1.take 9, c.isDigit = true :=
        fun c member => List.mem_takeWhile_imp (List.mem_of_mem_take member)
      have few : ((Numeral.takeDigits rest).1.take 9).length ≤ 9 := List.length_take_le _ _
      have below := Numeral.ofDigits_lt digits
      generalize (Numeral.takeDigits rest).1.take 9 = counted at few below ⊢
      calc Numeral.ofDigits counted * 10 ^ (9 - counted.length)
          < 10 ^ counted.length * 10 ^ (9 - counted.length) :=
            Nat.mul_lt_mul_of_pos_right below (Nat.pow_pos (by decide))
        _ = 1000000000 := by
            rw [← Nat.pow_add, Nat.add_sub_cancel' few]
  · cases taken
    decide

/-- An offset is written in hours and minutes. -/
theorem takeOffset_minutes {between : List Char → Option (List Char)} {cs after : List Char}
    {ahead : Int} (taken : takeOffset between cs = some (ahead, after)) : ahead % 60 = 0 := by
  unfold takeOffset at taken
  split at taken
  · cases taken
    rfl
  · cases taken
    rfl
  · simp only [Option.bind_eq_bind, Option.bind_eq_some_iff] at taken
    obtain ⟨⟨sign, _⟩, -, ⟨hours, _⟩, -, _, -, ⟨minutes, _⟩, -, made⟩ := taken
    simp only [Option.ite_none_right_eq_some, pure, Option.some.injEq, Prod.mk.injEq] at made
    obtain ⟨-, rfl, -⟩ := made
    have whole : (60 : Int) ∣ hours * 3600 + minutes * 60 := by omega
    exact Int.emod_eq_zero_of_dvd (Dvd.dvd.mul_left whole sign)

theorem takeLenientOffset_minutes {cs after : List Char} {ahead : Int}
    (taken : takeLenientOffset cs = some (ahead, after)) : ahead % 60 = 0 := by
  unfold takeLenientOffset at taken
  simp only at taken
  split at taken
  · cases taken
    rfl
  · exact takeOffset_minutes taken

theorem takeLenient_bounds {cs after : List Char} {stamp : Stamp}
    (taken : takeLenient cs = some (stamp, after)) :
    stamp.nanos < 1000000000 ∧ stamp.ahead % 60 = 0 := by
  unfold takeLenient takeClock at taken
  simp only [Option.bind_eq_bind, Option.bind_eq_some_iff] at taken
  obtain ⟨_, -, _, -, ⟨clock, _⟩, ⟨_, -, _, -, _, -, _, -, _, -, ⟨nanos, _⟩, fraction, made⟩,
    ⟨ahead, _⟩, offset, whole⟩ := taken
  cases made
  cases whole
  exact ⟨takeFraction_lt fraction, takeLenientOffset_minutes offset⟩

theorem valid_of_toInstant? {stamp : Stamp} {instant : Instant} (below : stamp.nanos < 1000000000)
    (minutes : stamp.ahead % 60 = 0) (made : stamp.toInstant? = some instant) : instant.Valid := by
  unfold Stamp.toInstant? at made
  by_cases leap : (stamp.second == 60) = true
  · simp only [leap, if_true, Option.ite_none_right_eq_some, Option.some.injEq] at made
    obtain ⟨-, range, rfl⟩ := made
    refine ⟨range, ?_, fun _ => ?_⟩
    · simp only
      omega
    · simp only
      omega
  · simp only [leap, Bool.false_eq_true, if_false, Option.ite_none_right_eq_some, Option.some.injEq] at made
    obtain ⟨-, range, rfl⟩ := made
    refine ⟨range, ?_, fun late => ?_⟩
    · simp only
      omega
    · simp only at late
      omega

/-- The valid instants are those that can be read, from their own text or from another. -/
theorem valid_iff {instant : Instant} :
    instant.Valid ↔ ∃ written, ofLenient? written = some instant := by
  constructor
  · exact fun valid => ⟨_, valid.ofLenient?_text⟩
  · rintro ⟨written, read⟩
    obtain ⟨stamp, taken, made⟩ := Option.bind_eq_some_iff.mp read
    unfold ended at taken
    split at taken
    · rename_i all
      cases taken
      obtain ⟨below, minutes⟩ := takeLenient_bounds all
      exact valid_of_toInstant? below minutes made
    · cases taken

example : ofLenient? (text ⟨253402300859, 1500000000⟩) = some ⟨253402300859, 1500000000⟩ ∧
    text ⟨253402300859, 1500000000⟩ = "+10000-01-01T00:00:60.500Z" := by decide

end FeedMonitor.Instant
