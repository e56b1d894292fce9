import FeedMonitor.Proofs.Text.Trim
import FeedMonitor.Proofs.Time.Day
import FeedMonitor.Proofs.Time.Instant

/-!
The written forms of a whole second, and what the strict and the local reader make of them.

The date and the time of day are those of the place where the text is written, found by counting
days. With the zone of the place behind them the text is strict, without it local.
-/

namespace FeedMonitor.Instant

open Numeral (Stops)

/-- What is written for the distance of a place from universal time. -/
inductive Zone
  | zulu
  | smallZulu
  | offset (behind : Bool) (hours : Fin 24) (minutes : Fin 60)

/-- The seconds by which the clocks of a zone run ahead. -/
def Zone.ahead : Zone → Int
  | zulu => 0
  | smallZulu => 0
  | offset behind hours minutes =>
    (if behind then -1 else 1) * ((hours.val * 3600 + minutes.val * 60 : Nat) : Int)

def Zone.write : Zone → List Char
  | zulu => ['Z']
  | smallZulu => ['z']
  | offset behind hours minutes =>
    (if behind then '-' else '+') :: (padded 2 hours.val ++ ':' :: padded 2 minutes.val)

/-- No fraction of a second, or one of zeros. -/
def zeroFraction : Nat → List Char
  | 0 => []
  | places + 1 => '.' :: List.replicate (places + 1) '0'

/-- A date and a time of day on a whole second, within a minute and within four digits of a year. -/
structure Stamp.Proper (stamp : Stamp) : Prop where
  year : 0 ≤ stamp.date.year ∧ stamp.date.year ≤ 9999
  inMonth : stamp.date.InMonth
  hour : stamp.hour < 24
  minute : stamp.minute < 60
  second : stamp.second < 60
  nanos : stamp.nanos = 0

/-- The date, a mark and the time of day. -/
def Stamp.write (stamp : Stamp) (mark : Char) (places : Nat) : List Char :=
  dateText stamp.date ++ mark :: (padded 2 stamp.hour ++ ':' :: (padded 2 stamp.minute ++
    ':' :: (padded 2 stamp.second ++ zeroFraction places)))

/-- The text goes on neither with a digit nor with a fraction. -/
structure Closed (rest : List Char) : Prop where
  stops : Stops rest
  whole : rest.head? ≠ some '.'

theorem Zone.closed (zone : Zone) : Closed zone.write := by
  cases zone with
  | zulu => exact ⟨Stops.cons (by decide) _, by decide⟩
  | smallZulu => exact ⟨Stops.cons (by decide) _, by decide⟩
  | offset behind hours minutes =>
    cases behind with
    | true => exact ⟨Stops.cons (by decide) _, by simp [write]⟩
    | false => exact ⟨Stops.cons (by decide) _, by simp [write]⟩

theorem Closed.nil : Closed [] := ⟨Stops.nil, by decide⟩

section

variable {rest : List Char} (closed : Closed rest)

include closed

theorem stops_zeroFraction (places : Nat) : Stops (zeroFraction places ++ rest) := by
  cases places with
  | zero => exact closed.stops
  | succ places => exact Stops.cons (by decide) _

theorem takeFraction_zeroFraction (places : Nat) :
    takeFraction (zeroFraction places ++ rest) = some (0, rest) := by
  cases places with
  | zero =>
    rw [zeroFraction, List.nil_append]
    unfold takeFraction
    split
    · rename_i more
      exact absurd rfl closed.whole
    · rfl
  | succ places =>
    have zeros : ∀ c ∈ List.replicate (places + 1) '0', c.isDigit = true := by
      intro c member
      rw [(List.mem_replicate.mp member).2]
      decide
    have value : Numeral.ofDigits ((List.replicate (places + 1) '0').take 9) = 0 := by
      rw [List.take_replicate, Numeral.ofDigits, Nat.ofDigitChars_replicate_zero, Nat.mul_zero]
    rw [zeroFraction, List.cons_append]
    simp only [takeFraction, Numeral.takeDigits_digits zeros closed.stops, value, Nat.zero_mul]
    rfl

end

theorem takeNumber_two {n : Nat} (fits : n < 100) {rest : List Char} (stops : Stops rest) :
    takeNumber 2 2 (padded 2 n ++ rest) = some (n, rest) := by
  have length : (padded 2 n).length = 2 := length_padded (by decide) fits
  exact takeNumber_padded (by omega) (by omega) stops

theorem takeOffset_zone (zone : Zone) :
    takeOffset (takeChar ':') zone.write = some (zone.ahead, []) := by
  cases zone with
  | zulu => rfl
  | smallZulu => rfl
  | offset behind hours minutes =>
    have hour (rest : List Char) : takeNumber 2 2 (padded 2 hours.val ++ ':' :: rest) =
        some (hours.val, ':' :: rest) :=
      takeNumber_two (by omega) (Stops.cons (by decide) rest)
    have minute : takeNumber 2 2 (padded 2 minutes.val) = some (minutes.val, []) := by
      have taken := takeNumber_two (n := minutes.val) (by omega) Stops.nil
      rwa [List.append_nil] at taken
    have colon (cs : List Char) : takeChar ':' (':' :: cs) = some cs := rfl
    have few : minutes.val ≤ 59 := by omega
    cases behind with
    | true =>
      simp [Zone.write, Zone.ahead, takeOffset, takeSignOfOffset, hour, colon, minute, few]
    | false =>
      simp [Zone.write, Zone.ahead, takeOffset, takeSignOfOffset, hour, colon, minute, few]

/-! ### Ends -/

theorem isBlank_padded (width n : Nat) : ∀ c ∈ padded width n, Text.isBlank c = false :=
  fun c member => isBlank_of_isDigit (isDigit_padded width n c member)

theorem isBlank_zeroFraction (places : Nat) :
    ∀ c ∈ zeroFraction places, Text.isBlank c = false := by
  intro c member
  cases places with
  | zero => cases member
  | succ places =>
    rcases List.mem_cons.mp member with rfl | zero
    · decide
    · rw [(List.mem_replicate.mp zero).2]
      decide

theorem Zone.isBlank_write (zone : Zone) : ∀ c ∈ zone.write, Text.isBlank c = false := by
  cases zone with
  | zulu =>
    rw [Zone.write, List.forall_mem_singleton]
    decide
  | smallZulu =>
    rw [Zone.write, List.forall_mem_singleton]
    decide
  | offset behind hours minutes =>
    intro c member
    simp only [Zone.write, List.mem_cons, List.mem_append] at member
    rcases member with rfl | hour | rfl | minute
    · cases behind <;> decide
    · exact isBlank_padded 2 _ c hour
    · decide
    · exact isBlank_padded 2 _ c minute

theorem Zone.write_ne_nil (zone : Zone) : zone.write ≠ [] := by
  cases zone <;> simp [Zone.write]

theorem Stamp.write_ne_nil (stamp : Stamp) (mark : Char) (places : Nat) :
    stamp.write mark places ≠ [] := by
  simp [Stamp.write]

/-! ### The strict reader -/

theorem yearDigits_of_range {year : Int} (range : 0 ≤ year ∧ year ≤ 9999) :
    yearDigits year = padded 4 year.toNat := by
  rw [yearDigits, if_pos (by simp [range])]

namespace Stamp.Proper

variable {stamp : Stamp} (proper : stamp.Proper)

include proper

theorem month_day_lt : stamp.date.month < 100 ∧ stamp.date.day < 100 := by
  obtain ⟨months, days⟩ := proper.inMonth
  have length := Date.monthLength_le stamp.date.year stamp.date.month
  omega

/-- A date begins with a digit, and a time of day has no blanks. -/
theorem trimmed_write (mark : Char) (places : Nat) : Text.Trimmed (stamp.write mark places) := by
  constructor
  · obtain ⟨c, cs, digits, digit⟩ := exists_padded 4 stamp.date.year.toNat
    rw [Stamp.write, dateText, yearDigits_of_range proper.year, digits]
    intro d first
    obtain rfl := Option.some.inj first
    exact isBlank_of_isDigit digit
  · rw [Stamp.write, List.append_cons (dateText stamp.date)]
    refine Text.last_append (by simp) ?_
    intro c member
    simp only [List.mem_cons, List.mem_append] at member
    rcases member with hour | rfl | minute | rfl | second | zero
    · exact isBlank_padded 2 _ c hour
    · decide
    · exact isBlank_padded 2 _ c minute
    · decide
    · exact isBlank_padded 2 _ c second
    · exact isBlank_zeroFraction places c zero

theorem takeStrict_write {mark : Char} (marks : mark = 'T' ∨ mark = 't' ∨ mark = ' ')
    (places : Nat) {rest : List Char} (closed : Closed rest) :
    takeStrict (stamp.write mark places ++ rest) =
      (takeOffset (takeChar ':') rest).map fun taken =>
        ({ stamp with ahead := taken.1 }, taken.2) := by
  obtain ⟨months, days⟩ := proper.month_day_lt
  obtain ⟨⟨year, month, day⟩, hour, minute, second, nanos, ahead⟩ := stamp
  obtain ⟨range, -, hours, minutes, seconds, rfl⟩ := proper
  dsimp only at range months days hours minutes seconds
  have years (cs : List Char) :
      takeNumber 4 4 (padded 4 year.toNat ++ '-' :: cs) = some (year.toNat, '-' :: cs) := by
    have four : (padded 4 year.toNat).length = 4 := length_padded (by decide) (by omega)
    exact takeNumber_padded (by omega) (by omega) (Stops.cons (by decide) cs)
  have dash (cs : List Char) : Stops ('-' :: cs) := Stops.cons (by decide) cs
  have colon (cs : List Char) : Stops (':' :: cs) := Stops.cons (by decide) cs
  have marked (cs : List Char) : Stops (mark :: cs) := by
    rcases marks with rfl | rfl | rfl <;> exact Stops.cons (by decide) cs
  have separated (cs : List Char) : takeSeparator (mark :: cs) = some cs := by
    rcases marks with rfl | rfl | rfl <;> rfl
  have taken (c : Char) (cs : List Char) : takeChar c (c :: cs) = some cs := if_pos rfl
  have whole : (year.toNat : Int) = year := Int.toNat_of_nonneg range.1
  rw [Stamp.write, dateText, yearDigits_of_range range]
  simp only [List.append_assoc, List.cons_append]
  -- One field after the other: simplifying under all the binders at once is slow.
  unfold takeStrict
  rw [years]
  dsimp only [Option.bind_eq_bind, Option.bind_some]
  rw [taken, Option.bind_some, takeNumber_two months (dash _)]
  dsimp only [Option.bind_some]
  rw [taken, Option.bind_some, takeNumber_two days (marked _)]
  dsimp only [Option.bind_some]
  rw [separated, Option.bind_some, takeNumber_two (by omega) (colon _)]
  dsimp only [Option.bind_some]
  rw [taken, Option.bind_some, takeNumber_two (by omega) (colon _)]
  dsimp only [Option.bind_some]
  rw [taken, Option.bind_some, takeNumber_two (by omega) (stops_zeroFraction closed places)]
  dsimp only [Option.bind_some]
  rw [takeFraction_zeroFraction closed places, whole]
  dsimp only [Option.bind_some]
  cases takeOffset (takeChar ':') rest <;> rfl

theorem ofStrict?_write_zone {mark : Char} (marks : mark = 'T' ∨ mark = 't' ∨ mark = ' ')
    (places : Nat) (zone : Zone) :
    ofStrict? (String.ofList (stamp.write mark places ++ zone.write)) =
      { stamp with ahead := zone.ahead }.toInstant? := by
  rw [ofStrict?, String.toList_ofList, proper.takeStrict_write marks places zone.closed,
    takeOffset_zone]
  rfl

/-- Without a zone the text is not strict. -/
theorem ofStrict?_write {mark : Char} (marks : mark = 'T' ∨ mark = 't' ∨ mark = ' ')
    (places : Nat) : ofStrict? (String.ofList (stamp.write mark places)) = none := by
  have strict := proper.takeStrict_write marks places Closed.nil
  have missing : takeOffset (takeChar ':') [] = none := rfl
  rw [List.append_nil, missing] at strict
  rw [ofStrict?, String.toList_ofList, strict]
  rfl

/-! ### The local reader -/

theorem takeLocal_write {mark : Char} (marks : mark.isDigit = false) (places : Nat)
    {between : List Char → Option (List Char)}
    (opens : ∀ n cs, between (mark :: (padded 2 n ++ cs)) = some (padded 2 n ++ cs)) :
    takeLocal between (stamp.write mark places) = some ({ stamp with ahead := 0 }, []) := by
  obtain ⟨months, days⟩ := proper.month_day_lt
  have hours := proper.hour
  have minutes := proper.minute
  have seconds := proper.second
  have fraction := takeFraction_zeroFraction Closed.nil places
  have stops := stops_zeroFraction Closed.nil places
  rw [List.append_nil] at fraction stops
  rw [takeLocal, Stamp.write, takeDate_dateText (fun _ => rfl) months days (Stops.cons marks _)]
  dsimp only [Option.bind_eq_bind, Option.bind_some]
  rw [opens, Option.bind_some, takeClock_padded (fun _ => rfl) (by omega) (by omega) (by omega)
    stops fraction, ← proper.nanos]
  rfl

theorem takeLocal_write_of_none {mark : Char} (marks : mark.isDigit = false) (places : Nat)
    {between : List Char → Option (List Char)} (shut : ∀ cs, between (mark :: cs) = none) :
    takeLocal between (stamp.write mark places) = none := by
  obtain ⟨months, days⟩ := proper.month_day_lt
  rw [takeLocal, Stamp.write, takeDate_dateText (fun _ => rfl) months days (Stops.cons marks _)]
  dsimp only [Option.bind_eq_bind, Option.bind_some]
  rw [shut, Option.bind_none]

theorem ofLocal?_write {mark : Char} (marks : mark = 'T' ∨ mark = ' ') (places : Nat)
    {instant : Instant} (made : { stamp with ahead := 0 }.toInstant? = some instant) :
    ofLocal? (String.ofList (stamp.write mark places)) = some instant := by
  rw [ofLocal?, String.toList_ofList]
  rcases marks with rfl | rfl
  · have taken : takeLocal (takeChar 'T') (stamp.write 'T' places) =
        some ({ stamp with ahead := 0 }, []) :=
      proper.takeLocal_write (by decide) places fun _ _ => rfl
    simp [taken, ended, made]
  · have shut : takeLocal (takeChar 'T') (stamp.write ' ' places) = none :=
      proper.takeLocal_write_of_none (by decide) places fun _ => rfl
    have taken : takeLocal (some ∘ Text.trimStart) (stamp.write ' ' places) =
        some ({ stamp with ahead := 0 }, []) :=
      proper.takeLocal_write (by decide) places fun n cs => congrArg some (trimStart_padded 2 n cs)
    simp [shut, taken, ended, made]

end Stamp.Proper

/-! ### Digits alone -/

theorem takeChar_digits {c : Char} (other : c.isDigit = false) {cs : List Char}
    (digits : ∀ d ∈ cs, d.isDigit = true) : takeChar c cs = none := by
  cases cs with
  | nil => rfl
  | cons d rest =>
    have differ : d ≠ c := by
      rintro rfl
      have digit := digits d List.mem_cons_self
      rw [other] at digit
      contradiction
    exact if_neg differ

theorem digits_of_takeNumber {least most n : Nat} {cs rest : List Char}
    (digits : ∀ d ∈ cs, d.isDigit = true) (taken : takeNumber least most cs = some (n, rest)) :
    ∀ d ∈ rest, d.isDigit = true := by
  simp only [takeNumber, Option.ite_none_left_eq_some, Option.some.injEq, Prod.mk.injEq] at taken
  obtain ⟨-, -, rfl⟩ := taken
  exact fun d member => digits d (List.mem_of_mem_drop member)

theorem digits_of_takeYear {year : Int} {cs rest : List Char}
    (digits : ∀ d ∈ cs, d.isDigit = true) (taken : takeYear cs = some (year, rest)) :
    ∀ d ∈ rest, d.isDigit = true := by
  have visible : ∀ c ∈ cs.head?, Text.isBlank c = false := fun c first =>
    isBlank_of_isDigit (digits c (List.mem_of_mem_head? first))
  unfold takeYear at taken
  rw [Text.trimStart_eq_self visible] at taken
  split at taken
  · exact absurd (digits '-' List.mem_cons_self) (by decide)
  · exact absurd (digits '+' List.mem_cons_self) (by decide)
  · obtain ⟨number, found, same⟩ := Option.map_eq_some_iff.mp taken
    cases same
    exact digits_of_takeNumber digits found

theorem ofStrict?_digits {text : String} (digits : ∀ d ∈ text.toList, d.isDigit = true) :
    ofStrict? text = none := by
  have strict : takeStrict text.toList = none := by
    unfold takeStrict
    cases taken : takeNumber 4 4 text.toList with
    | none => rfl
    | some year =>
      have rest := digits_of_takeNumber digits taken
      dsimp only [Option.bind_eq_bind, Option.bind_some]
      rw [takeChar_digits (by decide) rest, Option.bind_none]
  rw [ofStrict?, strict]
  rfl

theorem ofLocal?_digits {text : String} (digits : ∀ d ∈ text.toList, d.isDigit = true) :
    ofLocal? text = none := by
  have date : takeDate id text.toList = none := by
    unfold takeDate
    cases taken : takeYear text.toList with
    | none => rfl
    | some year =>
      have rest := digits_of_takeYear digits taken
      dsimp only [Option.bind_eq_bind, Option.bind_some, id_eq]
      rw [takeChar_digits (by decide) rest, Option.bind_none]
  have whole (between : List Char → Option (List Char)) : takeLocal between text.toList = none := by
    rw [takeLocal, date]
    rfl
  simp [ofLocal?, whole, date, ended]

/-! ### Seconds -/

/-- What the clocks of a zone show: the fields of a second, counted where the text is written. -/
def localStamp (second : Nat) (ahead : Int) : Stamp :=
  ⟨Date.after (second / 86400), second % 86400 / 3600, second / 60 % 60, second % 60, 0, ahead⟩

theorem proper_localStamp {second : Nat} (year : (Date.after (second / 86400)).year ≤ 9999)
    (ahead : Int) : (localStamp second ahead).Proper where
  year := ⟨Int.le_trans (by decide) (Date.year_after _), year⟩
  inMonth := Date.inMonth_after _
  hour := by simp only [localStamp]; omega
  minute := by simp only [localStamp]; omega
  second := by simp only [localStamp]; omega
  nanos := rfl

theorem Zone.ahead_lt (zone : Zone) : zone.ahead.natAbs < 86400 := by
  cases zone with
  | zulu => decide
  | smallZulu => decide
  | offset behind hours minutes =>
    have hour := hours.isLt
    have minute := minutes.isLt
    simp only [ahead]
    split <;> omega

theorem inRange_of_le {second : Nat} (last : second ≤ 253402300799) :
    inRange ⟨second, 0⟩ = true := by
  have firstDay : Date.firstDay = -96465292 := by decide
  have lastDay : Date.lastDay = 95026236 := by decide
  simp only [inRange, day, firstDay, lastDay, Bool.and_eq_true, decide_eq_true_eq]
  omega

/-- The fields of a second, read back in its zone. -/
theorem toInstant?_localStamp {second shown : Nat} {ahead : Int} (last : second ≤ 253402300799)
    (year : (Date.after (shown / 86400)).year ≤ 9999) (shift : (shown : Int) = second + ahead)
    (near : ahead.natAbs < 86400) :
    (localStamp shown ahead).toInstant? = some ⟨second, 0⟩ := by
  obtain ⟨years, ⟨months, days⟩, hours, minutes, seconds, -⟩ := proper_localStamp year ahead
  have counted : (localStamp shown ahead).date.toDays = (shown / 86400 : Nat) :=
    Date.toDays_after (shown / 86400)
  have fields : ((localStamp shown ahead).date.isValid && (localStamp shown ahead).hour ≤ 23
      && (localStamp shown ahead).minute ≤ 59 && (localStamp shown ahead).second ≤ 60
      && (localStamp shown ahead).ahead.natAbs < 86400) = true := by
    have firstYear : Date.firstYear = -262143 := rfl
    have lastYear : Date.lastYear = 262142 := rfl
    simp only [Date.isValid, Bool.and_eq_true, decide_eq_true_eq]
    refine ⟨⟨⟨⟨⟨⟨⟨⟨⟨?_, ?_⟩, months.1⟩, months.2⟩, days.1⟩, days.2⟩, ?_⟩, ?_⟩, ?_⟩, near⟩
    all_goals omega
  have plain : ((localStamp shown ahead).second == 60) = false := by
    rw [beq_eq_false_iff_ne]
    omega
  have instant : ((shown / 86400 : Nat) : Int) * 86400
      + (((localStamp shown ahead).hour : Int) * 3600 + (localStamp shown ahead).minute * 60
        + (localStamp shown ahead).second)
      - (localStamp shown ahead).ahead = second := by
    simp only [localStamp]
    omega
  rw [Stamp.toInstant?, if_pos fields]
  simp only [plain, Bool.false_eq_true, if_false, counted, instant]
  exact if_pos (inRange_of_le last)

end FeedMonitor.Instant
