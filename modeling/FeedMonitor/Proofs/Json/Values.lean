import FeedMonitor.Proofs.Json.Members
import FeedMonitor.Proofs.Json.Scalars

/-!
Values are read back as they were written, if their numbers are whole and the nesting allowed holds
them.

The text of a value is read as that value whatever comes after it, and each bracket is matched
with one more level of nesting and two more calls.
-/

namespace FeedMonitor.Json

/-- A value without reals, whose arrays and objects lie at most `depth` deep and whose objects have
their members in order. -/
inductive Plain : Nat → Json → Prop
  | null {depth : Nat} : Plain depth .null
  | bool {depth : Nat} (value : Bool) : Plain depth (.bool value)
  | whole {depth : Nat} {n : Int} (least : -0x8000000000000000 ≤ n) (most : n < 0x10000000000000000) :
    Plain depth (.number (.whole n))
  | string {depth : Nat} (value : String) : Plain depth (.string value)
  | array {depth : Nat} {items : List Json} (plain : ∀ item ∈ items, Plain depth item) :
    Plain (depth + 1) (.array items)
  | object {depth : Nat} {members : Members} (sorted : members.Sorted)
    (plain : ∀ member ∈ members, Plain depth member.2) : Plain (depth + 1) (.object members)

theorem Plain.mono {depth deeper : Nat} {value : Json} (plain : Plain depth value)
    (more : depth ≤ deeper) : Plain deeper value := by
  induction plain generalizing deeper with
  | null => exact .null
  | bool value => exact .bool value
  | whole least most => exact .whole least most
  | string value => exact .string value
  | @array depth items _ ih =>
    obtain ⟨deeper, rfl⟩ := Nat.exists_eq_add_of_le' (Nat.le_of_add_left_le more)
    exact .array fun item member => ih item member (by omega)
  | @object depth members sorted _ ih =>
    obtain ⟨deeper, rfl⟩ := Nat.exists_eq_add_of_le' (Nat.le_of_add_left_le more)
    exact .object sorted fun member found => ih member found (by omega)

/-- The text opens with a character at which a value starts. -/
def Opens (text : List Char) : Prop :=
  ∃ c cs, text = c :: cs ∧ c ≠ ' ' ∧ c ≠ '\n' ∧ c ≠ '\t' ∧ c ≠ '\r' ∧ c ≠ ']'

/-- The text is that of the value, within `depth`, in front of everything that may follow. -/
structure Reads (depth : Nat) (text : List Char) (value : Json) : Prop where
  opens : Opens text
  reads : ∀ (fuel : Nat) (rest : List Char), 2 * text.length ≤ fuel → Ended rest →
    readValue fuel depth (text ++ rest) = .ok (value, rest)

/-- The text of the items of an array, one at least, with commas between them. -/
inductive ReadsItems (depth : Nat) : List Char → List Json → Prop
  | one {text : List Char} {item : Json} : Reads depth text item → ReadsItems depth text [item]
  | cons {text texts : List Char} {item : Json} {items : List Json} : Reads depth text item →
    ReadsItems depth texts items → ReadsItems depth (text ++ ',' :: texts) (item :: items)

/-- The text of the members of an object, likewise. -/
inductive ReadsMembers (depth : Nat) : List Char → List (String × Json) → Prop
  | one {name : String} {text : List Char} {value : Json} : Reads depth text value →
    ReadsMembers depth (writeString name ++ ':' :: text) [(name, value)]
  | cons {name : String} {text texts : List Char} {value : Json} {members : List (String × Json)} :
    Reads depth text value → ReadsMembers depth texts members →
    ReadsMembers depth (writeString name ++ ':' :: text ++ ',' :: texts) ((name, value) :: members)

variable {depth : Nat}

/-- Reading the items takes a call for each and those that its value takes. -/
theorem ReadsItems.readItems {texts : List Char} {items : List Json}
    (reads : ReadsItems depth texts items) (fuel : Nat) (rest : List Char)
    (enough : 2 * texts.length + 1 ≤ fuel) :
    readItems fuel depth (texts ++ ']' :: rest) = .ok (items, rest) := by
  induction reads generalizing fuel with
  | @one text item reads =>
    obtain ⟨fuel, rfl⟩ := Nat.exists_eq_add_of_le' (Nat.le_of_add_left_le enough)
    have first := reads.reads fuel (']' :: rest) (by omega) (Ended.bracket rest)
    rw [Json.readItems, first]
    simp only [bind, Except.bind, skipBlanks_cons (c := ']') (by decide)]
    rfl
  | @cons text texts item items reads _ ih =>
    rw [List.length_append, List.length_cons] at enough
    obtain ⟨fuel, rfl⟩ := Nat.exists_eq_add_of_le' (Nat.le_of_add_left_le enough)
    have first := reads.reads fuel (',' :: texts ++ ']' :: rest) (by omega) (Ended.comma _)
    rw [Json.readItems, List.append_assoc, first]
    simp only [bind, Except.bind, List.cons_append, skipBlanks_cons (c := ',') (by decide)]
    rw [ih fuel (by omega)]
    rfl

theorem ReadsItems.opens {texts : List Char} {items : List Json}
    (reads : ReadsItems depth texts items) : Opens texts := by
  cases reads with
  | one first => exact first.opens
  | cons first _ =>
    obtain ⟨c, cs, rfl, visible⟩ := first.opens
    exact ⟨c, _, rfl, visible⟩

theorem writeString_append (name : String) (rest : List Char) :
    writeString name ++ rest = '"' :: (name.toList.flatMap writeChar ++ '"' :: rest) := by
  simp [writeString]

theorem ReadsMembers.readMembers {texts : List Char} {members : List (String × Json)}
    (reads : ReadsMembers depth texts members) (fuel : Nat) (rest : List Char)
    (enough : 2 * texts.length + 1 ≤ fuel) :
    readMembers fuel depth (texts ++ '\x7d' :: rest) = .ok (members, rest) := by
  induction reads generalizing fuel with
  | @one name text value reads =>
    rw [List.length_append, List.length_cons] at enough
    obtain ⟨fuel, rfl⟩ := Nat.exists_eq_add_of_le' (Nat.le_of_add_left_le enough)
    have first := reads.reads fuel ('\x7d' :: rest) (by omega) (Ended.brace rest)
    rw [List.append_assoc, writeString_append, Json.readMembers, skipBlanks_cons (by decide)]
    simp only [readString_flatMap, bind, Except.bind, List.cons_append, readColon_cons, first,
      skipBlanks_cons (c := '\x7d') (by decide)]
    rfl
  | @cons name text texts value members reads _ ih =>
    simp only [List.length_append, List.length_cons] at enough
    obtain ⟨fuel, rfl⟩ := Nat.exists_eq_add_of_le' (Nat.le_of_add_left_le enough)
    have first := reads.reads fuel (',' :: texts ++ '\x7d' :: rest) (by omega) (Ended.comma _)
    simp only [List.append_assoc, List.cons_append] at first ⊢
    rw [writeString_append, Json.readMembers, skipBlanks_cons (by decide)]
    simp only [readString_flatMap, bind, Except.bind, readColon_cons, first,
      skipBlanks_cons (c := ',') (by decide)]
    rw [ih fuel (by omega)]
    rfl

theorem ReadsMembers.opens {texts : List Char} {members : List (String × Json)}
    (reads : ReadsMembers depth texts members) : ∃ cs, texts = '"' :: cs := by
  cases reads with
  | one _ => exact ⟨_, rfl⟩
  | cons _ _ => exact ⟨_, rfl⟩

/-- A text whose first character says what follows. -/
theorem Reads.of_step {c : Char} {cs : List Char} {value : Json}
    (visible : c ≠ ' ' ∧ c ≠ '\n' ∧ c ≠ '\t' ∧ c ≠ '\r' ∧ c ≠ ']')
    (step : ∀ (fuel : Nat) (rest : List Char), 2 * cs.length + 1 ≤ fuel → Ended rest →
      readValue (fuel + 1) depth (c :: (cs ++ rest)) = .ok (value, rest)) :
    Reads depth (c :: cs) value := by
  refine ⟨⟨c, cs, rfl, visible⟩, fun fuel rest enough ended => ?_⟩
  rw [List.length_cons] at enough
  obtain ⟨fuel, rfl⟩ := Nat.exists_eq_add_of_le' (show 1 ≤ fuel by omega)
  exact step fuel rest (by omega) ended

theorem reads_null : Reads depth (write .null) .null := by
  refine Reads.of_step (by decide) fun fuel rest enough ended => ?_
  rw [readValue, skipBlanks_cons (by decide)]
  simp [readWord, bind, Except.bind, pure, Except.pure]

theorem reads_bool (value : Bool) : Reads depth (write (.bool value)) (.bool value) := by
  cases value
  all_goals
    refine Reads.of_step (by decide) fun fuel rest enough ended => ?_
    rw [readValue, skipBlanks_cons (by decide)]
    simp [readWord, bind, Except.bind, pure, Except.pure]

theorem reads_string (value : String) : Reads depth (write (.string value)) (.string value) := by
  have text : write (.string value) = '"' :: (value.toList.flatMap writeChar ++ ['"']) := by
    simp [write, writeString]
  rw [text]
  refine Reads.of_step (by decide) fun fuel rest enough ended => ?_
  rw [readValue, skipBlanks_cons (by decide), List.append_assoc]
  simp only [List.singleton_append, readString_flatMap, bind, Except.bind]
  rfl

theorem reads_whole {n : Int} (least : -0x8000000000000000 ≤ n) (most : n < 0x10000000000000000) :
    Reads depth (write (.number (.whole n))) (.number (.whole n)) := by
  have below : n.natAbs < significandLimit := by
    simp only [significandLimit]
    omega
  simp only [write, Number.write, writeInt]
  split
  · refine Reads.of_step (by decide) fun fuel rest enough ended => ?_
    have number := readNumber_toDigits true ended below fun _ => by omega
    have value : -(n.natAbs : Int) = n := by omega
    rw [readValue, skipBlanks_cons (by decide)]
    simp only [number, if_true, value, bind, Except.bind]
    rfl
  · have digits := Numeral.isDigit_toDigits n.natAbs
    have value : (n.natAbs : Int) = n := by omega
    cases text : Nat.toDigits 10 n.natAbs with
    | nil => exact absurd text Nat.toDigits_ne_nil
    | cons c cs =>
      have digit : c.isDigit = true := digits c (by simp [text])
      refine Reads.of_step ?_ fun fuel rest enough ended => ?_
      · refine ⟨?_, ?_, ?_, ?_, ?_⟩ <;> (rintro rfl; contradiction)
      · have number := readNumber_toDigits false ended below (by simp)
        rw [text, List.cons_append, value] at number
        rw [readValue_digit fuel depth digit, number]
        rfl

theorem Reads.array {texts : List Char} {items : List Json} (reads : ReadsItems depth texts items) :
    Reads (depth + 1) ('[' :: (texts ++ [']'])) (.array items) := by
  refine Reads.of_step (by decide) fun fuel rest enough ended => ?_
  rw [List.length_append, List.length_singleton] at enough
  have all := reads.readItems fuel rest (by omega)
  -- What opens the first item does not close the array.
  obtain ⟨c, cs, text, space, newline, tab, feed, bracket⟩ := reads.opens
  rw [List.append_assoc, List.singleton_append, readValue, skipBlanks_cons (by decide)]
  rw [text, List.cons_append] at all ⊢
  simp only [skipBlanks_cons ⟨space, newline, tab, feed⟩]
  split
  · rename_i same
    cases same
    contradiction
  · simp only [all, bind, Except.bind]
    rfl

theorem reads_nil : Reads (depth + 1) ['[', ']'] (.array []) := by
  refine Reads.of_step (by decide) fun fuel rest enough ended => ?_
  rw [readValue, skipBlanks_cons (by decide)]
  rfl

theorem Reads.object {texts : List Char} {members : List (String × Json)}
    (reads : ReadsMembers depth texts members) :
    Reads (depth + 1) ('\x7b' :: (texts ++ ['\x7d'])) (.object (Members.ofList members)) := by
  refine Reads.of_step (by decide) fun fuel rest enough ended => ?_
  rw [List.length_append, List.length_singleton] at enough
  have all := reads.readMembers fuel rest (by omega)
  obtain ⟨cs, text⟩ := reads.opens
  rw [List.append_assoc, List.singleton_append, readValue, skipBlanks_cons (by decide)]
  rw [text, List.cons_append] at all ⊢
  simp only [skipBlanks_cons (c := '"') (by decide)]
  split
  · rename_i same
    simp at same
  · simp only [all, bind, Except.bind]
    rfl

theorem reads_writeItems {items : List Json} (some : items ≠ [])
    (reads : ∀ item ∈ items, Reads depth item.write item) :
    ReadsItems depth (writeItems items) items := by
  induction items with
  | nil => contradiction
  | cons item rest ih =>
    have first := reads item List.mem_cons_self
    cases rest with
    | nil => exact .one first
    | cons next rest =>
      have others := ih (List.cons_ne_nil _ _) fun item member =>
        reads item (List.mem_cons_of_mem _ member)
      exact .cons first others

theorem reads_writeMembers {members : List (String × Json)} (some : members ≠ [])
    (reads : ∀ member ∈ members, Reads depth member.2.write member.2) :
    ReadsMembers depth (writeMembers members) members := by
  induction members with
  | nil => contradiction
  | cons member rest ih =>
    obtain ⟨name, value⟩ := member
    have first := reads (name, value) List.mem_cons_self
    cases rest with
    | nil => exact .one first
    | cons next rest =>
      have others := ih (List.cons_ne_nil _ _) fun member found =>
        reads member (List.mem_cons_of_mem _ found)
      exact .cons first others

theorem reads_writeFields {members : List (String × Json)}
    (reads : ∀ member ∈ members, Reads depth member.2.write member.2) :
    Reads (depth + 1) (writeFields members) (.object (Members.ofList members)) := by
  cases members with
  | nil =>
    refine Reads.of_step (by decide) fun fuel rest enough ended => ?_
    rw [readValue, skipBlanks_cons (by decide)]
    rfl
  | cons member rest => exact .object (reads_writeMembers (List.cons_ne_nil _ _) reads)

theorem Plain.reads {value : Json} (plain : Plain depth value) : Reads depth value.write value := by
  induction plain with
  | null => exact reads_null
  | bool value => exact reads_bool value
  | whole least most => exact reads_whole least most
  | string value => exact reads_string value
  | @array depth items _ ih =>
    cases items with
    | nil => exact reads_nil
    | cons item rest => exact .array (reads_writeItems (List.cons_ne_nil _ _) ih)
  | @object depth members sorted _ ih =>
    have reads := reads_writeFields ih
    rw [sorted.ofList_eq] at reads
    exact reads

theorem parseWithin_of_reads {text : List Char} {value : Json} (reads : Reads depth text value) :
    parseWithin depth (String.ofList text) = .ok value := by
  have read := reads.reads (readFuel text) [] (by simp only [readFuel]; omega) Ended.nil
  rw [List.append_nil] at read
  rw [parseWithin, String.toList_ofList, read]
  rfl

end FeedMonitor.Json
