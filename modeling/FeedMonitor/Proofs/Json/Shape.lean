import FeedMonitor.Json.Shape
import FeedMonitor.Proofs.Json.Values

/-!
A shape reads an object back that was written with members for its slots, in any order.

What has been read is known by the names of the members that have gone by. Each member adds its name,
and the last one leaves the draft of all.
-/

namespace FeedMonitor.Json

/-! ### Values of one kind -/

theorem write_string_append (s : String) (rest : List Char) :
    write (.string s) ++ rest = '"' :: (s.toList.flatMap writeChar ++ '"' :: rest) := by
  rw [write, writeString_append]

theorem expectString_write (s : String) (rest : List Char) :
    expectString (write (.string s) ++ rest) = .ok (s, rest) := by
  rw [write_string_append, expectString, skipBlanks_cons (by decide)]
  exact readString_flatMap s rest

theorem expectName_write {α : Type} {find : String → Option α} {name : String} {value : α}
    (found : find name = some value) (rest : List Char) :
    expectName find (write (.string name) ++ rest) = .ok (value, rest) := by
  rw [write_string_append, expectName, skipBlanks_cons (by decide)]
  simp only [readString_flatMap, found, bind, Except.bind]
  rfl

/-- What is no blank and does not open with the letter of null is something. -/
theorem expectOptional_of_opens {α : Type} {expect : List Char → Except Fault (α × List Char)}
    {c : Char} {cs rest : List Char} {value : α}
    (visible : c ≠ ' ' ∧ c ≠ '\n' ∧ c ≠ '\t' ∧ c ≠ '\r') (other : c ≠ 'n')
    (expected : expect (c :: cs) = .ok (value, rest)) :
    expectOptional expect (c :: cs) = .ok (some value, rest) := by
  rw [expectOptional, skipBlanks_cons visible]
  split
  · rename_i same
    cases same
    contradiction
  · rw [expected]
    rfl

theorem expectObject_write {members : Members} (plain : Plain (nestingLimit - 1) (.object members))
    {rest : List Char} (ended : Ended rest) :
    expectObject (write (.object members) ++ rest) = .ok (members, rest) := by
  have read := plain.reads.reads (readFuel (write (.object members) ++ rest)) rest
    (by simp only [readFuel, List.length_append]; omega) ended
  have text : write (.object members) ++ rest = '\x7b' :: (writeMembers members ++ '\x7d' :: rest) := by
    simp [write]
  rw [text] at read ⊢
  rw [expectObject, skipBlanks_cons (by decide)]
  simp only [read, bind, Except.bind]
  rfl

/-! ### Objects -/

namespace Shape

variable {ι σ : Type} {shape : Shape ι σ}

/-- With the draft of some names, a member of another name is read into the draft of all. -/
def Notes (shape : Shape ι σ) (noted : List String → σ) (members : List (String × Json)) : Prop :=
  ∀ name value, (name, value) ∈ members → ∀ names, name ∉ names → ∀ rest, Ended rest →
    shape.readMember (noted names) name (':' :: (value.write ++ rest)) =
      .ok (noted (name :: names), rest)

variable {noted : List String → σ}

theorem readMembers_writeMembers {members : List (String × Json)} (some : members ≠ [])
    (notes : shape.Notes noted members) {names : List String}
    (distinct : ((members.map Prod.fst).reverse ++ names).Nodup) (fuel : Nat) (rest : List Char)
    (enough : (writeMembers members).length ≤ fuel) :
    shape.readMembers fuel (noted names) (writeMembers members ++ '\x7d' :: rest) =
      .ok (noted ((members.map Prod.fst).reverse ++ names), '\x7d' :: rest) := by
  -- Each member is read with its name before those that have gone by.
  induction members generalizing names fuel with
  | nil => contradiction
  | cons member others ih =>
    obtain ⟨name, value⟩ := member
    have distinct' : ((others.map Prod.fst).reverse ++ name :: names).Nodup := by
      simpa using distinct
    have new : name ∉ names := by
      have back := (List.nodup_append.mp distinct').2.1
      exact (List.nodup_cons.mp back).1
    have first := notes name value List.mem_cons_self names new
    cases others with
    | nil =>
      simp only [writeMembers, List.length_append, List.length_cons] at enough
      obtain ⟨fuel, rfl⟩ := Nat.exists_eq_add_of_le' (show 1 ≤ fuel by omega)
      have read := first ('\x7d' :: rest) (Ended.brace rest)
      rw [writeMembers, List.append_assoc, writeString_append, readMembers, skipBlanks_cons (by decide)]
      simp only [readString_flatMap, bind, Except.bind, List.cons_append, read,
        skipBlanks_cons (c := '\x7d') (by decide)]
      rfl
    | cons next others =>
      simp only [writeMembers, List.length_append, List.length_cons] at enough
      obtain ⟨fuel, rfl⟩ := Nat.exists_eq_add_of_le' (show 1 ≤ fuel by omega)
      have read := first (',' :: (writeMembers (next :: others) ++ '\x7d' :: rest)) (Ended.comma _)
      have later := ih (List.cons_ne_nil _ _)
        (fun name value member => notes name value (List.mem_cons_of_mem _ member)) distinct' fuel
        (by omega)
      rw [writeMembers]
      simp only [List.append_assoc, List.cons_append]
      rw [writeString_append, readMembers, skipBlanks_cons (by decide)]
      simp only [readString_flatMap, bind, Except.bind, read, skipBlanks_cons (c := ',') (by decide)]
      rw [later]
      simp

theorem parse_writeFields {members : List (String × Json)} (some : members ≠ [])
    (notes : shape.Notes noted members) (distinct : (members.map Prod.fst).Nodup)
    (complete : shape.isComplete (noted (members.map Prod.fst).reverse) = true) :
    shape.parse (noted []) (String.ofList (writeFields members)) =
      .ok (noted (members.map Prod.fst).reverse) := by
  have names : ((members.map Prod.fst).reverse ++ []).Nodup := by
    rw [List.append_nil]
    exact (List.reverse_perm _).nodup_iff.mpr distinct
  have read := readMembers_writeMembers some notes names (readFuel (writeMembers members ++ ['\x7d']))
    [] (by simp only [readFuel, List.length_append]; omega)
  rw [List.append_nil] at read
  have closed : shape.close '\x7d' (noted (members.map Prod.fst).reverse) ['\x7d'] =
      .ok (noted (members.map Prod.fst).reverse, []) := by
    rw [close, if_pos complete, skipBlanks_cons (by decide)]
    rfl
  obtain ⟨cs, text⟩ : ∃ cs, writeMembers members ++ ['\x7d'] = '"' :: cs := by
    cases members with
    | nil => contradiction
    | cons member others =>
      cases others with
      | nil => exact ⟨_, rfl⟩
      | cons next others => exact ⟨_, rfl⟩
  rw [text] at read
  rw [parse, String.toList_ofList, writeFields, List.cons_append, text, Shape.read,
    skipBlanks_cons (by decide)]
  simp only [skipBlanks_cons (c := '"') (by decide)]
  simp only [read, bind, Except.bind, closed]
  rfl

end Shape

end FeedMonitor.Json
