import FeedMonitor.Proofs.Text.Bytes
import FeedMonitor.Web.Host

/-!
No host of a special scheme is written with a control character or a space: neither an address in
brackets, nor a name in whatever spelling.
-/

namespace FeedMonitor

theorem exists_of_mapM {α β : Type} {f : α → Option β} {items : List α} {results : List β} {a : α}
    (mapped : items.mapM f = some results) (member : a ∈ items) :
    ∃ b, f a = some b ∧ b ∈ results := by
  induction items generalizing results with
  | nil => exact absurd member List.not_mem_nil
  | cons item rest ih =>
    rw [List.mapM_cons] at mapped
    obtain ⟨b, image, mapped⟩ := Option.bind_eq_some_iff.mp mapped
    obtain ⟨others, more, mapped⟩ := Option.bind_eq_some_iff.mp mapped
    obtain rfl := Option.some.inj mapped
    rcases List.mem_cons.mp member with rfl | behind
    · exact ⟨b, image, List.mem_cons_self⟩
    · obtain ⟨other, image, among⟩ := ih more behind
      exact ⟨other, image, List.mem_cons_of_mem _ among⟩

theorem Text.exists_splitOn {separator c : Char} {cs : List Char} (member : c ∈ cs)
    (other : c ≠ separator) : ∃ part ∈ splitOn separator cs, c ∈ part := by
  induction cs with
  | nil => exact absurd member List.not_mem_nil
  | cons d rest ih =>
    simp only [splitOn]
    split
    · rename_i same
      rcases List.mem_cons.mp member with rfl | behind
      · exact absurd same other
      · obtain ⟨part, among, inside⟩ := ih behind
        exact ⟨part, List.mem_cons_of_mem _ among, inside⟩
    · split
      · rename_i nothing
        exact absurd nothing (splitOn_ne_nil separator rest)
      · rename_i first parts split
        rcases List.mem_cons.mp member with rfl | behind
        · exact ⟨c :: first, List.mem_cons_self, List.mem_cons_self⟩
        · obtain ⟨part, among, inside⟩ := ih behind
          rw [split] at among
          rcases List.mem_cons.mp among with rfl | later
          · exact ⟨d :: part, List.mem_cons_self, List.mem_cons_of_mem _ inside⟩
          · exact ⟨part, List.mem_cons_of_mem _ later, inside⟩

/-- A text without the separator, or one that ends in what comes after the last of them. -/
theorem Text.split_last (separator : Char) (cs : List Char) :
    let after := (cs.reverse.takeWhile (· != separator)).reverse
    cs = after ∨ cs = cs.take (cs.length - after.length - 1) ++ separator :: after := by
  intro after
  have whole : cs = (cs.reverse.dropWhile (· != separator)).reverse ++ after := by
    rw [← List.reverse_append, List.takeWhile_append_dropWhile, List.reverse_reverse]
  have stopped := List.head?_dropWhile_not (· != separator) cs.reverse
  cases dropped : cs.reverse.dropWhile (· != separator) with
  | nil =>
    rw [dropped] at whole
    exact Or.inl whole
  | cons d rest =>
    rw [dropped] at stopped whole
    obtain rfl : d = separator := by simpa using stopped
    rw [List.reverse_cons, List.append_assoc] at whole
    have count : cs.length - after.length - 1 = rest.reverse.length := by
      have total := congrArg List.length whole
      simp only [List.length_append, List.length_cons, List.length_nil] at total
      omega
    have front : cs.take rest.reverse.length = rest.reverse := by
      rw [whole, List.take_left]
    rw [count, front]
    exact Or.inr whole

namespace Web

/-- A control character or a space. -/
def Control (c : Char) : Prop := c.toNat ≤ 0x20

instance (c : Char) : Decidable (Control c) := inferInstanceAs (Decidable (c.toNat ≤ 0x20))

variable {c : Char} {cs : List Char}

theorem Control.ne (control : Control c) {d : Char} (above : 0x20 < d.toNat) : c ≠ d := by
  rintro rfl
  exact Nat.not_lt_of_le control above

/-- What holds of every control character, tried one after the other. -/
theorem Control.each {P : Char → Prop} (control : Control c)
    (all : ∀ code ≤ 0x20, P (Char.ofNat code)) : P c :=
  Char.ofNat_toNat c ▸ all c.toNat control

theorem Control.not_isDigit (control : Control c) : c.isDigit = false :=
  control.each (P := fun c => c.isDigit = false) (by decide)

theorem Control.hexValue?_eq_none (control : Control c) : Text.hexValue? c = none :=
  control.each (P := fun c => Text.hexValue? c = none) (by decide)

theorem Control.digitValue?_eq_none (control : Control c) : Punycode.digitValue? c = none :=
  control.each (P := fun c => Punycode.digitValue? c = none) (by decide)

/-- Its byte stands among the bytes of a text that has a control character. -/
theorem Control.mem_percentDecode (control : Control c) (member : c ∈ cs) :
    UInt8.ofNat c.toNat ∈ percentDecode cs := by
  have percent : c ≠ '%' := control.ne (by decide)
  have code : String.utf8EncodeChar c = [UInt8.ofNat c.toNat] :=
    Text.encodeChar_of_lt (Nat.lt_of_le_of_lt control (by decide))
  induction cs using percentDecode.induct with
  | case1 => exact absurd member List.not_mem_nil
  | case2 a b rest high low second first ih =>
    simp only [percentDecode, first, second]
    rcases List.mem_cons.mp member with same | behind
    · exact absurd same percent
    · rcases List.mem_cons.mp behind with rfl | behind
      · rw [control.hexValue?_eq_none] at first
        contradiction
      · rcases List.mem_cons.mp behind with rfl | behind
        · rw [control.hexValue?_eq_none] at second
          contradiction
        · exact List.mem_cons_of_mem _ (ih behind)
  | case3 a b rest plain ih =>
    rw [percentDecode.eq_2]
    split
    · rename_i high low first second
      exact absurd second (plain high low first)
    · rcases List.mem_cons.mp member with same | behind
      · exact absurd same percent
      · exact List.mem_cons_of_mem _ (ih behind)
  | case4 d rest other ih =>
    rw [percentDecode.eq_3 d rest other]
    rcases List.mem_cons.mp member with rfl | behind
    · rw [code]
      exact List.mem_append_left _ List.mem_cons_self
    · exact List.mem_append_right _ (ih behind)

/-- Only a character of ASCII is written with a byte of ASCII. -/
theorem eq_of_mem_encodeChar {d : Char} {byte : UInt8} (member : byte ∈ String.utf8EncodeChar d)
    (ascii : byte.toNat < 0x80) : d.toNat = byte.toNat := by
  simp only [String.utf8EncodeChar] at member
  split_ifs at member <;>
    simp only [List.mem_cons, List.not_mem_nil, or_false, ← UInt8.toNat_inj,
      UInt8.toNat_ofNat'] at member
  all_goals
    simp only [Char.toNat]
    omega

theorem Control.mem_of_fromUTF8? (control : Control c) {bytes : List UInt8} {text : String}
    (read : String.fromUTF8? ⟨bytes.toArray⟩ = some text) (member : UInt8.ofNat c.toNat ∈ bytes) :
    c ∈ text.toList := by
  have small : c.toNat < 0x80 := Nat.lt_of_le_of_lt control (by decide)
  have code : (UInt8.ofNat c.toNat).toNat = c.toNat :=
    UInt8.toNat_ofNat_of_lt' (Nat.lt_trans small (by decide))
  have same : text.toUTF8 = ⟨bytes.toArray⟩ := by
    simp only [String.fromUTF8?] at read
    split at read
    · exact Option.some.inj read ▸ rfl
    · contradiction
  have listed : text.toUTF8.toList = bytes := by
    rw [same, ByteArray.toList, Text.toList_loop]
    rfl
  rw [← listed, Text.toList_toUTF8] at member
  obtain ⟨d, among, written⟩ := List.mem_flatMap.mp member
  have equal : d.toNat = c.toNat :=
    (eq_of_mem_encodeChar written (code.trans_lt small)).trans code
  exact Char.toNat_inj.mp equal ▸ among

/-! ### Labels in another spelling -/

namespace Punycode

variable {state : State} {code : Nat}

theorem State.mem_digit (held : code ∈ state.codes) (value : Nat) :
    code ∈ (state.digit value).codes := by
  simp only [State.digit]
  split
  · simp only [put]
    rw [← List.take_append_drop ((state.position + (state.number + value * state.weight)) %
      (state.codes.length + 1)) state.codes] at held
    rcases List.mem_append.mp held with front | back
    · exact List.mem_append_left _ front
    · exact List.mem_append_right _ (List.mem_cons_of_mem _ back)
  · exact held

/-- What is put in leaves all characters there are. -/
theorem mem_decodeDigits {codes : List Nat} (held : code ∈ state.codes)
    (decoded : decodeDigits state cs = some codes) : code ∈ codes := by
  induction cs generalizing state with
  | nil =>
    simp only [decodeDigits] at decoded
    split at decoded
    · exact Option.some.inj decoded ▸ held
    · contradiction
  | cons c rest ih =>
    simp only [decodeDigits] at decoded
    split at decoded
    · exact ih (State.mem_digit held _) decoded
    · contradiction

theorem decodeDigits_eq_none (member : c ∈ cs) (other : digitValue? c = none) (state : State) :
    decodeDigits state cs = none := by
  induction cs generalizing state with
  | nil => contradiction
  | cons d rest ih =>
    simp only [decodeDigits]
    rcases List.mem_cons.mp member with rfl | behind
    · rw [other]
    · split
      · exact ih behind _
      · rfl

theorem toChar?_toNat (c : Char) : toChar? c.toNat = some c := by
  have valid : c.toNat.isValidChar := c.valid
  rw [toChar?, dif_pos valid]
  rfl

/-- A character that is no digit and no hyphen stands for itself. -/
theorem mem_decode? {decoded : List Char} (member : c ∈ cs) (other : digitValue? c = none)
    (hyphen : c ≠ '-') (read : decode? cs = some decoded) : c ∈ decoded := by
  obtain ⟨codes, numbers, chars⟩ := Option.bind_eq_some_iff.mp read
  -- The code of the character is among those that the digits start with, so it is there at the end.
  have held : c.toNat ∈ codes := by
    split at numbers
    · rw [decodeDigits_eq_none member other] at numbers
      contradiction
    · rcases Text.split_last '-' cs with same | split
      · rw [same] at member
        rw [decodeDigits_eq_none member other] at numbers
        contradiction
      · rw [split] at member
        rcases List.mem_append.mp member with before | behind
        · exact mem_decodeDigits (List.mem_map_of_mem before) numbers
        · rw [decodeDigits_eq_none ((List.mem_cons.mp behind).resolve_left hyphen) other] at numbers
          contradiction
  obtain ⟨d, image, among⟩ := exists_of_mapM chars held
  rw [toChar?_toNat] at image
  exact Option.some.inj image ▸ among

end Punycode

/-! ### Composed texts -/

namespace Composition

variable {code : Nat}

/-- A code point that is no part of another one. -/
def Single (code : Nat) : Prop :=
  halves? code = none ∧ (∀ second, whole? code second = none) ∧ ∀ first, whole? first code = none

theorem single_of_lt (below : code < 0x3c) : Single code := by
  refine ⟨?_, fun second => ?_, fun first => ?_⟩
  · rw [halves?, if_pos (by omega)]
  · rw [whole?, if_pos (by simp [below])]
  · have small : code < 0x300 := by omega
    rw [whole?, if_pos (by simp [small])]

theorem Single.parts_eq (single : Single code) : parts code = [code] := by
  simp only [parts, partsWithin, single.1]

theorem mem_put {reversed : List Nat} {other : Nat} :
    code ∈ put reversed other ↔ code = other ∨ code ∈ reversed := by
  induction reversed with
  | nil => simp [put]
  | cons last rest ih =>
    simp only [put]
    split
    · rw [List.mem_cons, ih, List.mem_cons]
      exact or_left_comm
    · rw [List.mem_cons]

theorem mem_foldl_put {codes reversed : List Nat} (member : code ∈ codes ∨ code ∈ reversed) :
    code ∈ codes.foldl put reversed := by
  induction codes generalizing reversed with
  | nil => exact member.resolve_left List.not_mem_nil
  | cons first rest ih =>
    rw [List.foldl_cons]
    apply ih
    rw [mem_put]
    rcases member with member | held
    · rcases List.mem_cons.mp member with same | behind
      · exact .inr (.inl same)
      · exact .inl behind
    · exact .inr (.inr held)

theorem mem_joinFrom (single : Single code) {base : Nat} {marks codes : List Nat}
    (member : code = base ∨ code ∈ marks ∨ code ∈ codes) : code ∈ joinFrom base marks codes := by
  -- A character is lost only to a whole, of which a single one is no half.
  induction codes generalizing base marks with
  | nil => simpa [joinFrom] using member
  | cons next rest ih =>
    simp only [joinFrom]
    split
    · rename_i whole formed
      have taken : whole? base next = some whole := by
        split at formed
        · exact formed
        · contradiction
      refine ih ?_
      rcases member with rfl | held | member
      · rw [single.2.1 next] at taken
        contradiction
      · exact .inr (.inl held)
      · rcases List.mem_cons.mp member with rfl | behind
        · rw [single.2.2 base] at taken
          contradiction
        · exact .inr (.inr behind)
    · split
      · rw [List.cons_append, List.mem_cons, List.mem_append, List.mem_reverse]
        rcases member with same | held | member
        · exact .inl same
        · exact .inr (.inl held)
        · rcases List.mem_cons.mp member with same | behind
          · exact .inr (.inr (ih (.inl same)))
          · exact .inr (.inr (ih (.inr (.inr behind))))
      · refine ih ?_
        rw [List.mem_cons] at member ⊢
        tauto

theorem mem_join (single : Single code) {codes : List Nat} (member : code ∈ codes) :
    code ∈ join codes := by
  induction codes with
  | nil => contradiction
  | cons first rest ih =>
    simp only [join]
    split
    · rcases List.mem_cons.mp member with same | behind
      · exact mem_joinFrom single (.inl same)
      · exact mem_joinFrom single (.inr (.inr behind))
    · rcases List.mem_cons.mp member with same | behind
      · exact same ▸ List.mem_cons_self
      · exact List.mem_cons_of_mem _ (ih behind)

theorem mem_compose (single : Single c.toNat) (member : c ∈ cs) : c ∈ compose cs := by
  have part : c.toNat ∈ cs.flatMap fun d => parts d.toNat :=
    List.mem_flatMap.mpr ⟨c, member, by simp [single.parts_eq]⟩
  have ordered : c.toNat ∈ ((cs.flatMap fun d => parts d.toNat).foldl put []).reverse :=
    List.mem_reverse.mpr (mem_foldl_put (.inl part))
  have joined := mem_join single ordered
  exact List.mem_map.mpr ⟨c.toNat, joined, Char.ofNat_toNat c⟩

end Composition

/-! ### Hosts -/

namespace Domain

theorem forms_control (control : Control c) : forms c = [c] := by
  have ascii : c.toNat < 0x80 := Nat.lt_of_le_of_lt control (by decide)
  have small : c.toLower = c := control.each (P := fun c => c.toLower = c) (by decide)
  rw [forms, if_pos ascii, small]

theorem isLabel_eq_false {label : List Char} (control : Control c) (member : c ∈ label) :
    isLabel label = false := by
  have forbidden : label.any isForbidden = true := by
    refine List.any_eq_true.mpr ⟨c, member, ?_⟩
    simp only [isForbidden, decide_eq_true (show c.toNat ≤ 0x20 from control), Bool.true_or]
  rw [isLabel, forbidden, Bool.not_true, Bool.and_false]

/-- A label spells its control characters in either spelling. -/
theorem mem_spelled? {label spelled : List Char} (control : Control c) (member : c ∈ label)
    (read : spelled? label = some spelled) : c ∈ spelled := by
  simp only [spelled?] at read
  split at read
  · rename_i encoded
    split at read
    · rename_i decoded number
      split at read
      · contradiction
      · obtain rfl := Option.some.inj read
        obtain ⟨rest, whole⟩ := List.isPrefixOf_iff_prefix.mp encoded
        rw [← whole, List.drop_left] at number
        rw [← whole] at member
        rcases List.mem_append.mp member with start | behind
        · have above : ∀ d ∈ encodedStart, 0x20 < d.toNat := by simp [encodedStart]
          exact absurd rfl (control.ne (above c start))
        · exact Punycode.mem_decode? behind control.digitValue?_eq_none (control.ne (by decide))
            number
    · contradiction
  · exact Option.some.inj read ▸ member

theorem areLabels_eq_false {labels : List (List Char)} {label : List Char} (control : Control c)
    (among : label ∈ labels) (member : c ∈ label) : areLabels labels = false := by
  simp only [areLabels]
  split
  · rfl
  · rename_i spelled all
    obtain ⟨other, read, inside⟩ := exists_of_mapM all among
    have bad := isLabel_eq_false control (mem_spelled? control member read)
    have some : spelled.all isLabel = false := by
      rw [List.all_eq_false]
      exact ⟨other, inside, Bool.not_eq_true _ ▸ bad⟩
    rw [some, Bool.false_and]

theorem parse?_eq_none (control : Control c) (member : c ∈ cs) : parse? cs = none := by
  have form : c ∈ cs.flatMap forms :=
    List.mem_flatMap.mpr ⟨c, member, forms_control control ▸ List.mem_singleton_self c⟩
  have formed : c ∈ Composition.compose (cs.flatMap forms) :=
    Composition.mem_compose (Composition.single_of_lt (Nat.lt_of_le_of_lt control (by decide))) form
  obtain ⟨label, among, inside⟩ := Text.exists_splitOn formed (control.ne (d := '.') (by decide))
  simp only [parse?, areLabels_eq_false control among inside, Bool.false_eq_true, if_false,
    ite_self]

theorem ofBytes?_eq_none {bytes : List UInt8} (control : Control c)
    (member : UInt8.ofNat c.toNat ∈ bytes) : ofBytes? bytes = none := by
  rw [ofBytes?, Option.bind_eq_none_iff]
  intro text read
  exact parse?_eq_none control (control.mem_of_fromUTF8? read member)

end Domain

/-- A host of a special scheme does not end in a control character or a space. -/
theorem Host.parse_control (control : Control c) (cs : List Char) :
    ∃ fault, Host.parse (cs ++ [c]) = .error fault := by
  rw [Host.parse]
  split
  · refine ⟨.invalidIpv6, ?_⟩
    have last : (cs ++ [c]).getLast? ≠ some ']' := by
      rw [List.getLast?_concat]
      exact fun same => control.ne (by decide) (Option.some.inj same)
    rw [parseBracketed]
    split
    · rename_i bracket _
      exact absurd bracket last
    · rfl
  · have bytes := control.mem_percentDecode (List.mem_append_right cs (List.mem_singleton_self c))
    rw [Domain.ofBytes?_eq_none control bytes]
    exact ⟨_, rfl⟩

end Web

end FeedMonitor
