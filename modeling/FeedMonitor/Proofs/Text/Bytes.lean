import Mathlib.Data.List.Lex

/-!
The bytes of a text: one character after the other, and in the order of the texts.
-/

namespace FeedMonitor.Text

theorem toList_loop (bytes : ByteArray) (start : Nat) (read : List UInt8) :
    ByteArray.toList.loop bytes start read = read.reverse ++ bytes.data.toList.drop start := by
  induction start, read using ByteArray.toList.loop.induct bytes with
  | case1 start read inside ih =>
    have bound : start < bytes.data.toList.length := by simpa using inside
    have byte : bytes.get! start = bytes.data.toList[start] := by
      simp only [ByteArray.get!, Array.getElem_toList]
      exact getElem!_pos bytes.data start inside
    rw [ByteArray.toList.loop, if_pos inside, ih, List.drop_eq_getElem_cons bound, byte]
    simp
  | case2 start read outside =>
    have bound : bytes.data.toList.length ≤ start := by simpa using outside
    rw [ByteArray.toList.loop, if_neg outside, List.drop_of_length_le bound, List.append_nil]

theorem toList_toUTF8 (s : String) : s.toUTF8.toList = s.toList.flatMap String.utf8EncodeChar := by
  have bytes : s.toUTF8 = (s.toList.flatMap String.utf8EncodeChar).toByteArray := by
    conv => lhs; rw [← String.ofList_toList (s := s)]
    exact String.toByteArray_ofList
  rw [ByteArray.toList, toList_loop, bytes, List.toList_data_toByteArray]
  rfl

theorem encodeChar_of_lt {c : Char} (ascii : c.toNat < 0x80) :
    String.utf8EncodeChar c = [UInt8.ofNat c.toNat] := by
  have small : c.val.toNat ≤ 127 := Nat.le_of_lt_succ ascii
  simp only [String.utf8EncodeChar, if_pos small]
  rfl

/-- The bytes of the lesser character are less, whatever follows them. -/
theorem encodeChar_lt {c d : Char} (below : c < d) (rest others : List UInt8) :
    String.utf8EncodeChar c ++ rest < String.utf8EncodeChar d ++ others := by
  have codes : c.val.toNat < d.val.toNat := below
  have most : d.val.toNat < 0x110000 := by
    have valid := d.valid
    simp only [UInt32.isValidChar, Nat.isValidChar] at valid
    omega
  simp only [String.utf8EncodeChar]
  -- A longer code has a greater first byte; two of one length differ first where the codes do.
  split_ifs <;>
    simp only [List.cons_append, List.nil_append, List.cons_lt_cons_iff, UInt8.lt_iff_toNat_lt,
      ← UInt8.toNat_inj, UInt8.toNat_ofNat']
  all_goals
    simp (disch := omega) only [Nat.mod_eq_of_lt]
    omega

theorem encode_lt {cs ds : List Char} (below : cs < ds) :
    cs.flatMap String.utf8EncodeChar < ds.flatMap String.utf8EncodeChar := by
  induction cs generalizing ds with
  | nil =>
    cases ds with
    | nil => exact absurd below (List.lt_irrefl _)
    | cons d ds =>
      rw [List.flatMap_nil, List.flatMap_cons]
      cases bytes : String.utf8EncodeChar d with
      | nil => exact absurd bytes String.utf8EncodeChar_ne_nil
      | cons byte more => exact List.nil_lt_cons _ _
  | cons c cs ih =>
    cases ds with
    | nil => exact absurd below (List.not_lt_nil _)
    | cons d ds =>
      rw [List.flatMap_cons, List.flatMap_cons]
      rcases List.cons_lt_cons_iff.mp below with first | ⟨rfl, rest⟩
      · exact encodeChar_lt first _ _
      · exact List.append_left_lt (ih rest)

/-- Texts are in the order of their bytes. -/
theorem toUTF8_lt {s t : String} (below : s < t) : s.toUTF8.toList < t.toUTF8.toList := by
  rw [toList_toUTF8, toList_toUTF8]
  exact encode_lt (String.lt_iff.mp below)

end FeedMonitor.Text
