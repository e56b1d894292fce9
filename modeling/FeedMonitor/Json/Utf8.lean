import FeedMonitor.Json.Reader

/-!
JSON text as bytes.

A byte that belongs to no character spoils a string that is read and does no harm in one that is
skipped. Half of a surrogate pair is of the same kind, so it stands for such a byte in the text.

Main statement: text that was encoded is decoded again.
-/

namespace FeedMonitor.Json.Utf8

def encode (cs : List Char) : List UInt8 := cs.flatMap String.utf8EncodeChar

/-- The character that some bytes begin with. It has four bytes at most. -/
def head? (bytes : List UInt8) : Option Char :=
  ByteArray.utf8DecodeChar? (bytes.take 4).toByteArray 0

/-- What stands for a byte outside of characters. The sign in front takes an escape that the byte
would end. -/
def stray : List Char := '\ufffd' :: ['\\', 'u', 'd', 'c', '0', '0']

/-- The text of what follows the next `skip` bytes. -/
def decodeAfter (skip : Nat) : List UInt8 → List Char
  | [] => []
  | byte :: rest =>
    match skip with
    | skip + 1 => decodeAfter skip rest
    | 0 =>
      match head? (byte :: rest) with
      | some c => c :: decodeAfter (c.utf8Size - 1) rest
      | none => stray ++ decodeAfter 0 rest

def decode (bytes : List UInt8) : List Char := decodeAfter 0 bytes

theorem head?_encodeChar (c : Char) (rest : List UInt8) :
    head? (String.utf8EncodeChar c ++ rest) = some c := by
  have whole : (String.utf8EncodeChar c).take 4 = String.utf8EncodeChar c :=
    List.take_of_length_le (by rw [String.length_utf8EncodeChar]; exact c.utf8Size_le_four)
  rw [head?, List.take_append, whole, List.toByteArray_append]
  exact ByteArray.utf8DecodeChar?_utf8EncodeChar_append

theorem decodeAfter_append (skipped rest : List UInt8) :
    decodeAfter skipped.length (skipped ++ rest) = decode rest := by
  induction skipped with
  | nil => rfl
  | cons byte skipped ih => exact ih

theorem decode_encode (cs : List Char) : decode (encode cs) = cs := by
  induction cs with
  | nil => rfl
  | cons c cs ih =>
    have first := head?_encodeChar c (encode cs)
    have size := String.length_utf8EncodeChar c
    have text : encode (c :: cs) = String.utf8EncodeChar c ++ encode cs := List.flatMap_cons
    rw [text]
    cases bytes : String.utf8EncodeChar c with
    | nil => exact absurd bytes String.utf8EncodeChar_ne_nil
    | cons byte more =>
      rw [bytes] at first size
      have count : c.utf8Size - 1 = more.length := by
        rw [← size, List.length_cons, Nat.add_sub_cancel]
      rw [List.cons_append] at first ⊢
      simp only [decode, decodeAfter, first]
      rw [count, decodeAfter_append, ih]

end FeedMonitor.Json.Utf8
