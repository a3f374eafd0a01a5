import Mathlib.Tactic.Common
import Mathlib.Data.List.Basic

/-!
# Percent coding

A text in which `%` and two hexadecimal digits stand for a byte. Decoding keeps
every other character, as its bytes in UTF-8, and has a result where the bytes
are UTF-8.
-/

namespace Percent

/-- The value of a hexadecimal digit, in either case. -/
def hexValue (c : Char) : Option Nat :=
  if '0' ≤ c ∧ c ≤ '9' then some (c.toNat - 48)
  else if 'a' ≤ c ∧ c ≤ 'f' then some (c.toNat - 87)
  else if 'A' ≤ c ∧ c ≤ 'F' then some (c.toNat - 55)
  else none

/-- The byte of two hexadecimal digits. -/
def hexByte (hi lo : Char) : Option UInt8 :=
  match hexValue hi, hexValue lo with
  | some hi, some lo => some (UInt8.ofNat (16 * hi + lo))
  | _, _ => none

/-- A `%` that no two digits follow stands for itself. -/
def decodeBytes : List Char → List UInt8
  | '%' :: hi :: lo :: rest =>
    match hexByte hi lo with
    | some byte => byte :: decodeBytes rest
    | none => String.utf8EncodeChar '%' ++ decodeBytes (hi :: lo :: rest)
  | c :: rest => String.utf8EncodeChar c ++ decodeBytes rest
  | [] => []

def decode (text : String) : Option String :=
  String.fromUTF8? (decodeBytes text.toList).toByteArray

def encodeByte (byte : UInt8) : List Char :=
  ['%', Nat.digitChar (byte.toNat / 16), Nat.digitChar (byte.toNat % 16)]

/-- Every byte of the text as two digits. -/
def encode (text : String) : String :=
  String.ofList ((text.toList.flatMap String.utf8EncodeChar).flatMap encodeByte)

theorem decodeBytes_nil : decodeBytes [] = [] := rfl

theorem hexValue_digitChar {n : Nat} (h : n < 16) : hexValue (Nat.digitChar n) = some n := by
  have hall : ∀ m < 16, hexValue (Nat.digitChar m) = some m := by decide
  exact hall n h

theorem hexByte_digitChar (byte : UInt8) :
    hexByte (Nat.digitChar (byte.toNat / 16)) (Nat.digitChar (byte.toNat % 16)) = some byte := by
  have hlt : byte.toNat < 256 := byte.toNat_lt
  have hhi : byte.toNat / 16 < 16 := by omega
  have hlo : byte.toNat % 16 < 16 := by omega
  have hsum : 16 * (byte.toNat / 16) + byte.toNat % 16 = byte.toNat := by omega
  simp only [hexByte, hexValue_digitChar hhi, hexValue_digitChar hlo, hsum, UInt8.ofNat_toNat]

theorem decodeBytes_encodeByte_append (byte : UInt8) (rest : List Char) :
    decodeBytes (encodeByte byte ++ rest) = byte :: decodeBytes rest := by
  show decodeBytes ('%' :: _ :: _ :: rest) = _
  rw [decodeBytes, hexByte_digitChar]

theorem decodeBytes_flatMap (bytes : List UInt8) (rest : List Char) :
    decodeBytes (bytes.flatMap encodeByte ++ rest) = bytes ++ decodeBytes rest := by
  induction bytes with
  | nil => rfl
  | cons byte bytes ih =>
    rw [List.flatMap_cons, List.append_assoc, decodeBytes_encodeByte_append, ih, List.cons_append]

/-- Any other character is kept. -/
theorem decodeBytes_cons {c : Char} (h : c ≠ '%') (rest : List Char) :
    decodeBytes (c :: rest) = String.utf8EncodeChar c ++ decodeBytes rest := by
  rw [decodeBytes]
  intro hi lo rest' heq
  exact absurd heq h

theorem decodeBytes_append {front : List Char} (h : '%' ∉ front) (rest : List Char) :
    decodeBytes (front ++ rest) = front.flatMap String.utf8EncodeChar ++ decodeBytes rest := by
  induction front with
  | nil => rfl
  | cons c front ih =>
    rw [List.mem_cons, not_or] at h
    obtain ⟨hc, hfront⟩ := h
    rw [List.cons_append, decodeBytes_cons (Ne.symm hc), ih hfront, List.flatMap_cons,
      List.append_assoc]

theorem fromUTF8?_toByteArray (text : String) : String.fromUTF8? text.toByteArray = some text := by
  show (if h : text.toByteArray.IsValidUTF8 then some (String.fromUTF8 _ h) else none) = some text
  rw [dif_pos text.isValidUTF8]
  rfl

/-- An encoded text is decoded to itself, behind any text that has no `%`. -/
theorem decode_append_encode {front : String} (h : '%' ∉ front.toList) (text : String) :
    decode (front ++ encode text) = some (front ++ text) := by
  have hbytes : decodeBytes (front ++ encode text).toList =
      (front ++ text).toList.flatMap String.utf8EncodeChar := by
    have hencoded := decodeBytes_flatMap (text.toList.flatMap String.utf8EncodeChar) []
    rw [decodeBytes_nil, List.append_nil, List.append_nil] at hencoded
    rw [String.toList_append, encode, String.toList_ofList, decodeBytes_append h, hencoded,
      String.toList_append, List.flatMap_append]
  have hutf8 : ((front ++ text).toList.flatMap String.utf8EncodeChar).toByteArray =
      (front ++ text).toByteArray := String.utf8Encode_toList
  rw [decode, hbytes, hutf8, fromUTF8?_toByteArray]

end Percent
