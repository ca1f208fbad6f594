import Mathlib.Data.Bool.Basic
import EntityGraph.Database.Bytes

/-!
# Text survives the store

The store keeps text as the UTF-8 bytes it was given (`Bytes.ofString`) and a reply decodes
bytes with each ill-formed sequence replaced (`Bytes.lossy`). The bytes of a string are always
well formed, so the replacement never happens to them: decoding gives the string back
(`Bytes.lossy_ofString`), character by character (`Bytes.lossyChars_utf8EncodeChar`). The same
bytes read as a document's UTF-8 text decode to the string too (`Bytes.fromUTF8_ofString`).
-/

namespace EntityGraph

namespace Database

namespace Bytes

/-! ## The bytes of a string -/

theorem toList_loop (bs : ByteArray) (i : Nat) (r : List UInt8) :
    ByteArray.toList.loop bs i r = r.reverse ++ bs.data.toList.drop i := by
  fun_induction ByteArray.toList.loop bs i r with
  | case1 i r hi ih =>
    have hlt : i < bs.data.toList.length := by simpa using hi
    rw [ih, List.drop_eq_getElem_cons hlt]
    simp [ByteArray.get!, hi]
  | case2 i r hi =>
    rw [List.drop_eq_nil_of_le (by simpa using Nat.le_of_not_lt hi)]
    simp

theorem byteArray_toList (bs : ByteArray) : bs.toList = bs.data.toList := by
  simp [ByteArray.toList, toList_loop]

/-- The bytes of a string are the encodings of its characters, one after another. -/
theorem ofString_eq (s : String) : ofString s = s.toList.flatMap String.utf8EncodeChar := by
  rw [ofString, String.toUTF8, ← String.utf8Encode_toList, List.utf8Encode, byteArray_toList,
    List.data_toByteArray, List.toList_toArray]

/-! ## Decoding one character -/

theorem lossyChars_cons_ascii (b : UInt8) (rest : Bytes) (hb : b.toNat < 0x80) :
    lossyChars (b :: rest) = Char.ofNat b.toNat :: lossyChars rest := by
  rw [lossyChars, if_pos hb]

/-- A well-formed sequence at the front decodes to one character. -/
theorem lossyChars_sequence_append (b : UInt8) (tail rest : Bytes) (hb : ¬ b.toNat < 0x80)
    (hk : sequenceAt b (tail ++ rest) = .inr (tail.length + 1)) :
    lossyChars (b :: (tail ++ rest)) = Char.ofNat (decodeSequence (b :: tail)) :: lossyChars rest := by
  rw [lossyChars, if_neg hb]
  simp only [hk, Nat.add_sub_cancel, List.take_left', List.drop_left']

/-- The scalar value of a character lies outside the surrogates and below `0x110000`. -/
theorem char_toNat_valid (c : Char) : c.toNat < 0xd800 ∨ (0xdfff < c.toNat ∧ c.toNat < 0x110000) :=
  c.valid

theorem cons_ofNat_eq {n : Nat} {c : Char} (l : List Char) (h : n = c.toNat) :
    Char.ofNat n :: l = c :: l := by
  rw [h, Char.ofNat_toNat]

/-- The encoding of a character decodes to that character, whatever follows it. -/
theorem lossyChars_utf8EncodeChar (c : Char) (rest : Bytes) :
    lossyChars (String.utf8EncodeChar c ++ rest) = c :: lossyChars rest := by
  have hValid := char_toNat_valid c
  have hv : c.val.toNat = c.toNat := rfl
  unfold String.utf8EncodeChar
  simp only [hv]
  -- one case for each length of the encoding; the surrogates that a character cannot be are
  -- what keep the second byte of a sequence led by `0xED` within `0x80` to `0x9F`
  split
  · rw [List.singleton_append, lossyChars_cons_ascii _ _ (by simp; omega)]
    simp only [UInt8.toNat_ofNat']
    rw [Nat.mod_eq_of_lt (by omega), Char.ofNat_toNat]
  split
  · rw [List.cons_append, lossyChars_sequence_append _ _ _ (by simp; omega)]
    · refine cons_ofNat_eq _ ?_
      simp (disch := omega) only [decodeSequence, UInt8.toNat_ofNat', Nat.mod_eq_of_lt]
      omega
    · simp (disch := omega) only [sequenceAt, isContinuation, within, UInt8.toNat_ofNat',
        Nat.mod_eq_of_lt, List.cons_append, List.nil_append, List.getD_cons_zero, List.length_cons,
        List.length_nil]
      grind
  split
  · rw [List.cons_append, lossyChars_sequence_append _ _ _ (by simp; omega)]
    · refine cons_ofNat_eq _ ?_
      simp (disch := omega) only [decodeSequence, UInt8.toNat_ofNat', Nat.mod_eq_of_lt]
      omega
    · simp (disch := omega) only [sequenceAt, isContinuation, within, UInt8.toNat_ofNat',
        Nat.mod_eq_of_lt, List.cons_append, List.nil_append, List.getD_cons_zero,
        List.getD_cons_succ, List.length_cons, List.length_nil]
      grind
  · rw [List.cons_append, lossyChars_sequence_append _ _ _ (by simp; omega)]
    · refine cons_ofNat_eq _ ?_
      simp (disch := omega) only [decodeSequence, UInt8.toNat_ofNat', Nat.mod_eq_of_lt]
      omega
    · simp (disch := omega) only [sequenceAt, isContinuation, within, UInt8.toNat_ofNat',
        Nat.mod_eq_of_lt, List.cons_append, List.nil_append, List.getD_cons_zero,
        List.getD_cons_succ, List.length_cons, List.length_nil]
      grind

/-! ## Decoding a whole string -/

theorem lossyChars_flatMap (cs : List Char) :
    lossyChars (cs.flatMap String.utf8EncodeChar) = cs := by
  induction cs with
  | nil => simp [lossyChars]
  | cons c cs ih => rw [List.flatMap_cons, lossyChars_utf8EncodeChar, ih]

/-- Text read back from the store is the text that was stored. -/
@[simp]
theorem lossy_ofString (s : String) : lossy (ofString s) = s := by
  rw [lossy, ofString_eq, lossyChars_flatMap, String.ofList_toList]

/-- The bytes of a string decode as UTF-8 to the string. -/
@[simp]
theorem fromUTF8_ofString (s : String) : String.fromUTF8? ⟨(ofString s).toArray⟩ = some s := by
  rw [ofString, byteArray_toList]
  simp [String.fromUTF8?, s.isValidUTF8]
  rfl

end Bytes

end Database

end EntityGraph
