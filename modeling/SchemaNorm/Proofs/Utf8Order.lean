import SchemaNorm.Text.WhiteSpace

/-!
Strings are ordered by their characters' code points, and the same order compares their UTF-8
encodings byte by byte. UTF-8 gives a smaller code point a byte sequence that is smaller at the
first byte where the two sequences differ: the lead byte tells the length of a sequence, and
within one length the bytes are the digits of the code point.
-/

namespace SchemaNorm

namespace Text

/-- The bytes of a string's UTF-8 encoding, in order. -/
def utf8Bytes (s : String) : List UInt8 := s.toByteArray.data.toList

theorem utf8Bytes_eq (s : String) : utf8Bytes s = s.toList.flatMap String.utf8EncodeChar := by
  rw [utf8Bytes, ← String.utf8Encode_toList, List.utf8Encode, List.toList_data_toByteArray]

section Bytes

variable {x y : Nat} {l l' : List UInt8}

/-- Byte sequences compare at their first bytes when these differ. -/
theorem byte_cons_lt (hy : y < 256) (h : x < y) : UInt8.ofNat x :: l < UInt8.ofNat y :: l' :=
  List.cons_lt_cons_iff.mpr (.inl (by
    rw [UInt8.lt_iff_toNat_lt, UInt8.toNat_ofNat', UInt8.toNat_ofNat']
    omega))

/-- Byte sequences with the same first byte compare as what follows it. -/
theorem byte_cons_lt_of_eq (h : x = y) (ht : l < l') : UInt8.ofNat x :: l < UInt8.ofNat y :: l' :=
  List.cons_lt_cons_iff.mpr (.inr ⟨h ▸ rfl, ht⟩)

end Bytes

theorem toNat_lt_of_lt {c d : Char} (h : c < d) : c.toNat < d.toNat :=
  UInt32.lt_iff_toNat_lt.mp h

theorem toNat_lt_limit (c : Char) : c.toNat < 0x110000 := by
  have hvalid := c.valid
  simp only [UInt32.isValidChar, Nat.isValidChar] at hvalid
  rw [← Char.toNat_val]
  omega

/-- UTF-8 encodes a smaller code point by bytes that are smaller where they first differ, so
whatever follows each encoding. -/
theorem utf8EncodeChar_append_lt {c d : Char} (h : c < d) (rest rest' : List UInt8) :
    String.utf8EncodeChar c ++ rest < String.utf8EncodeChar d ++ rest' := by
  have hcd := toNat_lt_of_lt h
  have hd := toNat_lt_limit d
  unfold String.utf8EncodeChar
  simp only [Char.toNat_val]
  -- split on the length of `d`'s encoding, then on that of `c`'s, which is not longer
  by_cases hd1 : d.toNat ≤ 0x7f
  · rw [if_pos (by omega : c.toNat ≤ 0x7f), if_pos hd1]
    exact byte_cons_lt (by omega) hcd
  rw [if_neg hd1]
  by_cases hd2 : d.toNat ≤ 0x7ff
  · rw [if_pos hd2]
    by_cases hc1 : c.toNat ≤ 0x7f
    · rw [if_pos hc1]
      exact byte_cons_lt (by omega) (by omega)
    rw [if_neg hc1, if_pos (by omega : c.toNat ≤ 0x7ff)]
    by_cases hlead : c.toNat / 64 = d.toNat / 64
    · exact byte_cons_lt_of_eq (by omega) (byte_cons_lt (by omega) (by omega))
    · exact byte_cons_lt (by omega) (by omega)
  rw [if_neg hd2]
  by_cases hd3 : d.toNat ≤ 0xffff
  · rw [if_pos hd3]
    by_cases hc2 : c.toNat ≤ 0x7ff
    · by_cases hc1 : c.toNat ≤ 0x7f
      · rw [if_pos hc1]
        exact byte_cons_lt (by omega) (by omega)
      rw [if_neg hc1, if_pos hc2]
      exact byte_cons_lt (by omega) (by omega)
    rw [if_neg (by omega : ¬c.toNat ≤ 0x7f), if_neg hc2, if_pos (by omega : c.toNat ≤ 0xffff)]
    by_cases hlead : c.toNat / 4096 = d.toNat / 4096
    · by_cases hmid : c.toNat / 64 = d.toNat / 64
      · exact byte_cons_lt_of_eq (by omega)
          (byte_cons_lt_of_eq (by omega) (byte_cons_lt (by omega) (by omega)))
      · exact byte_cons_lt_of_eq (by omega) (byte_cons_lt (by omega) (by omega))
    · exact byte_cons_lt (by omega) (by omega)
  rw [if_neg hd3]
  by_cases hc3 : c.toNat ≤ 0xffff
  · by_cases hc2 : c.toNat ≤ 0x7ff
    · by_cases hc1 : c.toNat ≤ 0x7f
      · rw [if_pos hc1]
        exact byte_cons_lt (by omega) (by omega)
      rw [if_neg hc1, if_pos hc2]
      exact byte_cons_lt (by omega) (by omega)
    rw [if_neg (by omega : ¬c.toNat ≤ 0x7f), if_neg hc2, if_pos hc3]
    exact byte_cons_lt (by omega) (by omega)
  rw [if_neg (by omega : ¬c.toNat ≤ 0x7f), if_neg (by omega : ¬c.toNat ≤ 0x7ff), if_neg hc3]
  by_cases hlead : c.toNat / 262144 = d.toNat / 262144
  · by_cases hsecond : c.toNat / 4096 = d.toNat / 4096
    · by_cases hthird : c.toNat / 64 = d.toNat / 64
      · exact byte_cons_lt_of_eq (by omega) (byte_cons_lt_of_eq (by omega)
          (byte_cons_lt_of_eq (by omega) (byte_cons_lt (by omega) (by omega))))
      · exact byte_cons_lt_of_eq (by omega) (byte_cons_lt_of_eq (by omega)
          (byte_cons_lt (by omega) (by omega)))
    · exact byte_cons_lt_of_eq (by omega) (byte_cons_lt (by omega) (by omega))
  · exact byte_cons_lt (by omega) (by omega)

/-- Byte sequences after a common beginning compare as what follows it. -/
theorem append_lt_append_left_iff {pre l l' : List UInt8} : pre ++ l < pre ++ l' ↔ l < l' := by
  induction pre with
  | nil => rfl
  | cons b pre ih => simp [ih]

/-- Lists of characters compare as their UTF-8 encodings. -/
theorem lt_iff_flatMap_utf8EncodeChar_lt : ∀ {cs ds : List Char},
    cs < ds ↔ cs.flatMap String.utf8EncodeChar < ds.flatMap String.utf8EncodeChar
  | [], [] => by simp
  | [], d :: ds => by
    obtain ⟨b, t, hb⟩ := List.exists_cons_of_ne_nil (String.utf8EncodeChar_ne_nil (c := d))
    simp [hb]
  | c :: cs, [] => by simp
  | c :: cs, d :: ds => by
    rw [List.cons_lt_cons_iff, List.flatMap_cons, List.flatMap_cons]
    rcases Nat.lt_trichotomy c.toNat d.toNat with h | h | h
    · -- the first characters differ, and so do their encodings, the same way
      have hlt : c < d := UInt32.lt_iff_toNat_lt.mpr h
      exact iff_of_true (.inl hlt) (utf8EncodeChar_append_lt hlt _ _)
    · -- the same first character: compare what follows it, on both sides
      obtain rfl := Char.toNat_inj.mp h
      rw [append_lt_append_left_iff, ← lt_iff_flatMap_utf8EncodeChar_lt]
      simp
    · have hlt : d < c := UInt32.lt_iff_toNat_lt.mpr h
      refine iff_of_false ?_ (List.lt_asymm (utf8EncodeChar_append_lt hlt _ _))
      rintro (hcd | ⟨rfl, -⟩)
      · exact Char.lt_asymm hcd hlt
      · exact Char.lt_irrefl _ hlt

/-- Strings compare as the bytes of their UTF-8 encodings. -/
theorem lt_iff_utf8Bytes_lt (s t : String) : s < t ↔ utf8Bytes s < utf8Bytes t := by
  rw [utf8Bytes_eq, utf8Bytes_eq]
  exact lt_iff_flatMap_utf8EncodeChar_lt

/-- One string is at most another exactly when its UTF-8 bytes are, byte by byte. -/
theorem le_iff_utf8Bytes_le (s t : String) : s ≤ t ↔ utf8Bytes s ≤ utf8Bytes t :=
  not_congr (lt_iff_utf8Bytes_lt t s)

end Text

end SchemaNorm
