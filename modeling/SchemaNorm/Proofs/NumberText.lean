import Mathlib
import SchemaNorm.Proofs.JsonText
import SchemaNorm.Json.Number

/-!
Number literals as the writers spell them and as the data format reads them. A natural in
decimal, an integer with its minus sign, and a finite double in the data layout are all
literals of the JSON grammar, so the compact text of a value holding them reads back. A
natural below `2 ^ 64` reads back as itself, and a negative integer down to `-2 ^ 63` as
itself.
-/

namespace SchemaNorm

namespace Json

section Digits

theorem allDigits_toDigits (n : Nat) : AllDigits (Nat.toDigits 10 n) :=
  fun _ hc => Nat.isDigit_of_mem_toDigits (by decide) (by decide) hc

theorem head?_toDigits_ne_zero {n : Nat} (hn : 0 < n) :
    (Nat.toDigits 10 n).head? ≠ some '0' := by
  induction n using Nat.strongRecOn with
  | ind n ih =>
    rw [Nat.toDigits_eq_if (by decide)]
    split
    · rename_i hlt
      have hdigit : ∀ m < 10, 0 < m → Nat.digitChar m ≠ '0' := by decide
      simpa using hdigit n hlt hn
    · -- the leading digit is the leading digit of `n / 10`
      have hhead := ih (n / 10) (by omega) (by omega)
      obtain ⟨c, cs, hcs⟩ :=
        List.exists_cons_of_ne_nil (Nat.toDigits_ne_nil (n := n / 10) (b := 10))
      rw [hcs] at hhead ⊢
      simpa using hhead

/-- The decimal digits of a positive number: a first digit other than `0`, then digits. -/
theorem toDigits_eq_cons {n : Nat} (hn : 0 < n) :
    ∃ d ds, Nat.toDigits 10 n = d :: ds ∧ d ≠ '0' ∧ AllDigits (d :: ds) := by
  obtain ⟨d, ds, hds⟩ := List.exists_cons_of_ne_nil (Nat.toDigits_ne_nil (n := n) (b := 10))
  have hd : d ≠ '0' := by
    have := head?_toDigits_ne_zero hn
    rw [hds] at this
    simpa using this
  exact ⟨d, ds, hds, hd, hds ▸ allDigits_toDigits n⟩

theorem integerPart_toDigits (n : Nat) : IntegerPart (Nat.toDigits 10 n) := by
  rcases Nat.eq_zero_or_pos n with rfl | hn
  · exact .inl (Nat.toDigits_zero 10)
  · obtain ⟨d, ds, hds, hd, hall⟩ := toDigits_eq_cons hn
    exact .inr ⟨d, ds, hds, hd, hall⟩

end Digits

section Literals

theorem numberLiteral_repr (n : Nat) : NumberLiteral n.repr.toList := by
  have h := @NumberLiteral.mk [] _ [] [] (.inl rfl) (integerPart_toDigits n) (.inl rfl) (.inl rfl)
  simpa using h

theorem numberLiteral_toString_int (i : Int) : NumberLiteral (toString i).toList := by
  rw [Int.toString_eq_repr, Int.repr_eq_if]
  split
  · exact numberLiteral_repr _
  · have h := @NumberLiteral.mk ['-'] _ [] [] (.inr rfl) (integerPart_toDigits (-i).toNat)
      (.inl rfl) (.inl rfl)
    simpa [String.toList_append] using h

theorem numberLiteral_signed {sign : String} (hsign : sign.toList = [] ∨ sign.toList = ['-'])
    {int frac exp : List Char} (hint : IntegerPart int) (hfrac : FractionPart frac)
    (hexp : ExponentPart exp) : NumberLiteral (sign.toList ++ (int ++ frac ++ exp)) := by
  have h := NumberLiteral.mk hsign hint hfrac hexp
  simpa only [List.append_assoc] using h

/-- An exponent as the data layout writes it: `e`, a `+` before a positive exponent, and the
exponent in decimal. -/
theorem exponentPart_toString (e : Int) :
    ExponentPart ('e' :: ((if 0 < e then "+" else "") ++ toString e).toList) := by
  rw [Int.toString_eq_repr, Int.repr_eq_if]
  refine .inr ?_
  by_cases hpos : 0 < e
  · refine ⟨'e', ['+'], Nat.toDigits 10 e.toNat, ?_, .inl rfl, .inr (.inl rfl),
      Nat.toDigits_ne_nil, allDigits_toDigits _⟩
    simp [hpos, String.toList_append, show 0 ≤ e by omega]
  · by_cases hzero : 0 ≤ e
    · refine ⟨'e', [], Nat.toDigits 10 e.toNat, ?_, .inl rfl, .inl rfl,
        Nat.toDigits_ne_nil, allDigits_toDigits _⟩
      simp [hpos, hzero]
    · refine ⟨'e', ['-'], Nat.toDigits 10 (-e).toNat, ?_, .inl rfl, .inr (.inr rfl),
        Nat.toDigits_ne_nil, allDigits_toDigits _⟩
      simp [hpos, hzero, String.toList_append]

section Layout

variable {s : String} {d : Char} {ds : List Char}

/-- Digits placed around a point, a `.0` after integral values, split into the integer and
fraction parts of a literal. -/
theorem placePoint_parts (hs : s.toList = d :: ds) (hd : d ≠ '0') (hall : AllDigits (d :: ds))
    (p : Int) : ∃ int frac, (Binary64.placePoint s p true).toList = int ++ frac ∧
      IntegerPart int ∧ FractionPart frac := by
  have hlen : (s.length : Int) = ds.length + 1 := by
    rw [← String.length_toList, hs]
    simp
  have hdigits : ∀ c ∈ ds, c.isDigit = true := fun c hc => hall c (List.mem_cons_of_mem _ hc)
  unfold Binary64.placePoint
  dsimp only
  split
  · -- integral: the digits and zeros, then `.0`
    refine ⟨d :: (ds ++ List.replicate (p - s.length).toNat '0'), ['.', '0'], ?_,
      .inr ⟨d, _, rfl, hd, ?_⟩, .inr ⟨['0'], rfl, by simp, allDigits_zero⟩⟩
    · simp [String.toList_append, hs, Binary64.zeros]
    · intro c hc
      simp only [List.mem_cons, List.mem_append, List.mem_replicate] at hc
      rcases hc with rfl | hc | ⟨-, rfl⟩
      · exact hall c List.mem_cons_self
      · exact hdigits c hc
      · rfl
  · split
    · -- the point falls inside the digits
      rename_i hout hin
      obtain ⟨k, hk⟩ : ∃ k, p.toNat = k + 1 := ⟨p.toNat - 1, by omega⟩
      have hdrop : ds.drop k ≠ [] := by
        simp only [ne_eq, List.drop_eq_nil_iff]
        omega
      refine ⟨d :: ds.take k, '.' :: ds.drop k, ?_, .inr ⟨d, _, rfl, hd, ?_⟩,
        .inr ⟨_, rfl, hdrop, fun c hc => hdigits c (List.mem_of_mem_drop hc)⟩⟩
      · simp [String.toList_append, hs, hk]
      · intro c hc
        rcases List.mem_cons.mp hc with rfl | hc
        · exact hall c List.mem_cons_self
        · exact hdigits c (List.mem_of_mem_take hc)
    · -- the point comes before the digits: `0.`, zeros, the digits
      refine ⟨['0'], '.' :: (List.replicate (-p).toNat '0' ++ d :: ds), ?_, .inl rfl,
        .inr ⟨_, rfl, by simp, ?_⟩⟩
      · simp [String.toList_append, hs, Binary64.zeros]
      · intro c hc
        simp only [List.mem_append, List.mem_replicate] at hc
        rcases hc with ⟨-, rfl⟩ | hc
        · rfl
        · exact hall c hc

/-- Digits with an exponent: the first digit, a point and the others when there are any, and
the exponent. -/
theorem withExponent_parts (hs : s.toList = d :: ds) (hd : d ≠ '0') (hall : AllDigits (d :: ds))
    (p : Int) : ∃ int frac exp, (Binary64.withExponent s p true).toList = int ++ frac ++ exp ∧
      IntegerPart int ∧ FractionPart frac ∧ ExponentPart exp := by
  have hint : IntegerPart [d] := .inr ⟨d, [], rfl, hd, fun c hc => by
    rw [List.mem_singleton.mp hc]
    exact hall d List.mem_cons_self⟩
  have hexp := exponentPart_toString (p - 1)
  unfold Binary64.withExponent
  simp only [hs]
  cases ds with
  | nil =>
    refine ⟨[d], [], _, ?_, hint, .inl rfl, hexp⟩
    simp [String.toList_append]
  | cons e es =>
    refine ⟨[d], '.' :: e :: es, _, ?_, hint,
      .inr ⟨e :: es, rfl, List.cons_ne_nil _ _, fun c hc => hall c (List.mem_cons_of_mem _ hc)⟩,
      hexp⟩
    simp [String.toList_append]

end Layout

/-- The data layout writes every finite double as a number literal. -/
theorem numberLiteral_layoutFinite (x : Binary64) :
    NumberLiteral (Binary64.layoutFinite .data x).toList := by
  have hsign : (if x.sign then "-" else "").toList = [] ∨
      (if x.sign then "-" else "").toList = ['-'] := by
    cases x.sign
    · exact .inl rfl
    · exact .inr rfl
  unfold Binary64.layoutFinite Binary64.Layout.data
  dsimp only
  generalize (if x.sign then "-" else "") = signText at hsign ⊢
  split
  · have h := @numberLiteral_signed _ hsign ['0'] ['.', '0'] [] (.inl rfl)
      (.inr ⟨['0'], rfl, by simp, allDigits_zero⟩) (.inl rfl)
    simpa [String.toList_append] using h
  · rename_i hzero
    obtain ⟨d, ds, hds, hd, hall⟩ := toDigits_eq_cons (Nat.pos_of_ne_zero hzero)
    have hs : (Nat.repr x.shortest.digits).toList = d :: ds := by rw [Nat.toList_repr, hds]
    split
    · obtain ⟨int, frac, h, hint, hfrac⟩ := placePoint_parts hs hd hall
        ((Nat.repr x.shortest.digits).length + x.shortest.exponent)
      rw [String.toList_append, h]
      simpa using numberLiteral_signed hsign hint hfrac (.inl rfl)
    · obtain ⟨int, frac, exp, h, hint, hfrac, hexp⟩ := withExponent_parts hs hd hall
        ((Nat.repr x.shortest.digits).length + x.shortest.exponent)
      rw [String.toList_append, h]
      exact numberLiteral_signed hsign hint hfrac hexp

end Literals

end Json

namespace Number

/-- Integer digits that fit the significand are collected whole. -/
theorem integerDigits_digits (negative : Bool) {ds : List Char} (hds : Json.AllDigits ds)
    {sig : Nat} (hfit : Nat.ofDigitChars 10 ds sig ≤ significandLimit) :
    integerDigits negative sig ds =
      afterInteger negative (Nat.ofDigitChars 10 ds sig) [] := by
  induction ds generalizing sig with
  | nil => rfl
  | cons c cs ih =>
    have hc : c.isDigit = true := hds c List.mem_cons_self
    have hsig : sig * 10 + digitValue c = 10 * sig + (c.toNat - '0'.toNat) := by
      unfold digitValue
      omega
    rw [Nat.ofDigitChars_cons] at hfit ⊢
    -- the digits collected so far are at most the whole number
    have hprefix : 10 * sig + (c.toNat - '0'.toNat) ≤
        Nat.ofDigitChars 10 cs (10 * sig + (c.toNat - '0'.toNat)) := by
      rw [Nat.ofDigitChars_eq_ofDigitChars_zero]
      exact Nat.le_add_right_of_le (Nat.le_mul_of_pos_left _ (Nat.pow_pos (by decide)))
    rw [integerDigits, if_pos hc]
    dsimp only
    rw [if_neg (by omega), hsig]
    exact ih (fun c' h => hds c' (List.mem_cons_of_mem _ h)) hfit

/-- The decimal digits of a number that fits the significand read back as that number. -/
theorem ofDigits_toDigits (negative : Bool) {n : Nat} (hn : n ≤ significandLimit) :
    ofDigits negative (Nat.toDigits 10 n) = afterInteger negative n [] := by
  rcases Nat.eq_zero_or_pos n with rfl | hpos
  · rfl
  · obtain ⟨d, ds, hds, hd, hall⟩ := Json.toDigits_eq_cons hpos
    have hvalue : Nat.ofDigitChars 10 ds (digitValue d) = n := by
      have h := Nat.ofDigitChars_ten_toDigits (n := n)
      rw [hds, Nat.ofDigitChars_cons] at h
      simpa [digitValue] using h
    have hdigits : Json.AllDigits ds := fun c h => hall c (List.mem_cons_of_mem _ h)
    rw [hds, ofDigits.eq_2 _ _ _ hd, if_pos (hall d List.mem_cons_self),
      integerDigits_digits negative hdigits (hvalue ▸ hn), hvalue]

/-- A natural below `2 ^ 64` in decimal reads back as itself. -/
theorem ofLiteral?_repr {n : Nat} (hn : n < 2 ^ 64) : ofLiteral? n.repr = some (.nat n) := by
  have hfit : n ≤ significandLimit := by
    simp only [significandLimit, Nat.pow_eq]
    omega
  unfold ofLiteral?
  rw [Nat.toList_repr]
  split
  · -- a decimal starts with a digit, never with a minus sign
    rename_i rest hminus
    have hdigit := Json.allDigits_toDigits n '-' (by rw [hminus]; exact List.mem_cons_self)
    cases hdigit
  · rw [ofDigits_toDigits false hfit]
    rfl

/-- A negative integer down to `-2 ^ 63`, written with its minus sign, reads back as itself. -/
theorem ofLiteral?_toString_neg {i : Int} (hneg : i < 0) (hlo : -2 ^ 63 ≤ i) :
    ofLiteral? (toString i) = some (.negInt i) := by
  have hfit : (-i).toNat ≤ significandLimit := by
    simp only [significandLimit, Nat.pow_eq]
    omega
  rw [Int.toString_eq_repr, Int.repr_eq_if, if_neg (by omega)]
  unfold ofLiteral?
  simp only [String.toList_append, Nat.toList_repr]
  rw [show "-".toList = ['-'] from rfl, List.cons_append, List.nil_append]
  show ofDigits true (Nat.toDigits 10 (-i).toNat) = _
  rw [ofDigits_toDigits true hfit]
  simp only [afterInteger, negativeInteger, Nat.pow_eq, if_true]
  rw [if_pos (by omega)]
  congr
  omega

end Number

end SchemaNorm
