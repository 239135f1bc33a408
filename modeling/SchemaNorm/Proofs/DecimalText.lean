import Mathlib
import SchemaNorm.Proofs.ShortestDecimal
import SchemaNorm.Proofs.NumberText

/-!
What the data layout of a double says. Read exactly, as digits, an optional point and digits,
and an optional exponent, the text of a double denotes its sign and its shortest decimal. So
the data layout is injective, on all patterns and in particular on finite doubles: two doubles
with one text are one double. The text always holds a point or an exponent, so the data
format never reads it as an exact integer: whatever it reads is a double, and a double reads
back exactly when its bits come back.

Main statements: `Binary64.layoutFinite_data_injective` and `Binary64.readsBack_iff`.
-/

namespace SchemaNorm

namespace Decimal

/-! ## An exact reader -/

/-- The value of a non-empty run of ASCII digits. -/
def digitRun? (ds : List Char) : Option Nat :=
  if ds ≠ [] ∧ Json.AllDigits ds then some (Nat.ofDigitChars 10 ds 0) else none

/-- An exponent: an optional sign, then digits. -/
def readExponent : List Char → Option Int
  | '+' :: ds => (digitRun? ds).map Int.ofNat
  | '-' :: ds => (digitRun? ds).map fun n : Nat => -(n : Int)
  | ds => (digitRun? ds).map Int.ofNat

/-- The digits after a point, then an optional exponent: `acc` holds all digits read so far,
`count` of them after the point. -/
def readFraction (acc count : Nat) : List Char → Option ℚ
  | [] => some ((acc : ℚ) / 10 ^ count)
  | 'e' :: rest => (readExponent rest).map fun x : Int => (acc : ℚ) * 10 ^ (x - count)
  | c :: rest =>
    if c.isDigit then readFraction (10 * acc + (c.toNat - '0'.toNat)) (count + 1) rest
    else none

/-- Integer digits, then an optional fraction and exponent; `acc` holds the digits read so
far. -/
def readInteger (acc : Nat) : List Char → Option ℚ
  | [] => some acc
  | '.' :: rest => readFraction acc 0 rest
  | 'e' :: rest => (readExponent rest).map fun x => (acc : ℚ) * 10 ^ x
  | c :: rest => if c.isDigit then readInteger (10 * acc + (c.toNat - '0'.toNat)) rest else none

/-- The sign and the exact value a decimal literal denotes. -/
def read? : List Char → Option (Bool × ℚ)
  | '-' :: cs => (readInteger 0 cs).map fun v => (true, v)
  | cs => (readInteger 0 cs).map fun v => (false, v)

theorem ofDigitChars_toDigits (n : Nat) : Nat.ofDigitChars 10 (Nat.toDigits 10 n) 0 = n :=
  Nat.ofDigitChars_toDigits (by norm_num) (by norm_num)

theorem digitRun?_toDigits (n : Nat) : digitRun? (Nat.toDigits 10 n) = some n := by
  rw [digitRun?, if_pos ⟨Nat.toDigits_ne_nil, Json.allDigits_toDigits n⟩, ofDigitChars_toDigits]

/-- The exponent as the data layout writes it, a `+` before a positive one, reads back. -/
theorem readExponent_toString (q : Int) :
    readExponent ((if 0 < q then "+" else "").toList ++ (toString q).toList) = some q := by
  rw [Int.toString_eq_repr, Int.repr_eq_if]
  by_cases hpos : 0 < q
  · rw [if_pos hpos, if_pos hpos.le, Nat.toList_repr,
      show ("+" : String).toList = ['+'] from rfl, List.singleton_append, readExponent.eq_1,
      digitRun?_toDigits]
    simp [Int.toNat_of_nonneg hpos.le]
  · by_cases hzero : 0 ≤ q
    · obtain rfl : q = 0 := by omega
      rw [if_neg hpos, if_pos hzero, Nat.toList_repr, show ("" : String).toList = [] from rfl,
        List.nil_append, readExponent.eq_3 _ (by simp [Nat.toDigits_zero])
          (by simp [Nat.toDigits_zero]), digitRun?_toDigits]
      simp
    · rw [if_neg hpos, if_neg hzero, String.toList_append,
        Nat.toList_repr, show ("" : String).toList = [] from rfl,
        show ("-" : String).toList = ['-'] from rfl, List.nil_append, List.singleton_append,
        readExponent.eq_2, digitRun?_toDigits]
      simp only [Option.map_some, Option.some.injEq]
      omega

/-- The decimal text of a natural determines it. -/
theorem repr_injective : Function.Injective Nat.repr := by
  intro a b h
  calc a = Nat.ofDigitChars 10 (Nat.repr a).toList 0 := by
        rw [Nat.toList_repr, ofDigitChars_toDigits]
    _ = Nat.ofDigitChars 10 (Nat.repr b).toList 0 := by rw [h]
    _ = b := by rw [Nat.toList_repr, ofDigitChars_toDigits]

/-- The decimal text of an integer holds only a minus sign and digits. -/
theorem sign_or_digit_toString_int (i : Int) :
    ∀ c ∈ (toString i).toList, c = '-' ∨ c.isDigit = true := by
  rw [Int.toString_eq_repr, Int.repr_eq_if]
  split
  · rw [Nat.toList_repr]
    exact fun c hc => .inr (Json.allDigits_toDigits _ c hc)
  · rw [String.toList_append, Nat.toList_repr]
    intro c hc
    rcases List.mem_append.mp hc with hc | hc
    · exact .inl (by simpa [show ("-" : String).toList = ['-'] from rfl] using hc)
    · exact .inr (Json.allDigits_toDigits _ c hc)

theorem minus_not_mem_repr (n : Nat) : '-' ∉ (Nat.repr n).toList := fun h =>
  absurd (Json.allDigits_toDigits n '-' (by rwa [Nat.toList_repr] at h)) (by decide)

/-- The decimal text of an integer determines it: a minus sign, which digits never hold, then
the digits of its magnitude. -/
theorem toString_int_injective : Function.Injective (toString : Int → String) := by
  intro i j h
  have hminus : ("-" : String).toList = ['-'] := rfl
  simp only [Int.toString_eq_repr, Int.repr_eq_if] at h
  split_ifs at h with hi hj hj
  · have := repr_injective h
    omega
  · have hmem : '-' ∈ (Nat.repr i.toNat).toList := by
      rw [h, String.toList_append, hminus]
      exact List.mem_append_left _ List.mem_cons_self
    exact absurd hmem (minus_not_mem_repr _)
  · have hmem : '-' ∈ (Nat.repr j.toNat).toList := by
      rw [← h, String.toList_append, hminus]
      exact List.mem_append_left _ List.mem_cons_self
    exact absurd hmem (minus_not_mem_repr _)
  · have hlist := congrArg String.toList h
    rw [String.toList_append, String.toList_append] at hlist
    have := repr_injective (String.toList_inj.mp (List.append_cancel_left hlist))
    omega

theorem not_isDigit_point : ('.' : Char).isDigit = false := by decide

theorem not_isDigit_e : ('e' : Char).isDigit = false := by decide

theorem ne_of_isDigit {c d : Char} (hc : c.isDigit = true) (hd : d.isDigit = false) : c ≠ d := by
  rintro rfl
  rw [hc] at hd
  cases hd

/-- Integer digits are collected whole. -/
theorem readInteger_digits {ds : List Char} (hds : Json.AllDigits ds) (acc : Nat)
    (rest : List Char) :
    readInteger acc (ds ++ rest) = readInteger (Nat.ofDigitChars 10 ds acc) rest := by
  induction ds generalizing acc with
  | nil => rfl
  | cons c ds ih =>
    have hc : c.isDigit = true := hds c List.mem_cons_self
    rw [List.cons_append, readInteger.eq_4 _ _ _ (ne_of_isDigit hc not_isDigit_point)
      (ne_of_isDigit hc not_isDigit_e), if_pos hc,
      ih (fun c' h => hds c' (List.mem_cons_of_mem _ h)), Nat.ofDigitChars_cons]

/-- Fraction digits are collected whole, each counted. -/
theorem readFraction_digits {ds : List Char} (hds : Json.AllDigits ds) (acc count : Nat)
    (rest : List Char) :
    readFraction acc count (ds ++ rest) =
      readFraction (Nat.ofDigitChars 10 ds acc) (count + ds.length) rest := by
  induction ds generalizing acc count with
  | nil => rfl
  | cons c ds ih =>
    have hc : c.isDigit = true := hds c List.mem_cons_self
    rw [List.cons_append, readFraction.eq_3 _ _ _ _ (ne_of_isDigit hc not_isDigit_e), if_pos hc,
      ih (fun c' h => hds c' (List.mem_cons_of_mem _ h)), Nat.ofDigitChars_cons, List.length_cons]
    congr 1
    omega

/-- Fraction digits that end the text read as their value over a power of ten. -/
theorem readFraction_digits_end {ds : List Char} (hds : Json.AllDigits ds) (acc count : Nat) :
    readFraction acc count ds =
      some ((Nat.ofDigitChars 10 ds acc : ℚ) / 10 ^ (count + ds.length)) := by
  simpa [readFraction.eq_1] using readFraction_digits hds acc count []

theorem allDigits_replicate (n : Nat) : Json.AllDigits (List.replicate n '0') := by
  intro c hc
  rw [(List.mem_replicate.mp hc).2]
  rfl

/-- The digits of `D` placed around a point read as `D · 10 ^ E`, for the point position that
leaves `E` as the exponent. -/
theorem readInteger_placePoint (D : Nat) (E : Int) :
    readInteger 0 (Binary64.placePoint (Nat.repr D) ((Nat.repr D).length + E) true).toList =
      some ((D : ℚ) * 10 ^ E) := by
  have hall := Json.allDigits_toDigits D
  have hD := ofDigitChars_toDigits D
  have hlen : (Nat.repr D).length = (Nat.toDigits 10 D).length := by
    rw [← String.length_toList, Nat.toList_repr]
  unfold Binary64.placePoint
  dsimp only
  split
  · -- integral: the digits, `E` zeros and `.0`
    rename_i hle
    obtain ⟨z, rfl⟩ : ∃ z : ℕ, E = z := ⟨E.toNat, by omega⟩
    have hzeros : (((Nat.repr D).length : ℤ) + z - (Nat.repr D).length).toNat = z := by omega
    simp only [if_true, String.toList_append, Nat.toList_repr, Binary64.zeros,
      String.toList_ofList, hzeros, List.append_assoc]
    rw [readInteger_digits hall, hD, readInteger_digits (allDigits_replicate _),
      Nat.ofDigitChars_replicate_zero]
    have hpoint : (".0" : String).toList = ['.', '0'] := rfl
    rw [hpoint, readInteger.eq_2, readFraction.eq_3 _ _ _ _ (by decide), if_pos (by decide),
      readFraction.eq_1, Nat.sub_self, add_zero, Option.some.injEq, zpow_natCast]
    push_cast
    ring
  · split
    · -- the point falls inside the digits
      rename_i hout hin
      set k := ((Nat.repr D).length + E).toNat
      have htake : Json.AllDigits ((Nat.toDigits 10 D).take k) :=
        fun c hc => hall c (List.mem_of_mem_take hc)
      have hdrop : Json.AllDigits ((Nat.toDigits 10 D).drop k) :=
        fun c hc => hall c (List.mem_of_mem_drop hc)
      simp only [String.toList_append, String.toList_ofList, Nat.toList_repr]
      have hpoint : ("." : String).toList = ['.'] := rfl
      rw [hpoint, List.append_assoc, readInteger_digits htake, List.singleton_append]
      show readFraction _ 0 _ = _
      rw [readFraction_digits_end hdrop, ← Nat.ofDigitChars_append, List.take_append_drop, hD,
        List.length_drop, Option.some.injEq]
      have hk : ((Nat.toDigits 10 D).length - k : ℕ) = (-E).toNat := by omega
      rw [zero_add, hk]
      generalize hz : (-E).toNat = z
      rw [show E = -(z : ℤ) by omega, zpow_neg, zpow_natCast]
      ring
    · -- the point comes before the digits: `0.`, zeros, the digits
      rename_i hout hin
      simp only [String.toList_append, String.toList_ofList, Nat.toList_repr, Binary64.zeros]
      have hlead : ("0." : String).toList = ['0', '.'] := rfl
      rw [hlead, List.append_assoc, List.cons_append, List.cons_append, List.nil_append,
        readInteger.eq_4 _ _ _ (by decide) (by decide), if_pos (by decide), readInteger.eq_2,
        Nat.sub_self, mul_zero, add_zero]
      rw [readFraction_digits_end
        (fun c hc => (List.mem_append.mp hc).elim (allDigits_replicate _ c) (hall c)),
        Nat.ofDigitChars_append, Nat.ofDigitChars_replicate_zero, mul_zero, hD, Option.some.injEq,
        List.length_append, List.length_replicate]
      generalize hz : (-((Nat.repr D).length + E)).toNat + (Nat.toDigits 10 D).length = z
      rw [show E = -(z : ℤ) by omega, zpow_neg, zpow_natCast]
      ring

/-- The digits of `D` as one digit, a point and the others, and an exponent read as
`D · 10 ^ E`, for the exponent that leaves `E`. -/
theorem readInteger_withExponent {D : Nat} (hD : 0 < D) (E : Int) :
    readInteger 0 (Binary64.withExponent (Nat.repr D) ((Nat.repr D).length + E) true).toList =
      some ((D : ℚ) * 10 ^ E) := by
  obtain ⟨d, ds, hds, -, hall⟩ := Json.toDigits_eq_cons hD
  have hvalue := ofDigitChars_toDigits D
  have hlen : ((Nat.repr D).length : ℤ) = ds.length + 1 := by
    rw [← String.length_toList, Nat.toList_repr, hds]
    simp
  have hd : Json.AllDigits [d] := fun c hc => hall c (by simp_all)
  have hrest : Json.AllDigits ds := fun c hc => hall c (List.mem_cons_of_mem _ hc)
  have hexp := readExponent_toString ((Nat.repr D).length + E - 1)
  have he : ("e" : String).toList = ['e'] := rfl
  unfold Binary64.withExponent
  simp only [Nat.toList_repr, hds, String.toList_append, he, true_and]
  rw [hds, show d :: ds = [d] ++ ds from rfl, Nat.ofDigitChars_append] at hvalue
  cases ds with
  | nil =>
    -- one digit, then the exponent
    rw [Nat.ofDigitChars_nil] at hvalue
    dsimp only
    rw [String.toList_singleton, List.append_assoc, List.append_assoc, readInteger_digits hd,
      List.singleton_append, readInteger.eq_3, hexp]
    simp only [Option.map_some, Option.some.injEq, hvalue]
    congr 2
    simp only [List.length_nil, Nat.cast_zero, zero_add] at hlen
    omega
  | cons c cs =>
    -- the first digit, a point, the other digits, then the exponent
    have hpoint : ("." : String).toList = ['.'] := rfl
    dsimp only
    rw [String.toList_append, String.toList_append, String.toList_singleton, hpoint,
      String.toList_ofList, List.append_assoc,
      List.append_assoc, List.append_assoc, List.append_assoc, readInteger_digits hd,
      List.singleton_append, readInteger.eq_2, readFraction_digits hrest, List.singleton_append,
      readFraction.eq_2, hexp]
    simp only [Option.map_some, Option.some.injEq, hvalue]
    congr 2
    simp only [List.length_cons] at hlen ⊢
    omega

end Decimal

namespace Binary64

open Decimal

/-- The data layout of a double: its sign, then `0.0` for a zero, or the digits of its shortest
decimal around a point, or with an exponent. -/
theorem layoutFinite_data_eq (x : Binary64) :
    ∃ body : String, layoutFinite .data x = (if x.sign then "-" else "") ++ body ∧
      (x.shortest.digits = 0 ∧ body = "0.0" ∨
        x.shortest.digits ≠ 0 ∧
          (body = placePoint (Nat.repr x.shortest.digits)
              ((Nat.repr x.shortest.digits).length + x.shortest.exponent) true ∨
            body = withExponent (Nat.repr x.shortest.digits)
              ((Nat.repr x.shortest.digits).length + x.shortest.exponent) true)) := by
  unfold layoutFinite Layout.data
  dsimp only
  by_cases h0 : x.shortest.digits = 0
  · exact ⟨"0.0", by rw [if_pos h0, if_pos rfl], .inl ⟨h0, rfl⟩⟩
  · refine ⟨_, by rw [if_neg h0], .inr ⟨h0, ?_⟩⟩
    -- inside the positional window the point is placed, outside it an exponent is written
    split
    · exact .inl rfl
    · exact .inr rfl

/-- A text that reads exactly, and does not start with a minus sign, is positive. -/
theorem read?_of_readInteger {cs : List Char} {v : ℚ} (h : readInteger 0 cs = some v) :
    read? cs = some (false, v) := by
  have hsign : ∀ rest, cs = '-' :: rest → False := by
    rintro rest rfl
    rw [readInteger.eq_4 _ _ _ (by decide) (by decide), if_neg (by decide)] at h
    cases h
  simp [read?.eq_2 _ hsign, h]

/-- Read exactly, the data layout of a double gives its sign and its shortest decimal. -/
theorem read?_layoutFinite (x : Binary64) :
    read? (layoutFinite .data x).toList = some (x.sign, x.shortest.value) := by
  obtain ⟨body, hx, hbody⟩ := layoutFinite_data_eq x
  -- the text after the sign denotes the shortest decimal
  have hread : readInteger 0 body.toList = some x.shortest.value := by
    rcases hbody with ⟨h0, rfl⟩ | ⟨h0, rfl | rfl⟩
    · rw [value, h0, show ("0.0" : String).toList = ['0', '.', '0'] from rfl,
        readInteger.eq_4 _ _ _ (by decide) (by decide), if_pos (by decide), readInteger.eq_2,
        readFraction.eq_3 _ _ _ _ (by decide), if_pos (by decide), readFraction.eq_1]
      simp
    · exact readInteger_placePoint _ _
    · exact readInteger_withExponent (Nat.pos_of_ne_zero h0) _
  rw [hx, String.toList_append]
  cases hs : x.sign
  · simpa [show ("" : String).toList = [] from rfl] using read?_of_readInteger hread
  · simp [show ("-" : String).toList = ['-'] from rfl, read?, hread]

/-- Two patterns with one text in the data layout are one pattern. -/
theorem layoutFinite_data_injective : Function.Injective (layoutFinite .data) := by
  intro x y h
  have hread := read?_layoutFinite x
  rw [h, read?_layoutFinite y, Option.some.injEq, Prod.mk.injEq] at hread
  exact eq_of_shortest_value_eq hread.1.symm hread.2.symm

theorem point_mem_placePoint (s : String) (p : Int) : '.' ∈ (placePoint s p true).toList := by
  unfold placePoint
  dsimp only
  split
  · simp [String.toList_append, show (".0" : String).toList = ['.', '0'] from rfl]
  · split
    · simp [String.toList_append, show ("." : String).toList = ['.'] from rfl]
    · simp [String.toList_append, show ("0." : String).toList = ['0', '.'] from rfl]

theorem e_mem_withExponent (s : String) (p : Int) (plus : Bool) :
    'e' ∈ (withExponent s p plus).toList := by
  unfold withExponent
  simp [String.toList_append, show ("e" : String).toList = ['e'] from rfl]

/-- The data layout always writes a point or an exponent. -/
theorem point_or_exponent_mem_layoutFinite (x : Binary64) :
    '.' ∈ (layoutFinite .data x).toList ∨ 'e' ∈ (layoutFinite .data x).toList := by
  obtain ⟨body, hx, hbody⟩ := layoutFinite_data_eq x
  rw [hx, String.toList_append]
  rcases hbody with ⟨-, rfl⟩ | ⟨-, rfl | rfl⟩
  · exact .inl (List.mem_append_right _ (by simp [show ("0.0" : String).toList =
      ['0', '.', '0'] from rfl]))
  · exact .inl (List.mem_append_right _ (point_mem_placePoint _ _))
  · exact .inr (List.mem_append_right _ (e_mem_withExponent _ _ _))

end Binary64

namespace Number

variable {negative : Bool} {n : Number}

theorem eq_nil_of_afterInteger {sig : Nat} {cs : List Char} (h : afterInteger negative sig cs = some n)
    (hn : ∀ y, n ≠ .float y) : cs = [] := by
  unfold afterInteger at h
  split at h
  · obtain ⟨y, -, rfl⟩ := Option.map_eq_some_iff.mp h
    exact absurd rfl (hn y)
  · split at h
    · obtain ⟨y, -, rfl⟩ := Option.map_eq_some_iff.mp h
      exact absurd rfl (hn y)
    · cases h
  · rfl

theorem allDigits_of_integerDigits {cs : List Char} :
    ∀ {sig : Nat}, integerDigits negative sig cs = some n → (∀ y, n ≠ .float y) →
      Json.AllDigits cs := by
  induction cs with
  | nil =>
    intro _ _ _ c hc
    cases hc
  | cons c rest ih =>
    intro sig h hn
    rw [integerDigits] at h
    split at h
    · next hc =>
      dsimp only at h
      split at h
      · obtain ⟨y, -, rfl⟩ := Option.map_eq_some_iff.mp h
        exact absurd rfl (hn y)
      · intro c' hc'
        rcases List.mem_cons.mp hc' with rfl | hc'
        · exact hc
        · exact ih h hn c' hc'
    · exact absurd (eq_nil_of_afterInteger h hn) (List.cons_ne_nil _ _)

theorem allDigits_of_ofDigits {cs : List Char} (h : ofDigits negative cs = some n)
    (hn : ∀ y, n ≠ .float y) : Json.AllDigits cs := by
  unfold ofDigits at h
  split at h
  · rw [eq_nil_of_afterInteger h hn]
    exact Json.allDigits_zero
  · split at h
    · next hc =>
      intro c' hc'
      rcases List.mem_cons.mp hc' with rfl | hc'
      · exact hc
      · exact allDigits_of_integerDigits h hn c' hc'
    · cases h
  · cases h

/-- A literal the data format reads as an exact integer holds only a minus sign and digits. -/
theorem sign_or_digit_of_ofLiteral? {s : String} (h : ofLiteral? s = some n)
    (hn : ∀ y, n ≠ .float y) : ∀ c ∈ s.toList, c = '-' ∨ c.isDigit = true := by
  unfold ofLiteral? at h
  split at h
  · next rest hrest =>
    rw [hrest]
    intro c hc
    rcases List.mem_cons.mp hc with rfl | hc
    · exact .inl rfl
    · exact .inr (allDigits_of_ofDigits h hn c hc)
  · exact fun c hc => .inr (allDigits_of_ofDigits h hn c hc)

end Number

namespace Binary64

/-- A text of only minus signs and digits is the data layout of no double. -/
theorem layoutFinite_ne_of_sign_or_digit {s : String}
    (hs : ∀ c ∈ s.toList, c = '-' ∨ c.isDigit = true) (x : Binary64) :
    layoutFinite .data x ≠ s := by
  rintro rfl
  rcases point_or_exponent_mem_layoutFinite x with hc | hc
  · rcases hs _ hc with h | h <;> exact absurd h (by decide)
  · rcases hs _ hc with h | h <;> exact absurd h (by decide)

/-- The data format reads the data layout of a double as a double, never as an exact
integer. -/
theorem ofLiteral?_layoutFinite_float {x : Binary64} {n : Number}
    (h : Number.ofLiteral? (layoutFinite .data x) = some n) : ∃ y, n = .float y := by
  by_contra hn
  push Not at hn
  exact layoutFinite_ne_of_sign_or_digit (Number.sign_or_digit_of_ofLiteral? h hn) x rfl

/-- The data format reads the data layout of `x` back as the same bits. -/
def ReadsBack (x : Binary64) : Prop :=
  (Number.ofLiteral? (layoutFinite .data x)).map Number.toBinary64 = some x

instance : DecidablePred ReadsBack := fun _ => inferInstanceAs (Decidable (_ = _))

/-- A double whose bits come back through its text comes back as a double: its kind needs no
assumption of its own. -/
theorem readsBack_iff {x : Binary64} :
    x.ReadsBack ↔ Number.ofLiteral? (layoutFinite .data x) = some (.float x) := by
  constructor
  · intro h
    obtain ⟨n, hn, hx⟩ := Option.map_eq_some_iff.mp h
    obtain ⟨y, rfl⟩ := ofLiteral?_layoutFinite_float hn
    simp only [Number.toBinary64] at hx
    rw [hn, hx]
  · intro h
    simp [ReadsBack, h, Number.toBinary64]

end Binary64

end SchemaNorm
