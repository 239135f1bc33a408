import Mathlib
import SchemaNorm.Proofs.Classification
import SchemaNorm.Json.Number

/-!
The length a varchar column takes from its SQL type. The pattern is: white space,
`varchar` or `character varying` in any letter case, white space, `(`, white space, a run of
ASCII digits, white space and `)`, with anything after it. The run is read as a decimal number
and kept only when it fits in 32 bits; a longer number, or a run holding any other character,
gives no length rather than a wrapped or truncated one.

The reader is taken apart at the stages it runs: the type name, the opening parenthesis, and
the digits up to the closing one. Each stage has a lemma that runs it on the pattern's pieces
and one that recovers the pieces from a success. Main statements:
`lengthHint?_eq_some_iff` and `ColumnDescriptor.classify_varchar_lengthHint`.
-/

namespace SchemaNorm

/-- `s` reads, after white space, `varchar` or `character varying` in any letter case, then
white space, an opening parenthesis, white space, `body`, white space and a closing
parenthesis; anything may follow. -/
def LengthPattern (s : String) (body : List Char) : Prop :=
  ∃ lead name gap₁ gap₂ gap₃ rest,
    s.toList = lead ++ name ++ gap₁ ++ '(' :: gap₂ ++ body ++ gap₃ ++ ')' :: rest ∧
    (∀ c ∈ lead ++ gap₁ ++ gap₂ ++ gap₃, Text.isWhiteSpace c) ∧
    (name.map Char.toLower = "varchar".toList ∨
      name.map Char.toLower = "character varying".toList)

/-- `s` declares the varchar length `n`: its parentheses hold a non-empty run of ASCII digits
whose decimal value is `n`, and `n` fits in 32 bits. -/
def DeclaresLength (s : String) (n : Nat) : Prop :=
  ∃ digits, LengthPattern s digits ∧ digits ≠ [] ∧ (∀ c ∈ digits, c.isDigit) ∧
    Nat.ofDigits 10 (digits.reverse.map Number.digitValue) = n ∧ n ≤ 4294967295

/-! ### The stages of the reader -/

/-- The rest of a text after a leading type name `varchar` or `character varying`. -/
def afterTypeName (cs : List Char) : Option (List Char) :=
  (stripWordIgnoringCase "varchar".toList cs).orElse fun _ =>
    stripWordIgnoringCase "character varying".toList cs

/-- The length read after the opening parenthesis. -/
def lengthInParens (cs : List Char) : Option Nat :=
  let rest := cs.dropWhile Text.isWhiteSpace
  let digits := rest.takeWhile Char.isDigit
  match (rest.dropWhile Char.isDigit).dropWhile Text.isWhiteSpace with
  | ')' :: _ =>
    if digits.isEmpty then none
    else if digitsValue digits < Nat.pow 2 32 then some (digitsValue digits) else none
  | _ => none

/-- The length read after the type name. -/
def lengthAfterTypeName (cs : List Char) : Option Nat :=
  match cs.dropWhile Text.isWhiteSpace with
  | '(' :: rest => lengthInParens rest
  | _ => none

theorem lengthHint?_eq (s : String) :
    lengthHint? s =
      (afterTypeName (s.toList.dropWhile Text.isWhiteSpace)).bind lengthAfterTypeName := by
  unfold lengthHint? afterTypeName
  dsimp only
  split
  · next h => rw [h]; rfl
  · next cs h => rw [h]; rfl

/-! ### Characters -/

/-- White space has no upper case letter in it, so lowering its case changes nothing. -/
theorem toLower_of_isWhiteSpace {c : Char} (h : Text.isWhiteSpace c) : c.toLower = c := by
  unfold Char.toLower
  rw [dif_neg]
  rintro ⟨hlo, hhi⟩
  simp only [Text.isWhiteSpace, Char.toNat] at h
  simp only [UInt32.le_iff_toNat_le] at hlo hhi
  simp at h hlo hhi
  omega

theorem not_isWhiteSpace_of_isDigit {c : Char} (h : c.isDigit) : ¬ Text.isWhiteSpace c := by
  simp only [Char.isDigit, Bool.and_eq_true, decide_eq_true_eq, UInt32.le_iff_toNat_le] at h
  simp only [Text.isWhiteSpace, Char.toNat]
  simp at h ⊢
  omega

theorem digitsValue_eq_ofDigits (ds : List Char) :
    digitsValue ds = Nat.ofDigits 10 (ds.reverse.map Number.digitValue) := by
  induction ds using List.reverseRecOn with
  | nil => rfl
  | append_singleton ds c ih =>
    rw [digitsValue, List.foldl_append, ← digitsValue, ih]
    simp [Nat.ofDigits_cons, Number.digitValue]
    ring

/-! ### Lists -/

theorem dropWhile_append_of_head {p : α → Bool} {xs ys : List α} (hxs : ∀ x ∈ xs, p x)
    (hys : ∀ y ∈ ys.head?, ¬ p y) : (xs ++ ys).dropWhile p = ys := by
  rw [List.dropWhile_append_of_pos hxs]
  cases ys with
  | nil => rfl
  | cons y ys => exact List.dropWhile_cons_of_neg (hys y rfl)

/-- Before a part that starts with an element failing `p`, taking and dropping while `p` holds
stop inside the list in front. -/
theorem takeWhile_dropWhile_append {p : α → Bool} (l : List α) {tail : List α}
    (htail : ∀ y ∈ tail.head?, ¬ p y) :
    (l ++ tail).takeWhile p = l.takeWhile p ∧
      (l ++ tail).dropWhile p = l.dropWhile p ++ tail := by
  induction l with
  | nil =>
    cases tail with
    | nil => exact ⟨rfl, rfl⟩
    | cons y tail =>
      have hy := htail y rfl
      exact ⟨List.takeWhile_cons_of_neg hy, List.dropWhile_cons_of_neg hy⟩
  | cons x l ih =>
    by_cases hx : p x
    · simp [List.takeWhile_cons_of_pos hx, List.dropWhile_cons_of_pos hx, ih.1, ih.2]
    · simp [List.takeWhile_cons_of_neg hx, List.dropWhile_cons_of_neg hx]

/-- A list split at the first element that fails `p`. -/
theorem eq_takeWhile_append_dropWhile (p : α → Bool) (l : List α) :
    l = l.takeWhile p ++ l.dropWhile p ∧ ∀ x ∈ l.takeWhile p, p x :=
  ⟨List.takeWhile_append_dropWhile.symm, fun _ hx => List.mem_takeWhile_imp hx⟩

/-! ### The type name -/

theorem stripWordIgnoringCase_append {w name : List Char} (h : name.map Char.toLower = w)
    (rest : List Char) : stripWordIgnoringCase w (name ++ rest) = some rest := by
  induction name generalizing w with
  | nil =>
    subst h
    rfl
  | cons c name ih =>
    subst h
    simp [stripWordIgnoringCase, ih rfl]

theorem eq_of_stripWordIgnoringCase {w cs rest : List Char}
    (h : stripWordIgnoringCase w cs = some rest) :
    ∃ name, cs = name ++ rest ∧ name.map Char.toLower = w := by
  induction w generalizing cs with
  | nil =>
    cases h
    exact ⟨[], rfl, rfl⟩
  | cons w ws ih =>
    cases cs with
    | nil => cases h
    | cons c cs =>
      simp only [stripWordIgnoringCase] at h
      split at h
      · next hc =>
        obtain ⟨name, rfl, hname⟩ := ih h
        exact ⟨c :: name, rfl, by simp [hc, hname]⟩
      · cases h

/-- A name that lowers to `varchar` or `character varying` starts with no white space. -/
theorem not_isWhiteSpace_head {name : List Char}
    (h : name.map Char.toLower = "varchar".toList ∨
      name.map Char.toLower = "character varying".toList) (rest : List Char) :
    ∀ c ∈ (name ++ rest).head?, ¬ Text.isWhiteSpace c := by
  cases name with
  | nil => simp at h
  | cons c name =>
    rintro c' hc' hws
    cases hc'
    have hlow := toLower_of_isWhiteSpace hws
    rcases h with h | h <;>
    · simp only [List.map_cons, hlow] at h
      simp at h
      simp [h.1, Text.isWhiteSpace] at hws

theorem afterTypeName_append {name : List Char}
    (h : name.map Char.toLower = "varchar".toList ∨
      name.map Char.toLower = "character varying".toList)
    (rest : List Char) : afterTypeName (name ++ rest) = some rest := by
  unfold afterTypeName
  rcases h with h | h
  · rw [stripWordIgnoringCase_append h]
    rfl
  · -- the name starts with `c`, so reading `varchar` fails at once
    cases name with
    | nil => cases h
    | cons c name =>
      simp only [List.map_cons] at h
      simp at h
      simp [stripWordIgnoringCase, h.1, stripWordIgnoringCase_append h.2]

theorem eq_of_afterTypeName {cs rest : List Char} (h : afterTypeName cs = some rest) :
    ∃ name, cs = name ++ rest ∧
      (name.map Char.toLower = "varchar".toList ∨
        name.map Char.toLower = "character varying".toList) := by
  unfold afterTypeName at h
  cases hv : stripWordIgnoringCase "varchar".toList cs with
  | some r =>
    rw [hv] at h
    cases h
    obtain ⟨name, hcs, hname⟩ := eq_of_stripWordIgnoringCase hv
    exact ⟨name, hcs, .inl hname⟩
  | none =>
    rw [hv] at h
    obtain ⟨name, hcs, hname⟩ := eq_of_stripWordIgnoringCase h
    exact ⟨name, hcs, .inr hname⟩

/-! ### The opening parenthesis -/

theorem lengthAfterTypeName_gap {gap : List Char} (hgap : ∀ c ∈ gap, Text.isWhiteSpace c)
    (rest : List Char) : lengthAfterTypeName (gap ++ '(' :: rest) = lengthInParens rest := by
  unfold lengthAfterTypeName
  rw [dropWhile_append_of_head hgap (by simp [Text.isWhiteSpace])]
  rfl

theorem eq_of_lengthAfterTypeName {cs : List Char} {n : Nat}
    (h : lengthAfterTypeName cs = some n) :
    ∃ gap rest, cs = gap ++ '(' :: rest ∧ (∀ c ∈ gap, Text.isWhiteSpace c) ∧
      lengthInParens rest = some n := by
  obtain ⟨hcs, hgap⟩ := eq_takeWhile_append_dropWhile Text.isWhiteSpace cs
  unfold lengthAfterTypeName at h
  split at h
  · next rest hrest => exact ⟨_, rest, hrest ▸ hcs, hgap, h⟩
  · cases h

/-! ### The digits -/

/-- Inside the parentheses, a body of characters that are neither white space nor a closing
parenthesis is a length exactly when it is a non-empty run of ASCII digits whose value fits in
32 bits. -/
theorem lengthInParens_body {gap₂ body gap₃ : List Char}
    (hgaps : ∀ c ∈ gap₂ ++ gap₃, Text.isWhiteSpace c)
    (hbody : ∀ c ∈ body, ¬ Text.isWhiteSpace c ∧ c ≠ ')') (rest : List Char) :
    lengthInParens (gap₂ ++ body ++ gap₃ ++ ')' :: rest) =
      if body ≠ [] ∧ (∀ c ∈ body, c.isDigit) ∧ digitsValue body < Nat.pow 2 32 then
        some (digitsValue body)
      else none := by
  obtain ⟨hgap₂, hgap₃⟩ := List.forall_mem_append.mp hgaps
  -- after the body comes white space or the closing parenthesis: no digit
  have hclose : ∀ c ∈ (gap₃ ++ ')' :: rest).head?, ¬ c.isDigit := by
    cases gap₃ with
    | nil => simp [Char.isDigit]
    | cons c gap₃ =>
      intro c' hc' hdigit
      cases hc'
      exact not_isWhiteSpace_of_isDigit hdigit (hgap₃ c List.mem_cons_self)
  have hafter : (gap₃ ++ ')' :: rest).dropWhile Text.isWhiteSpace = ')' :: rest :=
    dropWhile_append_of_head hgap₃ (by simp [Text.isWhiteSpace])
  have hparen : ¬ Char.isDigit ')' ∧ ¬ Text.isWhiteSpace ')' := by decide
  unfold lengthInParens
  dsimp only
  rw [List.append_assoc, List.append_assoc, List.dropWhile_append_of_pos hgap₂]
  cases body with
  | nil =>
    rw [List.nil_append, hafter, List.takeWhile_cons_of_neg hparen.1,
      List.dropWhile_cons_of_neg hparen.1, List.dropWhile_cons_of_neg hparen.2]
    simp
  | cons c body =>
    rw [List.cons_append, List.dropWhile_cons_of_neg (hbody c List.mem_cons_self).1,
      ← List.cons_append, (takeWhile_dropWhile_append _ hclose).1,
      (takeWhile_dropWhile_append _ hclose).2]
    cases hpost : (c :: body).dropWhile Char.isDigit with
    | nil =>
      -- the whole body is digits
      have hdigits := List.dropWhile_eq_nil_iff.mp hpost
      rw [List.takeWhile_eq_self_iff.mpr hdigits, List.nil_append, hafter]
      split
      · rw [if_neg (by simp)]
        by_cases hv : digitsValue (c :: body) < Nat.pow 2 32
        · rw [if_pos hv, if_pos ⟨List.cons_ne_nil _ _, hdigits, hv⟩]
        · rw [if_neg hv, if_neg fun h => hv h.2.2]
      · next hne => exact absurd rfl (hne rest)
    | cons d post =>
      -- the body stops being digits at `d`, which is no closing parenthesis
      have hd : ¬ d.isDigit := by
        simpa [hpost] using List.head_dropWhile_not Char.isDigit (l := c :: body) (by simp [hpost])
      have hmem : d ∈ c :: body :=
        (List.dropWhile_suffix Char.isDigit).subset (by rw [hpost]; exact List.mem_cons_self)
      rw [List.cons_append, List.dropWhile_cons_of_neg (hbody d hmem).1]
      have hnot : ¬ ∀ x ∈ c :: body, x.isDigit := fun h => hd (h d hmem)
      split
      · next tail htail =>
        exact absurd (List.cons.inj htail).1 (hbody d hmem).2
      · rw [if_neg fun h => hnot h.2.1]

theorem eq_of_lengthInParens {cs : List Char} {n : Nat} (h : lengthInParens cs = some n) :
    ∃ gap₂ digits gap₃ rest, cs = gap₂ ++ digits ++ gap₃ ++ ')' :: rest ∧
      (∀ c ∈ gap₂ ++ gap₃, Text.isWhiteSpace c) ∧ digits ≠ [] ∧
      (∀ c ∈ digits, c.isDigit) ∧ digitsValue digits = n ∧ n < Nat.pow 2 32 := by
  obtain ⟨hcs, hgap₂⟩ := eq_takeWhile_append_dropWhile Text.isWhiteSpace cs
  obtain ⟨hbody, hdigits⟩ :=
    eq_takeWhile_append_dropWhile Char.isDigit (cs.dropWhile Text.isWhiteSpace)
  obtain ⟨hafter, hgap₃⟩ := eq_takeWhile_append_dropWhile Text.isWhiteSpace
    ((cs.dropWhile Text.isWhiteSpace).dropWhile Char.isDigit)
  unfold lengthInParens at h
  dsimp only at h
  split at h
  · next rest hrest =>
    split at h
    · cases h
    · next hne =>
      split at h
      · next hlt =>
        cases h
        -- the pieces are the runs the reader took: blanks, digits, blanks
        refine ⟨_, _, _, rest, ?_, List.forall_mem_append.mpr ⟨hgap₂, hgap₃⟩,
          by simpa using hne, hdigits, rfl, hlt⟩
        rw [hrest] at hafter
        rw [hafter] at hbody
        rw [hbody] at hcs
        simpa using hcs
      · cases h
  · cases h

/-! ### The whole reader -/

/-- On a text of the pattern, the reader's answer is decided by the body alone. -/
theorem lengthHint?_of_pattern {s : String} {body : List Char} (h : LengthPattern s body)
    (hbody : ∀ c ∈ body, ¬ Text.isWhiteSpace c ∧ c ≠ ')') :
    lengthHint? s =
      if body ≠ [] ∧ (∀ c ∈ body, c.isDigit) ∧ digitsValue body < Nat.pow 2 32 then
        some (digitsValue body)
      else none := by
  obtain ⟨lead, name, gap₁, gap₂, gap₃, rest, hs, hws, hname⟩ := h
  simp only [List.forall_mem_append] at hws
  obtain ⟨⟨⟨hlead, hgap₁⟩, hgap₂⟩, hgap₃⟩ := hws
  have hparens := lengthInParens_body (List.forall_mem_append.mpr ⟨hgap₂, hgap₃⟩) hbody rest
  rw [lengthHint?_eq, hs]
  simp only [List.append_assoc, List.cons_append] at hparens ⊢
  rw [dropWhile_append_of_head hlead (not_isWhiteSpace_head hname _), afterTypeName_append hname,
    Option.bind_some, lengthAfterTypeName_gap hgap₁, hparens]

/-- The length a varchar SQL type declares: some `n` exactly when the text follows the pattern
with a non-empty run of ASCII digits worth `n`, and `n` fits in 32 bits. -/
theorem lengthHint?_eq_some_iff {s : String} {n : Nat} :
    lengthHint? s = some n ↔ DeclaresLength s n := by
  have hpow : Nat.pow 2 32 = 4294967296 := rfl
  constructor
  · intro h
    rw [lengthHint?_eq, Option.bind_eq_some_iff] at h
    obtain ⟨afterName, hname, hlength⟩ := h
    obtain ⟨name, hcs, hnamed⟩ := eq_of_afterTypeName hname
    obtain ⟨gap₁, inner, rfl, hgap₁, hinner⟩ := eq_of_lengthAfterTypeName hlength
    obtain ⟨gap₂, digits, gap₃, rest, rfl, hgaps, hne, hdigits, hvalue, hlt⟩ :=
      eq_of_lengthInParens hinner
    obtain ⟨hs, hlead⟩ := eq_takeWhile_append_dropWhile Text.isWhiteSpace s.toList
    obtain ⟨hgap₂, hgap₃⟩ := List.forall_mem_append.mp hgaps
    have hblanks : ∀ c ∈ s.toList.takeWhile Text.isWhiteSpace ++ gap₁ ++ gap₂ ++ gap₃,
        Text.isWhiteSpace c := by
      simp only [List.forall_mem_append]
      exact ⟨⟨⟨hlead, hgap₁⟩, hgap₂⟩, hgap₃⟩
    refine ⟨digits, ⟨_, name, gap₁, gap₂, gap₃, rest, ?_, hblanks, hnamed⟩, hne, hdigits,
      by rw [← digitsValue_eq_ofDigits, hvalue], by omega⟩
    simp only [List.append_assoc, List.cons_append] at hcs ⊢
    rw [← hcs]
    exact hs
  · rintro ⟨digits, hpattern, hne, hdigits, hvalue, hle⟩
    have hbody : ∀ c ∈ digits, ¬ Text.isWhiteSpace c ∧ c ≠ ')' := fun c hc =>
      ⟨not_isWhiteSpace_of_isDigit (hdigits c hc), by
        rintro rfl
        exact absurd (hdigits _ hc) (by decide)⟩
    rw [lengthHint?_of_pattern hpattern hbody, digitsValue_eq_ofDigits, hvalue, if_pos]
    exact ⟨hne, hdigits, by omega⟩

/-- A body that holds a character other than an ASCII digit, or digits worth more than 32 bits
hold, declares no length. -/
theorem lengthHint?_eq_none_of_pattern {s : String} {body : List Char}
    (h : LengthPattern s body) (hbody : ∀ c ∈ body, ¬ Text.isWhiteSpace c ∧ c ≠ ')')
    (hbad : (∃ c ∈ body, ¬ c.isDigit) ∨
      4294967295 < Nat.ofDigits 10 (body.reverse.map Number.digitValue)) :
    lengthHint? s = none := by
  have hpow : Nat.pow 2 32 = 4294967296 := rfl
  rw [lengthHint?_of_pattern h hbody, if_neg]
  rintro ⟨-, hdigits, hlt⟩
  rcases hbad with ⟨c, hc, hnot⟩ | hbig
  · exact hnot (hdigits c hc)
  · rw [digitsValue_eq_ofDigits] at hlt
    omega

namespace ColumnDescriptor

/-- A varchar column is always classified. Its length hint is the exported length when there
is one; otherwise it is the length its SQL type declares, and there is none when the
parentheses hold a character other than an ASCII digit or a number beyond 32 bits. -/
theorem classify_varchar_lengthHint (table : String) (d : ColumnDescriptor)
    (hs : d.storage = .varchar) :
    ∃ c, d.classify table = .ok c ∧ c.type = .varchar ∧
      (∀ n, d.length = some n → c.lengthHint = some n) ∧
      (d.length = none →
        (∀ n, c.lengthHint = some n ↔ DeclaresLength d.sqlType n) ∧
        ∀ body, LengthPattern d.sqlType body →
          (∀ ch ∈ body, ¬ Text.isWhiteSpace ch ∧ ch ≠ ')') →
          ((∃ ch ∈ body, ¬ ch.isDigit) ∨
            4294967295 < Nat.ofDigits 10 (body.reverse.map Number.digitValue)) →
          c.lengthHint = none) := by
  have hcl : d.classification table = .ok ⟨.varchar, false⟩ := by simp [classification, hs]
  have htype : (d.toColumn ⟨.varchar, false⟩).type = .varchar := toColumn_type _ _
  have hhint : (d.toColumn ⟨.varchar, false⟩).lengthHint =
      d.length.orElse fun _ => lengthHint? d.sqlType := by
    rw [(toColumn_classifiedFrom hcl).lengthHint, htype, if_pos rfl]
  refine ⟨_, classify_eq_ok_iff.mpr ⟨_, hcl, rfl⟩, htype, fun n hn => by rw [hhint, hn]; rfl,
    fun hn => ⟨fun n => ?_, fun body hpattern hbody hbad => ?_⟩⟩
  · rw [hhint, hn]
    exact lengthHint?_eq_some_iff
  · rw [hhint, hn]
    exact lengthHint?_eq_none_of_pattern hpattern hbody hbad

/-- A padded type name in mixed case with a zero-led length and more text after it. -/
theorem paddedVarchar_lengthHint :
    ∃ c, (ColumnDescriptor.new "code" .varchar " Character VARYING( 0255 )[]").classify "Item" =
      .ok c ∧ c.lengthHint = some 255 := by
  obtain ⟨c, hc, -, -, hnone⟩ := classify_varchar_lengthHint "Item"
    (ColumnDescriptor.new "code" .varchar " Character VARYING( 0255 )[]") rfl
  have hdigits : ∀ ch ∈ ['0', '2', '5', '5'], ch.isDigit := by
    intro ch hch
    simp only [List.mem_cons, List.not_mem_nil, or_false] at hch
    rcases hch with rfl | rfl | rfl | rfl <;> rfl
  have hblanks : ∀ ch ∈ [' '] ++ [] ++ [' '] ++ [' '], Text.isWhiteSpace ch := by
    intro ch hch
    simp only [List.mem_append, List.mem_singleton, List.not_mem_nil, or_false, or_self] at hch
    subst hch
    rfl
  refine ⟨c, hc, ((hnone rfl).1 255).mpr ⟨['0', '2', '5', '5'], ?_, by decide, hdigits,
    by decide, by decide⟩⟩
  exact ⟨[' '], "Character VARYING".toList, [], [' '], [' '], ['[', ']'], by decide, hblanks,
    by decide⟩

end ColumnDescriptor

end SchemaNorm
