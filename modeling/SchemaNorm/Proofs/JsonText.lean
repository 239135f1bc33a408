import SchemaNorm.Json.Reader
import SchemaNorm.Json.Writer

/-!
Reading back compact JSON text. The reader reads every value the compact writer writes, and
only it, as long as the value has text for all its strings and writes its numbers as literals
of the JSON grammar: strings come back through their escapes, number literals are read whole
up to the comma or bracket that follows them, and arrays and objects item by item. So
`parse? (compact j) = some j`, and two such values with one compact text are equal.
-/

namespace SchemaNorm

namespace Json

section Strings

theorem hexValue?_hexDigit : ∀ k < 16, hexValue? (hexDigit k) = some k := by decide

/-- Reading an escaped character gives the character back. -/
theorem readString_escapeChar (acc : List Char) (whole : Bool) (c : Char) (rest : List Char) :
    readString acc whole (escapeChar c ++ rest) = readString (c :: acc) whole rest := by
  unfold escapeChar
  -- the seven characters with escapes of their own
  by_cases hq : c = '"'
  · subst hq; simp [readString]
  by_cases hb : c = '\\'
  · subst hb; simp [readString]
  by_cases hn : c = '\n'
  · subst hn; simp [readString]
  by_cases hr : c = '\r'
  · subst hr; simp [readString]
  by_cases ht : c = '\t'
  · subst ht; simp [readString]
  by_cases hbs : c = '\x08'
  · subst hbs; simp [readString]
  by_cases hf : c = '\x0c'
  · subst hf; simp [readString]
  simp only [hq, hb, hn, hr, ht, hbs, hf, if_false]
  split
  · -- another control character, as four hexadecimal digits
    rename_i hlow
    have hhi : hexValue? (hexDigit (c.toNat / 16)) = some (c.toNat / 16) :=
      hexValue?_hexDigit _ (by omega)
    have hlo : hexValue? (hexDigit (c.toNat % 16)) = some (c.toNat % 16) :=
      hexValue?_hexDigit _ (by omega)
    have hunit : hexUnit? '0' '0' (hexDigit (c.toNat / 16)) (hexDigit (c.toNat % 16)) =
        some c.toNat := by
      simp only [hexUnit?, hhi, hlo]
      simp [hexValue?]
      omega
    simp only [List.cons_append, List.nil_append]
    rw [readString.eq_10, hunit]
    dsimp only
    rw [if_neg (by omega), if_neg (by omega), Char.ofNat_toNat]
  · -- any other character stands for itself
    rename_i hhigh
    rw [List.singleton_append, readString.eq_12 _ _ _ _ hq, if_neg hhigh] <;>
      intros <;> contradiction

theorem readString_escaped (acc s rest : List Char) :
    readString acc true (s.flatMap escapeChar ++ '"' :: rest) =
      some (some (String.ofList (acc.reverse ++ s)), rest) := by
  induction s generalizing acc with
  | nil => simp [readString]
  | cons c s ih =>
    rw [List.flatMap_cons, List.append_assoc, readString_escapeChar, ih]
    simp

theorem toList_quote_append (s : String) (rest : List Char) :
    (quote s).toList ++ rest = '"' :: (s.toList.flatMap escapeChar ++ '"' :: rest) := by
  rw [quote, String.toList_ofList]
  simp

/-- A quoted string is read back up to its closing quote. -/
theorem readString_quote (s : String) (rest : List Char) :
    readString [] true (s.toList.flatMap escapeChar ++ '"' :: rest) = some (some s, rest) := by
  rw [readString_escaped]
  simp

end Strings

section Numbers

/-- Every character is an ASCII digit. -/
def AllDigits (ds : List Char) : Prop := ∀ c ∈ ds, c.isDigit = true

instance (ds : List Char) : Decidable (AllDigits ds) :=
  inferInstanceAs (Decidable (∀ c ∈ ds, c.isDigit = true))

theorem allDigits_zero : AllDigits ['0'] := by
  intro c hc
  rw [List.mem_singleton.mp hc]
  rfl

/-- The integer part of a number literal: `0`, or digits that do not start with `0`. -/
def IntegerPart (ds : List Char) : Prop :=
  ds = ['0'] ∨ ∃ d rest, ds = d :: rest ∧ d ≠ '0' ∧ AllDigits (d :: rest)

/-- The fraction part of a number literal: nothing, or a point and digits. -/
def FractionPart (cs : List Char) : Prop :=
  cs = [] ∨ ∃ ds, cs = '.' :: ds ∧ ds ≠ [] ∧ AllDigits ds

/-- The exponent part of a number literal: nothing, or `e` or `E`, an optional sign and
digits. -/
def ExponentPart (cs : List Char) : Prop :=
  cs = [] ∨ ∃ e sign ds, cs = e :: (sign ++ ds) ∧ (e = 'e' ∨ e = 'E') ∧
    (sign = [] ∨ sign = ['+'] ∨ sign = ['-']) ∧ ds ≠ [] ∧ AllDigits ds

/-- A number literal of the JSON grammar: an optional minus sign, an integer part, a fraction
part and an exponent part. -/
inductive NumberLiteral : List Char → Prop where
  | mk {sign int frac exp : List Char} (hsign : sign = [] ∨ sign = ['-']) (hint : IntegerPart int)
      (hfrac : FractionPart frac) (hexp : ExponentPart exp) :
      NumberLiteral (sign ++ int ++ frac ++ exp)

/-- What may follow a value in compact text: nothing, a comma, or a closing bracket or
brace. -/
def Closes (rest : List Char) : Prop := ∀ c ∈ rest.head?, c = ',' ∨ c = ']' ∨ c = '}'

theorem Closes.not_digit {rest : List Char} (h : Closes rest) :
    ∀ c ∈ rest.head?, c.isDigit = false := by
  intro c hc
  rcases h c hc with rfl | rfl | rfl <;> rfl

theorem NumberLiteral.head {cs : List Char} (h : NumberLiteral cs) :
    ∃ c cs', cs = c :: cs' ∧ (c = '-' ∨ c.isDigit = true) := by
  obtain @⟨sign, int, frac, exp, hsign, hint, -, -⟩ := h
  rcases hsign with rfl | rfl
  · rcases hint with rfl | ⟨d, ds, rfl, -, hds⟩
    · exact ⟨'0', _, rfl, .inr rfl⟩
    · exact ⟨d, _, rfl, .inr (hds d List.mem_cons_self)⟩
  · exact ⟨'-', _, rfl, .inl rfl⟩

theorem spanDigits_append {ds rest : List Char} (hds : AllDigits ds)
    (hrest : ∀ c ∈ rest.head?, c.isDigit = false) : spanDigits (ds ++ rest) = (ds, rest) := by
  induction ds with
  | nil =>
    cases rest with
    | nil => rfl
    | cons c r =>
      have hc := hrest c rfl
      simp [spanDigits, hc]
  | cons d ds ih =>
    have hd : d.isDigit = true := hds d List.mem_cons_self
    have hrest := ih fun c hc => hds c (List.mem_cons_of_mem _ hc)
    simp only [spanDigits, Prod.mk.injEq] at hrest
    simp [spanDigits, hd, hrest]

-- `readNumber` taken apart into its four stages, so that each part of a literal is read by
-- one stage and has one lemma.
def numberSign : List Char → List Char × List Char
  | '-' :: r => (['-'], r)
  | r => ([], r)

def numberInteger (cs : List Char) : Option (List Char × List Char) :=
  match cs with
  | '0' :: r => some (['0'], r)
  | c :: _ => if c.isDigit then some (spanDigits cs) else none
  | [] => none

def numberFraction (cs : List Char) : Option (List Char × List Char) :=
  match cs with
  | '.' :: r =>
    let (ds, r') := spanDigits r
    if ds.isEmpty then none else some ('.' :: ds, r')
  | r => some ([], r)

def numberExponent (cs : List Char) : Option (List Char × List Char) :=
  match cs with
  | e :: r =>
    if e = 'e' ∨ e = 'E' then
      let (s, r) := match r with
        | '+' :: r' => (['+'], r')
        | '-' :: r' => (['-'], r')
        | r' => ([], r')
      let (ds, r') := spanDigits r
      if ds.isEmpty then none else some (e :: s ++ ds, r')
    else some ([], cs)
  | [] => some ([], [])

/-- `readNumber` reads a sign, an integer part, a fraction part and an exponent part, in this
order. -/
theorem readNumber_eq (cs : List Char) :
    readNumber cs =
      let (sign, cs) := numberSign cs
      match numberInteger cs with
      | none => none
      | some (whole, cs) =>
        match numberFraction cs with
        | none => none
        | some (frac, cs) =>
          match numberExponent cs with
          | none => none
          | some (ex, rest) => some (String.ofList (sign ++ whole ++ frac ++ ex), rest) :=
  rfl

theorem numberSign_append {sign tail : List Char} (hsign : sign = [] ∨ sign = ['-'])
    (htail : ∀ c ∈ tail.head?, c ≠ '-') : numberSign (sign ++ tail) = (sign, tail) := by
  rcases hsign with rfl | rfl
  · cases tail with
    | nil => rfl
    | cons c r =>
      have hc : c ≠ '-' := htail c rfl
      simp [numberSign, hc]
  · rfl

theorem numberInteger_append {int tail : List Char} (hint : IntegerPart int)
    (htail : ∀ c ∈ tail.head?, c.isDigit = false) :
    numberInteger (int ++ tail) = some (int, tail) := by
  rcases hint with rfl | ⟨d, ds, rfl, hd0, hds⟩
  · rfl
  · have hd : d.isDigit = true := hds d List.mem_cons_self
    have hspan : spanDigits (d :: (ds ++ tail)) = (d :: ds, tail) := spanDigits_append hds htail
    simp [numberInteger, hd, hspan]

theorem numberFraction_append {frac tail : List Char} (hfrac : FractionPart frac)
    (htail : ∀ c ∈ tail.head?, c.isDigit = false ∧ c ≠ '.') :
    numberFraction (frac ++ tail) = some (frac, tail) := by
  rcases hfrac with rfl | ⟨fs, rfl, hfs, hfd⟩
  · cases tail with
    | nil => rfl
    | cons c r =>
      have hc : c ≠ '.' := (htail c rfl).2
      simp [numberFraction, hc]
  · have hspan := spanDigits_append hfd fun c hc => (htail c hc).1
    simp [numberFraction, hspan, hfs]

theorem numberExponent_append {exp rest : List Char} (hexp : ExponentPart exp)
    (hrest : Closes rest) : numberExponent (exp ++ rest) = some (exp, rest) := by
  rcases hexp with rfl | ⟨e, s, ds, rfl, he, hs, hds, hdd⟩
  · cases rest with
    | nil => rfl
    | cons c r => rcases hrest c rfl with rfl | rfl | rfl <;> rfl
  · obtain ⟨x, xs, rfl⟩ := List.exists_cons_of_ne_nil hds
    have hspan : spanDigits (x :: (xs ++ rest)) = (x :: xs, rest) :=
      spanDigits_append hdd hrest.not_digit
    -- the first exponent digit is no sign
    have hx : x.isDigit = true := hdd x List.mem_cons_self
    have hxp : x ≠ '+' := by rintro rfl; simp at hx
    have hxm : x ≠ '-' := by rintro rfl; simp at hx
    rcases hs with rfl | rfl | rfl <;> simp [numberExponent, he, hxp, hxm, hspan]

/-- A number literal is read whole, up to what closes it. -/
theorem readNumber_literal {cs rest : List Char} (h : NumberLiteral cs) (hrest : Closes rest) :
    readNumber (cs ++ rest) = some (String.ofList cs, rest) := by
  obtain @⟨sign, int, frac, exp, hsign, hint, hfrac, hexp⟩ := h
  -- what follows each part cannot continue it
  have hexpNext : ∀ c ∈ (exp ++ rest).head?, c.isDigit = false ∧ c ≠ '.' := by
    rcases hexp with rfl | ⟨e, s, ds, rfl, he, -⟩
    · intro c hc
      rcases hrest c hc with rfl | rfl | rfl <;> decide
    · intro c hc
      cases hc
      rcases he with rfl | rfl <;> decide
  have hfracNext : ∀ c ∈ (frac ++ (exp ++ rest)).head?, c.isDigit = false := by
    rcases hfrac with rfl | ⟨fs, rfl, -⟩
    · exact fun c hc => (hexpNext c hc).1
    · intro c hc
      cases hc
      rfl
  have hintNext : ∀ c ∈ (int ++ (frac ++ (exp ++ rest))).head?, c ≠ '-' := by
    rcases hint with rfl | ⟨d, ds, rfl, -, hds⟩
    · intro c hc
      cases hc
      decide
    · intro c hc hd
      cases hc
      have hdigit := hds d List.mem_cons_self
      rw [hd] at hdigit
      cases hdigit
  rw [readNumber_eq]
  simp only [List.append_assoc]
  rw [numberSign_append hsign hintNext]
  dsimp only
  rw [numberInteger_append hint hfracNext]
  dsimp only
  rw [numberFraction_append hfrac hexpNext]
  dsimp only
  rw [numberExponent_append hexp hrest]

end Numbers

section Values

mutual

/-- A value the compact writer writes in a form the reader reads back: all its strings have
text and all its numbers are literals of the JSON grammar. -/
def Writable : Json → Prop
  | .num literal => NumberLiteral literal.toList
  | .unpairedStr => False
  | .arr items => ItemsWritable items
  | .obj fields => FieldsWritable fields
  | _ => True

def ItemsWritable : List Json → Prop
  | [] => True
  | j :: js => Writable j ∧ ItemsWritable js

def FieldsWritable : List (String × Json) → Prop
  | [] => True
  | (_, j) :: fs => Writable j ∧ FieldsWritable fs

end

theorem skipBlanks_cons {c : Char} (hc : isBlank c = false) (cs : List Char) :
    skipBlanks (c :: cs) = c :: cs := by
  simp [skipBlanks, hc]

/-- What a compact text starts with: a character that is no blank and closes nothing. -/
def Opens (c : Char) : Prop := isBlank c = false ∧ c ≠ ']' ∧ c ≠ '}'

instance (c : Char) : Decidable (Opens c) := inferInstanceAs (Decidable (_ ∧ _))

theorem opens_of_number {c : Char} (hc : c = '-' ∨ c.isDigit = true) : Opens c := by
  rcases hc with rfl | hc
  · decide
  · -- a digit's code lies between those of `0` and `9`, apart from every blank and closer
    have hcode := Char.isDigit_iff_toNat.mp hc
    have hne : ∀ d : Char, d.toNat < '0'.toNat ∨ '9'.toNat < d.toNat → c ≠ d := by
      rintro d hd rfl
      omega
    refine ⟨?_, hne ']' (by decide), hne '\x7d' (by decide)⟩
    simp only [isBlank, Bool.or_eq_false_iff, decide_eq_false_iff_not]
    exact ⟨⟨⟨hne ' ' (by decide), hne '\n' (by decide)⟩, hne '\t' (by decide)⟩,
      hne '\r' (by decide)⟩

theorem readValue_number {fuel : Nat} {c : Char} {cs : List Char}
    (hc : c = '-' ∨ c.isDigit = true) :
    readValue (fuel + 1) (c :: cs) = (readNumber (c :: cs)).map fun (s, r) => (.num s, r) := by
  rw [readValue.eq_2, skipBlanks_cons (opens_of_number hc).1]
  split <;> simp_all

theorem Writable.arr {items : List Json} (h : (Json.arr items).Writable) : ItemsWritable items := by
  simpa [Writable] using h

theorem Writable.obj {fields : List (String × Json)} (h : (Json.obj fields).Writable) :
    FieldsWritable fields := by
  simpa [Writable] using h

theorem toList_compact_arr (items : List Json) :
    (compact (.arr items)).toList = '[' :: ((compactItems items).toList ++ [']']) := by
  simp [compact]

theorem toList_compact_obj (fields : List (String × Json)) :
    (compact (.obj fields)).toList = '\x7b' :: ((compactFields fields).toList ++ ['\x7d']) := by
  simp [compact]

theorem compact_head (j : Json) (hj : j.Writable) :
    ∃ c cs, (compact j).toList = c :: cs ∧ Opens c := by
  match j with
  | .null => exact ⟨'n', _, rfl, by decide⟩
  | .bool true => exact ⟨'t', _, rfl, by decide⟩
  | .bool false => exact ⟨'f', _, rfl, by decide⟩
  | .num literal =>
    obtain ⟨c, cs, hcs, hc⟩ := NumberLiteral.head hj
    exact ⟨c, cs, hcs, opens_of_number hc⟩
  | .str s => exact ⟨'"', _, by simpa [compact] using toList_quote_append s [], by decide⟩
  | .unpairedStr => exact hj.elim
  | .arr items => exact ⟨'[', _, toList_compact_arr items, by decide⟩
  | .obj fields => exact ⟨'\x7b', _, toList_compact_obj fields, by decide⟩

theorem toList_compactItems_singleton (j : Json) :
    (compactItems [j]).toList = (compact j).toList := by
  rw [compactItems]

theorem toList_compactItems_cons_cons (j j' : Json) (js : List Json) :
    (compactItems (j :: j' :: js)).toList =
      (compact j).toList ++ ',' :: (compactItems (j' :: js)).toList := by
  rw [compactItems.eq_3 _ _ (List.cons_ne_nil _ _)]
  simp

theorem toList_compactFields_singleton (k : String) (j : Json) :
    (compactFields [(k, j)]).toList = (quote k).toList ++ ':' :: (compact j).toList := by
  rw [compactFields]
  simp

theorem toList_compactFields_cons_cons (k : String) (j : Json) (f : String × Json)
    (fs : List (String × Json)) :
    (compactFields ((k, j) :: f :: fs)).toList =
      (quote k).toList ++
        ':' :: ((compact j).toList ++ ',' :: (compactFields (f :: fs)).toList) := by
  rw [compactFields.eq_3 _ _ _ (List.cons_ne_nil _ _)]
  simp

theorem readValue_quote (fuel : Nat) (cs : List Char) :
    readValue (fuel + 1) ('"' :: cs) =
      (readString [] true cs).map fun (s, r) => (ofText? s, r) := by
  rw [readValue.eq_2, skipBlanks_cons rfl]
  rfl

theorem readValue_bracket {c : Char} (hc : Opens c) (fuel : Nat) (cs : List Char) :
    readValue (fuel + 1) ('[' :: c :: cs) = readItems fuel [] (c :: cs) := by
  rw [readValue.eq_2, skipBlanks_cons rfl]
  simp only [skipBlanks_cons hc.1]
  split
  · rename_i heq
    exact absurd (List.cons.inj heq).1 hc.2.1
  · rfl

theorem readValue_brace (fuel : Nat) (cs : List Char) :
    readValue (fuel + 1) ('\x7b' :: '"' :: cs) = readFields fuel [] ('"' :: cs) := by
  rw [readValue.eq_2, skipBlanks_cons rfl]
  simp only [skipBlanks_cons (c := '"') rfl]
  rfl

theorem readItems_comma {fuel : Nat} {acc : List Json} {cs r : List Char} {v : Json}
    (hv : readValue fuel cs = some (v, ',' :: r)) :
    readItems (fuel + 1) acc cs = readItems fuel (v :: acc) r := by
  rw [readItems.eq_2, hv]
  simp only [skipBlanks_cons (c := ',') rfl]

theorem readItems_close {fuel : Nat} {acc : List Json} {cs r : List Char} {v : Json}
    (hv : readValue fuel cs = some (v, ']' :: r)) :
    readItems (fuel + 1) acc cs = some (.arr (v :: acc).reverse, r) := by
  rw [readItems.eq_2, hv]
  simp only [skipBlanks_cons (c := ']') rfl]

theorem readFields_comma {fuel : Nat} {acc : List (String × Json)} {k : String} {v : Json}
    {cs r : List Char} (hv : readValue fuel cs = some (v, ',' :: r)) :
    readFields (fuel + 1) acc ('"' :: (k.toList.flatMap escapeChar ++ '"' :: ':' :: cs)) =
      readFields fuel ((k, v) :: acc) r := by
  rw [readFields.eq_2, skipBlanks_cons rfl]
  simp only [readString_quote, skipBlanks_cons (c := ':') rfl, hv, skipBlanks_cons (c := ',') rfl]

theorem readFields_close {fuel : Nat} {acc : List (String × Json)} {k : String} {v : Json}
    {cs r : List Char} (hv : readValue fuel cs = some (v, '\x7d' :: r)) :
    readFields (fuel + 1) acc ('"' :: (k.toList.flatMap escapeChar ++ '"' :: ':' :: cs)) =
      some (.obj ((k, v) :: acc).reverse, r) := by
  rw [readFields.eq_2, skipBlanks_cons rfl]
  simp only [readString_quote, skipBlanks_cons (c := ':') rfl, hv,
    skipBlanks_cons (c := '\x7d') rfl]

theorem closes_cons {c : Char} (hc : c = ',' ∨ c = ']' ∨ c = '\x7d') (rest : List Char) :
    Closes (c :: rest) := by
  rintro c' hc'
  cases hc'
  exact hc

mutual

/-- A writable value is read back from its compact text, given enough fuel, up to what closes
it. -/
theorem readValue_compact (j : Json) (hj : j.Writable) (rest : List Char) (hrest : Closes rest)
    (fuel : Nat) (hfuel : (compact j).toList.length < fuel) :
    readValue fuel ((compact j).toList ++ rest) = some (j, rest) := by
  -- the recursion is on fuel: a nested value is read with one unit less, and its text is
  -- shorter than the text around it
  cases fuel with
  | zero => omega
  | succ fuel =>
    cases j with
    | null => rfl
    | bool b => cases b <;> rfl
    | num literal =>
      obtain ⟨c, cs, hcs, hc⟩ := NumberLiteral.head hj
      have hread := readNumber_literal hj hrest
      simp only [compact] at hread ⊢
      rw [hcs, List.cons_append, readValue_number hc, ← List.cons_append, ← hcs, hread]
      simp
    | str s =>
      rw [compact, toList_quote_append, readValue_quote, readString_quote]
      rfl
    | unpairedStr => exact hj.elim
    | arr items =>
      cases items with
      | nil => rfl
      | cons i is =>
        have hitems := hj.arr
        have hlen := hfuel
        rw [toList_compact_arr] at hlen
        simp only [List.length_cons, List.length_append] at hlen
        -- the first item opens with neither a blank nor a closing bracket
        obtain ⟨c, cs, hcs, hc⟩ := compact_head i hitems.1
        obtain ⟨tail, htail⟩ :
            ∃ tail, (compactItems (i :: is)).toList ++ ']' :: rest = c :: tail := by
          cases is with
          | nil => exact ⟨_, by rw [toList_compactItems_singleton, hcs, List.cons_append]⟩
          | cons i' is => exact ⟨_, by rw [toList_compactItems_cons_cons, hcs]; rfl⟩
        rw [toList_compact_arr, List.cons_append, List.append_assoc, List.singleton_append, htail,
          readValue_bracket hc, ← htail,
          readItems_compact (i :: is) (List.cons_ne_nil _ _) hitems [] rest fuel (by omega)]
        rfl
    | obj fields =>
      cases fields with
      | nil => rfl
      | cons f fs =>
        have hfields := hj.obj
        have hlen := hfuel
        rw [toList_compact_obj] at hlen
        simp only [List.length_cons, List.length_append] at hlen
        -- the first member opens with the quote of its name
        obtain ⟨tail, htail⟩ :
            ∃ tail, (compactFields (f :: fs)).toList ++ '\x7d' :: rest = '"' :: tail := by
          obtain ⟨k, j⟩ := f
          cases fs with
          | nil => exact ⟨_, by rw [toList_compactFields_singleton, List.append_assoc,
              toList_quote_append]⟩
          | cons f' fs => exact ⟨_, by rw [toList_compactFields_cons_cons, List.append_assoc,
              toList_quote_append]⟩
        rw [toList_compact_obj, List.cons_append, List.append_assoc, List.singleton_append, htail,
          readValue_brace, ← htail,
          readFields_compact (f :: fs) (List.cons_ne_nil _ _) hfields [] rest fuel (by omega)]
        rfl
termination_by fuel

/-- Writable items are read back from their compact text up to the closing bracket. -/
theorem readItems_compact (items : List Json) (hne : items ≠ []) (hitems : ItemsWritable items)
    (acc : List Json) (rest : List Char) (fuel : Nat)
    (hfuel : (compactItems items).toList.length + 1 < fuel) :
    readItems fuel acc ((compactItems items).toList ++ ']' :: rest) =
      some (.arr (acc.reverse ++ items), rest) := by
  cases fuel with
  | zero => omega
  | succ fuel =>
    rcases items with _ | ⟨j, _ | ⟨j', js⟩⟩
    · exact absurd rfl hne
    -- the last item is closed by the bracket
    · rw [toList_compactItems_singleton] at hfuel ⊢
      rw [readItems_close (readValue_compact j hitems.1 _ (closes_cons (by simp) rest) fuel
        (by omega))]
      simp
    -- an item closed by a comma goes on the accumulator, and the others follow
    · rw [toList_compactItems_cons_cons] at hfuel ⊢
      simp only [List.length_append, List.length_cons] at hfuel
      rw [List.append_assoc, List.cons_append,
        readItems_comma (readValue_compact j hitems.1 _ (closes_cons (by simp) _) fuel (by omega)),
        readItems_compact (j' :: js) (List.cons_ne_nil _ _) hitems.2 (j :: acc) rest fuel
          (by omega)]
      simp
termination_by fuel

/-- Writable members are read back from their compact text up to the closing brace. -/
theorem readFields_compact (fields : List (String × Json)) (hne : fields ≠ [])
    (hfields : FieldsWritable fields) (acc : List (String × Json)) (rest : List Char)
    (fuel : Nat) (hfuel : (compactFields fields).toList.length + 1 < fuel) :
    readFields fuel acc ((compactFields fields).toList ++ '\x7d' :: rest) =
      some (.obj (acc.reverse ++ fields), rest) := by
  cases fuel with
  | zero => omega
  | succ fuel =>
    rcases fields with _ | ⟨⟨k, j⟩, _ | ⟨f, fs⟩⟩
    · exact absurd rfl hne
    · rw [toList_compactFields_singleton] at hfuel ⊢
      simp only [List.length_append, List.length_cons] at hfuel
      rw [List.append_assoc, toList_quote_append, List.cons_append,
        readFields_close (readValue_compact j hfields.1 _ (closes_cons (by simp) rest) fuel
          (by omega))]
      simp
    · rw [toList_compactFields_cons_cons] at hfuel ⊢
      simp only [List.length_append, List.length_cons] at hfuel
      rw [List.append_assoc, toList_quote_append, List.cons_append, List.append_assoc,
        List.cons_append,
        readFields_comma (readValue_compact j hfields.1 _ (closes_cons (by simp) _) fuel
          (by omega)),
        readFields_compact (f :: fs) (List.cons_ne_nil _ _) hfields.2 ((k, j) :: acc) rest fuel
          (by omega)]
      simp
termination_by fuel

end

/-- The reader reads every writable value back from its compact text. -/
theorem parse?_compact (j : Json) (hj : j.Writable) : parse? (compact j) = some j := by
  have hread := readValue_compact j hj [] (by simp [Closes]) _ (Nat.lt_succ_self _)
  rw [List.append_nil] at hread
  rw [parse?]
  simp only [hread]
  rfl

end Values

end Json

end SchemaNorm
