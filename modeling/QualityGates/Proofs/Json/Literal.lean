import QualityGates.Proofs.Json.Scale
import QualityGates.Proofs.Number.Digits

/-!
# Number literals are read back

The digits of a word are read as the word. The shortest text of a finite float is read as some float
whatever its form: digits that fit in no word are dropped, which only makes the number smaller, and
what is left stays below the overflow.
-/

namespace QualityGates.Json

open Number (isDigit digitValue valueFrom value)

variable {negative : Bool} {digits : UInt64} {exponent : Int} {ds tail : List Char}
  {p : Position} {n : Nat}

/-- Whether a text does not go on with a digit. -/
def EndsDigits (tail : List Char) : Prop :=
  ∀ c cs, tail = c :: cs → isDigit c = false

/-- Whether a text does not go on with what is behind it. -/
def EndsValue (tail : List Char) : Prop :=
  ∀ c cs, tail = c :: cs → c = ',' ∨ c = '\n'

/-- What ends a value ends its digits. -/
theorem EndsValue.endsDigits (ends : EndsValue tail) : EndsDigits tail := by
  intro c cs split
  rcases ends c cs split with rfl | rfl <;> decide

/-! ## Whole digits -/

/-- Digits are passed. -/
theorem skipDigits_append (allDigits : ∀ d ∈ ds, isDigit d = true) (ends : EndsDigits tail)
    (p : Position) : ∃ p', skipDigits p (ds ++ tail) = ⟨tail, p'⟩ := by
  induction ds generalizing p with
  | nil =>
    cases tail with
    | nil => exact ⟨p, rfl⟩
    | cons c cs =>
      refine ⟨p, ?_⟩
      rw [List.nil_append, skipDigits, ends c cs rfl]
      rfl
  | cons d ds ih =>
    rw [List.forall_mem_cons] at allDigits
    rw [List.cons_append, skipDigits, if_pos allDigits.1]
    exact ih allDigits.2 _

/-- Digits of a word are read as the word. -/
theorem readWhole_append (allDigits : ∀ d ∈ ds, isDigit d = true) (ends : EndsDigits tail)
    (fits : valueFrom n ds < 2 ^ 64) (p : Position) :
    ∃ p', readWhole negative (UInt64.ofNat n) p (ds ++ tail) =
      afterWhole negative (UInt64.ofNat (valueFrom n ds)) ⟨tail, p'⟩ := by
  induction ds generalizing n p with
  | nil =>
    refine ⟨p, ?_⟩
    cases tail with
    | nil => rfl
    | cons c cs =>
      rw [List.nil_append, readWhole, ends c cs rfl]
      rfl
  | cons d ds ih =>
    rw [List.forall_mem_cons] at allDigits
    have grown : 10 * n + digitValue d < 2 ^ 64 :=
      Nat.lt_of_le_of_lt (Nat.le_trans (Nat.le_mul_of_pos_right _ (Nat.pow_pos (by decide)))
        (Number.mul_pow_le_valueFrom _ ds)) fits
    have same : (UInt64.ofNat n).toNat = n := UInt64.toNat_ofNat_of_lt' (by
      show n < 2 ^ 64
      omega)
    have room : Json.fits (UInt64.ofNat n) d = true := by
      unfold Json.fits
      rw [same]
      exact decide_eq_true grown
    obtain ⟨p', read⟩ := ih allDigits.2 fits (p.after d)
    refine ⟨p', ?_⟩
    rw [List.cons_append, readWhole, if_pos allDigits.1, if_pos room, grow, same, read]
    rfl

/-- Whether some digits can stand in front of a point: zero stands alone. -/
def IsWhole (ds : List Char) : Prop :=
  (∀ d ∈ ds, isDigit d = true) ∧ ∃ c cs, ds = c :: cs ∧ (c = '0' → cs = [])

/-- The whole digits of a word are read as the word. -/
theorem readMagnitude_whole (negative : Bool) (whole : IsWhole ds) (fits : value ds < 2 ^ 64)
    (ends : EndsDigits tail) (p : Position) :
    ∃ p', readMagnitude negative ⟨ds ++ tail, p⟩ =
      afterWhole negative (UInt64.ofNat (value ds)) ⟨tail, p'⟩ := by
  obtain ⟨allDigits, c, cs, rfl, leading⟩ := whole
  rw [List.forall_mem_cons] at allDigits
  unfold readMagnitude
  rw [List.cons_append]
  dsimp only
  by_cases zero : c = '0'
  · rw [if_pos zero, leading zero, zero]
    refine ⟨p.after '0', ?_⟩
    cases tail with
    | nil => rfl
    | cons d ds =>
      rw [List.nil_append]
      dsimp only
      rw [ends d ds rfl]
      rfl
  · rw [Number.value_cons] at fits ⊢
    rw [if_neg zero, if_pos allDigits.1]
    exact readWhole_append allDigits.2 ends fits (p.after c)

/-- The digits of a number can stand in front of a point. -/
theorem isWhole_toDigits (n : Nat) : IsWhole (Nat.toDigits 10 n) := by
  refine ⟨fun d member => Number.isDigit_of_mem_toDigits member, ?_⟩
  by_cases zero : n = 0
  · exact ⟨'0', [], by rw [zero]; exact Nat.toDigits_zero 10, fun _ => rfl⟩
  · obtain ⟨d, ds, split, leading⟩ := Number.toDigits_head zero
    exact ⟨d, ds, split, fun isZero => absurd isZero leading⟩

/-- A zero can stand in front of a point. -/
theorem isWhole_zero : IsWhole ['0'] :=
  isWhole_toDigits 0

/-- A number without a sign is a magnitude. -/
theorem readNumber_digit {c : Char} {cs : List Char} (digit : isDigit c = true) (p : Position) :
    readNumber ⟨c :: cs, p⟩ = readMagnitude false ⟨c :: cs, p⟩ := by
  unfold readNumber
  split
  · rename_i minus
    rw [(List.cons.inj minus).1] at digit
    cases digit
  · rfl

/-- Whole digits that end a value are a whole number. -/
theorem afterWhole_ends (ends : EndsValue tail) :
    afterWhole negative digits ⟨tail, p⟩ = .ok (wholeNumber negative digits, ⟨tail, p⟩) := by
  cases tail with
  | nil => rfl
  | cons c cs => rcases ends c cs rfl with rfl | rfl <;> rfl

/-- The text of a word is read as the word. -/
theorem readNumber_natText {n : Nat} (word : n < 2 ^ 64) (ends : EndsValue tail) (p : Position) :
    ∃ p', readNumber ⟨(Number.natText n).toList ++ tail, p⟩ =
      .ok (.word (UInt64.ofNat n), ⟨tail, p'⟩) := by
  have whole := isWhole_toDigits n
  have worth := Number.value_toDigits n
  unfold Number.natText
  rw [String.toList_ofList]
  obtain ⟨c, cs, split, _⟩ := whole.2
  have digit : isDigit c = true := whole.1 c (by rw [split]; exact List.mem_cons_self)
  obtain ⟨p', read⟩ := readMagnitude_whole false whole (by rw [worth]; exact word)
    ends.endsDigits p
  refine ⟨p', ?_⟩
  rw [worth, afterWhole_ends ends] at read
  rw [← show wholeNumber false (UInt64.ofNat n) = .word (UInt64.ofNat n) from rfl, ← read, split]
  exact readNumber_digit digit p

/-! ## Fractions -/

/-- The word that digits are gathered in behind a word, and how many of them fit. -/
def gather (digits : UInt64) : List Char → UInt64 × Nat
  | [] => (digits, 0)
  | d :: ds =>
    if Json.fits digits d then
      let gathered := gather (grow digits d) ds
      (gathered.1, gathered.2 + 1)
    else (digits, 0)

/-- The digits of a fraction are gathered. -/
theorem readFraction_append (negative : Bool) (digits : UInt64) (exponent : Int) {read : Nat}
    (allDigits : ∀ d ∈ ds, isDigit d = true) (ends : EndsDigits tail)
    (some : read ≠ 0 ∨ ds ≠ []) (p : Position) :
    ∃ p', readFraction negative digits exponent read p (ds ++ tail) =
      afterFraction negative (gather digits ds).1
        (exponent - (read + (gather digits ds).2 : Nat)) ⟨tail, p'⟩ := by
  induction ds generalizing digits read p with
  | nil =>
    have present : read ≠ 0 := some.resolve_right fun absent => absent rfl
    refine ⟨p, ?_⟩
    cases tail with
    | nil =>
      rw [List.nil_append, readFraction, if_neg present]
      rfl
    | cons c cs =>
      rw [List.nil_append, readFraction, ends c cs rfl, if_neg Bool.false_ne_true, if_neg present]
      rfl
  | cons d ds ih =>
    obtain ⟨digit, allDigits'⟩ := List.forall_mem_cons.mp allDigits
    rw [List.cons_append, readFraction, if_pos digit, gather]
    by_cases room : Json.fits digits d = true
    · obtain ⟨p', rest⟩ := ih (grow digits d) allDigits' (.inl (Nat.succ_ne_zero read)) (p.after d)
      refine ⟨p', ?_⟩
      rw [if_pos room, if_pos room, rest]
      dsimp only
      congr 2
      omega
    · obtain ⟨p', skipped⟩ := skipDigits_append allDigits ends p
      refine ⟨p', ?_⟩
      rw [if_neg room, if_neg room, ← List.cons_append, skipped]
      rfl

/-- Digits that do not fit only make a number smaller. -/
theorem gather_le (digits : UInt64) (ds : List Char) :
    (gather digits ds).2 ≤ ds.length ∧
      (gather digits ds).1.toNat * 10 ^ (ds.length - (gather digits ds).2) ≤
        valueFrom digits.toNat ds := by
  induction ds generalizing digits with
  | nil => exact ⟨Nat.le_refl 0, Nat.le_of_eq (Nat.mul_one _)⟩
  | cons d ds ih =>
    rw [gather]
    by_cases room : Json.fits digits d = true
    · have grown : (grow digits d).toNat = 10 * digits.toNat + digitValue d :=
        UInt64.toNat_ofNat_of_lt' (of_decide_eq_true room)
      obtain ⟨few, small⟩ := ih (grow digits d)
      rw [if_pos room]
      dsimp only
      rw [grown] at small
      refine ⟨Nat.succ_le_succ few, ?_⟩
      rw [List.length_cons, Nat.add_sub_add_right]
      exact small
    · rw [if_neg room]
      exact ⟨Nat.zero_le _, Number.mul_pow_le_valueFrom _ _⟩

/-- Digits that are gathered behind a positive word keep it positive. -/
theorem gather_ne_zero (ds : List Char) (positive : digits ≠ 0) : (gather digits ds).1 ≠ 0 := by
  induction ds generalizing digits with
  | nil => exact positive
  | cons d ds ih =>
    rw [gather]
    by_cases room : Json.fits digits d = true
    · rw [if_pos room]
      refine ih fun zero => positive ?_
      have grown : (grow digits d).toNat = 10 * digits.toNat + digitValue d :=
        UInt64.toNat_ofNat_of_lt' (of_decide_eq_true room)
      rw [zero] at grown
      have none : digits.toNat = 0 := by
        have : 10 * digits.toNat + digitValue d = 0 := grown.symm
        omega
      exact UInt64.toNat_inj.mp none
    · rw [if_neg room]
      exact positive

/-- Whether a text is read as a word times a power of ten, whatever its sign and whatever ends the
value. -/
def ReadsMagnitude (body : List Char) (digits : UInt64) (exponent : Int) : Prop :=
  ∀ negative tail p, EndsValue tail → ∃ p', readMagnitude negative ⟨body ++ tail, p⟩ =
    floatFrom negative digits exponent ⟨tail, p'⟩

/-- A fraction that ends a value has its exponent. -/
theorem afterFraction_ends (ends : EndsValue tail) :
    afterFraction negative digits exponent ⟨tail, p⟩ =
      floatFrom negative digits exponent ⟨tail, p⟩ := by
  cases tail with
  | nil => rfl
  | cons c cs => rcases ends c cs rfl with rfl | rfl <;> rfl

/-- Digits around a point are read as a word that scales if there are few in front of it. -/
theorem readsMagnitude_pointed {whole fraction : List Char} (isWhole : IsWhole whole)
    (few : whole.length ≤ 16) (allDigits : ∀ d ∈ fraction, isDigit d = true)
    (present : fraction ≠ []) :
    ∃ digits exponent, Scales digits exponent ∧
      ReadsMagnitude (whole ++ '.' :: fraction) digits exponent := by
  have small : value whole < 10 ^ 16 := by
    have bound := Number.valueFrom_lt 0 isWhole.1
    rw [Nat.zero_add, Nat.one_mul] at bound
    exact Nat.lt_of_lt_of_le bound (Nat.pow_le_pow_right (by decide) few)
  refine ⟨(gather (UInt64.ofNat (value whole)) fraction).1,
    0 - (0 + (gather (UInt64.ofNat (value whole)) fraction).2 : Nat), ?_, ?_⟩
  · -- The first digit behind the point fits, so the exponent is negative.
    obtain ⟨d, ds, rfl⟩ := List.exists_cons_of_ne_nil present
    have same : (UInt64.ofNat (value whole)).toNat = value whole :=
      UInt64.toNat_ofNat_of_lt' (Nat.lt_trans small (by decide))
    have last := Number.digitValue_lt (allDigits d List.mem_cons_self)
    have room : Json.fits (UInt64.ofNat (value whole)) d = true := by
      unfold Json.fits
      rw [same]
      exact decide_eq_true (show 10 * value whole + digitValue d < 2 ^ 64 by omega)
    refine scaleByTen_negative _ ?_
    rw [gather, if_pos room]
    dsimp only
    omega
  · intro negative tail p ends
    have pointEnds : EndsDigits ('.' :: (fraction ++ tail)) := by
      rintro c cs ⟨⟩
      decide
    obtain ⟨p₁, front⟩ := readMagnitude_whole negative isWhole
      (Nat.lt_trans small (by decide)) pointEnds p
    obtain ⟨p₂, behind⟩ := readFraction_append negative (UInt64.ofNat (value whole)) 0
      allDigits ends.endsDigits (.inr present) (p₁.after '.')
    refine ⟨p₂, ?_⟩
    rw [List.append_assoc, List.cons_append, front]
    show readFraction _ _ 0 0 _ _ = _
    rw [behind, afterFraction_ends ends]

/-! ## Exponents -/

/-- The exponent that digits behind a sign stand for. -/
def signedExponent (negative : Bool) (start : Int) (n : Nat) : Int :=
  if negative then start - n else start + n

/-- Digits of a moderate exponent are read as the exponent. -/
theorem readExponentFrom_append (negative : Bool) (digits : UInt64) (start : Int)
    (negativeExponent : Bool) (allDigits : ∀ d ∈ ds, isDigit d = true) (ends : EndsDigits tail)
    (small : valueFrom n ds ≤ maxExponent) (p : Position) :
    ∃ p', readExponentFrom negative digits start negativeExponent n p (ds ++ tail) =
      floatFrom negative digits (signedExponent negativeExponent start (valueFrom n ds))
        ⟨tail, p'⟩ := by
  induction ds generalizing n p with
  | nil =>
    refine ⟨p, ?_⟩
    cases tail with
    | nil => rfl
    | cons c cs =>
      rw [List.nil_append, readExponentFrom, ends c cs rfl]
      rfl
  | cons d ds ih =>
    rw [List.forall_mem_cons] at allDigits
    have grown : 10 * n + digitValue d ≤ maxExponent :=
      Nat.le_trans (Nat.le_trans (Nat.le_mul_of_pos_right _ (Nat.pow_pos (by decide)))
        (Number.mul_pow_le_valueFrom _ ds)) small
    rw [List.cons_append, readExponentFrom, if_pos allDigits.1]
    dsimp only
    rw [if_neg (Nat.not_lt.mpr grown)]
    exact ih allDigits.2 small _

/-- The text of an exponent behind its mark. -/
def exponentChars (k : Int) : List Char :=
  (if k < 0 then '-' else '+') :: Nat.toDigits 10 k.natAbs

/-- An exponent may have a minus sign. -/
theorem readExponent_minus {c : Char} (digit : isDigit c = true) (cs : List Char) (p : Position) :
    readExponent negative digits exponent ⟨'e' :: '-' :: c :: cs, p⟩ =
      readExponentFrom negative digits exponent true (digitValue c)
        (((p.after 'e').after '-').after c) cs :=
  if_pos digit

/-- An exponent may have a plus sign. -/
theorem readExponent_plus {c : Char} (digit : isDigit c = true) (cs : List Char) (p : Position) :
    readExponent negative digits exponent ⟨'e' :: '+' :: c :: cs, p⟩ =
      readExponentFrom negative digits exponent false (digitValue c)
        (((p.after 'e').after '+').after c) cs :=
  if_pos digit

/-- The text of a moderate exponent is read as the exponent. -/
theorem readExponent_exponentChars (negative : Bool) (digits : UInt64) (exponent : Int) {k : Int}
    (small : k.natAbs ≤ maxExponent) (ends : EndsValue tail) (p : Position) :
    ∃ p', readExponent negative digits exponent ⟨'e' :: (exponentChars k ++ tail), p⟩ =
      floatFrom negative digits (exponent + k) ⟨tail, p'⟩ := by
  have worth := Number.value_toDigits k.natAbs
  obtain ⟨allDigits, c, cs, split, _⟩ := isWhole_toDigits k.natAbs
  rw [split, List.forall_mem_cons] at allDigits
  rw [split, Number.value_cons] at worth
  rw [← worth] at small
  unfold exponentChars
  rw [split, List.cons_append, List.cons_append]
  by_cases minus : k < 0
  · rw [if_pos minus, readExponent_minus allDigits.1]
    obtain ⟨p', read⟩ := readExponentFrom_append negative digits exponent true allDigits.2
      ends.endsDigits small (((p.after 'e').after '-').after c)
    have same : signedExponent true exponent k.natAbs = exponent + k := by
      show exponent - k.natAbs = exponent + k
      omega
    exact ⟨p', by rw [read, worth, same]⟩
  · rw [if_neg minus, readExponent_plus allDigits.1]
    obtain ⟨p', read⟩ := readExponentFrom_append negative digits exponent false allDigits.2
      ends.endsDigits small (((p.after 'e').after '+').after c)
    have same : signedExponent false exponent k.natAbs = exponent + k := by
      show exponent + k.natAbs = exponent + k
      omega
    exact ⟨p', by rw [read, worth, same]⟩

/-- The fraction of a number with one digit in front of its point. -/
def fractionChars : List Char → List Char
  | [] => []
  | ds => '.' :: ds

/-- A number with one digit in front of its point and an exponent is read as what is gathered of its
digits. -/
theorem readsMagnitude_scientific {c : Char} {cs : List Char} {k : Int} (digit : isDigit c = true)
    (allDigits : ∀ d ∈ cs, isDigit d = true) (small : k.natAbs ≤ maxExponent) :
    ReadsMagnitude (c :: (fractionChars cs ++ 'e' :: exponentChars k))
      (gather (UInt64.ofNat (digitValue c)) cs).1
      (k - (gather (UInt64.ofNat (digitValue c)) cs).2) := by
  intro negative tail p ends
  have whole : IsWhole [c] := ⟨by simpa using digit, c, [], rfl, fun _ => rfl⟩
  have worth : value [c] = digitValue c := Number.value_cons c []
  have last := Number.digitValue_lt digit
  have markEnds : EndsDigits ('e' :: (exponentChars k ++ tail)) := by
    rintro c cs ⟨⟩
    decide
  rw [List.cons_append, List.append_assoc, List.cons_append]
  cases cs with
  | nil =>
    obtain ⟨p₁, front⟩ := readMagnitude_whole negative whole
      (by rw [worth]; omega) markEnds p
    obtain ⟨p₂, behind⟩ := readExponent_exponentChars negative (UInt64.ofNat (value [c])) 0
      small ends p₁
    refine ⟨p₂, ?_⟩
    show readMagnitude negative ⟨[c] ++ 'e' :: (exponentChars k ++ tail), p⟩ = _
    rw [front]
    show readExponent _ _ 0 _ = _
    rw [behind, worth, zero_add, gather, Nat.cast_zero, sub_zero]
  | cons d ds =>
    have pointEnds : EndsDigits ('.' :: (d :: ds ++ 'e' :: (exponentChars k ++ tail))) := by
      rintro c cs ⟨⟩
      decide
    obtain ⟨p₁, front⟩ := readMagnitude_whole negative whole
      (by rw [worth]; omega) pointEnds p
    obtain ⟨p₂, middle⟩ := readFraction_append negative (UInt64.ofNat (value [c])) 0
      allDigits markEnds (.inr (List.cons_ne_nil d ds)) (p₁.after '.')
    obtain ⟨p₃, behind⟩ := readExponent_exponentChars negative
      (gather (UInt64.ofNat (value [c])) (d :: ds)).1
      (0 - (0 + (gather (UInt64.ofNat (value [c])) (d :: ds)).2 : Nat)) small ends p₂
    have place : 0 - ((0 + (gather (UInt64.ofNat (digitValue c)) (d :: ds)).2 : Nat) : Int) + k =
        k - (gather (UInt64.ofNat (digitValue c)) (d :: ds)).2 := by omega
    refine ⟨p₃, ?_⟩
    show readMagnitude negative ⟨[c] ++ '.' :: (d :: ds ++ 'e' :: (exponentChars k ++ tail)), p⟩ = _
    rw [front]
    show readFraction _ _ 0 0 _ _ = _
    rw [middle]
    show readExponent _ _ _ _ = _
    rw [behind, worth, place]

end QualityGates.Json
