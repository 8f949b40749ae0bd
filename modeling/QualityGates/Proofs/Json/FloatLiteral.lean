import QualityGates.Proofs.Json.Literal

/-!
# Texts of floats are read back

Every finite float has a text, and that is the literal of some float. What is read need not be the
float that was written, as a literal is read with rounding errors of its own.
-/

namespace QualityGates.Number

/-- A finite float has a significand of at most 53 bits and an exponent of moderate size. -/
theorem Binary64.ofFloat_bounds {x : Float} {negative : Bool} {significand : Nat} {exponent : Int}
    (finite : Binary64.ofFloat x = .finite negative significand exponent) :
    significand < 2 ^ 53 ∧ -1074 ≤ exponent ∧ exponent ≤ 971 := by
  unfold Binary64.ofFloat at finite
  dsimp only at finite
  have small : x.toBits.toNat / Nat.pow 2 52 % Nat.pow 2 11 < 2048 := Nat.mod_lt _ (by decide)
  have fraction : x.toBits.toNat % Nat.pow 2 52 < 4503599627370496 := Nat.mod_lt _ (by decide)
  generalize x.toBits.toNat / Nat.pow 2 52 % Nat.pow 2 11 = field at finite small
  generalize x.toBits.toNat % Nat.pow 2 52 = rest at finite fraction
  by_cases top : field = 2047
  · rw [if_pos top] at finite
    split at finite <;> cases finite
  · rw [if_neg top] at finite
    by_cases subnormal : field = 0
    · rw [if_pos subnormal] at finite
      cases finite
      exact ⟨by omega, by decide, by decide⟩
    · rw [if_neg subnormal] at finite
      cases finite
      refine ⟨?_, ?_, ?_⟩
      · show 4503599627370496 + rest < 2 ^ 53
        omega
      · show -1074 ≤ (field : Int) - 1075
        omega
      · show (field : Int) - 1075 ≤ 971
        omega

/-! ## Forms of texts -/

/-- A run of zeros is one of digits. -/
theorem isDigit_of_mem_replicate {n : Nat} {d : Char} (member : d ∈ List.replicate n '0') :
    isDigit d = true := by
  rw [(List.mem_replicate.mp member).2]
  decide

/-- Digits have no point. -/
theorem hasPoint_digits {ds : List Char} (allDigits : ∀ d ∈ ds, isDigit d = true) :
    hasPoint (String.ofList ds) = false := by
  unfold hasPoint
  rw [String.toList_ofList, ← Bool.not_eq_true, List.contains_iff_mem]
  intro member
  exact absurd (allDigits '.' member) (by decide)

end QualityGates.Number

namespace QualityGates.Json

open Number (isDigit hasPoint positional scientific shortest)

variable {digits : List Char} {point : Int}

/-- Whether a text has digits on both sides of a point, and few in front of it. -/
def IsPointed (text : List Char) : Prop :=
  ∃ whole fraction, text = whole ++ '.' :: fraction ∧ IsWhole whole ∧ whole.length ≤ 16 ∧
    (∀ d ∈ fraction, isDigit d = true) ∧ fraction ≠ []

/-- The text of digits in positional notation, with a fraction. -/
def pointedDigits (digits : List Char) (point : Int) : String :=
  if hasPoint (positional digits point) then positional digits point
  else positional digits point ++ ".0"

/-- A text with a point is left alone. -/
theorem pointedDigits_of_point {front behind : List Char}
    (split : (positional digits point).toList = front ++ '.' :: behind) :
    (pointedDigits digits point).toList = front ++ '.' :: behind := by
  have point : hasPoint (positional digits point) = true := by
    unfold hasPoint
    rw [split, List.contains_iff_mem]
    exact List.mem_append_right _ List.mem_cons_self
  unfold pointedDigits
  rw [if_pos point, split]

/-- Digits alone get a fraction. -/
theorem pointedDigits_of_digits {ds : List Char} (allDigits : ∀ d ∈ ds, isDigit d = true)
    (whole : positional digits point = String.ofList ds) :
    (pointedDigits digits point).toList = ds ++ '.' :: ['0'] := by
  unfold pointedDigits
  rw [whole, Number.hasPoint_digits allDigits, if_neg Bool.false_ne_true, String.toList_append,
    String.toList_ofList]
  rfl

/-- The digits of a positive number have a text with digits on both sides of a point if the point is
not far behind them. -/
theorem isPointed_pointedDigits {d : Char} {ds : List Char}
    (allDigits : ∀ c ∈ d :: ds, isDigit c = true) (leading : d ≠ '0') (few : point ≤ 16) :
    IsPointed (pointedDigits (d :: ds) point).toList := by
  by_cases small : point ≤ 0
  · refine ⟨['0'], List.replicate (-point).toNat '0' ++ (d :: ds), ?_,
      isWhole_zero, by decide, ?_, List.append_ne_nil_of_right_ne_nil _ (List.cons_ne_nil d ds)⟩
    · refine pointedDigits_of_point ?_
      unfold positional Number.zeros
      rw [if_pos small]
      simp only [String.toList_append, String.toList_ofList]
      rfl
    · intro c member
      rcases List.mem_append.mp member with zero | digit
      · exact Number.isDigit_of_mem_replicate zero
      · exact allDigits c digit
  · by_cases whole : (d :: ds).length ≤ point.toNat
    · have padded : ∀ c ∈ d :: ds ++ List.replicate (point.toNat - (d :: ds).length) '0',
          isDigit c = true := by
        intro c member
        rcases List.mem_append.mp member with digit | zero
        · exact allDigits c digit
        · exact Number.isDigit_of_mem_replicate zero
      refine ⟨_, ['0'], pointedDigits_of_digits padded ?_, ⟨padded, d, _, rfl, fun zero =>
        absurd zero leading⟩, ?_, isWhole_zero.1, List.cons_ne_nil _ _⟩
      · unfold positional Number.zeros
        rw [if_neg small, if_pos whole, String.ofList_append]
      · rw [List.length_append, List.length_replicate]
        omega
    · refine ⟨(d :: ds).take point.toNat, (d :: ds).drop point.toNat, ?_, ⟨?_, ?_⟩, ?_, ?_, ?_⟩
      · refine pointedDigits_of_point ?_
        unfold positional
        rw [if_neg small, if_neg whole]
        simp only [String.toList_append, String.toList_ofList, List.append_assoc]
        rfl
      · exact fun c member => allDigits c (List.mem_of_mem_take member)
      · obtain ⟨n, there⟩ : ∃ n, point.toNat = n + 1 := ⟨point.toNat - 1, by omega⟩
        rw [there]
        exact ⟨d, ds.take n, rfl, fun zero => absurd zero leading⟩
      · rw [List.length_take]
        omega
      · exact fun c member => allDigits c (List.mem_of_mem_drop member)
      · intro none
        exact whole (List.drop_eq_nil_iff.mp none)

/-- The digits of a positive number with an exponent have one digit in front of their point. -/
theorem scientific_toList (d : Char) (ds : List Char) (point : Int) :
    (scientific (d :: ds) point).toList =
      d :: (fractionChars ds ++ 'e' :: exponentChars (point - 1)) := by
  unfold scientific exponentChars Number.natText
  have sign : (if point - 1 < 0 then "-" else "+").toList =
      [if point - 1 < 0 then '-' else '+'] := by split <;> rfl
  cases ds with
  | nil =>
    simp only [String.toList_append, String.toList_ofList, sign]
    rfl
  | cons c cs =>
    show (String.ofList [d] ++ ("." ++ String.ofList (c :: cs)) ++ "e" ++ _ ++ _).toList = _
    simp only [String.toList_append, String.toList_ofList, sign, List.append_assoc]
    rfl

/-! ## Shortest texts -/

variable {significand : Nat} {exponent : Int}

/-- The first digit of a positive number is worth something. -/
theorem digitValue_ne_zero {d : Char} (digit : isDigit d = true) (leading : d ≠ '0') :
    UInt64.ofNat (Number.digitValue d) ≠ 0 := by
  have small := Number.digitValue_lt digit
  have same : (UInt64.ofNat (Number.digitValue d)).toNat = Number.digitValue d :=
    UInt64.toNat_ofNat_of_lt' (by show _ < 2 ^ 64; omega)
  intro zero
  rw [zero] at same
  have none : d.toNat - '0'.toNat = 0 := same.symm
  have low : '0'.toNat ≤ d.toNat := (Bool.and_eq_true_iff.mp digit).1 |> of_decide_eq_true
  exact leading (Char.toNat_inj.mp (by omega))

/-- Digits that all fit scale where their word does. -/
theorem scales_of_gathered {d : Char} {ds : List Char} {n : UInt64} {k : Nat}
    (gathered : gather (UInt64.ofNat (Number.digitValue d)) ds = (n, ds.length)) (few : k ≤ 308)
    (finite : (n.toFloat * powerOfTen k).isInf = false) :
    Scales (gather (UInt64.ofNat (Number.digitValue d)) ds).1
      (ds.length + k - (gather (UInt64.ofNat (Number.digitValue d)) ds).2) := by
  rw [gathered, add_sub_cancel_left]
  exact scales_of_finite few finite

/-- What is gathered of the digits of one of the two largest floats scales. -/
theorem scales_gather_largest {d : Char} {ds : List Char}
    (largest : significand = 2 ^ 53 - 2 ∨ significand = 2 ^ 53 - 1)
    (split : Nat.toDigits 10 (shortest .even significand 971).digits = d :: ds) :
    Scales (gather (UInt64.ofNat (Number.digitValue d)) ds).1
      (ds.length + (shortest .even significand 971).exponent -
        (gather (UInt64.ofNat (Number.digitValue d)) ds).2) := by
  obtain rfl | rfl := largest
  · have decimal : shortest .even (2 ^ 53 - 2) 971 = ⟨17976931348623155, 292⟩ := by
      decide +kernel
    rw [decimal] at split ⊢
    have written : Nat.toDigits 10 17976931348623155 = '1' :: "7976931348623155".toList := by
      decide +kernel
    obtain ⟨rfl, rfl⟩ := List.cons.inj (split.symm.trans written)
    exact scales_of_gathered (n := 17976931348623155) (k := 292) (by decide +kernel) (by decide)
      (by decide +kernel)
  · have decimal : shortest .even (2 ^ 53 - 1) 971 = ⟨17976931348623157, 292⟩ := by
      decide +kernel
    rw [decimal] at split ⊢
    have written : Nat.toDigits 10 17976931348623157 = '1' :: "7976931348623157".toList := by
      decide +kernel
    obtain ⟨rfl, rfl⟩ := List.cons.inj (split.symm.trans written)
    exact scales_of_gathered (n := 17976931348623157) (k := 292) (by decide +kernel) (by decide)
      (by decide +kernel)

/-- What is gathered of the digits of a float scales. The two largest floats are so close to the
overflow that only their own digits can tell. -/
theorem scales_gather {d : Char} {ds : List Char} (present : 0 < significand)
    (high : significand < 2 ^ 53) (least : -1074 ≤ exponent) (most : exponent ≤ 971)
    (split : Nat.toDigits 10 (shortest .even significand exponent).digits = d :: ds)
    (leading : d ≠ '0') :
    Scales (gather (UInt64.ofNat (Number.digitValue d)) ds).1
      (ds.length + (shortest .even significand exponent).exponent -
        (gather (UInt64.ofNat (Number.digitValue d)) ds).2) := by
  by_cases largest : exponent = 971 ∧ 2 ^ 53 - 2 ≤ significand
  · obtain ⟨rfl, large⟩ := largest
    exact scales_gather_largest (by omega) split
  · have digit : isDigit d = true :=
      Number.isDigit_of_mem_toDigits (by rw [split]; exact List.mem_cons_self)
    have last := Number.digitValue_lt digit
    have worth := Number.value_toDigits (shortest .even significand exponent).digits
    have same : (UInt64.ofNat (Number.digitValue d)).toNat = Number.digitValue d :=
      UInt64.toNat_ofNat_of_lt' (by show _ < 2 ^ 64; omega)
    obtain ⟨few, smaller⟩ := gather_le (UInt64.ofNat (Number.digitValue d)) ds
    rw [split, Number.value_cons] at worth
    rw [same, worth] at smaller
    refine scales_of_lt (gather_ne_zero ds (digitValue_ne_zero digit leading)) ?_
    refine lt_of_le_of_lt ?_
      (Number.shortest_lt_overflow present high least most fun top => by omega)
    generalize (shortest .even significand exponent).exponent = e
    generalize (shortest .even significand exponent).digits = n at smaller
    generalize gather (UInt64.ofNat (Number.digitValue d)) ds = gathered at few smaller ⊢
    have cast : (gathered.1.toNat : ℚ) * 10 ^ (ds.length - gathered.2) ≤ n := by
      exact_mod_cast smaller
    have power : (10 : ℚ) ^ (ds.length + e - gathered.2) =
        10 ^ (ds.length - gathered.2) * 10 ^ e := by
      rw [← zpow_natCast, ← zpow_add₀ (by norm_num)]
      congr 1
      omega
    refine mul_le_mul_of_nonneg_right ?_ (by positivity)
    rw [power, ← mul_assoc]
    exact mul_le_mul_of_nonneg_right cast (by positivity)

/-- The first digits of a float do not stand far from its point. -/
theorem exponent_small {d : Char} {ds : List Char} (present : 0 < significand)
    (high : significand < 2 ^ 53) (least : -1074 ≤ exponent) (most : exponent ≤ 971)
    (split : Nat.toDigits 10 (shortest .even significand exponent).digits = d :: ds)
    (leading : d ≠ '0') :
    (ds.length + (shortest .even significand exponent).exponent).natAbs ≤ maxExponent := by
  have lower := Number.exponent_shortest .even present high least most
  have bounded := Number.shortest_le_overflow present high least most
  have worth := Number.value_toDigits (shortest .even significand exponent).digits
  have digit : isDigit d = true :=
    Number.isDigit_of_mem_toDigits (by rw [split]; exact List.mem_cons_self)
  have first : 1 ≤ Number.digitValue d := by
    refine Nat.pos_of_ne_zero fun zero => digitValue_ne_zero digit leading ?_
    rw [zero]
    rfl
  rw [split, Number.value_cons] at worth
  generalize (shortest .even significand exponent).exponent = e at lower bounded ⊢
  generalize (shortest .even significand exponent).digits = n at bounded worth
  suffices upper : ds.length + e ≤ 308 by
    show _ ≤ 2147483647
    omega
  by_contra large
  have long : 10 ^ ds.length ≤ n := by
    rw [← worth]
    exact Nat.le_trans (Nat.le_mul_of_pos_left _ first) (Number.mul_pow_le_valueFrom _ _)
  have cast : (10 : ℚ) ^ ds.length ≤ n := by exact_mod_cast long
  have power : ((1 : Nat) : ℚ) * 10 ^ (ds.length + e).toNat = 10 ^ ds.length * 10 ^ e := by
    rw [Nat.cast_one, one_mul, ← zpow_natCast, ← zpow_natCast, ← zpow_add₀ (by norm_num)]
    congr 1
    omega
  have few := exponent_le Nat.one_pos (power.trans_le
    ((mul_le_mul_of_nonneg_right cast (by positivity)).trans bounded))
  omega

/-- Whether a text is the magnitude of some float. -/
structure IsMagnitude (body : List Char) : Prop where
  /-- The text starts with a digit. -/
  starts : ∃ c cs, body = c :: cs ∧ isDigit c = true
  /-- The text is read as a word that scales. -/
  reads : ∃ digits exponent, Scales digits exponent ∧ ReadsMagnitude body digits exponent

/-- Digits on both sides of a point are a magnitude. -/
theorem IsPointed.isMagnitude {body : List Char} (pointed : IsPointed body) : IsMagnitude body := by
  obtain ⟨whole, fraction, rfl, isWhole, few, allDigits, present⟩ := pointed
  obtain ⟨c, cs, split, _⟩ := isWhole.2
  refine ⟨⟨c, cs ++ '.' :: fraction, ?_, ?_⟩, readsMagnitude_pointed isWhole few allDigits present⟩
  · rw [split, List.cons_append]
  · exact isWhole.1 c (by rw [split]; exact List.mem_cons_self)

/-- The shortest text of a positive float without its sign. -/
def shortestBody (significand : Nat) (exponent : Int) : String :=
  let (digits, point) := Number.shortestDigits .even significand exponent
  if -5 < point && point ≤ 16 then pointedDigits digits point else scientific digits point

/-- The shortest text of a positive float is a magnitude. -/
theorem isMagnitude_shortestBody (present : 0 < significand) (high : significand < 2 ^ 53)
    (least : -1074 ≤ exponent) (most : exponent ≤ 971) :
    IsMagnitude (shortestBody significand exponent).toList := by
  have positive := (Number.covers_shortest .even present high least most).1
  obtain ⟨d, ds, split, leading⟩ := Number.toDigits_head (Nat.ne_of_gt positive)
  have allDigits : ∀ c ∈ d :: ds, isDigit c = true := by
    rw [← split]
    exact fun c member => Number.isDigit_of_mem_toDigits member
  unfold shortestBody Number.shortestDigits
  dsimp only
  rw [split]
  by_cases near : (decide (-5 < ((d :: ds).length : Int) +
      (shortest .even significand exponent).exponent) &&
    decide (((d :: ds).length : Int) + (shortest .even significand exponent).exponent ≤ 16)) = true
  · rw [if_pos near]
    rw [Bool.and_eq_true, decide_eq_true_iff, decide_eq_true_iff] at near
    exact (isPointed_pointedDigits allDigits leading near.2).isMagnitude
  · rw [if_neg near, scientific_toList]
    have place : ((d :: ds).length : Int) + (shortest .even significand exponent).exponent - 1 =
        ds.length + (shortest .even significand exponent).exponent := by
      rw [List.length_cons]
      omega
    rw [place]
    rw [List.forall_mem_cons] at allDigits
    exact ⟨⟨d, _, rfl, allDigits.1⟩, _, _,
      scales_gather present high least most split leading,
      readsMagnitude_scientific allDigits.1 allDigits.2
        (exponent_small present high least most split leading)⟩

/-- Whether a text is the literal of a float. -/
structure IsFloatLiteral (text : List Char) (x : Float) : Prop where
  /-- The text starts with a minus sign or a digit. -/
  starts : ∃ c cs, text = c :: cs ∧ (c = '-' ∨ isDigit c = true)
  /-- The text is read as the float, whatever ends the value. -/
  reads : ∀ tail p, EndsValue tail →
    ∃ p', readNumber ⟨text ++ tail, p⟩ = .ok (.float x, ⟨tail, p'⟩)

/-- A magnitude with a sign is the literal of some float. -/
theorem IsMagnitude.isFloatLiteral {body : List Char} (magnitude : IsMagnitude body)
    (negative : Bool) : ∃ x, IsFloatLiteral ((Number.signText negative).toList ++ body) x := by
  obtain ⟨digits, exponent, ⟨scaled, scales⟩, reads⟩ := magnitude.reads
  have gives (tail : List Char) (p : Position) (ends : EndsValue tail) :
      ∃ p', readMagnitude negative ⟨body ++ tail, p⟩ =
        .ok (.float (signed negative scaled), ⟨tail, p'⟩) := by
    obtain ⟨p', read⟩ := reads negative tail p ends
    refine ⟨p', ?_⟩
    rw [read]
    unfold floatFrom
    rw [scales]
  refine ⟨signed negative scaled, ?_⟩
  cases negative with
  | true => exact ⟨⟨'-', body, rfl, .inl rfl⟩, fun tail p => gives tail (p.after '-')⟩
  | false =>
    obtain ⟨c, cs, rfl, digit⟩ := magnitude.starts
    refine ⟨⟨c, cs, rfl, .inr digit⟩, fun tail p ends => ?_⟩
    show ∃ p', readNumber ⟨c :: (cs ++ tail), p⟩ = _
    rw [readNumber_digit digit]
    exact gives tail p ends

/-- The text of a float is the literal of some float. -/
theorem isFloatLiteral_reportText? {x : Float} {text : String}
    (written : Number.reportText? x = some text) : ∃ y, IsFloatLiteral text.toList y := by
  unfold Number.reportText? at written
  split at written
  · rename_i negative significand exponent finite
    obtain ⟨high, least, most⟩ := Number.Binary64.ofFloat_bounds finite
    by_cases zero : significand = 0
    · rw [if_pos zero] at written
      cases written
      have pointed : IsPointed "0.0".toList :=
        ⟨['0'], ['0'], rfl, isWhole_zero, by decide, isWhole_zero.1, by decide⟩
      rw [String.toList_append]
      exact pointed.isMagnitude.isFloatLiteral negative
    · rw [if_neg zero] at written
      cases written
      rw [String.toList_append]
      exact (isMagnitude_shortestBody (Nat.pos_of_ne_zero zero) high least most).isFloatLiteral
        negative
  · cases written

end QualityGates.Json
