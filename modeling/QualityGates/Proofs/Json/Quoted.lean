import QualityGates.Json.Quoted
import QualityGates.Json.String

/-!
# Quoted JSON strings are read back

Each escape is read as the character that it stands for, so a quoted string gives back its text,
whatever characters are in it and whatever follows.
-/

namespace QualityGates.Json

/-- A hexadecimal digit has its value. -/
theorem hexValue?_hexDigit {n : Nat} (small : n < 16) : hexValue? (hexDigit n) = some n :=
  (show ∀ n < 16, hexValue? (hexDigit n) = some n by decide) n small

/-- Two digits behind two zeros are read as the number below 256 that they write. -/
theorem readUnit_hexDigits {n : Nat} (small : n < 256) (rest : List Char) (p : Position) :
    ∃ p', readUnit ⟨'0' :: '0' :: hexDigit (n / 16) :: hexDigit (n % 16) :: rest, p⟩ =
      .ok (n, ⟨rest, p'⟩) := by
  have zero : hexValue? '0' = some 0 := by decide
  have high := hexValue?_hexDigit (n := n / 16) (by omega)
  have low := hexValue?_hexDigit (n := n % 16) (by omega)
  have whole : 4096 * 0 + 256 * 0 + 16 * (n / 16) + n % 16 = n := by omega
  refine ⟨⟨p.line, p.column + 4⟩, ?_⟩
  unfold readUnit
  dsimp only
  rw [zero, high, low]
  dsimp only
  rw [whole]

/-- The code of a control character is read as the character. -/
theorem readEscape_control {c : Char} (control : c.toNat < 0x20) (rest : List Char)
    (p : Position) : ∃ p', readEscape
      ⟨'u' :: '0' :: '0' :: hexDigit (c.toNat / 16) :: hexDigit (c.toNat % 16) :: rest, p⟩ =
        .ok (c, ⟨rest, p'⟩) := by
  obtain ⟨p', unit⟩ := readUnit_hexDigits (n := c.toNat) (by omega) rest (p.after 'u')
  refine ⟨p', ?_⟩
  unfold readEscape
  dsimp only [Cursor.next]
  rw [unit]
  dsimp only
  rw [if_neg (by simp; omega), if_neg (by simp; omega), charOfUnit, Char.ofNat_toNat]
  rfl

/-- An escape is read as one character. -/
theorem readStringFrom_escape {read cs : List Char} {c : Char} {p : Position} {after : Cursor}
    (fuel : Nat) (escape : readEscape ⟨cs, p.after '\\'⟩ = .ok (c, after)) :
    readStringFrom (fuel + 1) read ⟨'\\' :: cs, p⟩ = readStringFrom fuel (c :: read) after := by
  rw [readStringFrom]
  dsimp only [Cursor.next]
  rw [escape]
  rfl

/-- A character that is written as it is is read as it is. -/
theorem readStringFrom_plain {read cs : List Char} {c : Char} {p : Position} (fuel : Nat)
    (unquoted : c ≠ '"') (unescaped : c ≠ '\\') (printable : ¬ c.toNat < 0x20) :
    readStringFrom (fuel + 1) read ⟨c :: cs, p⟩ =
      readStringFrom fuel (c :: read) ⟨cs, p.after c⟩ := by
  rw [readStringFrom]
  split
  · rename_i none
    cases none
  · rename_i quotation
    exact absurd (List.cons.inj quotation).1 unquoted
  · rename_i backslash
    exact absurd (List.cons.inj backslash).1 unescaped
  · rename_i same
    cases same
    exact if_neg printable

/-- A character is read back from how it is written. -/
theorem readStringFrom_escapeChar (fuel : Nat) (read : List Char) (c : Char) (rest : List Char)
    (p : Position) : ∃ p', readStringFrom (fuel + 1) read ⟨escapeChar c ++ rest, p⟩ =
      readStringFrom fuel (c :: read) ⟨rest, p'⟩ := by
  unfold escapeChar
  by_cases quotation : c = '"'
  · subst c; exact ⟨_, rfl⟩
  by_cases backslash : c = '\\'
  · subst c; exact ⟨_, rfl⟩
  by_cases lineFeed : c = '\n'
  · subst c; exact ⟨_, rfl⟩
  by_cases carriageReturn : c = '\r'
  · subst c; exact ⟨_, rfl⟩
  by_cases tab : c = '\t'
  · subst c; exact ⟨_, rfl⟩
  by_cases backspace : c = '\x08'
  · subst c; exact ⟨_, rfl⟩
  by_cases formFeed : c = '\x0c'
  · subst c; exact ⟨_, rfl⟩
  rw [if_neg quotation, if_neg backslash, if_neg lineFeed, if_neg carriageReturn, if_neg tab,
    if_neg backspace, if_neg formFeed]
  by_cases control : c.toNat < 0x20
  · rw [if_pos control]
    obtain ⟨p', escape⟩ := readEscape_control control rest (p.after '\\')
    exact ⟨p', readStringFrom_escape fuel escape⟩
  · rw [if_neg control]
    exact ⟨_, readStringFrom_plain fuel quotation backslash control⟩

/-- The text of a quoted string is read back. -/
theorem readStringFrom_flatMap {fuel : Nat} (read cs : List Char) (rest : List Char) (p : Position)
    (enough : cs.length < fuel) :
    ∃ p', readStringFrom fuel read ⟨cs.flatMap escapeChar ++ '"' :: rest, p⟩ =
      .ok (String.ofList (read.reverse ++ cs), ⟨rest, p'⟩) := by
  induction cs generalizing fuel read p with
  | nil =>
    obtain ⟨fuel, rfl⟩ := Nat.exists_eq_succ_of_ne_zero (Nat.ne_of_gt enough)
    rw [List.append_nil]
    exact ⟨_, rfl⟩
  | cons c cs ih =>
    obtain ⟨fuel, rfl⟩ := Nat.exists_eq_succ_of_ne_zero (Nat.ne_of_gt (Nat.zero_lt_of_lt enough))
    rw [List.flatMap_cons, List.append_assoc]
    obtain ⟨p', first⟩ := readStringFrom_escapeChar fuel read c
      (cs.flatMap escapeChar ++ '"' :: rest) p
    obtain ⟨p'', others⟩ := ih (c :: read) p' (Nat.lt_of_succ_lt_succ enough)
    refine ⟨p'', ?_⟩
    rw [first, others, List.reverse_cons, List.append_assoc, List.singleton_append]

/-- Every character is written as one or more. -/
theorem length_le_flatMap (cs : List Char) : cs.length ≤ (cs.flatMap escapeChar).length := by
  have present (c : Char) : 1 ≤ (escapeChar c).length := by
    unfold escapeChar
    repeat' split
    all_goals exact Nat.le_add_left 1 _
  induction cs with
  | nil => exact Nat.le_refl 0
  | cons c cs ih =>
    rw [List.flatMap_cons, List.length_append, List.length_cons]
    have := present c
    omega

/-- A quoted string is read back after its opening quotation mark. -/
theorem readString_quoted (s : String) (rest : List Char) (p : Position) :
    ∃ p', readString ⟨s.toList.flatMap escapeChar ++ '"' :: rest, p⟩ = .ok (s, ⟨rest, p'⟩) := by
  have enough : s.toList.length < (s.toList.flatMap escapeChar ++ '"' :: rest).length + 1 := by
    have := length_le_flatMap s.toList
    rw [List.length_append, List.length_cons]
    omega
  obtain ⟨p', read⟩ := readStringFrom_flatMap [] s.toList rest p enough
  refine ⟨p', ?_⟩
  unfold readString
  rw [read, List.reverse_nil, List.nil_append, String.ofList_toList]

end QualityGates.Json
