import QualityGates.Proofs.Number.Decimal
import QualityGates.Proofs.Text.Blank
import QualityGates.Proofs.Text.DigitRuns
import QualityGates.Proofs.Text.Separated
import QualityGates.Version

/-!
# How versions are written

The strict reading takes three numbers in decimal with dots between them, as long as each number
fits in a word. The lenient one takes the same in a text with blanks around it and a mark behind the
version. Both read a version back from its own text, so versions with the same text are the same
(`readings_exact`).
-/

namespace QualityGates.Version

open Number (IsDecimal)
open Text (TrimsTo dotted)

variable {cs core rest : List Char} {major minor patch : Nat} {v w : Version}

/-- A text that consists of three numbers in decimal with dots between them. -/
def IsDotted (cs : List Char) (major minor patch : Nat) : Prop :=
  ∃ first second third, cs = dotted first second third ∧
    IsDecimal first major ∧ IsDecimal second minor ∧ IsDecimal third patch

/-- A text is cut into three pieces where it has two dots. -/
theorem pieces_eq_three_iff {first second third : List Char} :
    Text.pieces '.' cs = [first, second, third] ↔
      cs = dotted first second third ∧ '.' ∉ first ∧ '.' ∉ second ∧ '.' ∉ third := by
  have joined : ['.'].intercalate [first, second, third] = dotted first second third := by
    simp [dotted]
  rw [Text.pieces_eq_iff, joined]
  simp

/-- Numbers in decimal hold no dots. -/
theorem dot_notMem {n : Nat} (decimal : IsDecimal cs n) : '.' ∉ cs := by
  intro dot
  have digit := decimal.digits _ dot
  exact absurd digit (by decide)

/-- Reading takes exactly the three numbers of a version. -/
theorem ofChars?_eq_some_iff :
    ofChars? cs = some v ↔ IsDotted cs v.major.toNat v.minor.toNat v.patch.toNat := by
  constructor
  · intro read
    unfold ofChars? at read
    split at read
    · rename_i first second third cut
      obtain ⟨major, readMajor, read⟩ := Option.bind_eq_some_iff.mp read
      obtain ⟨minor, readMinor, read⟩ := Option.bind_eq_some_iff.mp read
      obtain ⟨patch, readPatch, read⟩ := Option.bind_eq_some_iff.mp read
      obtain rfl := Option.some.inj read
      exact ⟨first, second, third, (pieces_eq_three_iff.mp cut).1,
        Number.readWord_eq_some_iff.mp readMajor, Number.readWord_eq_some_iff.mp readMinor,
        Number.readWord_eq_some_iff.mp readPatch⟩
    · cases read
  · rintro ⟨first, second, third, split, isMajor, isMinor, isPatch⟩
    have cut : Text.pieces '.' cs = [first, second, third] :=
      pieces_eq_three_iff.mpr
        ⟨split, dot_notMem isMajor, dot_notMem isMinor, dot_notMem isPatch⟩
    unfold ofChars?
    rw [cut]
    dsimp only
    rw [Number.readWord_eq_some_iff.mpr isMajor, Number.readWord_eq_some_iff.mpr isMinor,
      Number.readWord_eq_some_iff.mpr isPatch]
    rfl

/-- The strict reading of a text is that of its characters. -/
theorem strict?_ofList : strict? (String.ofList cs) = ofChars? cs := by
  rw [strict?, String.toList_ofList]

/-- Nothing but digits and dots stands in three numbers with dots between them. -/
theorem IsDotted.digit_or_dot (written : IsDotted cs major minor patch) {c : Char}
    (member : c ∈ cs) : c.isDigit = true ∨ c = '.' := by
  obtain ⟨first, second, third, rfl, isMajor, isMinor, isPatch⟩ := written
  simp only [dotted, List.mem_append, List.mem_cons] at member
  rcases member with there | rfl | there | rfl | there
  · exact .inl (isMajor.digits c there)
  · exact .inr rfl
  · exact .inl (isMinor.digits c there)
  · exact .inr rfl
  · exact .inl (isPatch.digits c there)

/-- No number with dots is marked inside. -/
theorem IsDotted.unmarked (written : IsDotted cs major minor patch) :
    ∀ c ∈ cs, (c != '-' && c != '+') = true := by
  intro c member
  rcases written.digit_or_dot member with digit | rfl
  · rw [Bool.and_eq_true, bne_iff_ne, bne_iff_ne]
    constructor <;> rintro rfl <;> exact absurd digit (by decide)
  · decide

/-- No blank stands in three numbers with dots between them. -/
theorem IsDotted.bare (written : IsDotted cs major minor patch) :
    ∀ c ∈ cs, Text.isBlank c = false := by
  intro c member
  rcases written.digit_or_dot member with digit | rfl
  · simp only [Char.isDigit, Bool.and_eq_true, decide_eq_true_eq] at digit
    have low : 48 ≤ c.toNat := digit.1
    have high : c.toNat ≤ 57 := digit.2
    simp only [Text.isBlank, Bool.or_eq_false_iff, Bool.and_eq_false_iff, decide_eq_false_iff_not,
      beq_eq_false_iff_ne]
    omega
  · decide

/-- The first mark of a text divides what is read from the rest. -/
theorem takeWhile_unmarked (unmarked : ∀ c ∈ core, (c != '-' && c != '+') = true)
    (marked : ∀ c ∈ rest.head?, c = '-' ∨ c = '+') :
    (core ++ rest).takeWhile (fun c => c != '-' && c != '+') = core := by
  have stops : rest.takeWhile (fun c => c != '-' && c != '+') = [] := by
    cases rest with
    | nil => rfl
    | cons c rest => rcases marked c rfl with rfl | rfl <;> rfl
  rw [List.takeWhile_append_of_pos unmarked, stops, List.append_nil]

/-- The lenient reading takes a version with blanks around it and a marked text behind it. -/
theorem lenient?_eq_some_iff {s : String} : lenient? s = some v ↔
    ∃ core rest, TrimsTo s.toList (core ++ rest) ∧ strict? (String.ofList core) = some v ∧
      ∀ c ∈ rest.head?, c = '-' ∨ c = '+' := by
  constructor
  · intro read
    have trimmed := Text.trim_eq_iff.mp (Eq.refl (Text.trim s.toList))
    refine ⟨_, (Text.trim s.toList).dropWhile (fun c => c != '-' && c != '+'), ?_,
      strict?_ofList.trans read, fun c first => ?_⟩
    · rwa [List.takeWhile_append_dropWhile]
    · have stops := List.head?_dropWhile_not (fun c => c != '-' && c != '+') (Text.trim s.toList)
      rw [Option.mem_def.mp first] at stops
      rcases Bool.and_eq_false_iff.mp stops with minus | plus
      · exact .inl (bne_eq_false_iff_eq.mp minus)
      · exact .inr (bne_eq_false_iff_eq.mp plus)
  · rintro ⟨core, rest, trims, read, marked⟩
    rw [strict?_ofList] at read
    have unmarked := (ofChars?_eq_some_iff.mp read).unmarked
    rw [lenient?, Text.trim_eq_iff.mpr trims, takeWhile_unmarked unmarked marked, read]

/-- A version is written as three numbers with dots between them. -/
theorem text_dotted (v : Version) : v.text.toList =
    dotted (Number.natText v.major.toNat).toList (Number.natText v.minor.toNat).toList
      (Number.natText v.patch.toNat).toList := by
  unfold Version.text dotted
  simp

/-- The text of a version has its numbers. -/
theorem isDotted_text (v : Version) :
    IsDotted v.text.toList v.major.toNat v.minor.toNat v.patch.toNat :=
  ⟨_, _, _, v.text_dotted, Number.isDecimal_natText _, Number.isDecimal_natText _,
    Number.isDecimal_natText _⟩

/-- The strict reading takes a version back from its text. -/
theorem strict?_text (v : Version) : strict? v.text = some v :=
  ofChars?_eq_some_iff.mpr v.isDotted_text

/-- The lenient reading takes a version back from its text. -/
theorem lenient?_text (v : Version) : lenient? v.text = some v := by
  refine lenient?_eq_some_iff.mpr ⟨v.text.toList, [], ?_, ?_, nofun⟩
  · rw [List.append_nil]
    exact Text.trimsTo_self v.isDotted_text.bare
  · rw [String.ofList_toList, strict?_text]

/-- A text has no strict reading exactly when each way to see three numbers in it has one that is
too large for a word. -/
theorem strict?_eq_none_iff {s : String} : strict? s = none ↔ ∀ major minor patch,
    IsDotted s.toList major minor patch →
      2 ^ 64 - 1 < major ∨ 2 ^ 64 - 1 < minor ∨ 2 ^ 64 - 1 < patch := by
  constructor
  · intro unread major minor patch written
    by_contra small
    have fits : major < 2 ^ 64 ∧ minor < 2 ^ 64 ∧ patch < 2 ^ 64 := by omega
    have read : strict? s = some ⟨.ofNat major, .ofNat minor, .ofNat patch⟩ := by
      refine ofChars?_eq_some_iff.mpr ?_
      rwa [UInt64.toNat_ofNat_of_lt' fits.1, UInt64.toNat_ofNat_of_lt' fits.2.1,
        UInt64.toNat_ofNat_of_lt' fits.2.2]
    cases unread.symm.trans read
  · intro large
    cases read : strict? s with
    | none => rfl
    | some v =>
      have words := large _ _ _ (ofChars?_eq_some_iff.mp read)
      have major := v.major.toNat_lt
      have minor := v.minor.toNat_lt
      have patch := v.patch.toNat_lt
      omega

/-- Reading versions takes exactly what is written like one. The strict reading takes three numbers
in decimal with dots between them and refuses those of which one is above the largest word; the
lenient one drops blanks around the text and what follows the first mark; and both take a version
back from its text, which no other version has. -/
theorem readings_exact :
    (∀ (s : String) (v : Version), strict? s = some v ↔
      IsDotted s.toList v.major.toNat v.minor.toNat v.patch.toNat) ∧
    (∀ s : String, strict? s = none ↔ ∀ major minor patch, IsDotted s.toList major minor patch →
      2 ^ 64 - 1 < major ∨ 2 ^ 64 - 1 < minor ∨ 2 ^ 64 - 1 < patch) ∧
    (∀ (s : String) (v : Version), lenient? s = some v ↔
      ∃ core rest, TrimsTo s.toList (core ++ rest) ∧ strict? (String.ofList core) = some v ∧
        ∀ c ∈ rest.head?, c = '-' ∨ c = '+') ∧
    (∀ v : Version, strict? v.text = some v ∧ lenient? v.text = some v) ∧
    ∀ v w : Version, v.text = w.text ↔ v = w := by
  refine ⟨fun s v => ofChars?_eq_some_iff, fun s => strict?_eq_none_iff,
    fun s v => lenient?_eq_some_iff, fun v => ⟨strict?_text v, lenient?_text v⟩, fun v w => ?_⟩
  constructor
  · intro same
    have read := strict?_text v
    rw [same, strict?_text] at read
    exact (Option.some.inj read).symm
  · exact congrArg text

/-- A version with zeros in front, the largest word, blanks around it and a mark behind it is read
as its numbers, and one with the next number is not. -/
theorem padded_version_read :
    lenient? "\t 007.0.18446744073709551615-rc.1+b\n" = some ⟨7, 0, 18446744073709551615⟩ ∧
    strict? "7.0.18446744073709551616" = none := by
  have decimal (cs : List Char) (digits : (!cs.isEmpty && cs.all Char.isDigit) = true) :
      IsDecimal cs (Nat.ofDigits 10 (cs.reverse.map fun c => c.toNat - '0'.toNat)) := by
    rw [Bool.and_eq_true, List.all_eq_true] at digits
    exact ⟨by simpa using digits.1, digits.2, rfl⟩
  have number : strict? (String.ofList "007.0.18446744073709551615".toList) =
      some ⟨7, 0, 18446744073709551615⟩ :=
    (readings_exact.1 _ _).mpr ⟨"007".toList, "0".toList, "18446744073709551615".toList, rfl,
      decimal _ rfl, decimal _ rfl, decimal _ rfl⟩
  have trims : TrimsTo "\t 007.0.18446744073709551615-rc.1+b\n".toList
      ("007.0.18446744073709551615".toList ++ "-rc.1+b".toList) :=
    Text.trim_eq_iff.mp rfl
  have marked : ∀ c ∈ "-rc.1+b".toList.head?, c = '-' ∨ c = '+' :=
    fun c first => .inl (Option.some.inj first).symm
  exact ⟨(readings_exact.2.2.1 _ _).mpr ⟨_, _, trims, number, marked⟩, by decide +kernel⟩

end QualityGates.Version
