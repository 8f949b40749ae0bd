import QualityGates.Proofs.Rule.Structural
import QualityGates.Proofs.Text.Separated

/-!
# Type arguments and the rule for repositories

The rule for repositories looks for a comma before the first closing bracket. The arguments of a
type may be generic themselves, and then the first bracket that is closed is not that of the
repository: the rule counts the arguments that are reached by going from a type to its first
argument as often as possible. These are the arguments of the repository when the first one of them
is a plain name.
-/

namespace QualityGates

/-- A character in the name of a type. -/
def isTypeNameChar (c : Char) : Bool :=
  Text.isAlphabetic c || Text.isDecimalDigit c || c == '.'

/-- The name of a type, possibly a qualified one. -/
structure TypeName where
  chars : List Char
  nonempty : chars ≠ []
  allowed : ∀ c ∈ chars, isTypeNameChar c = true

/-- The name that is given by a text. -/
def TypeName.ofText (text : String) (nonempty : text.toList ≠ [] := by decide)
    (allowed : text.toList.all isTypeNameChar = true := by decide +kernel) : TypeName where
  chars := text.toList
  nonempty := nonempty
  allowed := List.all_eq_true.mp allowed

/-- A type as it is written in documents: a name, with arguments if it is generic. -/
inductive TypeExpr where
  | plain (name : TypeName)
  | generic (name : TypeName) (first : TypeExpr) (more : List TypeExpr)

namespace TypeExpr

mutual

/-- The written form of a type. -/
def written : TypeExpr → List Char
  | plain name => name.chars
  | generic name first more => name.chars ++ '<' :: (first.written ++ writtenBehind more ++ ['>'])

/-- The written forms of arguments behind the first one, each after a comma and a space. -/
def writtenBehind : List TypeExpr → List Char
  | [] => []
  | t :: more => ',' :: ' ' :: (t.written ++ writtenBehind more)

end

/-- A type stands somewhere in another one. -/
inductive StandsWithin (s : TypeExpr) : TypeExpr → Prop where
  | whole : StandsWithin s s
  | argument {t first : TypeExpr} {name : TypeName} {more : List TypeExpr}
      (member : t ∈ first :: more) (inner : StandsWithin s t) :
      StandsWithin s (generic name first more)

/-- Between the brackets around some arguments, a comma comes before any closing bracket. If the
first argument is generic, its own brackets are closed before. -/
def CommaFirst : (first : TypeExpr) → (more : List TypeExpr) → Prop
  | plain _, more => more ≠ []
  | generic _ first more, _ => CommaFirst first more

variable {t first : TypeExpr} {name : TypeName} {more ts : List TypeExpr}
  {before behind front x y : List Char} {c : Char}

/-- What holds of plain types, and of generic ones when it holds of their arguments, holds of all.
-/
@[induction_eliminator]
theorem induction {P : TypeExpr → Prop} (plain : ∀ name, P (plain name))
    (generic : ∀ name first more, (∀ t ∈ first :: more, P t) → P (generic name first more))
    (t : TypeExpr) : P t :=
  @TypeExpr.rec P (fun ts => ∀ t ∈ ts, P t) plain
    (fun name first more ihFirst ihMore =>
      generic name first more (List.forall_mem_cons.mpr ⟨ihFirst, ihMore⟩))
    nofun (fun _ _ ih ihs => List.forall_mem_cons.mpr ⟨ih, ihs⟩) t

/-! ## Written forms -/

/-- The characters that stand between names, and the one that ends a line. -/
def typeMarks : List Char :=
  ['<', '>', ',', ' ', '\n']

/-- No mark may be in a name. -/
theorem isTypeNameChar_of_mark (mark : c ∈ typeMarks) : isTypeNameChar c = false := by
  have none : typeMarks.all (fun c => !isTypeNameChar c) = true := by decide +kernel
  exact (Bool.not_eq_true' _).mp (List.all_eq_true.mp none c mark)

/-- No mark is in a name. -/
theorem notMem_name (mark : c ∈ typeMarks) : c ∉ name.chars :=
  fun member =>
    Bool.false_ne_true ((isTypeNameChar_of_mark mark).symm.trans (name.allowed c member))

/-- Arguments behind the first one are on one line when each of them is. -/
theorem newline_notMem_behind (whole : ∀ t ∈ ts, '\n' ∉ t.written) : '\n' ∉ writtenBehind ts := by
  induction ts with
  | nil => exact List.not_mem_nil
  | cons t ts ih =>
    rw [List.forall_mem_cons] at whole
    rw [writtenBehind]
    simp [whole.1, ih whole.2]

/-- A type is written on one line. -/
theorem newline_notMem_written (t : TypeExpr) : '\n' ∉ t.written := by
  induction t with
  | plain name => exact notMem_name (by decide)
  | generic name first more ih =>
    rw [List.forall_mem_cons] at ih
    rw [written]
    simp [notMem_name (by decide : '\n' ∈ typeMarks), ih.1, newline_notMem_behind ih.2]

/-! ## Opening brackets -/

/-- An opening bracket between two parts of a text is one in a type: in front of it stands the name
of a generic type, and behind it this type's arguments up to their closing bracket. -/
def OpensWithin (t : TypeExpr) (before behind : List Char) : Prop :=
  ∃ name first more outer after, StandsWithin (generic name first more) t ∧
    before = outer ++ name.chars ∧ (∀ c ∈ outer.getLast?, isTypeNameChar c = false) ∧
    behind = first.written ++ writtenBehind more ++ '>' :: after

/-- What stands around a type leaves its brackets as they are, if no name goes on from it into the
type. -/
theorem OpensWithin.surround (opens : OpensWithin t before behind)
    (apart : ∀ c ∈ front.getLast?, isTypeNameChar c = false) (rest : List Char) :
    OpensWithin t (front ++ before) (behind ++ rest) := by
  obtain ⟨name, first, more, outer, after, within, rfl, apart', rfl⟩ := opens
  refine ⟨name, first, more, front ++ outer, after ++ rest, within, (List.append_assoc ..).symm, ?_,
    by simp⟩
  intro c last
  rw [List.getLast?_append, Option.mem_def, Option.or_eq_some_iff] at last
  rcases last with last | ⟨_, last⟩
  · exact apart' c last
  · exact apart c last

/-- A bracket in an argument is one in the generic type. -/
theorem OpensWithin.argument (member : t ∈ first :: more) (opens : OpensWithin t before behind) :
    OpensWithin (generic name first more) before behind := by
  obtain ⟨name', first', more', outer, after, within, split⟩ := opens
  exact ⟨name', first', more', outer, after, .argument member within, split⟩

/-- A mark in a text of two parts stands in one of them. -/
theorem mark_in_append {mark : Char} (split : x ++ y = before ++ mark :: behind) :
    (∃ rest, x = before ++ mark :: rest ∧ behind = rest ++ y) ∨
      ∃ front, before = x ++ front ∧ y = front ++ mark :: behind := by
  rcases List.append_eq_append_iff.mp split with ⟨front, same, same'⟩ | ⟨rest, same, same'⟩
  · exact .inr ⟨front, same, same'⟩
  · cases rest with
    | nil => exact .inr ⟨[], by simpa using same.symm, same'.symm⟩
    | cons d rest =>
      obtain ⟨rfl, rfl⟩ := List.cons_eq_cons.mp same'
      exact .inl ⟨rest, same, rfl⟩

/-- An opening bracket between the brackets of a type is one in an argument. -/
theorem opensWithin_arguments (opens : ∀ t ∈ first :: more, ∀ {before behind},
      t.written = before ++ '<' :: behind → OpensWithin t before behind)
    (split : first.written ++ writtenBehind more = before ++ '<' :: behind) :
    ∃ t ∈ first :: more, OpensWithin t before behind := by
  induction more generalizing first before with
  | nil =>
    rw [writtenBehind, List.append_nil] at split
    exact ⟨first, List.mem_cons_self, opens first List.mem_cons_self split⟩
  | cons t ts ih =>
    rw [List.forall_mem_cons] at opens
    rcases mark_in_append split with ⟨rest, inFirst, rfl⟩ | ⟨between, rfl, inOthers⟩
    · have nothing : ∀ c ∈ ([] : List Char).getLast?, isTypeNameChar c = false := nofun
      have here := (opens.1 inFirst).surround nothing (writtenBehind (t :: ts))
      exact ⟨first, List.mem_cons_self, here⟩
    · rcases mark_in_append (x := [',', ' ']) inOthers with
        ⟨rest, inSpace, _⟩ | ⟨between, rfl, further⟩
      · have member : '<' ∈ [',', ' '] := by rw [inSpace]; simp
        exact absurd member (by decide)
      · obtain ⟨found, member, there⟩ := ih opens.2 further
        have space : ∀ c ∈ (first.written ++ [',', ' ']).getLast?, isTypeNameChar c = false := by
          simp [isTypeNameChar_of_mark (by decide : ' ' ∈ typeMarks)]
        refine ⟨found, List.mem_cons_of_mem _ member, ?_⟩
        simpa using there.surround space []

/-- Every opening bracket in a written type is one of the type. -/
theorem opensWithin_written (t : TypeExpr) : ∀ {before behind},
    t.written = before ++ '<' :: behind → OpensWithin t before behind := by
  induction t with
  | plain name =>
    intro before behind split
    have member : '<' ∈ name.chars := by rw [show name.chars = _ from split]; simp
    exact absurd member (notMem_name (by decide))
  | generic name first more ih =>
    intro before behind split
    rw [written] at split
    rcases mark_in_append split with ⟨rest, inName, _⟩ | ⟨between, rfl, inArguments⟩
    · have member : '<' ∈ name.chars := by rw [inName]; simp
      exact absurd member (notMem_name (by decide))
    · cases between with
      | nil =>
        obtain rfl : _ = behind := (List.cons_eq_cons.mp inArguments).2
        exact ⟨name, first, more, [], [], .whole, by simp, nofun, rfl⟩
      | cons d between =>
        obtain ⟨rfl, closed⟩ := List.cons_eq_cons.mp inArguments
        rcases mark_in_append closed with ⟨rest, inside, rfl⟩ | ⟨front, _, closed⟩
        · obtain ⟨t, member, opens⟩ := opensWithin_arguments ih inside
          have bracket : ∀ c ∈ (name.chars ++ ['<']).getLast?, isTypeNameChar c = false := by
            simp [isTypeNameChar_of_mark (by decide : '<' ∈ typeMarks)]
          simpa using (opens.argument member).surround bracket ['>']
        · cases front <;> simp at closed

/-- An argument is written somewhere between the brackets of its type. -/
theorem exists_written_argument (member : t ∈ first :: more) : ∃ front rest,
    first.written ++ writtenBehind more = front ++ t.written ++ rest := by
  induction more generalizing first with
  | nil =>
    obtain rfl := List.mem_singleton.mp member
    exact ⟨[], writtenBehind [], rfl⟩
  | cons next more ih =>
    rcases List.mem_cons.mp member with rfl | member
    · exact ⟨[], writtenBehind (next :: more), rfl⟩
    · obtain ⟨front, rest, split⟩ := ih member
      refine ⟨first.written ++ ',' :: ' ' :: front, rest, ?_⟩
      rw [writtenBehind, split]
      simp

/-- A generic type that stands in another one opens its arguments there. -/
theorem StandsWithin.exists_written (stands : StandsWithin (generic name first more) t) :
    ∃ outer after, t.written =
      outer ++ name.chars ++ '<' :: (first.written ++ writtenBehind more ++ '>' :: after) := by
  induction stands with
  | whole => exact ⟨[], [], by simp [written]⟩
  | @argument _ _ around _ member _ ih =>
    obtain ⟨outer, after, here⟩ := ih
    obtain ⟨front, rest, there⟩ := exists_written_argument member
    refine ⟨around.chars ++ '<' :: front ++ outer, after ++ rest ++ ['>'], ?_⟩
    rw [written, there, here]
    simp only [List.append_assoc, List.cons_append]

/-! ## The first closing bracket -/

/-- The arguments of a first argument come before those around it. -/
theorem written_generic_first (name : TypeName) (first : TypeExpr) (inner more : List TypeExpr)
    (after : List Char) :
    (generic name first inner).written ++ writtenBehind more ++ '>' :: after =
      name.chars ++ '<' :: (first.written ++ writtenBehind inner ++
        '>' :: (writtenBehind more ++ '>' :: after)) := by
  rw [written]
  simp

/-- With a comma first, there are two texts without closing brackets, one on either side of it. -/
theorem CommaFirst.exists_split (comma : CommaFirst first more) (after : List Char) :
    ∃ x y behind,
      first.written ++ writtenBehind more ++ '>' :: after = x ++ ',' :: y ++ '>' :: behind ∧
        x ≠ [] ∧ '>' ∉ x ∧ y ≠ [] ∧ '>' ∉ y := by
  induction first generalizing more after with
  | plain name =>
    obtain ⟨t, ts, rfl⟩ := List.exists_cons_of_ne_nil comma
    have closed : '>' ∈ t.written ++ writtenBehind ts ++ '>' :: after := by simp
    obtain ⟨y, behind, split, openY⟩ := List.eq_append_cons_of_mem closed
    have openName : '>' ∉ name.chars := notMem_name (by decide)
    refine ⟨name.chars, ' ' :: y, behind, ?_, name.nonempty, openName, List.cons_ne_nil _ _,
      by simpa using openY⟩
    rw [written, writtenBehind]
    simpa using split
  | generic name first inner ih =>
    obtain ⟨x, y, behind, split, _, openX, someY, openY⟩ := ih first List.mem_cons_self comma
      (writtenBehind more ++ '>' :: after)
    refine ⟨name.chars ++ '<' :: x, y, behind, ?_, by simp, ?_, someY, openY⟩
    · rw [written_generic_first, split]
      simp
    · simp [notMem_name (by decide : '>' ∈ typeMarks), openX]

/-- Otherwise there is no comma before the first closing bracket. -/
theorem exists_closed_of_not_commaFirst (single : ¬CommaFirst first more) (after : List Char) :
    ∃ cs behind, first.written ++ writtenBehind more ++ '>' :: after = cs ++ '>' :: behind ∧
      ',' ∉ cs ∧ '>' ∉ cs := by
  induction first generalizing more after with
  | plain name =>
    obtain rfl : more = [] := not_not.mp single
    exact ⟨name.chars, after, by simp [written, writtenBehind], notMem_name (by decide),
      notMem_name (by decide)⟩
  | generic name first inner ih =>
    obtain ⟨cs, behind, split, noComma, openText⟩ := ih first List.mem_cons_self single
      (writtenBehind more ++ '>' :: after)
    refine ⟨name.chars ++ '<' :: cs, behind, ?_, ?_, ?_⟩
    · rw [written_generic_first, split]
      simp
    · simp [notMem_name (by decide : ',' ∈ typeMarks), noComma]
    · simp [notMem_name (by decide : '>' ∈ typeMarks), openText]

/-- Arguments that are separated before the first closing bracket have a comma first. -/
theorem commaFirst_of_split {after : List Char}
    (split : first.written ++ writtenBehind more ++ '>' :: after = x ++ ',' :: y ++ '>' :: behind)
    (openX : '>' ∉ x) (openY : '>' ∉ y) : CommaFirst first more := by
  by_contra single
  obtain ⟨cs, rest, closed, noComma, openText⟩ := exists_closed_of_not_commaFirst single after
  have front {cs : List Char} (absent : '>' ∉ cs) (rest : List Char) :
      (Text.pieces '>' (cs ++ '>' :: rest)).head? = some cs := by
    rw [Text.pieces_append_mark, Text.pieces_of_not_mem absent]
    rfl
  have openSplit : '>' ∉ x ++ ',' :: y := by simp [openX, openY]
  have same : some cs = some (x ++ ',' :: y) := by
    rw [← front openText rest, ← closed, split, front openSplit]
  exact noComma (Option.some.inj same ▸ by simp)

/-! ## The rule for repositories -/

/-- The name of a repository. -/
def repositoryName : TypeName :=
  .ofText "MemrisRepository"

/-- A line with a repository and nothing else. -/
def repositoryLine (first : TypeExpr) (more : List TypeExpr) : String :=
  String.ofList (generic repositoryName first more).written

/-- Where the name of a repository ends with a name, it is the end of that name. -/
theorem repositoryName_suffix {outer : List Char}
    (apart : ∀ c ∈ outer.getLast?, isTypeNameChar c = false)
    (same : before ++ repositoryName.chars = outer ++ name.chars) :
    repositoryName.chars <:+ name.chars := by
  rcases List.append_eq_append_iff.mp same with ⟨front, rfl, inRepository⟩ | ⟨front, _, inName⟩
  · rcases List.eq_nil_or_concat front with rfl | ⟨init, c, rfl⟩
    · exact ⟨[], inRepository⟩
    · have last : c ∈ (before ++ init.concat c).getLast? := by simp
      have member : c ∈ repositoryName.chars := by rw [inRepository]; simp
      exact absurd (repositoryName.allowed c member) (by rw [apart c last]; decide)
  · exact ⟨front, inName.symm⟩

/-- The rule for repositories reports a line with a repository when some type in it whose name ends
like that of a repository has arguments with a comma first. -/
theorem repositoryArity_flags_repositoryLine :
    Rule.repositoryArity.flags (repositoryLine first more) = true ↔
      ∃ name inner others,
        StandsWithin (generic name inner others) (generic repositoryName first more) ∧
        repositoryName.chars <:+ name.chars ∧ CommaFirst inner others := by
  have chars : (repositoryLine first more).toList = (generic repositoryName first more).written :=
    String.toList_ofList
  have whole : '\n' ∉ (repositoryLine first more).toList := chars ▸ newline_notMem_written _
  rw [Rule.repositoryArity_flags_iff whole, Rule.SeparatesArguments, chars]
  have opening : "MemrisRepository<".toList = repositoryName.chars ++ ['<'] := rfl
  constructor
  · rintro ⟨before, x, y, behind, split, _, openX, _, openY⟩
    have opens : OpensWithin (generic repositoryName first more) (before ++ repositoryName.chars)
        (x ++ ',' :: y ++ '>' :: behind) :=
      opensWithin_written _ (by rw [split, opening]; simp)
    obtain ⟨name, inner, others, outer, after, within, sameName, apart, sameArguments⟩ := opens
    exact ⟨name, inner, others, within, repositoryName_suffix apart sameName,
      commaFirst_of_split sameArguments.symm openX openY⟩
  · rintro ⟨name, inner, others, within, ⟨front, suffix⟩, comma⟩
    obtain ⟨outer, after, here⟩ := within.exists_written
    obtain ⟨x, y, behind, split, someX, openX, someY, openY⟩ := comma.exists_split after
    refine ⟨outer ++ front, x, y, behind, ?_, someX, openX, someY, openY⟩
    rw [here, split, ← suffix, opening]
    simp

/-- Arguments that are plain names have a comma first when there are several. -/
theorem exists_commaFirst_of_plain (names : ∀ t ∈ first :: more, ∃ name, t = plain name) :
    (∃ name inner others,
        StandsWithin (generic name inner others) (generic repositoryName first more) ∧
        repositoryName.chars <:+ name.chars ∧ CommaFirst inner others) ↔ more ≠ [] := by
  obtain ⟨name, rfl⟩ := names first List.mem_cons_self
  constructor
  · rintro ⟨_, _, _, within, _, comma⟩
    cases within with
    | whole => exact comma
    | argument member inner =>
      obtain ⟨name, rfl⟩ := names _ member
      cases inner
  · intro several
    exact ⟨repositoryName, plain name, more, .whole, List.suffix_rfl, several⟩

end TypeExpr

namespace Rule

open TypeExpr

/-- The rule for repositories is among those of the drift gate, whenever these are made. It reports
a repository when several arguments stand inside the brackets that are closed first, either its own
brackets or those of a type in it whose name ends like its own. So it counts the arguments of a
repository if they are plain names. -/
theorem repositoryArity_counts_closedFirst (baseline : Option Version) (literals : List String) :
    repositoryArity ∈ forDocs baseline literals ∧
      (∀ rules, RuleSet.forDocs baseline literals = .ok rules → repositoryArity ∈ rules) ∧
      repositoryArity.id = "invalid-memrisrepository-arity" ∧
      ∀ first more,
        (repositoryArity.flags (repositoryLine first more) = true ↔
          ∃ name inner others,
            StandsWithin (generic name inner others) (generic repositoryName first more) ∧
            repositoryName.chars <:+ name.chars ∧ CommaFirst inner others) ∧
        ((∀ t ∈ first :: more, ∃ name, t = plain name) →
          (repositoryArity.flags (repositoryLine first more) = true ↔ more ≠ [])) := by
  have member : repositoryArity ∈ forDocs baseline literals := by simp [forDocs]
  have made (rules) (ok : RuleSet.forDocs baseline literals = .ok rules) :
      repositoryArity ∈ rules := by
    rw [(RuleSet.forDocs_eq_ok_iff.mp ok).2]
    exact member
  refine ⟨member, made, rfl,
    fun first more => ⟨repositoryArity_flags_repositoryLine, fun names => ?_⟩⟩
  rw [repositoryArity_flags_repositoryLine, exists_commaFirst_of_plain names]

/-- Two plain names are counted. -/
theorem plain_arguments_counted :
    (∀ t ∈ [plain (.ofText "User"), plain (.ofText "java.lang.Long")], ∃ name, t = plain name) ∧
      repositoryArity.flags
        (repositoryLine (plain (.ofText "User")) [plain (.ofText "java.lang.Long")]) = true := by
  have names : ∀ t ∈ [plain (.ofText "User"), plain (.ofText "java.lang.Long")],
      ∃ name, t = plain name := by simp
  obtain ⟨-, -, -, counts⟩ := repositoryArity_counts_closedFirst none []
  exact ⟨names, ((counts _ _).2 names).mpr (List.cons_ne_nil _ _)⟩

/-- A map as the only argument is reported, and a list as the first of two is not, so the rule does
not tell by the number of arguments. -/
theorem repositoryArity_miscounts_nested :
    ¬(∀ first more, repositoryArity.flags (repositoryLine first more) = true → more ≠ []) ∧
      ¬(∀ first more, more ≠ [] → repositoryArity.flags (repositoryLine first more) = true) := by
  constructor
  · intro several
    exact several (generic (.ofText "Map") (plain (.ofText "String")) [plain (.ofText "User")]) []
      (by decide +kernel) rfl
  · intro reported
    have flagged := reported (generic (.ofText "List") (plain (.ofText "User")) [])
      [plain (.ofText "Long")] (List.cons_ne_nil _ _)
    exact absurd flagged (by decide +kernel)

end Rule
end QualityGates
