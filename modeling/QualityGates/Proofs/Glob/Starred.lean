import QualityGates.Glob.Reader
import QualityGates.Proofs.Glob.Matching
import QualityGates.Proofs.Text.Encoded
import QualityGates.Proofs.Text.Separated

/-!
# Globs of literal characters and stars

A pattern of literal characters and single stars is always a glob. Globs are matched against bytes,
but between two stars, or a star and an end, stand whole characters, so such a glob takes a path
exactly when characters can be put in place of each star to give it (`mem_rests_starred_iff`).
-/

namespace QualityGates.Glob

/-- A character that stands for itself in a glob wherever no brace is open. -/
def isLiteral (c : Char) : Bool :=
  !(['*', '?', '[', ']', '\x7b', '\x7d', '\\'].contains c)

/-- A pattern of literal characters and stars, of which no two are adjacent. -/
structure IsStarred (pattern : List Char) : Prop where
  plain : ∀ c ∈ pattern, c = '*' ∨ isLiteral c = true
  apart : ¬ ['*', '*'] <:+: pattern

/-- The token of a character of such a pattern. -/
def starredToken (c : Char) : GlobToken :=
  if c = '*' then .star else .literal c

/-- The tokens of such a pattern. -/
def starred (pattern : List Char) : Glob :=
  pattern.map starredToken

variable {c : Char} {cs pattern path : List Char}

/-- What is left of a pattern without its first character is one as well. -/
theorem IsStarred.tail (starred : IsStarred (c :: cs)) : IsStarred cs :=
  ⟨fun d member => starred.plain d (List.mem_cons_of_mem c member),
    fun stars => starred.apart (stars.trans (List.suffix_cons c cs).isInfix)⟩

/-- No star follows a star. -/
theorem IsStarred.ne_star (starred : IsStarred ('*' :: c :: cs)) : c ≠ '*' := by
  rintro rfl
  exact starred.apart ⟨[], cs, rfl⟩

/-! ## Reading -/

/-- Outside of groups, a literal character is read as itself. -/
theorem read_literal {p : Progress} {previous : Option Char} (literal : isLiteral c = true)
    (ungrouped : p.groups = []) : read p previous .plain (c :: cs) =
      read (p.push (.literal c)) (some c) .plain cs := by
  have ne : ∀ d ∈ ['*', '?', '[', ']', '\x7b', '\x7d', '\\'], c ≠ d := by
    intro d member same
    unfold isLiteral at literal
    rw [same, List.contains_iff_mem.mpr member] at literal
    cases literal
  by_cases comma : c = ','
  · rw [comma, read, Progress.comma, ungrouped]
  · rw [read]
    · exact fun _ star _ => ne '*' (by simp) star
    all_goals first | exact comma | exact ne _ (by simp)

/-- Outside of groups, a pattern of literal characters and single stars is read as its tokens. -/
theorem read_starred {p : Progress} {previous : Option Char} (stars : IsStarred cs)
    (ungrouped : p.groups = []) :
    read p previous .plain cs = .ok (p.current.reverse ++ starred cs) := by
  induction cs generalizing p previous with
  | nil =>
    rw [read, ungrouped]
    exact congrArg Except.ok (List.append_nil _).symm
  | cons c cs ih =>
    have step (token : GlobToken) (here : starredToken c = token) :
        read (p.push token) (some c) .plain cs =
          .ok (p.current.reverse ++ starred (c :: cs)) := by
      have ungrouped : (p.push token).groups = [] := ungrouped
      rw [ih stars.tail ungrouped, Progress.push, List.reverse_cons, List.append_assoc, starred,
        starred, List.map_cons, here, List.singleton_append]
    by_cases star : c = '*'
    · subst star
      rw [read, step .star rfl]
      rintro more rfl
      exact stars.ne_star rfl
    · have literal := (stars.plain c List.mem_cons_self).resolve_left star
      rw [read_literal literal ungrouped, step (.literal c) (if_neg star)]

/-- A pattern of literal characters and single stars is a glob. -/
theorem ofText_starred {pattern : String} (stars : IsStarred pattern.toList) :
    ofText pattern = .ok (starred pattern.toList) :=
  read_starred stars rfl

/-! ## Matching -/

/-- The texts that are given by pieces when any text may be put between two of them. -/
inductive Fills : List (List Char) → List Char → Prop where
  | last (piece : List Char) : Fills [piece] piece
  | gap (piece between : List Char) {pieces : List (List Char)} {rest : List Char}
    (more : Fills pieces rest) : Fills (piece :: pieces) (piece ++ between ++ rest)

/-- Only the empty text is given by no pattern. -/
theorem fills_nil_iff : Fills (Text.pieces '*' []) path ↔ path = [] := by
  constructor
  · rintro (_ | ⟨_, _, ⟨⟩⟩)
    rfl
  · rintro rfl
    exact .last []

/-- In place of a star, any text may stand in front of what the rest of a pattern gives. -/
theorem fills_star_iff : Fills (Text.pieces '*' ('*' :: cs)) path ↔
    ∃ between rest, path = between ++ rest ∧ Fills (Text.pieces '*' cs) rest := by
  rw [Text.pieces_cons, if_pos rfl]
  constructor
  · intro fills
    cases pieces : Text.pieces '*' cs with
    | nil => exact absurd pieces (Text.pieces_ne_nil '*' cs)
    | cons piece more =>
      rw [pieces] at fills
      cases fills with
      | gap _ between given => exact ⟨between, _, rfl, given⟩
  · rintro ⟨between, rest, rfl, given⟩
    exact .gap [] between given

/-- A literal character is the first one of what its pattern gives. -/
theorem fills_literal_iff (literal : c ≠ '*') : Fills (Text.pieces '*' (c :: cs)) path ↔
    ∃ rest, path = c :: rest ∧ Fills (Text.pieces '*' cs) rest := by
  rw [Text.pieces_cons, if_neg literal]
  cases pieces : Text.pieces '*' cs with
  | nil => exact absurd pieces (Text.pieces_ne_nil '*' cs)
  | cons piece more =>
    rw [List.headD_cons, List.tail_cons]
    constructor
    · intro fills
      cases fills with
      | last => exact ⟨piece, rfl, .last piece⟩
      | gap _ between given => exact ⟨_, rfl, .gap piece between given⟩
    · rintro ⟨rest, rfl, fills⟩
      cases fills with
      | last => exact .last (c :: piece)
      | gap _ between given => exact .gap (c :: piece) between given

/-- The bytes of a character in a glob are those of the character in a text. -/
theorem charBytes_eq (c : Char) : charBytes c = String.utf8EncodeChar c := by
  unfold charBytes
  rw [Text.toUTF8_eq_encoded, String.toList_singleton, Text.encoded_cons]
  exact List.append_nil _

/-- What is left for a pattern behind a star starts a character, if the pattern takes all of it. -/
theorem starts_of_taken {bytes : List UInt8} (stars : IsStarred ('*' :: cs))
    (taken : [] ∈ rests (starred cs) [bytes]) : Text.Starts bytes := by
  cases cs with
  | nil =>
    obtain rfl := mem_rests_nil_iff.mp taken
    exact nofun
  | cons c cs =>
    have token : starredToken c = .literal c := if_neg stars.ne_star
    rw [starred, List.map_cons, token, mem_rests_cons_iff] at taken
    obtain ⟨next, first, _⟩ := taken
    rw [mem_literal_iff, charBytes_eq] at first
    exact first ▸ Text.starts_character c next

/-- The tokens of a pattern of literal characters and single stars take all of a path exactly when
the path is given by the literal pieces of the pattern with some text in place of each star. -/
theorem mem_rests_starred_iff (stars : IsStarred pattern) :
    [] ∈ rests (starred pattern) [Text.encoded path] ↔ Fills (Text.pieces '*' pattern) path := by
  induction pattern generalizing path with
  | nil =>
    have empty : Text.encoded [] = [] := rfl
    rw [fills_nil_iff, starred, List.map_nil, mem_rests_nil_iff, ← empty, Text.encoded_inj, eq_comm]
  | cons c cs ih =>
    rw [starred, List.map_cons, mem_rests_cons_iff]
    by_cases star : c = '*'
    · subst star
      rw [fills_star_iff, show starredToken '*' = .star from rfl]
      simp only [mem_star_iff]
      constructor
      · rintro ⟨bytes, ⟨front, split⟩, taken⟩
        -- A star may end inside of a character, but then no literal can follow it.
        obtain ⟨between, rest, rfl, _, rfl⟩ :=
          Text.encoded_cut split (starts_of_taken stars taken)
        exact ⟨between, rest, rfl, (ih stars.tail).mp taken⟩
      · rintro ⟨between, rest, rfl, fills⟩
        exact ⟨Text.encoded rest, ⟨_, Text.encoded_append between rest⟩, (ih stars.tail).mpr fills⟩
    · rw [fills_literal_iff star, show starredToken c = .literal c from if_neg star]
      simp only [mem_literal_iff, charBytes_eq, Text.encoded_eq_append_iff]
      constructor
      · rintro ⟨_, ⟨rest, rfl, rfl⟩, taken⟩
        exact ⟨rest, rfl, (ih stars.tail).mp taken⟩
      · rintro ⟨rest, rfl, fills⟩
        exact ⟨Text.encoded rest, ⟨rest, rfl, rfl⟩, (ih stars.tail).mpr fills⟩

/-! ## Names of files -/

/-- Whether a pattern of literal characters and stars asks for the name of a file: it ends in a dot
behind a star, with more than the dot between them only if something stands in front of the star. -/
def AsksForName (pattern : List Char) : Prop :=
  pattern = ['*', '.'] ∨ pattern.getLast? = some '.' ∧ '*' ∈ pattern.tail

/-- Whether the last component of a path is `..`, which is the name of no file. -/
def EndsInParent (path : List Char) : Prop :=
  path = ['.', '.'] ∨ ['/', '.', '.'] <:+ path

/-- A pattern is fixed text when there is no star in it. -/
theorem isFixed_starred : isFixed (starred cs) = true ↔ '*' ∉ cs := by
  unfold isFixed starred
  rw [List.all_map, List.all_eq_true]
  constructor
  · exact fun fixed member => Bool.false_ne_true (fixed '*' member)
  · intro absent c member
    have literal : starredToken c = .literal c :=
      if_neg fun star : c = '*' => absent (star ▸ member)
    rw [Function.comp_apply, literal]

/-- Only a dot has the token of a dot. -/
theorem starredToken_eq_dot_iff : starredToken c = .literal '.' ↔ c = '.' := by
  unfold starredToken
  by_cases star : c = '*'
  · rw [if_pos star, star]
    exact ⟨nofun, fun dot => absurd dot (by decide)⟩
  · rw [if_neg star, GlobToken.literal.injEq]

/-- A glob ends in a dot when its last token is one. -/
theorem endsInDot_iff {glob : Glob} :
    endsInDot glob = true ↔ glob.getLast? = some (.literal '.') := by
  unfold endsInDot
  split
  · rename_i last
    exact ⟨fun _ => last, fun _ => rfl⟩
  · rename_i other
    exact ⟨nofun, fun last => absurd last other⟩

/-- A pattern ends in the token of a dot when it ends in a dot. -/
theorem endsInDot_starred : endsInDot (starred cs) = true ↔ cs.getLast? = some '.' := by
  rw [endsInDot_iff, starred, List.getLast?_map, Option.map_eq_some_iff]
  simp only [starredToken_eq_dot_iff, exists_eq_right]

/-- What stands behind a first star asks for a name when it is a bare dot, or ends in a dot and is
not fixed. -/
theorem asksForName_star {glob : Glob} : asksForName (.star :: glob) = true ↔
    glob = [.literal '.'] ∨ endsInDot glob = true ∧ isFixed glob = false := by
  by_cases bare : glob = [.literal '.']
  · exact ⟨fun _ => .inl bare, fun _ => by rw [bare]; rfl⟩
  · rw [asksForName, Bool.and_eq_true, Bool.not_eq_true', or_iff_right bare]
    exact bare

/-- A pattern of literal characters and stars asks for a name as its tokens do. -/
theorem asksForName_starred : asksForName (starred cs) = true ↔ AsksForName cs := by
  unfold AsksForName
  cases cs with
  | nil => exact ⟨nofun, by simp⟩
  | cons c cs =>
    rw [List.tail_cons]
    by_cases star : c = '*'
    · subst star
      have bare : starred cs = [.literal '.'] ↔ '*' :: cs = ['*', '.'] := by
        rw [starred, List.map_eq_singleton_iff]
        simp [starredToken_eq_dot_iff]
      have last (member : '*' ∈ cs) : ('*' :: cs).getLast? = cs.getLast? :=
        List.getLast?_cons_of_ne_nil (List.ne_nil_of_mem member)
      rw [show starred ('*' :: cs) = .star :: starred cs from rfl, asksForName_star, bare,
        endsInDot_starred, ← Bool.not_eq_true, isFixed_starred, not_not]
      exact or_congr_right (and_congr_left fun member => by rw [last member])
    · have token : starred (c :: cs) = .literal c :: starred cs :=
        congrArg (· :: starred cs) (if_neg star)
      have asks : asksForName (starred (c :: cs)) =
          (endsInDot (starred (c :: cs)) && !isFixed (starred (c :: cs))) := by
        rw [token]
        rfl
      have other : c :: cs ≠ ['*', '.'] := fun same => star (List.cons.inj same).1
      rw [asks, Bool.and_eq_true, Bool.not_eq_true', endsInDot_starred, ← Bool.not_eq_true,
        isFixed_starred, not_not, List.mem_cons, or_iff_right (Ne.symm star), or_iff_right other]

/-- What stands in front of a separator, read backwards, is two dots when the bytes are two dots or
end in two dots behind a separator. -/
theorem endsInParent_iff {bytes : List UInt8} : endsInParent bytes = true ↔
    bytes = [0x2E, 0x2E] ∨ ∃ front, bytes = front ++ [separator, 0x2E, 0x2E] := by
  unfold endsInParent
  rw [beq_iff_eq]
  constructor
  · intro taken
    have split := List.takeWhile_append_dropWhile (p := (· != separator)) (l := bytes.reverse)
    have stops := List.head?_dropWhile_not (· != separator) bytes.reverse
    rw [taken] at split
    have forwards := congrArg List.reverse split
    rw [List.reverse_reverse] at forwards
    cases rest : bytes.reverse.dropWhile (· != separator) with
    | nil =>
      rw [rest] at forwards
      exact .inl forwards.symm
    | cons b more =>
      rw [rest] at forwards stops
      have here : b = separator := by simpa using stops
      refine .inr ⟨more.reverse, ?_⟩
      rw [← forwards, here]
      simp
  · rintro (rfl | ⟨front, rfl⟩)
    · decide
    · rw [List.reverse_append]
      rfl

/-- The bytes of a path end in two dots as a component of their own when its characters do. -/
theorem endsInParent_encoded : endsInParent (Text.encoded path) = true ↔ EndsInParent path := by
  rw [endsInParent_iff]
  unfold EndsInParent
  refine or_congr ?_ ?_
  · have dots : Text.encoded ['.', '.'] = [0x2E, 0x2E] := by decide
    rw [← dots, Text.encoded_inj]
  · constructor
    · rintro ⟨front, split⟩
      have starts : Text.Starts [separator, 0x2E, 0x2E] :=
        Text.starts_character '/' [0x2E, 0x2E]
      obtain ⟨before, behind, rfl, _, same⟩ := Text.encoded_cut split starts
      have last : behind = ['/', '.', '.'] := Text.encoded_inj.mp same
      exact last ▸ List.suffix_append before behind
    · rintro ⟨front, rfl⟩
      exact ⟨Text.encoded front, Text.encoded_append front _⟩

/-- A glob of literal characters and single stars takes the paths that its pieces give, apart from
those that end in `..` where it asks for the name of a file. -/
theorem isMatch_starred {path : String} (stars : IsStarred pattern) :
    isMatch (starred pattern) path = true ↔ Fills (Text.pieces '*' pattern) path.toList ∧
      ¬ (AsksForName pattern ∧ EndsInParent path.toList) := by
  have single : starred pattern ≠ [.leadingComponents] := by
    intro same
    obtain ⟨c, _, token⟩ := List.map_eq_singleton_iff.mp same
    unfold starredToken at token
    split at token <;> cases token
  unfold isMatch
  rw [Text.toUTF8_eq_encoded]
  unfold matchesBytes
  split
  · rename_i same
    exact absurd same single
  · rw [Bool.and_eq_true, List.contains_iff_mem, mem_rests_starred_iff stars, Bool.not_eq_true',
      ← Bool.not_eq_true, Bool.and_eq_true, asksForName_starred, endsInParent_encoded]

end QualityGates.Glob
