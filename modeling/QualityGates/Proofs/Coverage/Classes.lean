import QualityGates.Proofs.Coverage.Tree

/-!
# The classes of a coverage report

The classes that count are those whose parent is a package, and what counts of them are their names
and the counters directly inside them. While events are read there is only one class whose counters
are taken. Where no class stands inside another one, this is the innermost class around a counter,
or none if that class is not in a package.
-/

namespace QualityGates.Coverage

open Xml (Forest Head)

/-! ## What a report says -/

/-- A class in a package, with what stands between its tags. -/
structure ClassElement where
  head : Head
  children : Forest
  deriving DecidableEq, Repr, Inhabited

/-- The classes whose parent is a package, in the order of the document; `parent` is the name of the
element that the forest stands in. -/
def packageClasses (parent : Option String) : Forest → List ClassElement
  | .nil => []
  | .text _ rest => packageClasses parent rest
  | .single head rest =>
    (if parent = some "package" ∧ head.name = "class" then [⟨head, .nil⟩] else []) ++
      packageClasses parent rest
  | .nest head children rest =>
    (if parent = some "package" ∧ head.name = "class" then [⟨head, children⟩] else []) ++
      packageClasses (some head.name) children ++ packageClasses parent rest

/-- No class stands inside another one; `inside` tells whether the forest stands inside a class. -/
def ClassesApart (inside : Bool) : Forest → Prop
  | .nil => True
  | .text _ rest => ClassesApart inside rest
  | .single head rest => (inside = true → head.name ≠ "class") ∧ ClassesApart inside rest
  | .nest head children rest =>
    (inside = true → head.name ≠ "class") ∧
      ClassesApart (inside || head.name == "class") children ∧ ClassesApart inside rest

/-- Whether classes are apart can be computed. -/
def decideClassesApart (inside : Bool) : (forest : Forest) → Decidable (ClassesApart inside forest)
  | .nil => .isTrue trivial
  | .text _ rest => decideClassesApart inside rest
  | .single _ rest =>
    have := decideClassesApart inside rest
    instDecidableAnd
  | .nest head children rest =>
    have := decideClassesApart (inside || head.name == "class") children
    have := decideClassesApart inside rest
    instDecidableAnd

instance (inside : Bool) (forest : Forest) : Decidable (ClassesApart inside forest) :=
  decideClassesApart inside forest

/-- Whether an element is a counter of a kind. -/
def isCounter (kind : String) (head : Head) : Bool :=
  head.name == "counter" && head.attribute? "type" == some kind

/-- The number in an attribute of a counter. -/
def number? (counter : Head) (key : String) : Option UInt64 :=
  (counter.attribute? key).bind fun raw => Number.readPlusWord (Text.trim raw.toList)

/-- The numbers of a counter. -/
def count? (counter : Head) : Option Count :=
  (number? counter "missed").bind fun missed =>
    (number? counter "covered").map fun covered => ⟨missed, covered⟩

namespace ClassElement

/-- The first counter of a kind that stands directly in a class. -/
def counter? (element : ClassElement) (kind : String) : Option Head :=
  element.children.heads.find? (isCounter kind)

/-- Whether the first counter of a kind lacks a number. -/
def LacksNumber (element : ClassElement) (kind : String) : Prop :=
  ∃ counter ∈ element.counter? kind,
    number? counter "missed" = none ∨ number? counter "covered" = none

/-- A class without a name, or one whose first line counter or first instruction counter lacks a
number. -/
def Malformed (element : ClassElement) : Prop :=
  element.head.attribute? "name" = none ∨
    element.LacksNumber "LINE" ∨ element.LacksNumber "INSTRUCTION"

instance (element : ClassElement) : Decidable element.Malformed :=
  inferInstanceAs (Decidable (_ ∨ (∃ counter ∈ element.counter? "LINE", _ ∨ _) ∨
    ∃ counter ∈ element.counter? "INSTRUCTION", _ ∨ _))

/-- The coverage of a class that has a line counter or an instruction counter. -/
def coverage? (element : ClassElement) : Option ClassCoverage :=
  (element.head.attribute? "name").bind fun name =>
    ((element.counter? "LINE").or (element.counter? "INSTRUCTION")).bind fun counter =>
      (count? counter).map fun n => ClassCoverage.ofCounts (dottedName name) n.missed n.covered

end ClassElement

variable {p : Progress} {forest children rest : Forest} {head : Head} {name kind : String}
  {counters : Counters}

/-! ## Tags that do not count -/

/-- A tag does not matter where it is no class and where no class with counters is its parent. -/
theorem takeTag_quiet (sound : head.WellFormed)
    (noClass : head.name ≠ "class" ∨ p.opened.head? ≠ some "package")
    (noCounter : p.current = none ∨ head.name ≠ "counter" ∨ p.opened.head? ≠ some "class") :
    p.takeTag head.tag = .ok p := by
  unfold Progress.takeTag
  rw [sound.tag_localName]
  split
  · rename_i isClass inPackage
    exact absurd inPackage (noClass.resolve_left fun differs => differs isClass)
  · rename_i isCounter inClass
    rcases noCounter with none | differs | elsewhere
    · rw [none]
    · exact absurd isCounter differs
    · exact absurd inClass elsewhere
  · rfl

/-- An element that is no class is taken by its tag. -/
theorem take_single (sound : head.WellFormed) (noClass : head.name ≠ "class") :
    p.take (.single head.tag) = p.takeTag head.tag := by
  rw [Progress.take, sound.tag_localName]
  cases p.takeTag head.tag with
  | error fault => rfl
  | ok q =>
    show Except.ok (if head.name = "class" then _ else q) = _
    rw [if_neg noClass]

/-- What has been read when an element is opened. -/
def Progress.push (p : Progress) (name : String) : Progress :=
  { p with opened := name :: p.opened }

/-- Closing an element that is no class leaves nothing of it. -/
theorem takeClosing_push (noClass : name ≠ "class") : (p.push name).takeClosing = p := by
  have differs : ¬ (p.push name).opened.head? = some "class" := fun same =>
    noClass (Option.some.inj same)
  unfold Progress.takeClosing
  dsimp only
  split
  · rename_i isClass _
    exact absurd isClass differs
  · rfl

/-- What stands in an element that is no class does not matter if it does not matter below other
elements than classes. -/
theorem takeForest_nest (sound : head.WellFormed) (noClass : head.name ≠ "class")
    (quiet : ∀ q : Progress, q.opened.head? ≠ some "class" → q.takeForest children = .ok q) :
    p.takeForest (.nest head children rest) = p.takeForest (.single head rest) := by
  rw [Progress.takeForest, Progress.takeForest, take_single sound noClass, Progress.take,
    sound.tag_localName]
  cases p.takeTag head.tag with
  | error fault => rfl
  | ok q =>
    have inside := quiet (q.push head.name) fun isClass => noClass (Option.some.inj isClass)
    show ((q.push head.name).takeForest children).bind _ = q.takeForest rest
    rw [inside]
    show (q.push head.name).takeClosing.takeForest rest = _
    rw [takeClosing_push noClass]

/-- Inside a class, nothing matters but what stands directly in a class in a package. -/
theorem takeForest_quiet (sound : forest.WellFormed) (apart : ClassesApart true forest)
    (noCounters : p.current = none ∨ p.opened.head? ≠ some "class") :
    p.takeForest forest = .ok p := by
  have single {p : Progress} {head : Head} {rest : Forest} (sound : head.WellFormed)
      (noClass : head.name ≠ "class")
      (noCounters : p.current = none ∨ p.opened.head? ≠ some "class") :
      p.takeForest (.single head rest) = p.takeForest rest := by
    rw [Progress.takeForest, take_single sound noClass,
      takeTag_quiet sound (.inl noClass) (noCounters.imp id Or.inr)]
    rfl
  induction forest generalizing p with
  | nil => rfl
  | text content rest ih => exact ih sound apart noCounters
  | single head rest ih =>
    rw [single sound.1 (apart.1 rfl) noCounters]
    exact ih sound.2 apart.2 noCounters
  | nest head children rest ihChildren ihRest =>
    rw [takeForest_nest sound.1 (apart.1 rfl) fun q elsewhere =>
      ihChildren sound.2.1 apart.2.1 (.inr elsewhere), single sound.1 (apart.1 rfl) noCounters]
    exact ihRest sound.2.2 apart.2.2 noCounters

/-! ## Counters of a class -/

/-- Takes the counters among some elements. -/
def Counters.takeHeads (counters : Counters) : List Head → Except CoverageFault Counters
  | [] => .ok counters
  | head :: rest =>
    if head.name = "counter" then
      (counters.take head.tag).bind fun counters => counters.takeHeads rest
    else counters.takeHeads rest

/-- The class that is open with some counters. -/
def Progress.withCounters (p : Progress) (name : String) (counters : Counters) : Progress :=
  { p with current := some (name, counters) }

/-- A counter directly in a class that is open is one of its counters. -/
theorem takeTag_counter (sound : head.WellFormed) (isCounter : head.name = "counter")
    (parent : p.opened.head? = some "class") :
    (p.withCounters name counters).takeTag head.tag =
      (counters.take head.tag).map (p.withCounters name) := by
  have inClass : (p.withCounters name counters).opened.head? = some "class" := parent
  unfold Progress.takeTag
  rw [sound.tag_localName, isCounter, inClass]
  rfl

/-- Directly in a class in a package, the counters are taken. -/
theorem takeForest_direct (sound : forest.WellFormed) (apart : ClassesApart true forest)
    (parent : p.opened.head? = some "class") :
    (p.withCounters name counters).takeForest forest =
      (counters.takeHeads forest.heads).map (p.withCounters name) := by
  -- What stands inside an element of a class does not count, so both kinds of elements come to
  -- this.
  have single {counters : Counters} {head : Head} {rest : Forest} (sound : head.WellFormed)
      (noClass : head.name ≠ "class") (taken : ∀ counters : Counters,
        (p.withCounters name counters).takeForest rest =
          (counters.takeHeads rest.heads).map (p.withCounters name)) :
      (p.withCounters name counters).takeForest (.single head rest) =
        (counters.takeHeads (head :: rest.heads)).map (p.withCounters name) := by
    rw [Progress.takeForest, take_single sound noClass, Counters.takeHeads]
    by_cases isCounter : head.name = "counter"
    · rw [if_pos isCounter, takeTag_counter sound isCounter parent]
      cases counters.take head.tag with
      | error fault => rfl
      | ok counters => exact taken counters
    · rw [if_neg isCounter, takeTag_quiet sound (.inl noClass) (.inr (.inl isCounter))]
      exact taken counters
  induction forest generalizing counters with
  | nil => rfl
  | text content rest ih => exact ih sound apart
  | single head rest ih =>
    exact single sound.1 (apart.1 rfl) fun counters => ih sound.2 apart.2
  | nest head children rest ihChildren ihRest =>
    rw [takeForest_nest sound.1 (apart.1 rfl) fun q elsewhere =>
      takeForest_quiet sound.2.1 apart.2.1 (.inr elsewhere)]
    exact single sound.1 (apart.1 rfl) fun counters => ihRest sound.2.2 apart.2.2

/-- A number of a counter is read from its attribute. -/
theorem readCount_tag (sound : head.WellFormed) (kind key : String) :
    readCount head.tag kind key =
      match head.attribute? key with
      | none => .error (.missingCount kind key)
      | some raw =>
        match Number.readPlusWord (Text.trim raw.toList) with
        | some n => .ok n
        | none => .error (.badCount kind key raw) := by
  unfold readCount attribute?
  rw [sound.tag_attribute?]
  cases head.attribute? key <;> rfl

/-- A number of a counter is read where there is one. -/
theorem readCount_eq (sound : head.WellFormed) (kind key : String) :
    (∀ n, number? head key = some n → readCount head.tag kind key = .ok n) ∧
      (number? head key = none → ∃ fault, readCount head.tag kind key = .error fault) := by
  rw [readCount_tag sound]
  unfold number?
  cases head.attribute? key with
  | none => exact ⟨fun n there => (nomatch there), fun _ => ⟨_, rfl⟩⟩
  | some raw =>
    dsimp only [Option.bind_some]
    cases Number.readPlusWord (Text.trim raw.toList) with
    | none => exact ⟨fun n there => (nomatch there), fun _ => ⟨_, rfl⟩⟩
    | some n =>
      exact ⟨fun m there => congrArg Except.ok (Option.some.inj there), fun h => (nomatch h)⟩

/-- A counter lacks a number exactly when it gives no counts. -/
theorem count?_eq_none_iff {counter : Head} : count? counter = none ↔
    number? counter "missed" = none ∨ number? counter "covered" = none := by
  unfold count?
  cases number? counter "missed" <;> cases number? counter "covered" <;> simp

/-- The counts of the first counter are read, and those of a later one are left alone. -/
theorem fillCount_eq (sound : head.WellFormed) (kind : String) :
    (∀ known, fillCount head.tag kind (some known) = .ok (some known)) ∧
      (∀ n, count? head = some n → fillCount head.tag kind none = .ok (some n)) ∧
      (count? head = none → ∃ fault, fillCount head.tag kind none = .error fault) := by
  obtain ⟨missedOk, missedFails⟩ := readCount_eq sound kind "missed"
  obtain ⟨coveredOk, coveredFails⟩ := readCount_eq sound kind "covered"
  refine ⟨fun known => rfl, ?_, ?_⟩
  · intro n counted
    unfold count? at counted
    obtain ⟨missed, readMissed, counted⟩ := Option.bind_eq_some_iff.mp counted
    obtain ⟨covered, readCovered, rfl⟩ := Option.map_eq_some_iff.mp counted
    unfold fillCount
    dsimp only
    rw [missedOk missed readMissed]
    dsimp only
    rw [coveredOk covered readCovered]
  · intro uncounted
    unfold fillCount
    dsimp only
    cases readMissed : number? head "missed" with
    | none =>
      obtain ⟨fault, failed⟩ := missedFails readMissed
      rw [failed]
      exact ⟨fault, rfl⟩
    | some missed =>
      rw [missedOk missed readMissed]
      dsimp only
      have readCovered : number? head "covered" = none := by
        rw [count?_eq_none_iff, readMissed] at uncounted
        exact uncounted.resolve_left nofun
      obtain ⟨fault, failed⟩ := coveredFails readCovered
      rw [failed]
      exact ⟨fault, rfl⟩

/-- The counts of a kind are known, or those of the first counter of the kind among some elements
can be read. -/
def Readable (known : Option Count) (kind : String) (heads : List Head) : Prop :=
  known = none → ∀ counter, heads.find? (isCounter kind) = some counter → count? counter ≠ none

/-- The counts of a kind that are known, or else those of the first counter of the kind. -/
def countsOf (known : Option Count) (kind : String) (heads : List Head) : Option Count :=
  known.or ((heads.find? (isCounter kind)).bind count?)

/-- Takes an element for the counts of a kind. -/
def fillFrom (known : Option Count) (kind : String) (head : Head) :
    Except CoverageFault (Option Count) :=
  if isCounter kind head then fillCount head.tag kind known else .ok known

variable {heads : List Head}

/-- An element is a counter of a kind when its name and its type say so. -/
theorem isCounter_iff : isCounter kind head = true ↔
    head.name = "counter" ∧ head.attribute? "type" = some kind := by
  rw [isCounter, Bool.and_eq_true, beq_iff_eq, beq_iff_eq]

/-- Taking an element is taking it for the one kind and for the other one. -/
theorem takeHeads_cons (sound : head.WellFormed) : counters.takeHeads (head :: heads) =
    (fillFrom counters.line "LINE" head).bind fun line =>
      (fillFrom counters.instruction "INSTRUCTION" head).bind fun instruction =>
        Counters.takeHeads ⟨line, instruction⟩ heads := by
  rw [Counters.takeHeads]
  by_cases named : head.name = "counter"
  · have filled (known : Option Count) (kind : String) : fillFrom known kind head =
        if head.attribute? "type" = some kind then fillCount head.tag kind known
        else .ok known := by
      unfold fillFrom
      simp only [isCounter_iff, named, true_and]
    rw [if_pos named, filled, filled]
    unfold Counters.take attribute?
    rw [sound.tag_attribute?]
    by_cases isLine : head.attribute? "type" = some "LINE"
    · rw [isLine, if_pos rfl, if_neg (by decide)]
      show ((fillCount head.tag "LINE" counters.line).map _).bind _ = _
      cases fillCount head.tag "LINE" counters.line <;> rfl
    · by_cases isInstruction : head.attribute? "type" = some "INSTRUCTION"
      · rw [isInstruction, if_neg (by decide), if_pos rfl]
        show ((fillCount head.tag "INSTRUCTION" counters.instruction).map _).bind _ = _
        cases fillCount head.tag "INSTRUCTION" counters.instruction <;> rfl
      · rw [if_neg isLine, if_neg isInstruction]
        dsimp only [Except.mapError]
        split
        · rename_i h
          exact absurd h isLine
        · rename_i h
          exact absurd h isInstruction
        · rfl
  · have noCounter (known : Option Count) (kind : String) :
        fillFrom known kind head = .ok known := by
      unfold fillFrom
      rw [if_neg fun isCounter => named (isCounter_iff.mp isCounter).1]
    rw [if_neg named, noCounter, noCounter]
    rfl

/-- An element is taken for a kind as far as the counts of the kind can be read. -/
theorem fillFrom_cases (sound : head.WellFormed) (known : Option Count) (kind : String) :
    (∃ filled, fillFrom known kind head = .ok filled ∧ ∀ heads,
      (Readable known kind (head :: heads) ↔ Readable filled kind heads) ∧
        countsOf known kind (head :: heads) = countsOf filled kind heads) ∨
      (∃ fault, fillFrom known kind head = .error fault) ∧
        ∀ heads, ¬ Readable known kind (head :: heads) := by
  obtain ⟨fillKnown, fillFirst, fillFails⟩ := fillCount_eq sound kind
  unfold fillFrom Readable countsOf
  by_cases isKind : isCounter kind head = true
  · rw [if_pos isKind]
    simp only [List.find?_cons_of_pos isKind]
    cases known with
    | some n => exact .inl ⟨some n, fillKnown n, fun heads => ⟨by simp, rfl⟩⟩
    | none =>
      cases counted : count? head with
      | some n => exact .inl ⟨some n, fillFirst n counted, fun heads => by simp [counted]⟩
      | none => exact .inr ⟨fillFails counted, fun heads => by simp [counted]⟩
  · rw [if_neg isKind]
    simp only [List.find?_cons_of_neg isKind]
    exact .inl ⟨known, rfl, fun heads => ⟨Iff.rfl, rfl⟩⟩

/-- The counters of a class are those that are first of their kinds; taking them fails where the
counts of one of these cannot be read. -/
theorem takeHeads_spec (sound : ∀ head ∈ heads, head.WellFormed) :
    (Readable counters.line "LINE" heads ∧ Readable counters.instruction "INSTRUCTION" heads →
      counters.takeHeads heads = .ok ⟨countsOf counters.line "LINE" heads,
        countsOf counters.instruction "INSTRUCTION" heads⟩) ∧
    (¬ (Readable counters.line "LINE" heads ∧
        Readable counters.instruction "INSTRUCTION" heads) →
      ∃ fault, counters.takeHeads heads = .error fault) := by
  induction heads generalizing counters with
  | nil =>
    have readable (known : Option Count) (kind : String) : Readable known kind [] :=
      fun _ counter found => (nomatch found)
    have same (known : Option Count) (kind : String) : countsOf known kind [] = known :=
      Option.or_none
    rw [same, same]
    exact ⟨fun _ => rfl, fun unreadable => absurd ⟨readable _ _, readable _ _⟩ unreadable⟩
  | cons head heads ih =>
    rw [List.forall_mem_cons] at sound
    rw [takeHeads_cons sound.1]
    rcases fillFrom_cases sound.1 counters.line "LINE" with
      ⟨line, filled, same⟩ | ⟨⟨fault, failed⟩, bad⟩
    · rw [filled, (same heads).1, (same heads).2]
      rcases fillFrom_cases sound.1 counters.instruction "INSTRUCTION" with
        ⟨instruction, filled', same'⟩ | ⟨⟨fault, failed⟩, bad⟩
      · rw [filled', (same' heads).1, (same' heads).2]
        exact @ih ⟨line, instruction⟩ sound.2
      · rw [failed]
        exact ⟨fun readable => absurd readable.2 (bad heads), fun _ => ⟨fault, rfl⟩⟩
    · rw [failed]
      exact ⟨fun readable => absurd readable.1 (bad heads), fun _ => ⟨fault, rfl⟩⟩

/-! ## Classes in packages -/

variable {element : ClassElement} {found others : List ClassElement}

/-- The elements of a well-formed forest are well-formed. -/
theorem heads_sound (sound : forest.WellFormed) : ∀ head ∈ forest.heads, head.WellFormed := by
  induction forest with
  | nil => exact fun head member => absurd member List.not_mem_nil
  | text content rest ih => exact ih sound
  | single head rest ih => exact List.forall_mem_cons.mpr ⟨sound.1, ih sound.2⟩
  | nest head children rest _ ih => exact List.forall_mem_cons.mpr ⟨sound.1, ih sound.2.2⟩

/-- A class with a name is malformed where the counts of a kind cannot be read. -/
theorem malformed_iff (named : element.head.attribute? "name" = some name) :
    element.Malformed ↔ ¬ (Readable none "LINE" element.children.heads ∧
      Readable none "INSTRUCTION" element.children.heads) := by
  have unreadable (kind : String) :
      ¬ Readable none kind element.children.heads ↔ element.LacksNumber kind := by
    unfold Readable ClassElement.LacksNumber ClassElement.counter?
    simp only [← count?_eq_none_iff, forall_const, not_forall, not_not, exists_prop,
      Option.mem_def]
  unfold ClassElement.Malformed
  rw [named, not_and_or, unreadable, unreadable]
  exact or_iff_right nofun

/-- Where the counts of a class can be read, they are its coverage. -/
theorem classOf?_eq (element : ClassElement) (named : element.head.attribute? "name" = some name)
    (line : Readable none "LINE" element.children.heads) :
    classOf? (dottedName name) ⟨countsOf none "LINE" element.children.heads,
      countsOf none "INSTRUCTION" element.children.heads⟩ = element.coverage? := by
  unfold classOf? countsOf ClassElement.coverage? ClassElement.counter?
  rw [named]
  cases first : element.children.heads.find? (isCounter "LINE") with
  | some counter =>
    obtain ⟨n, counted⟩ := Option.ne_none_iff_exists'.mp (line rfl counter first)
    simp [counted]
  | none => cases element.children.heads.find? (isCounter "INSTRUCTION") <;> simp

/-- What has been read after some classes. -/
def Progress.add (p : Progress) (found : List ClassElement) : Progress :=
  { p with classes := (found.filterMap ClassElement.coverage?).reverse ++ p.classes }

/-- Reading goes through some classes: it adds their coverage, or fails where one is malformed. -/
def Takes (p : Progress) (found : List ClassElement) (r : Except CoverageFault Progress) : Prop :=
  ((∀ element ∈ found, ¬ element.Malformed) → r = .ok (p.add found)) ∧
    ((∃ element ∈ found, element.Malformed) → ∃ fault, r = .error fault)

/-- Going through no classes changes nothing. -/
theorem takes_nil (p : Progress) : Takes p [] (.ok p) :=
  ⟨fun _ => rfl, fun ⟨_, member, _⟩ => absurd member List.not_mem_nil⟩

/-- Going through classes and then through others is going through all of them. -/
theorem Takes.append {r : Except CoverageFault Progress}
    {next : Progress → Except CoverageFault Progress} (first : Takes p found r)
    (second : Takes (p.add found) others (next (p.add found))) :
    Takes p (found ++ others) (r.bind next) := by
  have both : (p.add found).add others = p.add (found ++ others) := by
    unfold Progress.add
    rw [List.filterMap_append, List.reverse_append, List.append_assoc]
  by_cases bad : ∃ element ∈ found, element.Malformed
  · obtain ⟨fault, failed⟩ := first.2 bad
    obtain ⟨element, member, malformed⟩ := bad
    rw [failed]
    exact ⟨fun good => absurd malformed (good element (List.mem_append_left others member)),
      fun _ => ⟨fault, rfl⟩⟩
  · rw [first.1 fun element member malformed => bad ⟨element, member, malformed⟩]
    constructor
    · intro good
      rw [← both]
      exact second.1 fun element member => good element (List.mem_append_right found member)
    · rintro ⟨element, member, malformed⟩
      rcases List.mem_append.mp member with here | later
      · exact absurd ⟨element, here, malformed⟩ bad
      · exact second.2 ⟨element, later, malformed⟩

/-- What is done after going through classes can be part of it. -/
theorem Takes.map {q : Progress} {r : Except CoverageFault Progress} {f : Progress → Progress}
    (taken : Takes q found r) (after : f (q.add found) = p.add found) :
    Takes p found (r.map f) := by
  constructor
  · intro good
    rw [taken.1 good, ← after]
    rfl
  · intro bad
    obtain ⟨fault, failed⟩ := taken.2 bad
    exact ⟨fault, by rw [failed]; rfl⟩

/-- A class in a package is open from its tag on, unless it has no name. -/
theorem takeTag_class (sound : head.WellFormed) (isClass : head.name = "class")
    (inPackage : p.opened.head? = some "package") :
    p.takeTag head.tag = match head.attribute? "name" with
      | none => .error .unnamedClass
      | some name => .ok (p.withCounters (dottedName name) {}) := by
  unfold Progress.takeTag attribute?
  rw [sound.tag_localName, isClass, inPackage, sound.tag_attribute?]
  cases head.attribute? "name" <;> rfl

/-- Takes an element with two tags. -/
def Progress.takeElement (p : Progress) (head : Head) (children : Forest) :
    Except CoverageFault Progress :=
  ((p.takeTag head.tag).map fun q => q.push head.name).bind fun q =>
    (q.takeForest children).map Progress.takeClosing

/-- An element with two tags is taken before what comes behind it. -/
theorem takeForest_element (sound : head.WellFormed) :
    p.takeForest (.nest head children rest) =
      (p.takeElement head children).bind fun q => q.takeForest rest := by
  unfold Progress.takeElement
  rw [Progress.takeForest, Progress.take, sound.tag_localName]
  cases p.takeTag head.tag with
  | error fault => rfl
  | ok q =>
    show ((q.push head.name).takeForest children).bind _ =
      (((q.push head.name).takeForest children).map _).bind _
    cases (q.push head.name).takeForest children <;> rfl

/-- A class that is closed is finished with the counters that were taken. -/
theorem takeClosing_class (idle : p.current = none) :
    ((p.push "class").withCounters name counters).takeClosing =
      { p with classes := (classOf? name counters).toList ++ p.classes } := by
  obtain ⟨opened, current, classes⟩ := p
  obtain rfl : current = none := idle
  rfl

/-- An element that is written with one tag is taken as one with nothing between its two tags. -/
theorem takeForest_single (sound : head.WellFormed) (idle : p.current = none) :
    p.takeForest (.single head rest) = p.takeForest (.nest head .nil rest) := by
  by_cases isClass : head.name = "class"
  · have opened : p.take (.single head.tag) = p.takeElement head .nil := by
      unfold Progress.takeElement
      rw [Progress.take, sound.tag_localName]
      simp only [if_pos isClass]
      by_cases inPackage : p.opened.head? = some "package"
      · rw [takeTag_class sound isClass inPackage]
        cases head.attribute? "name" with
        | none => rfl
        | some name =>
          have closed := @takeClosing_class p (dottedName name) {} idle
          rw [isClass]
          obtain ⟨opened, current, classes⟩ := p
          obtain rfl : current = none := idle
          exact congrArg Except.ok closed.symm
      · rw [takeTag_quiet sound (.inr inPackage) (.inl idle), isClass]
        obtain ⟨opened, current, classes⟩ := p
        obtain rfl : current = none := idle
        rfl
    rw [takeForest_element sound, Progress.takeForest, opened]
  · exact (takeForest_nest sound isClass fun q _ => rfl).symm

/-- One class adds its own coverage. -/
theorem add_singleton (p : Progress) (element : ClassElement) :
    p.add [element] = { p with classes := element.coverage?.toList ++ p.classes } := by
  unfold Progress.add
  cases covered : element.coverage? with
  | none => rw [List.filterMap_cons_none covered]; rfl
  | some coverage => rw [List.filterMap_cons_some covered]; rfl

/-- A class in a package adds its coverage. -/
theorem takes_class (sound : head.WellFormed) (childrenSound : children.WellFormed)
    (apart : ClassesApart true children) (isClass : head.name = "class")
    (inPackage : p.opened.head? = some "package") (idle : p.current = none) :
    Takes p [⟨head, children⟩] (p.takeElement head children) := by
  unfold Progress.takeElement
  rw [takeTag_class sound isClass inPackage]
  cases named : head.attribute? "name" with
  | none =>
    have malformed : ClassElement.Malformed ⟨head, children⟩ := .inl named
    exact ⟨fun good => absurd malformed (good _ List.mem_cons_self), fun _ => ⟨_, rfl⟩⟩
  | some name =>
    have direct : ((p.push head.name).withCounters (dottedName name) {}).takeForest children =
        (Counters.takeHeads {} children.heads).map
          ((p.push head.name).withCounters (dottedName name)) :=
      takeForest_direct childrenSound apart (congrArg some isClass)
    have malformed : ClassElement.Malformed ⟨head, children⟩ ↔
        ¬ (Readable none "LINE" children.heads ∧ Readable none "INSTRUCTION" children.heads) :=
      malformed_iff named
    obtain ⟨taken, fails⟩ := @takeHeads_spec {} _ (heads_sound childrenSound)
    show Takes p _ ((Progress.takeForest ((p.push head.name).withCounters (dottedName name) {})
      children).map _)
    rw [direct]
    by_cases readable : Readable none "LINE" children.heads ∧
        Readable none "INSTRUCTION" children.heads
    · have coverage : classOf? (dottedName name) ⟨countsOf none "LINE" children.heads,
          countsOf none "INSTRUCTION" children.heads⟩ =
            ClassElement.coverage? ⟨head, children⟩ := classOf?_eq ⟨head, children⟩ named readable.1
      rw [taken readable]
      refine ⟨fun _ => ?_, fun ⟨element, member, bad⟩ => ?_⟩
      · rw [add_singleton, ← coverage, ← takeClosing_class idle, isClass]
        rfl
      · rw [List.mem_singleton.mp member, malformed] at bad
        exact absurd readable bad
    · obtain ⟨fault, failed⟩ := fails readable
      rw [failed]
      exact ⟨fun good => absurd (malformed.mpr readable) (good _ List.mem_cons_self),
        fun _ => ⟨fault, rfl⟩⟩

/-- Inside a class there are no classes. -/
theorem packageClasses_inside (apart : ClassesApart true forest) (parent : Option String) :
    packageClasses parent forest = [] := by
  induction forest generalizing parent with
  | nil => rfl
  | text content rest ih => exact ih apart parent
  | single head rest ih =>
    rw [packageClasses, if_neg fun isClass => apart.1 rfl isClass.2, ih apart.2]
    rfl
  | nest head children rest ihChildren ihRest =>
    rw [packageClasses, if_neg fun isClass => apart.1 rfl isClass.2, ihChildren apart.2.1,
      ihRest apart.2.2]
    rfl

/-- Outside of classes, an element adds its coverage if it is a class in a package, and that of the
classes in packages inside it otherwise. -/
theorem takes_element (sound : head.WellFormed) (childrenSound : children.WellFormed)
    (apart : ClassesApart (head.name == "class") children) (idle : p.current = none)
    (inside : head.name ≠ "class" → Takes (p.push head.name)
      (packageClasses (some head.name) children) ((p.push head.name).takeForest children)) :
    Takes p ((if p.opened.head? = some "package" ∧ head.name = "class" then [⟨head, children⟩]
      else []) ++ packageClasses (some head.name) children) (p.takeElement head children) := by
  by_cases isClass : head.name = "class"
  · rw [isClass] at apart
    rw [packageClasses_inside apart, List.append_nil]
    by_cases inPackage : p.opened.head? = some "package"
    · rw [if_pos ⟨inPackage, isClass⟩]
      exact takes_class sound childrenSound apart isClass inPackage idle
    · have quiet : p.takeTag head.tag = .ok p := takeTag_quiet sound (.inr inPackage) (.inl idle)
      have nothing : (p.push head.name).takeForest children = .ok (p.push head.name) :=
        takeForest_quiet childrenSound apart (.inl idle)
      have taken : p.takeElement head children = .ok p := by
        unfold Progress.takeElement
        rw [quiet]
        show ((p.push head.name).takeForest children).map _ = _
        rw [nothing, isClass]
        obtain ⟨opened, current, classes⟩ := p
        obtain rfl : current = none := idle
        rfl
      rw [if_neg fun both => inPackage both.1, taken]
      exact takes_nil p
  · have quiet : p.takeTag head.tag = .ok p := takeTag_quiet sound (.inl isClass) (.inl idle)
    have closed : ((p.push head.name).add (packageClasses (some head.name) children)).takeClosing =
        p.add (packageClasses (some head.name) children) := by
      show ((p.add _).push head.name).takeClosing = _
      exact takeClosing_push isClass
    rw [if_neg fun both => isClass both.2, List.nil_append]
    unfold Progress.takeElement
    rw [quiet]
    exact (inside isClass).map closed

/-- Outside of classes, reading adds the coverage of the classes in packages. -/
theorem takes_forest (sound : forest.WellFormed) (apart : ClassesApart false forest)
    (idle : p.current = none) (outside : p.opened.head? ≠ some "class") :
    Takes p (packageClasses p.opened.head? forest) (p.takeForest forest) := by
  -- Between the elements of a forest no class is open, and its counters are gone with it.
  induction forest generalizing p with
  | nil => exact takes_nil p
  | text content rest ih => exact ih sound apart idle outside
  | single head rest ih =>
    rw [takeForest_single sound.1 idle, takeForest_element sound.1, packageClasses]
    refine Takes.append ?_ (ih sound.2 apart.2 idle outside)
    have element : Takes p ((if p.opened.head? = some "package" ∧ head.name = "class" then
        [⟨head, .nil⟩] else []) ++ []) (p.takeElement head .nil) :=
      takes_element sound.1 trivial trivial idle fun _ => takes_nil _
    rw [List.append_nil] at element
    exact element
  | nest head children rest ihChildren ihRest =>
    rw [packageClasses, takeForest_element sound.1]
    refine Takes.append ?_ (ihRest sound.2.2 apart.2.2 idle outside)
    refine takes_element sound.1 sound.2.1 apart.2.1 idle fun noClass => ?_
    have childrenApart : ClassesApart false children := by
      have below := apart.2.1
      rw [Bool.false_or, beq_eq_false_iff_ne.mpr noClass] at below
      exact below
    exact ihChildren (p := p.push head.name) sound.2.1 childrenApart idle
      fun same => noClass (Option.some.inj same)

/-- Reading a document gives the classes that going through its elements finishes. -/
theorem classesOf_eq (path : Path) (sound : forest.WellFormed) :
    classesOf path forest.document =
      ((Progress.takeForest {} forest).mapError (GateError.malformedCoverage path)).map
        fun p => p.classes.reverse := by
  unfold classesOf
  rw [takeAll_document sound]
  cases Progress.takeForest {} forest <;> rfl

/-- For every document that a forest is written as and in which no class stands inside another one,
reading fails exactly where a class in a package is malformed, and otherwise gives the coverage of
the classes in packages in the order of the document. -/
theorem classesOf_document (path : Path) (sound : forest.WellFormed)
    (apart : ClassesApart false forest) :
    ((∃ fault, classesOf path forest.document = .error (.malformedCoverage path fault)) ↔
      ∃ element ∈ packageClasses none forest, element.Malformed) ∧
    ((∀ element ∈ packageClasses none forest, ¬ element.Malformed) →
      classesOf path forest.document =
        .ok ((packageClasses none forest).filterMap ClassElement.coverage?)) := by
  obtain ⟨good, bad⟩ : Takes {} (packageClasses none forest) (Progress.takeForest {} forest) :=
    takes_forest sound apart rfl nofun
  rw [classesOf_eq path sound]
  have covered (clear : ∀ element ∈ packageClasses none forest, ¬ element.Malformed) :
      ((Progress.takeForest {} forest).mapError (GateError.malformedCoverage path)).map
          (fun p => p.classes.reverse) =
        .ok ((packageClasses none forest).filterMap ClassElement.coverage?) := by
    rw [good clear]
    show Except.ok ((List.filterMap _ _).reverse ++ []).reverse = _
    rw [List.append_nil, List.reverse_reverse]
  refine ⟨⟨?_, ?_⟩, covered⟩
  · rintro ⟨fault, failed⟩
    by_contra none
    rw [covered fun element member malformed => none ⟨element, member, malformed⟩] at failed
    cases failed
  · intro malformed
    obtain ⟨fault, failed⟩ := bad malformed
    rw [failed]
    exact ⟨fault, rfl⟩

/-- A report with a class whose line counter counts, a counter elsewhere that has no numbers, and a
class without counters. -/
def sampleReport : Forest :=
  .nest ⟨"report", [("name", "a < b")]⟩
    (.text "some & text"
      (.nest ⟨"package", [("name", "p")]⟩
        (.nest ⟨"class", [("sourcefilename", "A.java"), ("name", "p/A")]⟩
          (.nest ⟨"method", [("name", "run")]⟩
            (.single ⟨"counter", [("type", "LINE"), ("missed", "many")]⟩ .nil)
            (.single ⟨"counter", [("type", "INSTRUCTION"), ("missed", "3"), ("covered", "4")]⟩
              (.nest ⟨"counter", [("type", "LINE"), ("missed", " 1"), ("covered", "+2")]⟩ .nil
                .nil)))
          (.single ⟨"class", [("name", "p/B")]⟩ .nil))
        .nil))
    .nil

/-- The sample report has the coverage of its one class with counters. -/
theorem sampleReport_classes : classesOf ⟨"report.xml"⟩ sampleReport.document =
    .ok [ClassCoverage.ofCounts "p.A" 1 2] := by
  have sound : sampleReport.WellFormed := by decide
  have apart : ClassesApart false sampleReport := by decide
  have clear : ∀ element ∈ packageClasses none sampleReport, ¬ element.Malformed := by decide
  rw [(classesOf_document ⟨"report.xml"⟩ sound apart).2 clear]
  rfl

end QualityGates.Coverage
