import QualityGates.Proofs.Coverage.Tree
import QualityGates.Proofs.Xml.Unclosed

/-!
# Reports with elements left open

A report is refused where its markup is cut or where a closing tag names another element than the
one that was opened last. Elements that are still open at the end are no fault: the classes that
were closed are given, so a report that is cut between its markup gives the first classes of the
whole report, and the closing tags that are missing add one class at most.
-/

namespace QualityGates.Coverage

open Xml (Leaves)

variable {p q : Progress} {opened inner left : List (List Char)} {cs more : List Char}
  {event : Xml.Event} {tag : Xml.Tag}

/-! ## Where reading ends -/

/-- Reading two parts of a text one after the other is reading the text. -/
theorem takeAll_append (leaves : Leaves opened cs left) :
    p.takeAll (Xml.eventsFrom opened (cs ++ more)) =
      (p.takeAll (Xml.eventsFrom opened cs)).bind fun q =>
        q.takeAll (Xml.eventsFrom left more) := by
  induction leaves generalizing p with
  | @done opened cs noMarkup =>
    have passed : p.takeAll (Xml.eventsFrom opened (cs ++ [])) = .ok p := by
      rw [takeAll_text noMarkup, takeAll_end]
    rw [List.append_nil] at passed
    rw [takeAll_text noMarkup, passed]
    rfl
  | @markup opened inner last text cs rest event noMarkup read _ ih =>
    rw [List.append_assoc, takeAll_text noMarkup, takeAll_text noMarkup, List.cons_append,
      Xml.eventsFrom_markup (Xml.readMarkup_more read), Xml.eventsFrom_markup read, takeAll_cons,
      takeAll_cons]
    cases p.take event with
    | error fault => rfl
    | ok q => exact ih

/-- Reading either comes to the end of a text or fails. -/
theorem leaves_or_fails (p : Progress) (opened : List (List Char)) (cs : List Char) :
    (∃ left, Leaves opened cs left) ∨
      ∃ fault, p.takeAll (Xml.eventsFrom opened cs) = .error fault := by
  induction size : cs.length using Nat.strongRecOn generalizing p opened cs with
  | ind n ih =>
    by_cases there : '<' ∈ cs
    case neg => exact .inl ⟨opened, .done there⟩
    case pos =>
      obtain ⟨text, markup, rfl, noMarkup⟩ := List.eq_append_cons_of_mem there
      rw [takeAll_text noMarkup]
      cases read : Xml.readMarkup opened markup with
      | error fault =>
        right
        rw [Xml.eventsFrom_fault read]
        exact ⟨.markup fault, rfl⟩
      | ok item =>
        obtain ⟨event, inner, rest⟩ := item
        have shorter : rest.length < n := by
          have whole := Xml.readMarkup_length read
          rw [List.length_append, List.length_cons] at size
          omega
        rw [Xml.eventsFrom_markup read, takeAll_cons]
        cases p.take event with
        | error fault => exact .inr ⟨fault, rfl⟩
        | ok q =>
          exact (ih rest.length shorter q inner rest rfl).imp
            (fun ⟨left, leaves⟩ => ⟨left, .markup noMarkup read leaves⟩) id

/-! ## What reading adds -/

/-- A tag that opens an element finishes no class and leaves the open elements alone. -/
theorem takeTag_kept (taken : p.takeTag tag = .ok q) :
    q.opened = p.opened ∧ q.classes = p.classes := by
  unfold Progress.takeTag at taken
  split at taken
  · split at taken
    · cases taken
    · cases taken
    · cases taken
      exact ⟨rfl, rfl⟩
  · split at taken
    · cases taken
      exact ⟨rfl, rfl⟩
    · obtain ⟨_, _, rfl⟩ := Except.map_eq_ok_iff.mp taken
      exact ⟨rfl, rfl⟩
  · cases taken
    exact ⟨rfl, rfl⟩

/-- A closing tag finishes the class that is open if it closes a class, and nothing otherwise. -/
theorem takeClosing_cases (p : Progress) :
    (∃ name counters, p.opened.head? = some "class" ∧ p.current = some (name, counters) ∧
      p.takeClosing = ⟨p.opened.drop 1, none, (classOf? name counters).toList ++ p.classes⟩) ∨
    (p.opened.head? ≠ some "class" ∨ p.current = none) ∧
      p.takeClosing = { p with opened := p.opened.drop 1 } := by
  unfold Progress.takeClosing
  dsimp only
  split
  · rename_i name counters isClass current
    exact .inl ⟨name, counters, isClass, current, rfl⟩
  · rename_i other
    refine .inr ⟨?_, rfl⟩
    by_contra both
    rw [not_or, not_not] at both
    obtain ⟨⟨name, counters⟩, current⟩ := Option.ne_none_iff_exists'.mp both.2
    exact other name counters both.1 current

/-- The classes that are finished stay, whatever is taken. -/
theorem take_classes (taken : p.take event = .ok q) : ∃ new, q.classes = new ++ p.classes := by
  cases event with
  | opening tag =>
    obtain ⟨r, tagged, rfl⟩ := Except.map_eq_ok_iff.mp taken
    exact ⟨[], (takeTag_kept tagged).2⟩
  | single tag =>
    obtain ⟨r, tagged, rfl⟩ := Except.map_eq_ok_iff.mp taken
    refine ⟨[], ?_⟩
    split <;> exact (takeTag_kept tagged).2
  | closing =>
    cases taken
    rcases takeClosing_cases p with ⟨name, counters, -, -, closed⟩ | ⟨-, closed⟩
    · exact ⟨_, by rw [closed]⟩
    · exact ⟨[], by rw [closed]; rfl⟩
  | text cs =>
    cases taken
    exact ⟨[], rfl⟩
  | aside =>
    cases taken
    exact ⟨[], rfl⟩

/-- The classes that are finished stay to the end. -/
theorem takeAll_classes {events : List (Except Xml.Fault Xml.Event)}
    (taken : p.takeAll events = .ok q) : ∃ new, q.classes = new ++ p.classes := by
  induction events generalizing p with
  | nil =>
    cases taken
    exact ⟨[], rfl⟩
  | cons event events ih =>
    cases event with
    | error fault => cases taken
    | ok event =>
      rw [takeAll_cons] at taken
      obtain ⟨r, first, others⟩ := Except.bind_eq_ok_iff.mp taken
      obtain ⟨new, added⟩ := take_classes first
      obtain ⟨newer, more⟩ := ih others
      exact ⟨newer ++ new, by rw [more, added, List.append_assoc]⟩

/-- The open elements are those that the markup leaves open. -/
theorem take_opened (taken : p.take event = .ok q) (moves : event.Moves opened inner)
    (tracks : p.opened = opened.map Xml.localName) : q.opened = inner.map Xml.localName := by
  cases event with
  | opening tag =>
    obtain ⟨r, tagged, rfl⟩ := Except.map_eq_ok_iff.mp taken
    obtain rfl : inner = tag.name :: opened := moves
    rw [List.map_cons, ← tracks, ← (takeTag_kept tagged).1]
    rfl
  | single tag =>
    obtain ⟨r, tagged, rfl⟩ := Except.map_eq_ok_iff.mp taken
    obtain rfl : inner = opened := moves
    rw [← tracks, ← (takeTag_kept tagged).1]
    split <;> rfl
  | closing =>
    cases taken
    obtain ⟨name, rfl⟩ := moves
    have closed : p.takeClosing.opened = p.opened.drop 1 := by
      rcases takeClosing_cases p with ⟨_, _, -, -, closed⟩ | ⟨-, closed⟩ <;> rw [closed]
    rw [closed, tracks]
    rfl
  | text cs =>
    cases taken
    obtain rfl : inner = opened := moves
    exact tracks
  | aside =>
    cases taken
    obtain rfl : inner = opened := moves
    exact tracks

/-- At the end of a text, the open elements are those that reading leaves open. -/
theorem takeAll_opened (leaves : Leaves opened cs left)
    (tracks : p.opened = opened.map Xml.localName)
    (taken : p.takeAll (Xml.eventsFrom opened cs) = .ok q) :
    q.opened = left.map Xml.localName := by
  induction leaves generalizing p with
  | @done opened cs noMarkup =>
    rw [← List.append_nil cs, takeAll_text noMarkup, takeAll_end] at taken
    cases taken
    exact tracks
  | markup noMarkup read _ ih =>
    rw [takeAll_text noMarkup, Xml.eventsFrom_markup read, takeAll_cons] at taken
    obtain ⟨r, first, others⟩ := Except.bind_eq_ok_iff.mp taken
    exact ih (take_opened first (Xml.readMarkup_moves read) tracks) others

/-! ## Closing what is left open -/

/-- The closing tags of elements. -/
def closingTags (opened : List (List Char)) : List Char :=
  opened.flatMap fun name => '<' :: '/' :: (name ++ ['>'])

/-- Takes as many closing tags as there are names. -/
def Progress.closeAll (p : Progress) : List (List Char) → Progress
  | [] => p
  | _ :: opened => p.takeClosing.closeAll opened

/-- Closing tags of the elements that are open are taken. -/
theorem takeAll_closingTags (closable : ∀ name ∈ opened, Xml.IsClosable name) :
    p.takeAll (Xml.eventsFrom opened (closingTags opened)) = .ok (p.closeAll opened) := by
  induction opened generalizing p with
  | nil => exact takeAll_end
  | cons name opened ih =>
    rw [List.forall_mem_cons] at closable
    have shape : closingTags (name :: opened) =
        '<' :: '/' :: (name ++ '>' :: closingTags opened) := by
      rw [closingTags, List.flatMap_cons, List.cons_append, List.cons_append, List.append_assoc]
      rfl
    rw [shape, Xml.eventsFrom_markup (Xml.readMarkup_closing closable.1), takeAll_cons]
    exact ih closable.2

/-- Closing tags finish one class at most, and none if no class is open. -/
theorem closeAll_classes (p : Progress) (names : List (List Char)) :
    ∃ last, (p.closeAll names).classes = last ++ p.classes ∧ last.length ≤ 1 ∧
      (p.current = none ∨ "class" ∉ p.opened → last = []) := by
  induction names generalizing p with
  | nil => exact ⟨[], rfl, Nat.zero_le 1, fun _ => rfl⟩
  | cons name names ih =>
    obtain ⟨last, classes, one, none_open⟩ := ih p.takeClosing
    rcases takeClosing_cases p with ⟨_, _, isClass, current, closed⟩ | ⟨-, closed⟩
    · have idle : p.takeClosing.current = none := by rw [closed]
      obtain rfl := none_open (.inl idle)
      refine ⟨_, by rw [Progress.closeAll, classes, closed]; rfl, Option.length_toList_le, ?_⟩
      rintro (idle | noClass)
      · rw [current] at idle
        cases idle
      · exact absurd (List.mem_of_mem_head? isClass) noClass
    · rw [closed] at classes none_open
      refine ⟨last, by rw [Progress.closeAll, closed, classes], one, fun nothing => ?_⟩
      exact none_open (nothing.imp id fun noClass inner => noClass (List.mem_of_mem_drop inner))

/-! ## Reports -/

variable {path : Path} {text : String}

/-- The classes of a report are those that are finished when all of it is taken. -/
theorem classesOf_text (path : Path) (text : String) :
    classesOf path text =
      ((Progress.takeAll {} (Xml.eventsFrom [] text.toList)).mapError
        (GateError.malformedCoverage path)).map fun p => p.classes.reverse := by
  unfold classesOf
  rw [takeAll_events]
  cases Progress.takeAll {} (Xml.eventsFrom [] text.toList) <;> rfl

/-- A report that is read gives its first classes when it is cut between its markup. -/
theorem classesOf_front {back : String} {classes : List ClassCoverage}
    (leaves : Leaves [] text.toList left) (read : classesOf path (text ++ back) = .ok classes) :
    ∃ shown more, classesOf path text = .ok shown ∧ classes = shown ++ more := by
  rw [classesOf_text, String.toList_append, takeAll_append leaves] at read
  obtain ⟨q, both, rfl⟩ := Except.map_eq_ok_iff.mp read
  obtain ⟨p, first, second⟩ := Except.bind_eq_ok_iff.mp (Except.mapError_eq_ok_iff.mp both)
  obtain ⟨new, added⟩ := takeAll_classes second
  refine ⟨p.classes.reverse, new.reverse, ?_, by rw [added, List.reverse_append]⟩
  rw [classesOf_text, first]
  rfl

/-- The closing tags that are missing add one class at most, and none if no class is open. -/
theorem classesOf_closed (path : Path) (leaves : Leaves [] text.toList left)
    (closable : ∀ name ∈ left, Xml.IsClosable name) :
    ∃ last, last.length ≤ 1 ∧ ("class" ∉ left.map Xml.localName → last = []) ∧
      classesOf path (text ++ String.ofList (closingTags left)) =
        (classesOf path text).map (· ++ last) := by
  rw [classesOf_text, classesOf_text, String.toList_append, takeAll_append leaves,
    String.toList_ofList]
  cases read : Progress.takeAll {} (Xml.eventsFrom [] text.toList) with
  | error fault => exact ⟨[], Nat.zero_le 1, fun _ => rfl, rfl⟩
  | ok p =>
    obtain ⟨last, classes, one, noClass⟩ := closeAll_classes p left
    have tracks : p.opened = left.map Xml.localName := takeAll_opened leaves rfl read
    refine ⟨last.reverse, by rw [List.length_reverse]; exact one, fun elsewhere => ?_, ?_⟩
    · rw [noClass (.inr (by rw [tracks]; exact elsewhere))]
      rfl
    · show ((p.takeAll (Xml.eventsFrom left (closingTags left))).mapError _).map _ = _
      rw [takeAll_closingTags closable]
      show Except.ok (p.closeAll left).classes.reverse = .ok (p.classes.reverse ++ last.reverse)
      rw [classes, List.reverse_append]

/-- Elements that are left open are no fault. A report that reading does not come to the end of is
malformed. Of any other one, with whatever elements left open, the classes are the first ones of
every report that goes on behind it and can be read, and closing the elements changes nothing but
that the class which is open is finished. -/
theorem classesOf_unclosed (path : Path) (text : String) :
    ((¬∃ left, Leaves [] text.toList left) →
      ∃ fault, classesOf path text = .error (.malformedCoverage path fault)) ∧
    ∀ left, Leaves [] text.toList left →
      (∀ back classes, classesOf path (text ++ back) = .ok classes →
        ∃ shown more, classesOf path text = .ok shown ∧ classes = shown ++ more) ∧
      ((∀ name ∈ left, Xml.IsClosable name) →
        ∃ last, last.length ≤ 1 ∧ ("class" ∉ left.map Xml.localName → last = []) ∧
          classesOf path (text ++ String.ofList (closingTags left)) =
            (classesOf path text).map (· ++ last)) := by
  refine ⟨fun broken => ?_, fun left leaves =>
    ⟨fun back classes => classesOf_front leaves, classesOf_closed path leaves⟩⟩
  obtain ⟨fault, failed⟩ := (leaves_or_fails {} [] text.toList).resolve_left broken
  refine ⟨fault, ?_⟩
  rw [classesOf_text, failed]
  rfl

/-- A report that ends behind its first class. -/
def cutReport : String :=
  "<report><package name=\"p\"><class name=\"p/A\">" ++
    "<counter type=\"LINE\" missed=\"1\" covered=\"2\"/></class>"

/-- The report with its package and itself closed. -/
def closedReport : Xml.Forest :=
  .nest ⟨"report", []⟩
    (.nest ⟨"package", [("name", "p")]⟩
      (.nest ⟨"class", [("name", "p/A")]⟩
        (.single ⟨"counter", [("type", "LINE"), ("missed", "1"), ("covered", "2")]⟩ .nil)
        .nil)
      .nil)
    .nil

/-- The cut report leaves two elements open. -/
theorem cutReport_leaves : Leaves [] cutReport.toList ["package".toList, "report".toList] :=
  .step rfl (.step rfl (.step rfl (.step rfl (.step rfl (.done (by decide))))))

/-- The closed report is the cut one with two closing tags behind it. -/
theorem closedReport_eq : closedReport.document = cutReport ++ "</package></report>" := by
  decide

/-- The closed report has one class. -/
theorem closedReport_classes (path : Path) : classesOf path closedReport.document =
    .ok [ClassCoverage.ofCounts "p.A" 1 2] := by
  have read : Progress.takeForest {} closedReport = .ok
      { classes := [ClassCoverage.ofCounts "p.A" 1 2] } := by
    rfl
  rw [classesOf_text, ← takeAll_events, takeAll_document (by decide), read]
  rfl

/-- The cut report gives its class as if the report were whole. -/
theorem cutReport_classes : Leaves [] cutReport.toList ["package".toList, "report".toList] ∧
    (∀ name ∈ ["package".toList, "report".toList], Xml.IsClosable name) ∧
    classesOf ⟨"jacoco.xml"⟩ cutReport = .ok [ClassCoverage.ofCounts "p.A" 1 2] := by
  have closable : ∀ name ∈ ["package".toList, "report".toList], Xml.IsClosable name := by decide
  obtain ⟨last, -, noClass, closed⟩ :=
    ((classesOf_unclosed ⟨"jacoco.xml"⟩ cutReport).2 _ cutReport_leaves).2 closable
  obtain rfl := noClass (by decide)
  have tags : String.ofList (closingTags ["package".toList, "report".toList]) =
      "</package></report>" := by decide
  rw [tags, ← closedReport_eq, closedReport_classes] at closed
  obtain ⟨shown, read, same⟩ := Except.map_eq_ok_iff.mp closed.symm
  rw [List.append_nil] at same
  exact ⟨cutReport_leaves, closable, same ▸ read⟩

/-- A report is not refused for the elements that are left open in it. -/
theorem not_refused_unclosed : ¬∀ (path : Path) (text : String) (left : List (List Char)),
    Leaves [] text.toList left → left ≠ [] →
      ∃ fault, classesOf path text = .error (.malformedCoverage path fault) := by
  intro refused
  have whole := closedReport_classes ⟨"jacoco.xml"⟩
  rw [closedReport_eq] at whole
  obtain ⟨shown, _, read, _⟩ := classesOf_front cutReport_leaves whole
  obtain ⟨fault, failed⟩ := refused ⟨"jacoco.xml"⟩ cutReport _ cutReport_leaves (by decide)
  rw [read] at failed
  cases failed

end QualityGates.Coverage
