import QualityGates.Manifest
import QualityGates.Proofs.Text.Separated
import QualityGates.Proofs.Xml.Place
import QualityGates.Proofs.Xml.Spelling

/-!
# What a manifest declares

While a manifest is read, the names of the open elements are the place that the next text stands at,
so what is left at the end is the last text at each of the two places that matter. Names hold no
slash, so a place can be told from how it is written.
-/

namespace QualityGates.Manifest

open Xml (Forest)

/-! ## What a forest declares -/

/-- The place of the version of a project. -/
def versionPlace : List String := ["project", "version"]

/-- The place of the property that a version may refer to. -/
def revisionPlace : List String := ["project", "properties", "revision"]

/-- What is left of a text that is not blank: its content, trimmed. -/
def value? (content : String → String) (raw : String) : Option String :=
  if raw.toList.all Xml.isSpace then none else some (Text.trimmed (content raw))

/-- The last text at a place that is not blank; `above` is the place that the forest stands at. -/
def lastValue? (content : String → String) (place above : List String) (forest : Forest) :
    Option String :=
  ((forest.textsAt place above).filterMap (value? content)).getLast?

/-- A text that can be a version: it is not empty, and no placeholder starts in it. -/
def IsUsable (text : String) : Prop :=
  text ≠ "" ∧ ¬∃ before after, text.toList = before ++ ("$\x7b".toList ++ after)

/-- A text is taken for a version exactly when it can be one. -/
theorem isDeclared_iff {text : String} : isDeclared text = true ↔ IsUsable text := by
  unfold isDeclared IsUsable Text.occursIn
  rw [Bool.and_eq_true, Bool.not_eq_true', Bool.not_eq_true', ← Bool.not_eq_true,
    ← Bool.not_eq_true, String.isEmpty_iff, Text.isPart_iff]

instance (text : String) : Decidable (IsUsable text) :=
  decidable_of_iff _ isDeclared_iff

/-- What a forest declares: the last text of the version if it can be one, or else that of the
revision. -/
def declared? (content : String → String) (forest : Forest) : Option String :=
  ((lastValue? content versionPlace [] forest).filter fun text => IsUsable text).or
    ((lastValue? content revisionPlace [] forest).filter fun text => IsUsable text)

/-! ## Places as they are written -/

variable {content : String → String} {p : Progress} {forest rest children : Forest}
  {head : Xml.Head} {raw name : String} {place above : List String}
  {more : List (Except Xml.Fault Xml.Event)}

/-- All names of open elements are without the sign that joins them. -/
def Progress.Sound (p : Progress) : Prop :=
  ∀ name ∈ p.opened, '/' ∉ name.toList

/-- A place can be told from how it is written. -/
theorem Progress.Sound.place_eq_iff (sound : p.Sound) (whole : ∀ name ∈ place, '/' ∉ name.toList)
    (long : 1 < place.length) :
    p.place = String.intercalate "/" place ↔ p.opened.reverse = place := by
  have written (names : List String) : (String.intercalate "/" names).toList =
      ['/'].intercalate (names.map String.toList) := String.toList_intercalate
  have whole' : ∀ text ∈ place.map String.toList, '/' ∉ text := List.forall_mem_map.mpr whole
  have sound' : ∀ text ∈ p.opened.reverse.map String.toList, '/' ∉ text := by
    refine List.forall_mem_map.mpr fun name member => ?_
    exact sound name (List.mem_reverse.mp member)
  have present : place.map String.toList ≠ [] := by
    intro empty
    have length := congrArg List.length empty
    rw [List.length_map, List.length_nil] at length
    omega
  unfold Progress.place
  rw [← String.toList_inj, written, written]
  by_cases nothing : p.opened.reverse.map String.toList = []
  · -- Where nothing is open, the written form is empty, and that of two names is not.
    have outermost : p.opened.reverse = [] := List.map_eq_nil_iff.mp nothing
    have cut := Text.pieces_intercalate present whole'
    constructor
    · intro same
      rw [nothing] at same
      rw [← same] at cut
      have length := congrArg List.length cut
      rw [List.length_map] at length
      change 1 = place.length at length
      omega
    · intro same
      rw [same]
  · rw [Text.intercalate_inj nothing present sound' whole']
    exact List.map_inj_right fun _ _ => String.toList_inj.mp

/-- A text replaces what has been read at its place, and nothing else. -/
theorem Progress.Sound.takeText_eq (sound : p.Sound) (text : String) :
    p.takeText text =
      { p with
        version := if p.opened.reverse = versionPlace then some text else p.version
        revision := if p.opened.reverse = revisionPlace then some text else p.revision } := by
  have atVersion : p.place = "project/version" ↔ p.opened.reverse = versionPlace := by
    have joined : String.intercalate "/" versionPlace = "project/version" := rfl
    rw [← joined]
    exact sound.place_eq_iff (by decide) (by decide)
  have atRevision : p.place = "project/properties/revision" ↔ p.opened.reverse = revisionPlace := by
    have joined : String.intercalate "/" revisionPlace = "project/properties/revision" := rfl
    rw [← joined]
    exact sound.place_eq_iff (by decide) (by decide)
  have apart : versionPlace ≠ revisionPlace := by decide
  unfold Progress.takeText
  by_cases version : p.opened.reverse = versionPlace
  · have other : p.opened.reverse ≠ revisionPlace := fun same => apart (version.symm.trans same)
    rw [if_pos (atVersion.mpr version), if_pos version, if_neg other]
  · rw [if_neg (mt atVersion.mp version), if_neg version]
    by_cases revision : p.opened.reverse = revisionPlace
    · rw [if_pos (atRevision.mpr revision), if_pos revision]
    · rw [if_neg (mt atRevision.mp revision), if_neg revision]

/-! ## Reading a forest -/

/-- Takes a text as it is spelled. -/
def Progress.takeSpelled (content : String → String) (p : Progress) (raw : String) : Progress :=
  if raw.toList.all Xml.isSpace then p else p.takeText (Text.trimmed (content raw))

/-- What has been read after a forest. -/
def Progress.gather (content : String → String) (p : Progress) (forest : Forest) : Progress :=
  { p with
    version := (lastValue? content versionPlace p.opened.reverse forest).or p.version
    revision := (lastValue? content revisionPlace p.opened.reverse forest).or p.revision }

/-- What has been read when an element is opened. -/
def Progress.enter (p : Progress) (name : String) : Progress :=
  { p with opened := name :: p.opened }

/-- What has been read when an element is closed. -/
def Progress.leave (p : Progress) : Progress :=
  { p with opened := p.opened.drop 1 }

/-- A text in front of other ones counts at its own place, and only if there is none behind it. -/
theorem lastValue?_text :
    lastValue? content place above (.text raw rest) =
      (lastValue? content place above rest).or
        (if above = place then value? content raw else none) := by
  unfold lastValue?
  rw [Forest.textsAt, List.filterMap_append, List.getLast?_append]
  by_cases here : above = place
  · rw [if_pos here, if_pos here]
    cases found : value? content raw <;> simp [found]
  · rw [if_neg here, if_neg here]
    rfl

/-- An element in front of other ones counts with what is inside it, and only if there is nothing
behind it. -/
theorem lastValue?_nest :
    lastValue? content place above (.nest head children rest) =
      (lastValue? content place above rest).or
        (lastValue? content place (above ++ [head.name]) children) := by
  unfold lastValue?
  rw [Forest.textsAt, List.filterMap_append, List.getLast?_append]

/-- An event that is read is taken. -/
theorem takeAll_ok {next : Progress} {event : Xml.Event} (taken : p.take event = .ok next) :
    p.takeAll (.ok event :: more) = next.takeAll more := by
  rw [Progress.takeAll, taken]

/-- A spelled text is taken for what is left of it, unless it is blank. -/
theorem takeAll_textEvents {raw cs : List Char} (spells : Xml.Spells raw cs) :
    p.takeAll (Xml.textEvents raw ++ more) =
      (if raw.all Xml.isSpace then p else p.takeText (String.ofList (Text.trim cs))).takeAll
        more := by
  obtain ⟨inner, left, same⟩ := spells.exists_core
  have resolved : Xml.resolve (Xml.core raw) = .ok inner := left.resolveFrom_eq _ _
  rw [Xml.textEvents_eq]
  by_cases blank : raw.all Xml.isSpace = true
  · rw [if_pos blank, if_pos blank]
    rfl
  · have taken : p.take (.text (Xml.core raw)) =
        .ok (p.takeText (String.ofList (Text.trim cs))) := by
      rw [Progress.take, resolved, ← same]
    rw [if_neg blank, if_neg blank]
    exact takeAll_ok taken

/-- Going on behind a text gives what the text and the rest give together. -/
theorem Progress.Sound.gather_text (sound : p.Sound) :
    (p.takeSpelled content raw).gather content rest = p.gather content (.text raw rest) := by
  unfold Progress.takeSpelled Progress.gather
  by_cases blank : raw.toList.all Xml.isSpace = true
  · have nothing : value? content raw = none := if_pos blank
    rw [if_pos blank]
    simp only [lastValue?_text, nothing, ite_self, Option.or_none]
  · have found : value? content raw = some (Text.trimmed (content raw)) := if_neg blank
    rw [if_neg blank, sound.takeText_eq]
    simp only [lastValue?_text, found, Option.or_assoc]
    congr 2 <;> split <;> rfl

/-- Going on behind an element gives what its children and the rest give together. -/
theorem Progress.gather_nest :
    (((p.enter head.name).gather content children).leave).gather content rest =
      p.gather content (.nest head children rest) := by
  unfold Progress.gather Progress.enter Progress.leave
  simp only [lastValue?_nest, List.reverse_cons, List.drop_one, List.tail_cons, Option.or_assoc]

/-- Reading a forest gives the last values at the two places. -/
theorem takeAll_forest (sound : p.Sound) (proper : forest.WellFormed)
    (spells : forest.TextsSpell content) :
    p.takeAll (forest.events ++ more) = (p.gather content forest).takeAll more := by
  induction forest generalizing p more with
  | nil => rfl
  | text raw rest ih =>
    have sound' : (p.takeSpelled content raw).Sound := by
      unfold Progress.takeSpelled
      rw [sound.takeText_eq]
      split <;> exact sound
    rw [Forest.events, List.append_assoc, takeAll_textEvents spells.1.2, ← sound.gather_text]
    exact ih sound' proper spells.2.2
  | single head rest ih => exact ih sound proper.2 spells
  | nest head children rest ihChildren ihRest =>
    have whole : '/' ∉ head.name.toList := fun member =>
      (Xml.ne_of_isNameChar (proper.1.name.chars '/' member)).2.2.1 rfl
    have inside : (p.enter head.name).Sound := List.forall_mem_cons.mpr ⟨whole, sound⟩
    have opening : p.take (.opening head.tag) = .ok (p.enter head.name) := by
      rw [Progress.take, proper.1.tag_localName]
      rfl
    rw [Forest.events, List.cons_append, List.append_assoc, takeAll_ok opening,
      ihChildren inside proper.2.1 spells.1, List.cons_append, takeAll_ok rfl,
      ← Progress.gather_nest]
    exact ihRest sound proper.2.2 spells.2

/-- Before anything has been read, no element is open. -/
theorem Progress.sound_empty : Progress.Sound {} :=
  fun _ member => absurd member List.not_mem_nil

/-- Outside of all elements, a text does not matter. -/
theorem takeAll_outermost {raw cs : List Char} (spells : Xml.Spells raw cs) :
    Progress.takeAll {} (Xml.textEvents raw ++ more) = Progress.takeAll {} more := by
  have elsewhere (text : String) : Progress.takeText {} text = {} := by
    rw [Progress.sound_empty.takeText_eq]
    rfl
  rw [takeAll_textEvents spells, elsewhere, ite_self]

/-- Reading a document is taking the events of its forest. -/
theorem takeAll_document (proper : forest.WellFormed) (spells : forest.TextsSpell content) :
    Progress.takeAll {} (Xml.events (String.ofList forest.spelled)) =
      Progress.takeAll {} forest.events := by
  rcases Forest.events_spelled proper spells with same | ⟨raw, raw', cs, rest, rfl, spelled, same⟩
  · rw [same]
  · rw [same, takeAll_outermost spelled, Forest.events, takeAll_outermost spells.1.2]

/-- A document declares what its forest declares. -/
theorem versionText?_spelled (proper : forest.WellFormed) (spells : forest.TextsSpell content) :
    versionText? (String.ofList forest.spelled) = .ok (declared? content forest) := by
  have usable : isDeclared = fun text => decide (IsUsable text) := by
    funext text
    rw [Bool.eq_iff_iff, isDeclared_iff, decide_eq_true_iff]
  have read : Progress.takeAll {} (forest.events ++ []) =
      (Progress.gather content {} forest).takeAll [] :=
    takeAll_forest Progress.sound_empty proper spells
  rw [List.append_nil] at read
  unfold versionText? declared?
  rw [takeAll_document proper spells, read, usable]
  unfold Progress.gather
  simp only [Progress.takeAll, Except.map, List.reverse_nil, Option.or_none]

/-- Whatever elements are nested in a manifest, it declares the last text of the project's version
that is not blank, trimmed, if that is not empty and holds no placeholder, or else the last text of
its revision property on the same terms, or else nothing. Texts anywhere else do not matter, so
neither does an element that is added to the project, unless it is a version or holds properties. -/
theorem versionText?_document (proper : forest.WellFormed) (spells : forest.TextsSpell content) :
    versionText? (String.ofList forest.spelled) = .ok (declared? content forest) ∧
    ∀ added grown : Forest,
      (∀ head ∈ added.heads, head.name ≠ "version" ∧ head.name ≠ "properties") →
      Forest.AddsInside "project" added forest grown → grown.WellFormed → grown.TextsSpell content →
        versionText? (String.ofList grown.spelled) =
          versionText? (String.ofList forest.spelled) := by
  refine ⟨versionText?_spelled proper spells, ?_⟩
  intro added grown apart adds proper' spells'
  have same {place : List String} (inside : ["project"] ≠ place)
      (elsewhere : ∀ head ∈ added.heads, ¬ ["project"] ++ [head.name] <+: place) :
      lastValue? content place [] grown = lastValue? content place [] forest := by
    unfold lastValue?
    have nothing : added.textsAt place ["project"] = [] :=
      Forest.textsAt_of_heads inside elsewhere
    rw [adds.textsAt_eq nothing]
  have version : lastValue? content versionPlace [] grown =
      lastValue? content versionPlace [] forest := by
    refine same (by decide) fun head member leads => (apart head member).1 ?_
    simpa [versionPlace] using leads
  have revision : lastValue? content revisionPlace [] grown =
      lastValue? content revisionPlace [] forest := by
    refine same (by decide) fun head member leads => (apart head member).2 ?_
    simpa [revisionPlace] using leads
  rw [versionText?_spelled proper' spells', versionText?_spelled proper spells]
  unfold declared?
  rw [version, revision]

/-- What stands in a project: a parent, a version that refers to the revision, and the revision. -/
def sampleChildren : Forest :=
  .text "\n"
    (.nest ⟨"parent", []⟩ (.nest ⟨"version", []⟩ (.text "9.9.9" .nil) .nil)
      (.nest ⟨"version", []⟩ (.text "$\x7brevision\x7d" .nil)
        (.nest ⟨"properties", []⟩
          (.nest ⟨"revision", []⟩ (.text "\n&#49;.2.3 " (.single ⟨"br", []⟩ (.text " " .nil))) .nil)
          .nil)))

/-- A manifest with further elements in the project. -/
def sampleManifest (further : Forest) : Forest :=
  .nest ⟨"project", [("id", "a & b")]⟩ (sampleChildren.append further) .nil

/-- An element of a project with a version of its own. -/
def samplePlugin : Forest :=
  .nest ⟨"plugin", []⟩ (.nest ⟨"version", []⟩ (.text "8.8.8" .nil) .nil) .nil

/-- What the texts of the sample manifest mean. -/
def sampleContent (raw : String) : String :=
  if raw = "\n&#49;.2.3 " then "\n1.2.3 " else raw

/-- The sample manifest declares its revision, and still does with the element added. -/
theorem sampleManifest_declares :
    versionText? (String.ofList (sampleManifest .nil).spelled) = .ok (some "1.2.3") ∧
    versionText? (String.ofList (sampleManifest samplePlugin).spelled) = .ok (some "1.2.3") := by
  have revision : Xml.Spells "\n&#49;.2.3 ".toList "\n1.2.3 ".toList := by
    refine .plain (by decide) ?_
    exact @Xml.Spells.entity ['#', '4', '9'] '1' _ _ (by decide) (by decide) (fun _ _ => rfl)
      (Xml.spells_self (by decide))
  have itself {raw : String} (plain : '&' ∉ raw.toList) :
      Xml.Spells raw.toList raw.toList := Xml.spells_self plain
  have spells (further : Forest) (spelled : further.TextsSpell sampleContent) :
      (sampleManifest further).TextsSpell sampleContent :=
    ⟨⟨⟨by decide, itself (by decide)⟩, rfl,
      ⟨⟨⟨⟨by decide, itself (by decide)⟩, rfl, trivial⟩, trivial⟩,
        ⟨⟨⟨by decide, itself (by decide)⟩, rfl, trivial⟩,
          ⟨⟨⟨⟨by decide, revision⟩, rfl, ⟨⟨by decide, itself (by decide)⟩, rfl, trivial⟩⟩, trivial⟩,
            spelled⟩⟩⟩⟩, trivial⟩
  have plugin : samplePlugin.TextsSpell sampleContent :=
    ⟨⟨⟨⟨by decide, itself (by decide)⟩, rfl, trivial⟩, trivial⟩, trivial⟩
  have plain := @versionText?_document sampleContent (sampleManifest .nil) (by decide)
    (spells .nil trivial)
  have declared : declared? sampleContent (sampleManifest .nil) = some "1.2.3" := by decide +kernel
  have adds : Forest.AddsInside "project" samplePlugin (sampleManifest .nil)
      (sampleManifest samplePlugin) :=
    @Forest.AddsInside.between _ _ .nil sampleChildren .nil .nil _ rfl
  rw [declared] at plain
  exact ⟨plain.1, (plain.2 samplePlugin _ (by decide) adds (by decide)
    (spells _ plugin)).trans plain.1⟩

end QualityGates.Manifest
