import QualityGates.Proofs.Lookup
import QualityGates.Proofs.Manifest
import QualityGates.Proofs.Result
import QualityGates.Release

/-!
# How the release version is resolved

A version that is given is taken or refused for its own sake. Without one, the version is that of
the manifest, and a manifest that leads to none costs the gate a warning and nothing more. The state
of a manifest is the answer to the one question that is asked about it: the bytes that are read
there, or why none can be read.
-/

namespace QualityGates.Release

/-- A manifest in a state leads to a version: its bytes are a text, and that is markup in which a
version is declared. -/
def LeadsTo (state : Except ReadFault ByteArray) (version : Version) : Prop :=
  ∃ bytes text raw, state = .ok bytes ∧ String.fromUTF8? bytes = some text ∧
    Manifest.versionText? text = .ok (some raw) ∧ Version.lenient? raw = some version

/-- Why a manifest in a state is of no use, with one reason for each stage of reading it. -/
inductive Explains (manifest : Path) : Except ReadFault ByteArray → Warning → Prop where
  /-- No bytes can be read. -/
  | unread (fault : ReadFault) : Explains manifest (.error fault) (.unavailable manifest fault)
  /-- The bytes are no text. -/
  | notText {bytes : ByteArray} (undecoded : String.fromUTF8? bytes = none) :
    Explains manifest (.ok bytes) (.unavailable manifest .notText)
  /-- The text is no markup. -/
  | notXml {bytes : ByteArray} {text : String} {fault : Xml.Fault}
    (decoded : String.fromUTF8? bytes = some text)
    (malformed : Manifest.versionText? text = .error fault) :
    Explains manifest (.ok bytes) (.notXml manifest fault)
  /-- Nothing in the text is a version of the project. -/
  | undeclared {bytes : ByteArray} {text : String}
    (decoded : String.fromUTF8? bytes = some text)
    (absent : Manifest.versionText? text = .ok none) :
    Explains manifest (.ok bytes) (.undeclared manifest)
  /-- What stands for the version does not read as one. -/
  | notRelease {bytes : ByteArray} {text raw : String}
    (decoded : String.fromUTF8? bytes = some text)
    (declared : Manifest.versionText? text = .ok (some raw))
    (unreadable : Version.lenient? raw = none) :
    Explains manifest (.ok bytes) (.notRelease raw)

variable {answer : (q : Question) → Answer q} {manifest : Path} {state : Except ReadFault ByteArray}
  {raw : String} {version : Version} {warning : Warning}

/-- A version that is given is taken exactly when its trimmed text is one. -/
theorem ofOverride_ok_iff :
    ofOverride raw = .ok version ↔ Version.strict? (Text.trimmed raw) = some version := by
  unfold ofOverride
  cases given : Version.strict? (Text.trimmed raw) <;> simp

/-- Otherwise it is refused, and the error shows it as it was given. -/
theorem ofOverride_error_iff {e : GateError} :
    ofOverride raw = .error e ↔
      Version.strict? (Text.trimmed raw) = none ∧ e = .invalidVersionOverride raw := by
  unfold ofOverride
  cases given : Version.strict? (Text.trimmed raw) with
  | none => simp [eq_comm]
  | some version => simp

/-- Bytes that are no text are as good as none. -/
theorem ofManifest_notText {bytes : ByteArray} (undecoded : String.fromUTF8? bytes = none) :
    ofManifest manifest (Except.bind (.ok bytes) decodeText) =
      .error (.unavailable manifest .notText) := by
  have read : decodeText bytes = .error .notText := by
    unfold decodeText
    rw [undecoded]
  change ofManifest manifest (decodeText bytes) = _
  rw [read]
  rfl

/-- Bytes that are a text come to what the text comes to. -/
theorem ofManifest_text {bytes : ByteArray} {text : String}
    (decoded : String.fromUTF8? bytes = some text) :
    ofManifest manifest (Except.bind (.ok bytes) decodeText) = ofManifestText manifest text := by
  have read : decodeText bytes = .ok text := by
    unfold decodeText
    rw [decoded]
  change ofManifest manifest (decodeText bytes) = _
  rw [read]
  rfl

/-- A manifest gives the version that its state leads to, or else the warning that its state
explains. -/
theorem ofManifest_spec (manifest : Path) (state : Except ReadFault ByteArray) :
    (∃ version, ofManifest manifest (state.bind decodeText) = .ok version ∧
      LeadsTo state version) ∨
    ∃ warning, ofManifest manifest (state.bind decodeText) = .error warning ∧
      Explains manifest state warning := by
  cases state with
  | error fault => exact .inr ⟨_, rfl, .unread fault⟩
  | ok bytes =>
    cases decoded : String.fromUTF8? bytes with
    | none => exact .inr ⟨_, ofManifest_notText decoded, .notText decoded⟩
    | some text =>
      rw [ofManifest_text decoded]
      unfold ofManifestText
      cases declared : Manifest.versionText? text with
      | error fault => exact .inr ⟨_, rfl, .notXml decoded declared⟩
      | ok found => cases found with
        | none => exact .inr ⟨_, rfl, .undeclared decoded declared⟩
        | some raw => cases readable : Version.lenient? raw with
          | none => exact .inr ⟨_, by simp [readable], .notRelease decoded declared readable⟩
          | some version =>
            exact .inl ⟨version, by simp [readable], bytes, text, raw, rfl, decoded, declared,
              readable⟩

/-- A state does not both lead to a version and explain a warning. -/
theorem LeadsTo.not_explains (leads : LeadsTo state version) :
    ¬ Explains manifest state warning := by
  obtain ⟨bytes, text, raw, rfl, decoded, declared, readable⟩ := leads
  intro explained
  cases explained <;> simp_all

/-- A state leads to one version. -/
theorem LeadsTo.unique {other : Version} (leads : LeadsTo state version)
    (leads' : LeadsTo state other) : version = other := by
  obtain ⟨bytes, text, raw, rfl, decoded, declared, readable⟩ := leads
  obtain ⟨bytes', text', raw', same, decoded', declared', readable'⟩ := leads'
  obtain rfl := Except.ok.inj same
  simp_all

/-- A state explains one warning. -/
theorem Explains.unique {other : Warning} (explained : Explains manifest state warning)
    (explained' : Explains manifest state other) : warning = other := by
  cases explained <;> cases explained' <;> simp_all

/-- A version that is given is all that counts. -/
theorem run_resolve_some (answer : (q : Question) → Answer q) (manifest : Path) (raw : String) :
    (resolve (some raw) manifest).run answer = ⟨[], (ofOverride raw).map some⟩ := rfl

/-- Without a version that is given, the manifest leads to one or costs one warning. -/
theorem run_resolve_none (answer : (q : Question) → Answer q) (manifest : Path) :
    (∃ version, (resolve none manifest).run answer = ⟨[], .ok (some version)⟩ ∧
      LeadsTo (answer (.bytes manifest)) version) ∨
    ∃ warning, (resolve none manifest).run answer = ⟨[warning], .ok none⟩ ∧
      Explains manifest (answer (.bytes manifest)) warning := by
  have asked : (Lookup.text manifest).run answer =
      Except.bind (answer (.bytes manifest)) decodeText := rfl
  unfold resolve
  dsimp only
  rw [Lookup.run_bind, asked]
  rcases ofManifest_spec manifest (answer (.bytes manifest)) with
    ⟨version, found, leads⟩ | ⟨warning, found, explained⟩
  · rw [found]
    exact .inl ⟨version, rfl, leads⟩
  · rw [found]
    exact .inr ⟨warning, rfl, explained⟩

/-- Resolving the version of a project degrades and is never aborted by the manifest. It fails
exactly when a version is given whose trimmed text is none, and a version that is one is taken in
whatever state the manifest is. Otherwise the manifest decides: it leads to a version without a
warning, or to none with the one warning that its state explains. -/
theorem resolve_degrades (answer : (q : Question) → Answer q) (manifest : Path) :
    (∀ override e, ((resolve override manifest).run answer).result = .error e ↔
      ∃ raw, override = some raw ∧ Version.strict? (Text.trimmed raw) = none ∧
        e = .invalidVersionOverride raw) ∧
    (∀ raw version, Version.strict? (Text.trimmed raw) = some version →
      (resolve (some raw) manifest).run answer = ⟨[], .ok (some version)⟩) ∧
    (∀ version, (resolve none manifest).run answer = ⟨[], .ok (some version)⟩ ↔
      LeadsTo (answer (.bytes manifest)) version) ∧
    (∀ warning, (resolve none manifest).run answer = ⟨[warning], .ok none⟩ ↔
      Explains manifest (answer (.bytes manifest)) warning) ∧
    ((∃ version, (resolve none manifest).run answer = ⟨[], .ok (some version)⟩) ∨
      ∃ warning, (resolve none manifest).run answer = ⟨[warning], .ok none⟩) := by
  have given := run_resolve_some answer manifest
  have outcome := run_resolve_none answer manifest
  refine ⟨?_, ?_, ?_, ?_, ?_⟩
  · intro override e
    cases override with
    | none =>
      have succeeds : ((resolve none manifest).run answer).result ≠ .error e := by
        rcases outcome with ⟨version, same, -⟩ | ⟨warning, same, -⟩ <;> simp [same]
      exact ⟨fun failed => absurd failed succeeds, fun ⟨_, h, _⟩ => (nomatch h)⟩
    | some raw =>
      rw [given, Except.map_eq_error_iff, ofOverride_error_iff]
      simp
  · intro raw version readable
    rw [given, ofOverride_ok_iff.mpr readable]
    rfl
  · intro version
    rcases outcome with ⟨found, same, leads⟩ | ⟨warning, same, explained⟩
    · constructor
      · intro taken
        rw [same] at taken
        cases taken
        exact leads
      · intro leads'
        rw [same, leads.unique leads']
    · constructor
      · intro taken
        rw [same] at taken
        cases taken
      · intro leads
        exact absurd explained leads.not_explains
  · intro warning
    rcases outcome with ⟨found, same, leads⟩ | ⟨warned, same, explained⟩
    · constructor
      · intro taken
        rw [same] at taken
        cases taken
      · intro explained
        exact absurd explained leads.not_explains
    · constructor
      · intro taken
        rw [same] at taken
        cases taken
        exact explained
      · intro explained'
        rw [same, explained.unique explained']
  · rcases outcome with ⟨version, same, -⟩ | ⟨warning, same, -⟩
    · exact .inl ⟨version, same⟩
    · exact .inr ⟨warning, same⟩

/-- A project whose manifest is in some state. -/
def manifestProject (manifest : Entry) : Surroundings where
  tree := ⟨[(["p", "pom.xml"], manifest)]⟩
  workingDirectory := ["p"]

/-- The elements of the manifest of a pre-release with a parent of another version. -/
def preReleaseElements : Xml.Forest :=
  .nest ⟨"project", []⟩
    (.nest ⟨"parent", []⟩ (.nest ⟨"version", []⟩ (.text "9.9.9" .nil) .nil)
      (.nest ⟨"version", []⟩ (.text "\n 1.2.3-rc.1 " .nil) .nil)) .nil

/-- The manifest of a pre-release. -/
def preRelease : String :=
  String.ofList preReleaseElements.spelled

/-- The manifest of the pre-release declares its version. -/
theorem versionText?_preRelease : Manifest.versionText? preRelease = .ok (some "1.2.3-rc.1") := by
  have parent : Xml.Spells "9.9.9".toList "9.9.9".toList := Xml.spells_self (by decide)
  have version : Xml.Spells "\n 1.2.3-rc.1 ".toList "\n 1.2.3-rc.1 ".toList :=
    Xml.spells_self (by decide)
  have spells : preReleaseElements.TextsSpell id :=
    ⟨⟨⟨⟨⟨by decide, parent⟩, rfl, trivial⟩, trivial⟩,
      ⟨⟨by decide, version⟩, rfl, trivial⟩, trivial⟩, trivial⟩
  have declared : Manifest.declared? id preReleaseElements = some "1.2.3-rc.1" := by
    decide +kernel
  rw [← declared]
  exact Manifest.versionText?_spelled (by decide) spells

/-- The version of the project is resolved from what is given whatever the manifest is, and from the
manifest otherwise, unless that is no text. -/
theorem sample_degrades :
    (resolve (some " 1.2.3 ") ⟨"pom.xml"⟩).run (manifestProject .directory).answer =
      ⟨[], .ok (some ⟨1, 2, 3⟩)⟩ ∧
    ((resolve (some "1.2") ⟨"pom.xml"⟩).run (manifestProject .directory).answer).result =
      .error (.invalidVersionOverride "1.2") ∧
    (resolve none ⟨"pom.xml"⟩).run (manifestProject (.file preRelease.toUTF8)).answer =
      ⟨[], .ok (some ⟨1, 2, 3⟩)⟩ ∧
    (resolve none ⟨"pom.xml"⟩).run (manifestProject (.file ⟨#[0xFF]⟩)).answer =
      ⟨[.unavailable ⟨"pom.xml"⟩ .notText], .ok none⟩ := by
  have decoded : String.fromUTF8? preRelease.toUTF8 = some preRelease := by
    unfold String.fromUTF8?
    rw [dif_pos (show preRelease.toUTF8.IsValidUTF8 from preRelease.isValidUTF8)]
    rfl
  have directory := resolve_degrades (manifestProject .directory).answer ⟨"pom.xml"⟩
  have file (bytes : ByteArray) :=
    resolve_degrades (manifestProject (.file bytes)).answer ⟨"pom.xml"⟩
  refine ⟨directory.2.1 _ _ (by decide +kernel),
    (directory.1 _ _).mpr ⟨_, rfl, by decide +kernel, rfl⟩,
    ((file _).2.2.1 _).mpr ?_, ((file _).2.2.2.1 _).mpr ?_⟩
  · exact ⟨_, _, _, rfl, decoded, versionText?_preRelease, by decide +kernel⟩
  · exact .notText (by decide +kernel)

end QualityGates.Release
