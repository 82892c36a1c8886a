import Wireframe.Document.Ingest
import Wireframe.Proofs.Document.Reports

/-!
# When a refused value is converted

The policy asks whether a value declares another version. It is answered from the issues of the
whole value, and not from the value : one of the issues is about the version exactly if the value is
an object with a version other than that of the language, whatever else is wrong with it
(`Document.anyVersionMismatch_iff`). So what becomes of a value is told by the validator, by the
policy and by the first strategy that matches (`ingest_falls_back_iff`).
-/

namespace Wireframe

/-- Whether a raw value is an object with a version, but another one than that of the language. -/
def Json.DeclaresOtherVersion (raw : Json) : Prop :=
  ∃ members version, raw = .object members ∧ Members.get? members "version" = some version ∧
    version ≠ .null ∧ version ≠ .string "0.1"

/-! ## Issues about the version -/

namespace Leads

variable {raw value : Json} {path : Path}

/-- Nothing but the top is a document. -/
theorem eq_of_document (leads : Leads .document raw path .document value) : value = raw := by
  cases leads with
  | top => rfl
  | member _ isPart _ => cases isPart

/-- What is taken for a version is the member of that name. -/
theorem get?_version (leads : Leads .document raw path .version value) :
    ∃ members, raw = .object members ∧ Members.get? members "version" = some value := by
  cases leads with
  | member leads isPart found =>
    cases isPart
    exact ⟨_, leads.eq_of_document.symm, found⟩

end Leads

namespace Document

variable {options : ValidationOptions} {raw : Json} {issues : List Issue}

/-- Whatever else is wrong with a refused value, an issue is about the version exactly if the value
declares another one. -/
theorem anyVersionMismatch_iff (refused : validate options raw = .error issues) :
    Issue.anyVersionMismatch issues = true ↔ raw.DeclaresOtherVersion := by
  obtain ⟨rfl, -⟩ := Checked.issues_of_result (fun _ => exists_of_outcome_check) refused
  simp only [Issue.anyVersionMismatch, List.any_eq_true, decide_eq_true_eq]
  constructor
  · rintro ⟨⟨path, fault⟩, mem, fault_eq⟩
    obtain rfl : fault = .versionMismatch := fault_eq
    have holds := holds_of_mem_check options raw _ mem
    cases holds with
    | versionMismatch leads present other =>
      obtain ⟨members, object, found⟩ := leads.get?_version
      exact ⟨members, _, object, found, present, other⟩
  · rintro ⟨members, version, rfl, found, not_null, other⟩
    have present : Fields.get? ⟨members, .top⟩ "version" = some version :=
      Members.present?_eq_some.2 ⟨found, not_null⟩
    have reported : ⟨Path.top.key "version", .versionMismatch⟩ ∈
        (checkVersion ⟨members, .top⟩).issues := by
      unfold checkVersion
      rw [present]
      cases version with
      | string word =>
        have differs : word ≠ languageVersion := fun same => other (congrArg Json.string same)
        simp [differs, Fields.place]
      | _ => exact List.mem_singleton_self _
    refine ⟨⟨Path.top.key "version", .versionMismatch⟩, ?_, rfl⟩
    rw [issues_check_object]
    exact List.mem_append_left _ (List.mem_append_left _ reported)

end Document

/-! ## Strategies in order -/

namespace Strategy

variable {strategies : List Strategy} {raw : Json}

/-- Whether a strategy is the first in order that matches a value, and this is its document. -/
def IsFirst (strategies : List Strategy) (raw : Json) (strategy : Strategy) (d : Document) : Prop :=
  ∃ before behind, strategies = before ++ strategy :: behind ∧
    (∀ earlier ∈ before, earlier.convert raw = none) ∧ strategy.convert raw = some d

theorem convertFirst_eq_some_iff {name : String} {d : Document} :
    convertFirst strategies raw = some (name, d) ↔
      ∃ strategy, strategy.name = name ∧ IsFirst strategies raw strategy d := by
  simp only [convertFirst, List.findSome?_eq_some_iff, Option.map_eq_some_iff, Prod.mk.injEq,
    Option.map_eq_none_iff]
  constructor
  · rintro ⟨before, strategy, behind, order, ⟨_, made, name_eq, rfl⟩, earlier⟩
    exact ⟨strategy, name_eq, before, behind, order, earlier, made⟩
  · rintro ⟨strategy, name_eq, before, behind, order, earlier, made⟩
    exact ⟨before, strategy, behind, order, ⟨d, made, name_eq, rfl⟩, earlier⟩

theorem convertFirst_eq_none_iff :
    convertFirst strategies raw = none ↔ ∀ strategy ∈ strategies, strategy.convert raw = none := by
  simp [convertFirst]

end Strategy

/-! ## Ingestion -/

/-- Whether a policy lets a refused value be converted. -/
def IngestPolicy.Allows (policy : IngestPolicy) (raw : Json) : Prop :=
  policy.heuristics = true ∧ (¬ raw.DeclaresOtherVersion ∨ policy.anyVersion = true)

section

variable {policy : IngestPolicy} {strategies : List Strategy} {raw : Json} {issues : List Issue}

theorem ingest_of_valid {d : Document} (valid : Document.validate policy.validation raw = .ok d) :
    ingest policy strategies raw = .ok ⟨d, .validated⟩ := by
  simp [ingest, valid]

/-- The switch of the conversion is what the policy says of the value. -/
theorem ingest_blocked_iff (refused : Document.validate policy.validation raw = .error issues) :
    (!policy.heuristics || (Issue.anyVersionMismatch issues && !policy.anyVersion)) = true ↔
      ¬ policy.Allows raw := by
  have version := Document.anyVersionMismatch_iff refused
  rw [IngestPolicy.Allows, ← version]
  cases policy.heuristics <;> cases policy.anyVersion <;> simp

theorem ingest_of_not_allowed (refused : Document.validate policy.validation raw = .error issues)
    (blocked : ¬ policy.Allows raw) :
    ingest policy strategies raw = .error (.invalid issues) := by
  rw [ingest, refused]
  exact if_pos ((ingest_blocked_iff refused).2 blocked)

theorem ingest_of_allowed (refused : Document.validate policy.validation raw = .error issues)
    (allowed : policy.Allows raw) :
    ingest policy strategies raw =
      match Strategy.convertFirst strategies raw with
      | some (name, document) => .ok ⟨document, .converted name⟩
      | none => .error (.conversionMiss issues) := by
  rw [ingest, refused]
  exact if_neg fun switch => (ingest_blocked_iff refused).1 switch allowed

end

/-- A valid value is taken in as it is, and nothing else is. A refused value that the policy allows
to be converted becomes the document of the first strategy that matches, or else is refused because
none does. Every other value is refused as invalid. Both errors have all issues of the validator. -/
theorem ingest_falls_back_iff (policy : IngestPolicy) (strategies : List Strategy) (raw : Json) :
    let checked := Document.validate policy.validation raw
    let taken := ingest policy strategies raw
    (∀ d, taken = .ok ⟨d, .validated⟩ ↔ checked = .ok d) ∧
    (∀ name d, taken = .ok ⟨d, .converted name⟩ ↔
      (∃ issues, checked = .error issues) ∧ policy.Allows raw ∧
        ∃ strategy, strategy.name = name ∧ Strategy.IsFirst strategies raw strategy d) ∧
    (∀ issues, taken = .error (.conversionMiss issues) ↔
      checked = .error issues ∧ policy.Allows raw ∧
        ∀ strategy ∈ strategies, strategy.convert raw = none) ∧
    (∀ issues, taken = .error (.invalid issues) ↔
      checked = .error issues ∧ ¬ policy.Allows raw) := by
  intro checked taken
  simp only [← Strategy.convertFirst_eq_some_iff, ← Strategy.convertFirst_eq_none_iff]
  cases outcome : Document.validate policy.validation raw with
  | ok document =>
    have taken_eq : taken = .ok ⟨document, .validated⟩ := ingest_of_valid outcome
    have checked_eq : checked = .ok document := outcome
    simp [taken_eq, checked_eq]
  | error issues =>
    have checked_eq : checked = .error issues := outcome
    by_cases allowed : policy.Allows raw
    · have taken_eq : taken = _ := ingest_of_allowed outcome allowed
      cases first : Strategy.convertFirst strategies raw with
      | none => simp [taken_eq, checked_eq, first, allowed]
      | some made => simp [taken_eq, checked_eq, first, allowed, Prod.ext_iff, and_comm]
    · have taken_eq : taken = .error (.invalid issues) := ingest_of_not_allowed outcome allowed
      simp [taken_eq, checked_eq, allowed]

/-- Another version among other faults : the value is converted only if the policy does not mind. -/
theorem other_version_is_converted_on_demand :
    let raw : Json := .object [("version", .string "0.2"), ("palette", .bool true),
      ("email", .string "a@b.c")]
    let issues : List Issue := [⟨Path.top.key "version", .versionMismatch⟩,
      ⟨Path.top.key "palette", .wrongType .object .boolean⟩, ⟨Path.top.key "root", .missing⟩]
    let policy (anyVersion : Bool) : IngestPolicy := ⟨anyVersion, true, .structural⟩
    let d := Document.ofRoot (Strategy.loginScreen ⟨true, false, false⟩ none)
    Document.validate .structural raw = .error issues ∧ raw.DeclaresOtherVersion ∧
      ingest (policy false) Strategy.standard raw = .error (.invalid issues) ∧
      ingest (policy true) Strategy.standard raw = .ok ⟨d, .converted "keyword-login"⟩ := by
  intro raw issues policy d
  have refused : Document.validate .structural raw = .error issues := rfl
  have other : raw.DeclaresOtherVersion := ⟨_, .string "0.2", rfl, rfl, nofun, by simp⟩
  have matched : Strategy.keywordLogin.convert raw = some d := by decide +kernel
  obtain ⟨-, -, -, invalid⟩ := ingest_falls_back_iff (policy false) Strategy.standard raw
  obtain ⟨-, converted, -, -⟩ := ingest_falls_back_iff (policy true) Strategy.standard raw
  refine ⟨refused, other, (invalid issues).2 ⟨refused, ?_⟩, (converted _ d).2
    ⟨⟨issues, refused⟩, ⟨rfl, .inr rfl⟩, Strategy.keywordLogin, rfl, [], [], rfl, by simp, matched⟩⟩
  rintro ⟨-, none_declared | ⟨⟨⟩⟩⟩
  exact none_declared other

end Wireframe
