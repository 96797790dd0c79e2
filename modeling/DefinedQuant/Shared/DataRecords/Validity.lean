import DefinedQuant.Shared.DataRecords.Dataset
import DefinedQuant.Shared.DataRecords.RoundTrip

/-!
# What the validators of datasets require

The validators of payloads and records as conjunctions of what they check.
-/

namespace DataRecords

open Json Canonical Protocol

/-- What `_validate_table` requires of a table. -/
theorem DatasetPayloadFields.validateTable_eq_ok {self : DatasetPayloadFields} :
    self.validateTable = .ok () ↔ (self.columns.1.map (fun c => c.fieldId)).Nodup ∧
      (∀ row ∈ self.rows.1, row.length = self.columns.1.length ∧
        ∀ p ∈ row.zip self.columns.1, validateCell p.1.value p.2.dataType = .ok ()) ∧
      Accepts self.projection := by
  unfold DatasetPayloadFields.validateTable
  rw [Except.throwIf_eq_ok, Except.bind_eq_ok]
  constructor
  · rintro ⟨hUnique, u, hRows, hBytes⟩
    obtain ⟨bs, hBytes, -⟩ := Except.bind_eq_ok.1 hBytes
    refine ⟨not_not.1 hUnique, fun row hRow => ?_, bs, hBytes⟩
    have hRow := Except.forM_eq_ok.1 hRows row hRow
    rw [Except.throwIf_eq_ok] at hRow
    exact ⟨not_not.1 hRow.1, Except.forM_eq_ok.1 hRow.2⟩
  · rintro ⟨hUnique, hRows, bs, hBytes⟩
    refine ⟨not_not.2 hUnique, (), Except.forM_eq_ok.2 (fun row hRow => ?_), ?_⟩
    · rw [Except.throwIf_eq_ok]
      exact ⟨not_not.2 (hRows row hRow).1, Except.forM_eq_ok.2 (hRows row hRow).2⟩
    · exact Except.bind_eq_ok.2 ⟨bs, hBytes, rfl⟩

/-- What `_validate_record` requires of a record. -/
theorem DatasetRecordFields.validateRecord_eq_ok {self : DatasetRecordFields} :
    self.validateRecord = .ok () ↔
    self.columnCount.1 = self.columns.1.length ∧
      ((self.columns.1.map (fun c => c.1.fieldId)).Nodup ∧
        (self.columns.1.map (fun c => c.1.sourceName)).Nodup) ∧
      (self.columns.1.filter (fun c => c.1.role = .timestamp)).length ≤ 1 ∧
      (self.columns.1.filter (fun c => c.1.role = .timestamp) = [] →
        self.observationBounds = none) ∧
      (self.normalizationEvents.1.map eventKey).Nodup ∧
      sortBy eventKey self.normalizationEvents.1 = self.normalizationEvents.1 ∧
      (∀ event ∈ self.normalizationEvents.1, self.validateEvent event = .ok ()) ∧
      self.findings.1 = [] ∧
      (∀ digest, self.source.provenance.contentSha256 = some digest →
        digest = self.rawSourceSha256) ∧
      validateSemver self.normalizer.version.1 = .ok () := by
  unfold DatasetRecordFields.validateRecord
  dsimp only
  rw [Except.throwIf_eq_ok, Except.throwIf_eq_ok, Except.throwIf_eq_ok, Except.throwIf_eq_ok,
    Except.throwIf_eq_ok, Except.throwIf_eq_ok, Except.bind_eq_ok]
  constructor
  · rintro ⟨hCount, hUnique, hOne, hBounds, hNodup, hSorted, u, hEvents, h⟩
    rw [Except.throwIf_eq_ok, Except.throwIf_eq_ok] at h
    obtain ⟨hFindings, hDigest, hSemver⟩ := h
    refine ⟨not_not.1 hCount, not_not.1 hUnique, not_lt.1 hOne, fun hNone => ?_, not_not.1 hNodup,
      not_not.1 hSorted, Except.forM_eq_ok.1 hEvents, not_not.1 hFindings, fun digest hSome => ?_,
      hSemver⟩
    · exact not_not.1 (fun hSome => hBounds ⟨hNone, hSome⟩)
    · rw [hSome] at hDigest
      exact not_not.1 (fun hNe => hDigest (decide_eq_true hNe))
  · rintro ⟨hCount, hUnique, hOne, hBounds, hNodup, hSorted, hEvents, hFindings, hDigest, hSemver⟩
    refine ⟨not_not.2 hCount, not_not.2 hUnique, not_lt.2 hOne, fun h => h.2 (hBounds h.1),
      not_not.2 hNodup, not_not.2 hSorted, (), Except.forM_eq_ok.2 hEvents, ?_⟩
    rw [Except.throwIf_eq_ok, Except.throwIf_eq_ok]
    refine ⟨not_not.2 hFindings, ?_, hSemver⟩
    cases hSome : self.source.provenance.contentSha256 with
    | none => exact Bool.false_ne_true
    | some digest =>
        rw [Option.any_some, hDigest digest hSome]
        exact fun h => absurd rfl (of_decide_eq_true h)

end DataRecords
