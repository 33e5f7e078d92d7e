import ActionProxy.Contracts.ActionRequest

/-!
Evidence of the content a decision was made under, and the hash that binds it.
-/

namespace ActionProxy

open JsonText

def contentInfluenceEvidenceVersion : String := "actionproxy.content-influence.v1"

/-- `/^influence_[a-f0-9]{64}$/u`. -/
def isInfluenceScopeId (id : String) : Bool :=
  let chars := id.toList
  chars.take 10 == "influence_".toList && chars.length == 74 &&
    (chars.drop 10).all (fun char => char.isDigit || ('a' ≤ char && char ≤ 'f'))

def ContentInfluenceSourceReference.json (reference : ContentInfluenceSourceReference) : Json :=
  .obj [
    ("integrity", some (.str reference.integrity.text)),
    ("sourceId", reference.sourceId.map .str),
    ("sourceToolCallId", some (.str reference.sourceToolCallId))]

def contentInfluenceBindingCore (evidence : ContentInfluenceEvidenceV1) : Json :=
  .obj [
    ("baseDecision", some (.str evidence.baseDecision.text)),
    ("effectiveDecision", some (.str evidence.effectiveDecision.text)),
    ("exposureRevision", some (.num (JsonNumber.ofInt evidence.exposureRevision))),
    ("exposureSnapshotHash", some (.str evidence.exposureSnapshotHash)),
    ("influenceScope", some (.obj [
      ("id", evidence.influenceScope.id.map .str),
      ("verified", some (.bool evidence.influenceScope.verified))])),
    ("observedSources",
      some (.arr (evidence.observedSources.map (fun source => .str (influenceSourceText source))))),
    ("policy", some (.obj [
      ("versionHash", some (.str evidence.policy.versionHash)),
      ("versionId", evidence.policy.versionId.map .str)])),
    ("selectedRule", some (.obj [
      ("allowFrom", some (.arr (evidence.selectedRule.allowFrom.map
        (fun source => .str (influenceSourceText source))))),
      ("otherwise", some (.str evidence.selectedRule.otherwise.text))])),
    ("sourceCount", some (.num (JsonNumber.ofInt evidence.sourceCount))),
    ("sourceCountIsLowerBound", some (.bool evidence.sourceCountIsLowerBound)),
    ("sourceReferences",
      some (.arr (evidence.sourceReferences.map ContentInfluenceSourceReference.json))),
    ("version", some (.str evidence.version))]

section

variable [Runtime]

def validContentInfluenceBindingHash (evidence : Option ContentInfluenceEvidenceV1) :
    Option String := do
  let evidence ← evidence
  guard (evidence.version = contentInfluenceEvidenceVersion)
  guard (0 ≤ evidence.exposureRevision)
  guard (evidence.influenceScope.verified = (nonEmpty evidence.influenceScope.id).isSome)
  guard (evidence.influenceScope.id.all isInfluenceScopeId = true)
  let computed := hashCanonicalJson (contentInfluenceBindingCore evidence)
  guard (computed = evidence.bindingHash)
  return computed

/-- What an attempt is bound to: the valid hash, a mark for invalid evidence, or nothing. -/
def contentInfluenceBindingHash (evidence : Option ContentInfluenceEvidenceV1) : Option String :=
  validContentInfluenceBindingHash evidence <|>
    (if evidence.isSome then some "invalid" else none)

def validatedContentExposureRevisionGuard (evidence : Option ContentInfluenceEvidenceV1)
    (authoritativeInfluenceScopeId : Option String) : Option ContentExposureRevisionGuard := do
  let scopeId ← nonEmpty authoritativeInfluenceScopeId
  let _ ← validContentInfluenceBindingHash evidence
  let evidence ← evidence
  guard (evidence.influenceScope.verified = true)
  guard (evidence.influenceScope.id = some scopeId)
  guard (0 ≤ evidence.exposureRevision)
  return { influenceScopeId := scopeId, revision := evidence.exposureRevision }

end

end ActionProxy
