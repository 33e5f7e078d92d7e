import ActionProxy.Models

/-!
Action envelopes: the hash that binds an envelope, the envelope of an edited
input, and the hash an approval is reviewed under.
-/

namespace ActionProxy

def ActionExecutionMode.text : ActionExecutionMode → String
  | .externalGrant => "external_grant"
  | .localMock => "local_mock"

/-- Everything but the hash. -/
def ActionEnvelope.withoutHash (envelope : ActionEnvelope) : Json :=
  .obj (
    ("executionMode", some (.str envelope.executionMode.text)) ::
    ("input", some (.obj envelope.input)) ::
    ("inputHash", some (.str envelope.inputHash)) ::
    ("preparedAction", envelope.preparedAction.map .obj) ::
    envelope.body)

section

variable [Runtime]

/-- The envelope with another input in it. -/
def actionEnvelopeForInput (envelope : ActionEnvelope) (input : JsonObject) : ActionEnvelope :=
  let updated := { envelope with input := input, inputHash := hashJson (.obj input) }
  { updated with envelopeHash := hashJson updated.withoutHash }

def reviewHashFor (actionEnvelopeHash approvalId : String) (policyVersionHash : Option String)
    (toolCallId : String) : String :=
  hashJson (.obj [
    ("actionEnvelopeHash", some (.str actionEnvelopeHash)),
    ("approvalId", some (.str approvalId)),
    ("policyVersionHash", policyVersionHash.map .str),
    ("toolCallId", some (.str toolCallId)),
    ("version", some (.str "actionproxy.review.v1"))])

end

end ActionProxy
