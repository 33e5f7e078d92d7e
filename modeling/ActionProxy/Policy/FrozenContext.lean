import ActionProxy.Policy.Revalidation

/-!
The context frozen at ingress against the arguments it was derived from. The
derivation and the evaluator's own reading of the input agree on the currency;
on the amount and on the recipients they agree for the arguments described here
and for no others.
-/

namespace ActionProxy

open JsonText

/-- The context of an evaluation that is given the arguments alone. -/
def argumentsContext (arguments : JsonObject) : PolicyEvaluationContext :=
  { amount := none
    approverGroup := none
    currency := none
    customerVisible := none
    input := some arguments
    metadata := none
    operationKind := none
    recipientDomain := none
    risk := none }

def recipientNames : List String := ["to", "cc", "bcc", "recipient"]

section

variable [Runtime]

/-- The context frozen for the arguments of a request. -/
def frozenContext (arguments : JsonObject) (auth : Option AuthContext) : PolicyEvaluationContext :=
  policyContextFromCanonicalFields (deriveCanonicalPolicyContext arguments auth) arguments

/-- An amount that is present but no number stands for the number of cents given
beside it, and a recipient field that is not blank names a recipient. -/
structure DerivedAsRead (arguments : JsonObject) : Prop where
  amount : ∀ value cents, notNull (member? arguments "amount") = some value →
    finiteNumber (some value) = none → member? arguments "amountCents" = some (.num cents) →
    numberContext (some value) = some cents
  recipients : ∀ name ∈ recipientNames, hasRecipient (member? arguments name) = true →
    ∃ other ∈ recipientNames, stringList (member? arguments other) ≠ []

theorem conditionValues_arguments (arguments : JsonObject) :
    conditionValues (argumentsContext arguments) =
      { approverGroup := none
        amount := statedAmount arguments
        currency := derivedCurrency arguments
        customerVisible := none
        operationKind := none
        recipientDomain := listedRecipientDomain arguments
        risk := none } := by
  have domain : recipientDomainContext (argumentsContext arguments) =
      listedRecipientDomain arguments := by
    unfold recipientDomainContext listedRecipientDomain argumentsContext
    cases inputRecipients (some arguments) <;> rfl
  rw [conditionValues, domain]
  rfl

theorem derivedAmount_asRead_iff (arguments : JsonObject) :
    (derivedAmount arguments <|> statedAmount arguments) = statedAmount arguments ↔
      ∀ value cents, notNull (member? arguments "amount") = some value →
        finiteNumber (some value) = none → member? arguments "amountCents" = some (.num cents) →
        numberContext (some value) = some cents := by
  have fallback : notNull (member? arguments "amount") = none →
      (derivedAmount arguments <|> statedAmount arguments) = statedAmount arguments := by
    intro missing
    have noAmount : finiteNumber (member? arguments "amount") = none := by
      cases stated : member? arguments "amount" with
      | none => rfl
      | some value =>
          rw [stated] at missing
          cases value <;> first | rfl | cases missing
    rw [derivedAmount, statedAmount, noAmount, missing]
    cases member? arguments "amountCents" with
    | none => rfl
    | some cents => cases cents <;> rfl
  cases given : notNull (member? arguments "amount") with
  | none =>
      refine iff_of_true (fallback given) ?_
      intro value cents present
      cases present
  | some value =>
      have stated : member? arguments "amount" = some value := (Option.filter_eq_some_iff.mp given).1
      have read : statedAmount arguments = numberContext (some value) := by
        rw [statedAmount, given]
        rfl
      rw [read, derivedAmount, stated]
      cases number : finiteNumber (some value) with
      | some amount =>
          have same : numberContext (some value) = some amount := by
            cases value with
            | num _ => exact number
            | _ => cases number
          rw [same]
          refine iff_of_true rfl ?_
          intro other cents present notNumber
          cases present
          rw [number] at notNumber
          cases notNumber
      | none =>
          constructor
          · intro same other cents present _ listed
            cases present
            rw [listed] at same
            exact same.symm
          · intro agrees
            cases listed : member? arguments "amountCents" with
            | none => rfl
            | some cents =>
                cases cents with
                | num count =>
                    rw [agrees value count rfl number listed]
                    rfl
                | _ => rfl

omit [Runtime] in
theorem derivedRecipients_asRead_iff (arguments : JsonObject) :
    (derivedRecipientDomain arguments <|> listedRecipientDomain arguments) =
        listedRecipientDomain arguments ↔
      ∀ name ∈ recipientNames, hasRecipient (member? arguments name) = true →
        ∃ other ∈ recipientNames, stringList (member? arguments other) ≠ [] := by
  have listed : listedRecipientDomain arguments = some "external" ↔
      ∃ other ∈ recipientNames, stringList (member? arguments other) ≠ [] := by
    have recipients : inputRecipients (some arguments) =
        recipientNames.flatMap (fun name => stringList (member? arguments name)) := by
      simp [inputRecipients, memberOf, recipientNames]
    rw [listedRecipientDomain, recipients]
    split
    · rename_i nobody
      refine iff_of_false (Option.some_ne_none "external").symm ?_
      rintro ⟨name, member, present⟩
      exact present (List.flatMap_eq_nil_iff.mp (List.isEmpty_iff.mp nobody) name member)
    · rename_i somebody
      refine iff_of_true rfl ?_
      by_contra nowhere
      push Not at nowhere
      exact somebody (List.isEmpty_iff.mpr (List.flatMap_eq_nil_iff.mpr nowhere))
  have derived : derivedRecipientDomain arguments = some "external" ↔
      ∃ name ∈ recipientNames, hasRecipient (member? arguments name) = true := by
    unfold derivedRecipientDomain recipientNames
    rw [← List.any_eq_true]
    split
    · rename_i holds
      exact iff_of_true rfl holds
    · rename_i fails
      exact iff_of_false (Option.some_ne_none "external").symm fails
  constructor
  · intro same name member present
    rw [derived.mpr ⟨name, member, present⟩] at same
    exact listed.mp same.symm
  · intro agrees
    rcases derivedRecipientDomain_cases arguments with external | missing
    · obtain ⟨name, member, present⟩ := derived.mp external
      rw [external, listed.mpr (agrees name member present)]
      rfl
    · rw [missing]
      rfl

theorem frozenValues_iff (arguments : JsonObject) (auth : Option AuthContext) :
    conditionValues (frozenContext arguments auth) =
        conditionValues (argumentsContext arguments) ↔ DerivedAsRead arguments := by
  have twice : (derivedCurrency arguments <|> derivedCurrency arguments) =
      derivedCurrency arguments := by
    cases derivedCurrency arguments <;> rfl
  rw [frozenContext, deriveCanonicalPolicyContext, conditionValues_canonical,
    conditionValues_arguments]
  constructor
  · intro same
    exact ⟨(derivedAmount_asRead_iff arguments).mp (congrArg ConditionValues.amount same),
      (derivedRecipients_asRead_iff arguments).mp
        (congrArg ConditionValues.recipientDomain same)⟩
  · intro asRead
    rw [valuesInForce, (derivedAmount_asRead_iff arguments).mpr asRead.amount,
      (derivedRecipients_asRead_iff arguments).mpr asRead.recipients, twice]
    rfl

theorem argumentsValues_given (arguments : JsonObject) :
    (conditionValues (argumentsContext arguments)).Given := by
  rw [conditionValues_arguments]
  refine ⟨nofun, ?_, nofun, ?_, nofun⟩
  · intro empty
    exact (derivedCurrency_content empty).2 rfl
  · change listedRecipientDomain arguments ≠ some ""
    unfold listedRecipientDomain
    split <;> decide

theorem frozenValues_given (arguments : JsonObject) (auth : Option AuthContext) :
    (conditionValues (frozenContext arguments auth)).Given := by
  rw [frozenContext, deriveCanonicalPolicyContext, conditionValues_canonical]
  exact valuesInForce_given arguments arguments none

/-- No accepted policy selects another rule or decides otherwise on the frozen
context than on the arguments alone exactly when the arguments are read as they
are derived. -/
theorem freezing_keeps_decisions_iff (arguments : JsonObject) (auth : Option AuthContext) :
    (∀ policy : PolicyFile, policy.accepted = true → ∀ toolName,
        (evaluatePolicyTrace policy toolName (frozenContext arguments auth)).selection =
          (evaluatePolicyTrace policy toolName (argumentsContext arguments)).selection) ↔
      DerivedAsRead arguments := by
  rw [← frozenValues_iff arguments auth]
  constructor
  · intro agree
    have named : "tool" ≠ "__proto__" := by decide
    refine (decisions_agree_iff named (frozenValues_given arguments auth)
      (argumentsValues_given arguments)).mp ?_
    intro policy accepted
    rw [evaluatePolicy_decision, evaluatePolicy_decision, agree policy accepted "tool"]
  · intro same policy _ toolName
    rw [evaluate_of_values same]

end

/-- Cents as a number beside an amount that is a word, and a recipient that is a comma. -/
private def wordedPayment : JsonObject :=
  [("amount", some (.str "fifty")), ("amountCents", some (.num (JsonNumber.ofInt 5000))),
    ("to", some (.str ","))]

/-- A policy that denies amounts of a thousand and more tells them apart, and so
does one that denies external recipients. -/
theorem freezing_changes_decisions :
    (denyingPolicy "payments.send" "amount"
      (.obj [("gte", some (.num (JsonNumber.ofInt 1000)))])).accepted = true ∧
    (@evaluatePolicyTrace (sampleRuntime [])
      (denyingPolicy "payments.send" "amount"
        (.obj [("gte", some (.num (JsonNumber.ofInt 1000)))]))
      "payments.send" (@frozenContext (sampleRuntime []) wordedPayment none)).decision = .deny ∧
    (@evaluatePolicyTrace (sampleRuntime [])
      (denyingPolicy "payments.send" "amount"
        (.obj [("gte", some (.num (JsonNumber.ofInt 1000)))]))
      "payments.send" (argumentsContext wordedPayment)).decision = .allow ∧
    (@evaluatePolicyTrace (sampleRuntime [])
      (denyingPolicy "payments.send" "recipientDomain" (.str "external"))
      "payments.send" (@frozenContext (sampleRuntime []) wordedPayment none)).decision = .deny ∧
    (@evaluatePolicyTrace (sampleRuntime [])
      (denyingPolicy "payments.send" "recipientDomain" (.str "external"))
      "payments.send" (argumentsContext wordedPayment)).decision = .allow := by
  refine ⟨by decide, by decide, by decide, by decide, by decide⟩

end ActionProxy
