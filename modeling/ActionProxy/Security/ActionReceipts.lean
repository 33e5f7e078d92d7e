import ActionProxy.Storage.RecordJson

/-!
Action receipts: the material a receipt is signed over, and the check that its
hash and its signature belong to it.
-/

namespace ActionProxy

open JsonText

/-- `receiptMaterial`: the receipt without its outcome, its hash and its signature. -/
def receiptMaterial (record : ActionReceiptRecord) : JsonObject :=
  withoutMembers ["receiptHash", "signature"] record.membersWithoutOutcome

section

variable [Runtime]

def receiptSignature (secret : String) (record : ActionReceiptRecord) (receiptHash : String) :
    String :=
  hmacSha256Hex secret
    (stableStringify (.obj (receiptMaterial record ++ [("receiptHash", some (.str receiptHash))])))

def signReceipt (secret : String) (record : ActionReceiptRecord) : ActionReceiptRecord :=
  let receiptHash := hashJson (.obj (receiptMaterial record))
  { record with
    receiptHash := receiptHash
    signature := receiptSignature secret record receiptHash }

def verifyReceipt (secret : String) (record : ActionReceiptRecord) : Bool :=
  record.receiptHash == hashJson (.obj (receiptMaterial record)) &&
    record.signature == receiptSignature secret record record.receiptHash

/-- A receipt is verified as it was signed, whatever outcome was recorded since. -/
theorem verifyReceipt_signed (secret : String) (record : ActionReceiptRecord)
    (outcome : Option ActionReceiptOutcome) :
    verifyReceipt secret { signReceipt secret record with outcome := outcome } = true := by
  have material : receiptMaterial { signReceipt secret record with outcome := outcome } =
      receiptMaterial record := rfl
  simp only [verifyReceipt, receiptSignature, material]
  simp [signReceipt, receiptSignature]

end

end ActionProxy
