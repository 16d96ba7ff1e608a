import GPay.Relaying.Submit
import GPay.Runs

/-!
# What submissions are charged

The fee is charged when a request is admitted, and nothing gives it back when its
transaction turns out to be malformed, to have another fee payer, or not to be
confirmed. An error leaves the ledger as it was exactly when it is a refusal to admit,
or when the ledger has no room left for a charge to show.
-/

namespace GPay.Relaying

open Digits Runs Solana

/-- A charge leaves the ledger as it is: the count is at its largest value, and the fee
is zero or the total is at its largest value too. -/
def Saturated {F : Type} (relayer : Relayer F) (institutionId : String) : Prop :=
  ∃ policy ledger, relayer.policies institutionId = some policy ∧
    relayer.ledgers institutionId = some ledger ∧
    ledger.txCount.toNat = u64Max ∧
      (policy.fee.microUsdc.toNat = 0 ∨ ledger.accruedMicroUsdc.toNat = u64Max)

/-- How many transactions an institution has been charged for. -/
def transactions {F : Type} (relayer : Relayer F) (institutionId : String) : Nat :=
  ((relayer.ledger institutionId).map (fun ledger => ledger.txCount.toNat)).getD 0

/-- A request and its response. -/
structure Handling where
  request : SubmitRequest
  response : Option SubmitResponse

/-- A successful submission of the institution. -/
def Handling.succeeded (institutionId : String) (handling : Handling) : Bool :=
  handling.request.institutionId = institutionId &&
    match handling.response with
    | some (.ok _) => true
    | _ => false

section

variable {F : Type} [Number F] {transport : Transport} {relayer after : Relayer F}

/-- Requests are admitted one after another, under a lock. -/
def Handles (transport : Transport) (relayer : Relayer F) (handling : Handling)
    (after : Relayer F) : Prop :=
  submit transport relayer handling.request = (handling.response, after)

omit [Number F] in
/-- A charge changes the ledger, unless the count is at its largest value and either the sum is
too or the fee is nothing. -/
theorem accrue_eq_iff (ledger : BillingLedger) (fee : FeeQuote) :
    ledger.accrue fee = ledger ↔ ledger.txCount.toNat = u64Max ∧
      (fee.microUsdc.toNat = 0 ∨ ledger.accruedMicroUsdc.toNat = u64Max) := by
  have count := ledger.txCount.toNat_lt
  have total := ledger.accruedMicroUsdc.toNat_lt
  have one : (1 : UInt64).toNat = 1 := rfl
  have fields : ledger.accrue fee = ledger ↔
      saturatingAddU64 ledger.accruedMicroUsdc fee.microUsdc = ledger.accruedMicroUsdc ∧
        saturatingAddU64 ledger.txCount 1 = ledger.txCount := by
    cases ledger
    simp [BillingLedger.accrue]
  rw [fields, ← UInt64.toNat_inj, ← UInt64.toNat_inj, to_nat_saturating_add,
    to_nat_saturating_add, one]
  unfold u64Max
  omega

omit [Number F] in
/-- The charge of an admission shows in the billing unless the ledger is saturated. -/
theorem billing_charged {institutionId : String} {decision : SubmissionDecision}
    {policy : InstitutionPolicy F} {ledger : BillingLedger}
    (charged : Charged relayer institutionId decision after policy ledger) :
    after.billing institutionId = relayer.billing institutionId ↔
      Saturated relayer institutionId := by
  obtain ⟨bucket, policies⟩ := charged.policies
  have saturated : Saturated relayer institutionId ↔ ledger.accrue policy.fee = ledger := by
    simp [Saturated, charged.found, charged.opened, accrue_eq_iff]
  rw [saturated]
  constructor
  · intro same
    simp only [Relayer.billing, Relayer.ledger, charged.ledgers, policies, charged.found,
      charged.opened, Function.update_self, Option.map_some, Option.some.injEq,
      Billing.mk.injEq] at same
    obtain ⟨total, count, _⟩ := same
    cases ledger
    simp only [BillingLedger.totalMicroUsdc] at total count
    simp only [BillingLedger.accrue] at total count ⊢
    rw [total, count]
  · intro same
    simp only [Relayer.billing, Relayer.ledger, charged.ledgers, policies, charged.found,
      charged.opened, Function.update_self, same]
    rfl

omit [Number F] in
/-- What is not admitted shows in no billing. -/
theorem billing_spared {institutionId : String} (spared : Spared relayer institutionId after)
    (other : String) : after.billing other = relayer.billing other := by
  have ledger : after.ledger other = relayer.ledger other := congrFun spared.ledgers other
  rcases spared.policies with same | ⟨policy, bucket, found, refilled⟩
  · rw [Relayer.billing, Relayer.billing, ledger, same]
  · by_cases here : other = institutionId
    · subst here
      simp [Relayer.billing, ledger, refilled, found]
    · simp [Relayer.billing, ledger, refilled, here]

/-- The response to a request and what it does, in the two cases: it is not admitted and charged
nothing, or it is admitted, charged, and then transmitted. -/
theorem submit_cases (transport : Transport) (relayer : Relayer F) (request : SubmitRequest) :
    (relayer.admits request.institutionId request.now = true ∧ ∃ decision policy ledger,
      (submit transport relayer request).1 = transmit transport request decision ∧
        Charged relayer request.institutionId decision (submit transport relayer request).2 policy
          ledger) ∨
    (relayer.admits request.institutionId request.now = false ∧
      (∀ answer, (submit transport relayer request).1 ≠ some (.ok answer)) ∧
        Spared relayer request.institutionId (submit transport relayer request).2) := by
  have cases := admitAt_cases relayer request.institutionId request.now
  cases outcome : relayer.admitAt request.institutionId request.now with
  | mk decided left =>
    rw [outcome] at cases
    rcases cases with ⟨admitted, decision, policy, ledger, accepted, charged⟩ |
      ⟨refused, denied, spared⟩
    · simp only at accepted
      subst accepted
      refine .inl ⟨admitted, decision, policy, ledger, ?_⟩
      simp only [submit, outcome]
      exact ⟨trivial, charged⟩
    · refine .inr ⟨refused, ?_⟩
      cases decided with
      | none =>
        simp only [submit, outcome]
        exact ⟨fun _ => nofun, spared⟩
      | some result =>
        cases result with
        | ok decision => exact absurd rfl (denied decision)
        | error error =>
          simp only [submit, outcome]
          refine ⟨fun answer => ?_, spared⟩
          cases error <;> simp [refusal, err]

/-- An error leaves the billing of the institution as it was exactly when the request
is not admitted, or the transaction goes or panics, or the ledger is saturated. -/
theorem uncharged_iff (transport : Transport) (relayer : Relayer F) (request : SubmitRequest) :
    (∀ error, (submit transport relayer request).1 = some (.error error) →
      (submit transport relayer request).2.billing request.institutionId =
        relayer.billing request.institutionId) ↔
    (relayer.admits request.institutionId request.now = true →
      Goes transport request ∨ Panics transport request ∨
        Saturated relayer request.institutionId) := by
  rcases submit_cases transport relayer request with
    ⟨admitted, decision, policy, ledger, answered, charged⟩ | ⟨refused, _, spared⟩
  · rw [answered, billing_charged charged]
    rcases transmit_cases transport request decision with
      ⟨goes, answer, outcome⟩ | ⟨panics, outcome⟩ | ⟨stays, calm, error, outcome⟩
    · simp [outcome, goes]
    · simp [outcome, panics]
    · simp [outcome, admitted, stays, calm]
  · simp [billing_spared spared, refused]

omit [Number F] in
/-- The count of transactions is a value of its type. -/
theorem transactions_le (relayer : Relayer F) (institutionId : String) :
    transactions relayer institutionId ≤ u64Max := by
  unfold transactions
  cases relayer.ledger institutionId with
  | none => simp
  | some ledger =>
    have bound := ledger.txCount.toNat_lt
    simp only [Option.map_some, Option.getD_some, u64Max]
    omega

omit [Number F] in
/-- A charge counts one transaction of its institution. -/
theorem transactions_charged {institutionId : String} {decision : SubmissionDecision}
    {policy : InstitutionPolicy F} {ledger : BillingLedger}
    (charged : Charged relayer institutionId decision after policy ledger) (other : String) :
    transactions after other =
      min u64Max (transactions relayer other + (decide (institutionId = other)).toNat) := by
  by_cases here : institutionId = other
  · subst here
    have one : (1 : UInt64).toNat = 1 := rfl
    simp [transactions, Relayer.ledger, charged.ledgers, charged.opened, BillingLedger.accrue,
      to_nat_saturating_add, one]
  · have same : transactions after other = transactions relayer other := by
      simp [transactions, Relayer.ledger, charged.ledgers, Ne.symm here]
    simp [same, here, transactions_le relayer other]

omit [Number F] in
/-- What is not admitted is not counted. -/
theorem transactions_spared {institutionId : String} (spared : Spared relayer institutionId after)
    (other : String) : transactions after other = transactions relayer other := by
  rw [transactions, Relayer.ledger, spared.ledgers]
  rfl

/-- One request's share of the count, when what is admitted goes: one if it succeeds, and nothing
otherwise. -/
theorem transactions_step {handling : Handling} (handled : Handles transport relayer handling after)
    (goes : relayer.admits handling.request.institutionId handling.request.now = true →
      Goes transport handling.request) (institutionId : String) :
    transactions after institutionId =
      min u64Max
        (transactions relayer institutionId + (handling.succeeded institutionId).toNat) := by
  obtain ⟨answered, left⟩ : (submit transport relayer handling.request).1 = handling.response ∧
      (submit transport relayer handling.request).2 = after := by
    rw [handled]
    exact ⟨rfl, rfl⟩
  have cases := submit_cases transport relayer handling.request
  rw [answered, left] at cases
  rcases cases with ⟨admitted, decision, policy, ledger, response, charged⟩ | ⟨_, denied, spared⟩
  · obtain ⟨answer, success⟩ := transmit_goes (goes admitted) decision
    have counted : handling.succeeded institutionId =
        decide (handling.request.institutionId = institutionId) := by
      simp [Handling.succeeded, response, success]
    rw [transactions_charged charged, counted]
  · have failed : handling.succeeded institutionId = false := by
      unfold Handling.succeeded
      split
      · rename_i answer success
        exact absurd success (denied answer)
      · simp
    have bound := transactions_le relayer institutionId
    simp [transactions_spared spared, failed, bound]

/-- A request that ends in an error leaves the institution's billing as it was exactly when it is
not admitted, or its transaction goes or panics, or the ledger is saturated. And over any
requests of which all that are admitted go, the count grows by the successful submissions, up to
its largest value.

Proof: an admission charges before the transaction is decoded, signed and sent, and no later step
takes the charge back. Over a run each step adds one to the count or nothing, as it succeeds or
not. -/
theorem submissions_charged_iff (transport : Transport) :
    (∀ (relayer : Relayer F) (request : SubmitRequest),
      (∀ error, (submit transport relayer request).1 = some (.error error) →
        (submit transport relayer request).2.billing request.institutionId =
          relayer.billing request.institutionId) ↔
      (relayer.admits request.institutionId request.now = true →
        Goes transport request ∨ Panics transport request ∨
          Saturated relayer request.institutionId)) ∧
    ∀ (start finish : Relayer F) (handlings : List Handling) (institutionId : String),
      Run (Guarded (Handles transport) (fun relayer handling =>
        relayer.admits handling.request.institutionId handling.request.now = true →
          Goes transport handling.request)) start handlings finish →
      transactions finish institutionId =
        min u64Max
          (transactions start institutionId +
            handlings.countP (Handling.succeeded institutionId)) := by
  refine ⟨fun relayer request => uncharged_iff transport relayer request, ?_⟩
  intro start finish handlings institutionId run
  induction run with
  | nil => simp [transactions_le start institutionId]
  | @snoc handlings middle finish handling earlier last counted =>
    rw [transactions_step last.1 last.2, counted, List.countP_append]
    cases success : handling.succeeded institutionId with
    | false => simp [success]
    | true =>
      simp only [List.countP_cons_of_pos success, List.countP_nil, Bool.toNat_true]
      omega

end

namespace Local

/-- A relayer with the institution that the service registers at its start. -/
def relayer : Relayer ℚ :=
  Relayer.new.register "demo_bank"
    ((InstitutionPolicy.new (TokenBucket.new 100 (100 / 60) 0) ⟨50000⟩).withMonthlyCap 10000000)

/-- The relayer's key, for the sample. -/
def pubkey : Pubkey := Bytes.replicate 32 1

/-- A message with the relayer in its first slot, which is to be signed. -/
def message : VersionedMessage := .legacy ⟨⟨1, 0, 0⟩, [pubkey], Bytes.replicate 32 0, []⟩

/-- Its transaction without signatures on the wire, and the text of these bytes. -/
def wire : List UInt8 := [0, 1, 0, 0, 1] ++ pubkey.val ++ List.replicate 33 0

/-- A transaction for which the relayer pays, as it is sent. -/
def wireText : String :=
  "AAEAAAEBAQEBAQEBAQEBAQEBAQEBAQEBAQEBAQEBAQEBAQEB" ++
    "AQAAAAAAAAAAAAAAAAAAAAAAAAAAAAAAAAAAAAAAAAAAAA=="

/-- Decodes this text. -/
def transport : Transport where
  decode b64 := if b64 = wireText then some wire else none
  deserialize bytes := if bytes = wire then some ⟨[], message⟩ else none
  serialize _ := wire.tail
  pubkey
  signMessage _ := Signature.default

/-- A request with that transaction, which the node confirms. -/
def request (txB64 : String) : SubmitRequest :=
  ⟨"demo_bank", txB64, 5, fun tx => tx.signatures.head?⟩

/-- The answer to it, and the relayer it leaves. -/
def submitted : Option SubmitResponse × Relayer ℚ := submit transport relayer (request wireText)

/-- A submission that goes is counted. -/
theorem submission_counted : transactions submitted.2 "demo_bank" = 1 := by
  have decoded : decodeTxB64 transport wireText = .ok ⟨[], message⟩ := by
    simp [decodeTxB64, transport]
  have goes : Goes transport (request wireText) := ⟨_, _, _, decoded, rfl, rfl⟩
  have run : Run (Guarded (Handles transport) (fun relayer handling =>
      relayer.admits handling.request.institutionId handling.request.now = true →
        Goes transport handling.request)) relayer [⟨request wireText, submitted.1⟩] submitted.2 :=
    Run.single ⟨rfl, fun _ => goes⟩
  rw [(submissions_charged_iff transport).2 _ _ _ "demo_bank" run]
  decide +kernel

/-- A text that is not base 64 is answered with an error and charged for. -/
theorem malformed_charged :
    (submit transport relayer (request "!")).1 =
      some (.error ⟨400, "invalid tx_b64: base64 decode"⟩) ∧
    relayer.billing "demo_bank" = some ⟨0, 0, some 10000000⟩ ∧
    (submit transport relayer (request "!")).2.billing "demo_bank" =
      some ⟨50000, 1, some 9950000⟩ := by
  refine ⟨?_, ?_, ?_⟩
  · decide +kernel
  · decide +kernel
  · decide +kernel

end Local

end GPay.Relaying
