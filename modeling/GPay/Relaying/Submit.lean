import GPay.Text
import GPay.Relaying.Policy

/-!
# Submitting a transaction

A request names an institution and carries a transaction as text. It is admitted
first; only then is the text decoded, the transaction signed by the relayer and sent.
Decoding, serialisation and signing are library code, and so is the RPC node, whose
answer is part of the request. A message without required signatures leaves no slot
for the relayer's, which panics.
-/

namespace GPay.Relaying

open Digits Text

/-- A public key, in bytes. -/
abbrev Pubkey := Bytes 32

/-- A signature, in bytes. -/
abbrev Signature := Bytes 64

/-- The signature that stands for none. -/
def Signature.default : Signature := Bytes.replicate 64 0

/-- How many of the accounts sign, and how many of these and of the others are read only. -/
structure MessageHeader where
  numRequiredSignatures : UInt8
  numReadonlySignedAccounts : UInt8
  numReadonlyUnsignedAccounts : UInt8

/-- An instruction that names its program and its accounts by their indices. -/
structure CompiledInstruction where
  programIdIndex : UInt8
  accounts : List UInt8
  data : List UInt8

/-- A message with the accounts that it lists itself. -/
structure Message where
  header : MessageHeader
  accountKeys : List Pubkey
  recentBlockhash : Bytes 32
  instructions : List CompiledInstruction

/-- Accounts that a message takes from a table on chain. -/
structure MessageAddressTableLookup where
  accountKey : Pubkey
  writableIndexes : List UInt8
  readonlyIndexes : List UInt8

/-- A message of either version; the newer one may take accounts from tables. -/
inductive VersionedMessage where
  | legacy (message : Message)
  | v0 (message : Message) (addressTableLookups : List MessageAddressTableLookup)

namespace VersionedMessage

/-- The header of either version. -/
def header : VersionedMessage → MessageHeader
  | .legacy message => message.header
  | .v0 message _ => message.header

/-- The accounts that the message lists itself. -/
def staticAccountKeys : VersionedMessage → List Pubkey
  | .legacy message => message.accountKeys
  | .v0 message _ => message.accountKeys

end VersionedMessage

/-- A message with its signatures, in the order of the accounts that sign. -/
structure VersionedTransaction where
  signatures : List Signature
  message : VersionedMessage

/-- What the service takes from its libraries: the decoding of texts and of transactions, the
bytes of a message, and the signing with its keypair. -/
structure Transport where
  decode : String → Option (List UInt8)
  deserialize : List UInt8 → Option VersionedTransaction
  serialize : VersionedMessage → List UInt8
  pubkey : Pubkey
  signMessage : List UInt8 → Signature

/-- The body of a request, the time it is admitted at, and what the RPC node makes of
its transaction. -/
structure SubmitRequest where
  institutionId : String
  txB64 : String
  now : Instant
  confirm : VersionedTransaction → Option Signature

/-- What is answered to a transaction that was confirmed. -/
structure SubmitOk where
  institutionId : String
  signature : String
  feeMicroUsdc : UInt64
  bucketRemaining : UInt64
  deriving DecidableEq

/-- What is answered to one that was not. -/
structure ApiError where
  code : Nat
  error : String
  deriving DecidableEq

/-- Either answer. -/
abbrev SubmitResponse := Except ApiError SubmitOk

/-- A failure with its status. -/
def err (code : Nat) (error : String) : SubmitResponse := .error ⟨code, error⟩

/-- An error displays its outermost context only. -/
def decodeTxB64 (transport : Transport) (b64 : String) : Except String VersionedTransaction :=
  match transport.decode b64 with
  | none => .error "base64 decode"
  | some bytes =>
      match transport.deserialize bytes with
      | none => .error "bincode deserialize"
      | some tx => .ok tx

/-- `Vec::resize`: the list is cut to the length, or filled up with the default signature. -/
def resize (signatures : List Signature) (length : Nat) : List Signature :=
  signatures.take length ++ List.replicate (length - signatures.length) Signature.default

/-- The relayer's signature goes to the first slot, if the relayer is the first account; a panic,
for want of a slot, is `none`. -/
def cosignAsFeePayer (transport : Transport) (tx : VersionedTransaction) :
    Option (Except String VersionedTransaction) :=
  match tx.message.staticAccountKeys.head? with
  | none => some (.error "message has no static accounts")
  | some expectedFeePayer =>
      if expectedFeePayer ≠ transport.pubkey then
        let slot := base58Text expectedFeePayer.val
        some (.error
          s!"message fee-payer slot is {slot}, relayer expected {base58Text transport.pubkey.val}")
      else
        let numRequired := tx.message.header.numRequiredSignatures.toNat
        let signatures :=
          if tx.signatures.length ≠ numRequired then resize tx.signatures numRequired
          else tx.signatures
        let signature := transport.signMessage (transport.serialize tx.message)
        match signatures with
        | [] => none
        | _ :: others => some (.ok { tx with signatures := signature :: others })

/-- The transaction is sent, and its signature told when it is confirmed. What the RPC node fails
with is an error of its own. -/
def sendAndConfirm (request : SubmitRequest) (tx : VersionedTransaction) : Except String String :=
  match request.confirm tx with
  | none => .error "send_and_confirm_transaction"
  | some signature => .ok (base58Text signature.val)

/-- The answer to an institution that is not admitted, with the status that its reason has. -/
def refusal : RelayerError → SubmitResponse
  | .unknownInstitution => err 404 "unknown institution"
  | .suspended => err 403 "institution suspended"
  | .rateLimited => err 429 "rate limited"
  | .feeCapExceeded => err 402 "monthly cap exceeded"

/-- What follows the admission: the transaction is decoded, signed and sent, and each of the
three may fail, the charge being made already. -/
def transmit (transport : Transport) (request : SubmitRequest) (decision : SubmissionDecision) :
    Option SubmitResponse :=
  match decodeTxB64 transport request.txB64 with
  | .error e => some (err 400 s!"invalid tx_b64: {e}")
  | .ok unsigned =>
      match cosignAsFeePayer transport unsigned with
      | none => none
      | some (.error e) => some (err 400 s!"cosign failed: {e}")
      | some (.ok signed) =>
          match sendAndConfirm request signed with
          | .error e => some (err 502 s!"rpc submit failed: {e}")
          | .ok signature =>
              some (.ok ⟨request.institutionId, signature, decision.fee.microUsdc,
                decision.bucketRemaining⟩)

/-- The response, unless the handler panics, and the relayer afterwards: admitted first, then
decoded, signed and sent. -/
def submit {F : Type} [Number F] (transport : Transport) (relayer : Relayer F)
    (request : SubmitRequest) :
    Option SubmitResponse × Relayer F :=
  match relayer.admitAt request.institutionId request.now with
  | (none, after) => (none, after)
  | (some (.error error), after) => (some (refusal error), after)
  | (some (.ok decision), after) => (transmit transport request decision, after)

/-- The transaction decodes, has the relayer in its fee-payer slot and a slot for its
signature, and is confirmed. -/
def Goes (transport : Transport) (request : SubmitRequest) : Prop :=
  ∃ unsigned signed signature, decodeTxB64 transport request.txB64 = .ok unsigned ∧
    cosignAsFeePayer transport unsigned = some (.ok signed) ∧
      sendAndConfirm request signed = .ok signature

/-- It decodes, and signing it panics. -/
def Panics (transport : Transport) (request : SubmitRequest) : Prop :=
  ∃ unsigned, decodeTxB64 transport request.txB64 = .ok unsigned ∧
    cosignAsFeePayer transport unsigned = none

/-- A transaction that goes is answered with success. -/
theorem transmit_goes {transport : Transport} {request : SubmitRequest}
    (goes : Goes transport request) (decision : SubmissionDecision) :
    ∃ answer, transmit transport request decision = some (.ok answer) := by
  obtain ⟨unsigned, signed, signature, decoded, cosigned, sent⟩ := goes
  simp only [transmit, decoded, cosigned, sent]
  exact ⟨_, rfl⟩

/-- A transaction that goes is answered with success, one that panics not at all, and
every other with an error. -/
theorem transmit_cases (transport : Transport) (request : SubmitRequest)
    (decision : SubmissionDecision) :
    (Goes transport request ∧ ∃ answer, transmit transport request decision = some (.ok answer)) ∨
    (Panics transport request ∧ transmit transport request decision = none) ∨
    (¬ Goes transport request ∧ ¬ Panics transport request ∧
      ∃ error, transmit transport request decision = some (.error error)) := by
  unfold transmit Goes Panics
  cases decodeTxB64 transport request.txB64 with
  | error e => exact .inr (.inr ⟨by simp, by simp, _, rfl⟩)
  | ok unsigned =>
    cases cosigned : cosignAsFeePayer transport unsigned with
    | none => exact .inr (.inl ⟨⟨unsigned, rfl, cosigned⟩, by simp [cosigned]⟩)
    | some outcome =>
      cases outcome with
      | error e =>
        exact .inr (.inr ⟨by simp [cosigned], by simp [cosigned], _, by simp [cosigned, err]; rfl⟩)
      | ok signed =>
        cases sent : sendAndConfirm request signed with
        | error e =>
          exact .inr (.inr ⟨by simp [cosigned, sent], by simp [cosigned], _,
            by simp [cosigned, sent, err]; rfl⟩)
        | ok signature =>
          exact .inl ⟨⟨unsigned, signed, signature, rfl, cosigned, sent⟩, _,
            by simp [cosigned, sent]; rfl⟩

end GPay.Relaying
