import GPay.Relaying.Charges

/-!
# Signing as the fee payer

The relayer signs a message that has its key first. Its signature replaces the first
one, after the list of signatures has been brought to the number that the header asks
for; a header that asks for none leaves no first one, and the service panics there.
What the instructions of the message do with the fee payer's account is not looked at.
-/

namespace GPay.Relaying

open Digits

/-- The instructions of either version. -/
def VersionedMessage.instructions : VersionedMessage → List CompiledInstruction
  | .legacy message => message.instructions
  | .v0 message _ => message.instructions

/-- Resizing yields that many signatures. -/
theorem length_resize (signatures : List Signature) (length : Nat) :
    (resize signatures length).length = length := by
  simp only [resize, List.length_append, List.length_take, List.length_replicate]
  omega

/-- Resizing to the length there is changes nothing. -/
theorem resize_length (signatures : List Signature) :
    resize signatures signatures.length = signatures := by
  simp [resize]

/-- Bringing a list to a length keeps the entries that remain. -/
theorem get_resize (signatures : List Signature) (length index : Nat)
    (within : index < min signatures.length length) :
    (resize signatures length)[index]? = signatures[index]? := by
  have taken : index < (signatures.take length).length := by
    rw [List.length_take, Nat.min_comm]
    exact within
  rw [resize, List.getElem?_append_left taken, List.getElem?_take_of_lt (by omega)]

section

variable (transport : Transport) (tx : VersionedTransaction)

/-- The message asks for no signature, and has the relayer's key first. -/
def NoSlot : Prop :=
  tx.message.staticAccountKeys.head? = some transport.pubkey ∧
    tx.message.header.numRequiredSignatures.toNat = 0

/-- The signatures after the relayer's is put first. -/
def cosigned : List Signature :=
  transport.signMessage (transport.serialize tx.message) ::
    (resize tx.signatures tx.message.header.numRequiredSignatures.toNat).tail

/-- With its key first the relayer signs what the list of signatures is brought to. -/
theorem cosign_relayer (first : tx.message.staticAccountKeys.head? = some transport.pubkey) :
    cosignAsFeePayer transport tx =
      match resize tx.signatures tx.message.header.numRequiredSignatures.toNat with
      | [] => none
      | _ :: others => some (.ok { tx with
          signatures := transport.signMessage (transport.serialize tx.message) :: others }) := by
  have brought : (if tx.signatures.length = tx.message.header.numRequiredSignatures.toNat then
      tx.signatures else resize tx.signatures tx.message.header.numRequiredSignatures.toNat) =
      resize tx.signatures tx.message.header.numRequiredSignatures.toNat := by
    split
    · rename_i same
      rw [← same, resize_length]
    · rfl
  cases signed : resize tx.signatures tx.message.header.numRequiredSignatures.toNat with
  | nil =>
    rw [signed] at brought
    simp [cosignAsFeePayer, first, brought, signed]
  | cons _ others =>
    rw [signed] at brought
    simp [cosignAsFeePayer, first, brought, signed]

/-- Signing takes the relayer's key in the first slot, and panics without a first
signature. -/
theorem cosign_cases :
    (tx.message.staticAccountKeys.head? ≠ some transport.pubkey ∧
      ∃ error, cosignAsFeePayer transport tx = some (.error error)) ∨
    (NoSlot transport tx ∧ cosignAsFeePayer transport tx = none) ∨
    (tx.message.staticAccountKeys.head? = some transport.pubkey ∧
      0 < tx.message.header.numRequiredSignatures.toNat ∧
      cosignAsFeePayer transport tx =
        some (.ok { tx with signatures := cosigned transport tx })) := by
  by_cases first : tx.message.staticAccountKeys.head? = some transport.pubkey
  · have length := length_resize tx.signatures tx.message.header.numRequiredSignatures.toNat
    rw [cosign_relayer transport tx first, cosigned]
    cases listed : resize tx.signatures tx.message.header.numRequiredSignatures.toNat with
    | nil =>
      rw [listed] at length
      exact .inr (.inl ⟨⟨first, length.symm⟩, rfl⟩)
    | cons signature others =>
      rw [listed, List.length_cons] at length
      exact .inr (.inr ⟨first, by omega, rfl⟩)
  · refine .inl ⟨first, ?_⟩
    unfold cosignAsFeePayer
    cases slot : tx.message.staticAccountKeys.head? with
    | none => exact ⟨_, rfl⟩
    | some expectedFeePayer =>
      have other : expectedFeePayer ≠ transport.pubkey := by
        rintro rfl
        exact first slot
      exact ⟨_, if_pos other⟩

/-- What signing is for: the relayer's signature comes first, and the message and the
signatures of the others are the caller's. -/
structure Cosigns (signed : VersionedTransaction) : Prop where
  message : signed.message = tx.message
  payer : signed.message.staticAccountKeys.head? = some transport.pubkey
  required : 1 ≤ signed.message.header.numRequiredSignatures.toNat
  length : signed.signatures.length = signed.message.header.numRequiredSignatures.toNat
  first : signed.signatures[0]? =
    some (transport.signMessage (transport.serialize signed.message))
  others : ∀ index, 1 ≤ index →
    index < min tx.signatures.length tx.message.header.numRequiredSignatures.toNat →
      signed.signatures[index]? = tx.signatures[index]?

/-- A transaction that the relayer pays for, and that asks for a signature, is cosigned by what
the relayer writes in front. -/
theorem cosigned_cosigns
    (first : tx.message.staticAccountKeys.head? = some transport.pubkey)
    (required : 0 < tx.message.header.numRequiredSignatures.toNat) :
    Cosigns transport tx { tx with signatures := cosigned transport tx } := by
  refine ⟨rfl, first, required, ?_, rfl, ?_⟩
  · show (cosigned transport tx).length = tx.message.header.numRequiredSignatures.toNat
    rw [cosigned, List.length_cons, List.length_tail, length_resize]
    omega
  · intro index positive within
    show (cosigned transport tx)[index]? = _
    obtain ⟨before, rfl⟩ : ∃ before, index = before + 1 := ⟨index - 1, by omega⟩
    rw [cosigned, List.getElem?_cons_succ, List.getElem?_tail, get_resize _ _ _ within]

/-- Signing ends, and gives the caller's transaction with the relayer's signature or an error,
exactly when there is a slot for the signature. In the one other case it panics: the relayer is
the first account, and the header asks for no signature at all.

Proof: by the cases of the function. Where the relayer is not the first account it returns the
error, and where it is, the signatures are resized to the number that the header asks for before
the first one is written. -/
theorem cosigns_iff : (∃ result, cosignAsFeePayer transport tx = some result ∧
    ∀ signed, result = .ok signed → Cosigns transport tx signed) ↔ ¬ NoSlot transport tx := by
  rcases cosign_cases transport tx with
    ⟨other, error, refused⟩ | ⟨none_left, panicked⟩ | ⟨first, required, signed⟩
  · have slot : ¬ NoSlot transport tx := fun none_left => other none_left.1
    rw [refused]
    exact iff_of_true ⟨_, rfl, nofun⟩ slot
  · rw [panicked]
    exact iff_of_false (by simp) (not_not_intro none_left)
  · have slot : ¬ NoSlot transport tx := by
      rintro ⟨_, none_left⟩
      rw [none_left] at required
      exact lt_irrefl 0 required
    rw [signed]
    refine iff_of_true ⟨_, rfl, ?_⟩ slot
    rintro _ ⟨⟩
    exact cosigned_cosigns transport tx first required

end

/-- No instruction lists the account of the fee payer. -/
def PayerUnlisted (message : VersionedMessage) : Prop :=
  ∀ instruction ∈ message.instructions, (0 : UInt8) ∉ instruction.accounts

section

variable {F : Type} [Number F] (transport : Transport) (relayer : Relayer F)
variable (request : SubmitRequest)

/-- The transaction that a request sends to the RPC node. -/
def sent : Option VersionedTransaction :=
  match (relayer.admitAt request.institutionId request.now).1,
      decodeTxB64 transport request.txB64 with
  | some (.ok _), .ok unsigned =>
      match cosignAsFeePayer transport unsigned with
      | some (.ok signed) => some signed
      | _ => none
  | _, _ => none

/-- The RPC node decides on what is sent, and on nothing else: two nodes that agree on it make
for the same response. -/
theorem submit_sent (answer : VersionedTransaction → Option Signature)
    (same : ∀ signed, sent transport relayer request = some signed →
      answer signed = request.confirm signed) :
    submit transport relayer { request with confirm := answer } =
      submit transport relayer request := by
  cases outcome : relayer.admitAt request.institutionId request.now with
  | mk decided after =>
    simp only [submit, outcome]
    cases decided with
    | none => rfl
    | some result =>
      cases result with
      | error error => rfl
      | ok decision =>
        refine Prod.ext ?_ rfl
        simp only [transmit]
        cases decoded : decodeTxB64 transport request.txB64 with
        | error error => rfl
        | ok unsigned =>
          cases signs : cosignAsFeePayer transport unsigned with
          | none => simp only [signs]
          | some signing =>
            cases signing with
            | error error => simp only [signs]
            | ok signed =>
              have reached : sent transport relayer request = some signed := by
                simp [sent, outcome, decoded, signs]
              simp only [signs, sendAndConfirm, same signed reached]

/-- What is sent is an admitted request's transaction, decoded and signed, and nothing is sent
otherwise. -/
theorem sent_iff (signed : VersionedTransaction) :
    sent transport relayer request = some signed ↔
      relayer.admits request.institutionId request.now = true ∧
      ∃ unsigned, decodeTxB64 transport request.txB64 = .ok unsigned ∧
        cosignAsFeePayer transport unsigned = some (.ok signed) := by
  have cases := admitAt_cases relayer request.institutionId request.now
  unfold sent
  rcases cases with ⟨admitted, decision, _, _, accepted, _⟩ | ⟨refused, denied, _⟩
  · rw [accepted, admitted]
    cases decodeTxB64 transport request.txB64 with
    | error error => simp
    | ok unsigned =>
      cases cosigned : cosignAsFeePayer transport unsigned with
      | none => simp [cosigned]
      | some signing => cases signing <;> simp [cosigned]
  · rw [refused]
    simp only [Bool.false_eq_true, false_and, iff_false]
    split
    · rename_i decision _ accepted _
      exact absurd accepted (denied decision)
    · simp

/-- No instruction of what is sent lists the fee payer exactly when no instruction of the
caller's message does, for a request that is admitted and a message that is signed. Nothing on
the way looks at the accounts that an instruction lists.

Proof: what is sent is the decoded transaction with a signature filled in, and so carries the
caller's message as it is. -/
theorem payer_unlisted_iff :
    (∀ signed, sent transport relayer request = some signed → PayerUnlisted signed.message) ↔
    (relayer.admits request.institutionId request.now = true →
      ∀ unsigned, decodeTxB64 transport request.txB64 = .ok unsigned →
        unsigned.message.staticAccountKeys.head? = some transport.pubkey →
        0 < unsigned.message.header.numRequiredSignatures.toNat →
          PayerUnlisted unsigned.message) := by
  constructor
  · intro unlisted admitted unsigned decoded first required
    rcases cosign_cases transport unsigned with
      ⟨other, _⟩ | ⟨none_left, _⟩ | ⟨_, _, signed⟩
    · exact absurd first other
    · rw [none_left.2] at required
      exact absurd required (lt_irrefl 0)
    · have reached := (sent_iff transport relayer request _).mpr
        ⟨admitted, unsigned, decoded, signed⟩
      have untouched := unlisted _ reached
      exact untouched
  · intro unlisted signed reached
    obtain ⟨admitted, unsigned, decoded, cosigned⟩ :=
      (sent_iff transport relayer request signed).mp reached
    rcases cosign_cases transport unsigned with
      ⟨_, _, refused⟩ | ⟨_, panicked⟩ | ⟨first, required, same⟩
    · rw [refused] at cosigned
      nomatch cosigned
    · rw [panicked] at cosigned
      nomatch cosigned
    · rw [same] at cosigned
      obtain rfl := Except.ok.inj (Option.some.inj cosigned)
      exact unlisted admitted unsigned decoded first required

end

namespace Local

/-- A message with the relayer in its first slot that asks for no signature. -/
def unasked : VersionedTransaction :=
  ⟨[], .legacy ⟨⟨0, 0, 0⟩, [pubkey], Bytes.replicate 32 0, []⟩⟩

/-- Signing it panics. -/
theorem unasked_panics : ¬ ∃ result, cosignAsFeePayer transport unasked = some result := by
  have panicked : cosignAsFeePayer transport unasked = none := by decide +kernel
  simp [panicked]

/-- A system transfer of a whole SOL from the first account, the relayer's, to the second. -/
def drain : CompiledInstruction := ⟨2, [0, 1], [2, 0, 0, 0, 0, 202, 154, 59, 0, 0, 0, 0]⟩

/-- A message that moves a million lamports from the relayer's own account. -/
def drainMessage : VersionedMessage :=
  .legacy ⟨⟨1, 0, 1⟩, [pubkey, Bytes.replicate 32 2, Bytes.replicate 32 0], Bytes.replicate 32 0,
    [drain]⟩

/-- Its transaction without signatures on the wire, and the text of these bytes. -/
def drainWire : List UInt8 :=
  [0, 1, 0, 1, 3] ++ pubkey.val ++ List.replicate 32 2 ++ List.replicate 64 0 ++
    [1, 2, 2, 0, 1, 12] ++ drain.data

/-- The text that it is sent as. -/
def drainText : String :=
  "AAEAAQMBAQEBAQEBAQEBAQEBAQEBAQEBAQEBAQEBAQEBAQEBAQICAgICAgIC" ++
    "AgICAgICAgICAgICAgICAgICAgICAgICAAAAAAAAAAAAAAAAAAAAAAAAAAAA" ++
    "AAAAAAAAAAAAAAAAAAAAAAAAAAAAAAAAAAAAAAAAAAAAAAAAAAAAAAAAAAEC" ++
    "AgABDAIAAAAAypo7AAAAAA=="

/-- The relayer's key and its way of signing, for the sample. -/
def drainTransport : Transport where
  decode b64 := if b64 = drainText then some drainWire else none
  deserialize bytes := if bytes = drainWire then some ⟨[], drainMessage⟩ else none
  serialize _ := drainWire.tail
  pubkey
  signMessage _ := Signature.default

/-- The relayer signs it and sends it. -/
theorem drain_sent : ∃ signed, sent drainTransport relayer (request drainText) = some signed ∧
    signed.signatures = [Signature.default] ∧ ¬ PayerUnlisted signed.message := by
  have admitted : relayer.admits "demo_bank" 5 = true := by decide +kernel
  have decoded : decodeTxB64 drainTransport drainText = .ok ⟨[], drainMessage⟩ := by
    simp [decodeTxB64, drainTransport]
  refine ⟨⟨[Signature.default], drainMessage⟩, ?_, rfl, ?_⟩
  · exact (sent_iff drainTransport relayer (request drainText) _).mpr
      ⟨admitted, ⟨[], drainMessage⟩, decoded, rfl⟩
  · intro unlisted
    exact absurd (unlisted drain (by simp [drainMessage, VersionedMessage.instructions]))
      (by decide)

end Local

end GPay.Relaying
