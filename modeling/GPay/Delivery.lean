import GPay.Indexing
import GPay.Gateway.Effects

/-!
# From an issued address to its record

A receiving address is derived by the gateway, paid on chain, found by the indexer
under the institution's view key, and delivered back to the gateway as a text in base
58. What arrives is looked up under the key that was issued, so that it is written to
the record it was issued for and to no other.
-/

namespace GPay.Delivery

open Solana Digits Doubles Stealth Stealth.Port Indexing Gateway LawfulStore Runs
open Quarantine (DepositState Deposit)

section Request

variable {Key : Type} (asRef : Key → Bytes32)

/-- The request that a match is delivered with, once its body is parsed: the internal secret in
its header, and numbers of JSON for the amount and the slice. -/
def notifyMatch (secret : String) (m : PaymentMatch Key) : Request :=
  let body := webhookBody asRef m
  ⟨.depositDetected, none, some secret, some (.object [("slice_id", .number (nearest body.sliceId)),
    ("deposit_pubkey", .string body.depositPubkey), ("stealth_pubkey", .string body.stealthPubkey),
    ("amount", .number (nearest body.amount)), ("state", .string body.state)])⟩

/-- The deposit carries the address that was answered: its stealth key, its ephemeral point and
its view tag are those of the answer, which gives the first two in hexadecimal and the last as a
number. -/
structure Carries (deposit : Deposit Key) (response : Response) : Prop where
  stealthPubkey : response.text "stealth_pubkey_hex" =
    some (bytesToHex (asRef deposit.stealthPubkey).val)
  ephemeralR : response.text "ephemeral_r_hex" = some (bytesToHex deposit.ephemeralR.val)
  viewTag : response.number "view_tag" = some (.finite deposit.viewTag.toNat)

/-- The indexer and the gateway name the states by the same words. -/
theorem webhook_state_text (state : DepositState) : webhookState state = stateText state := by
  cases state <;> rfl

/-- Every number that was sent is accepted as one. -/
theorem number_field_nearest (value : ℚ) :
    numberField [] (some (.number (nearest value))) = .ok (nearest value) := by
  cases rounded : nearest value with
  | nan => exact absurd rounded (nearest_ne_nan value)
  | infinity negative => rfl
  | finite value => rfl

/-- The body of a match is accepted when its amount is, with all else unchanged: the keys as they
are written, and the state that the word stands for. -/
theorem parse_match (secret : String) (m : PaymentMatch Key) (body : InternalMatchBody) :
    parseBody (notifyMatch asRef secret m) InternalMatchBody.safeParse = .ok body ↔
      ∃ amount, numberField [integral, minimum 0] (some (.number (nearest m.amount))) = .ok amount ∧
        body = ⟨nearest m.sliceId, pubkeyText (asRef m.depositPubkey),
          pubkeyText (asRef m.stealthPubkey), amount, m.state⟩ := by
  have sliceId := number_field_nearest m.sliceId
  have state : stateField (some (.string (webhookState m.state))) = .ok m.state := by
    rw [webhook_state_text, state_field_text]
  have texts : ∀ text, stringField [] (some (.string text)) = .ok text := fun _ => rfl
  simp only [parseBody, notifyMatch, webhookBody, InternalMatchBody.safeParse, parseObject,
    Json.member]
  cases amount : numberField [integral, minimum 0] (some (.number (nearest m.amount))) with
  | error messages => simp [amount, sliceId, state, texts, Except.mapError]
  | ok accepted => simp [amount, sliceId, state, texts, Except.mapError, eq_comm]

/-- The key text of a match is read as its key. -/
theorem stealth_text (key : Key) :
    base58OrHexToHex (pubkeyText (asRef key)) = .ok (bytesToHex (asRef key).val) :=
  base58_or_hex_key (asRef key).property

/-- The text of a key is one that a column holds. -/
theorem key_column (key : Bytes32) : columnText (pubkeyText key) = true := by
  have letters : (' ' :: Text.base58Alphabet.chars).all (fun char => char.toNat ≠ 0) = true := by
    decide
  rw [columnText, pubkeyText, Text.base58Text, String.toList_ofList, List.all_eq_true]
  intro char member
  obtain ⟨digit, _, rfl⟩ := List.mem_map.mp member
  exact List.all_eq_true.mp letters _ (Text.base58Alphabet.char_listed digit)

/-- So is the word of a state. -/
theorem state_column (state : DepositState) : columnText (stateText state) = true := by
  cases state <;> decide +kernel

/-- Whatever a delivered match is taken for has its key and its state; its amount may have been
rounded on the way. -/
theorem delivery_arguments_of_match {Point : Type} {env : Env Point} {secret : String}
    {m : PaymentMatch Key} {stealthHex : String} {body : InternalMatchBody}
    (arguments : deliveryArguments env (notifyMatch asRef secret m) = .ok (stealthHex, body)) :
    stealthHex = bytesToHex (asRef m.stealthPubkey).val ∧ body.state = m.state := by
  unfold deliveryArguments at arguments
  split at arguments
  · cases arguments
  · split at arguments
    · cases arguments
    · rename_i parsed
      obtain ⟨amount, _, rfl⟩ := (parse_match asRef secret m _).mp parsed
      rw [stealth_text] at arguments
      obtain ⟨rfl, rfl⟩ := Prod.mk.inj (Except.ok.inj arguments)
      exact ⟨rfl, rfl⟩

/-- A match is delivered with its amount rounded to the nearest double, and otherwise unchanged,
if the secret is the gateway's. -/
theorem delivery_arguments_rounded {Point : Type} (env : Env Point)
    (secret : env.expectedSecret ≠ "") {m : PaymentMatch Key} {rounded : Nat}
    (read : nearest m.amount = .finite rounded) :
    deliveryArguments env (notifyMatch asRef env.expectedSecret m) =
      .ok (bytesToHex (asRef m.stealthPubkey).val,
        ⟨nearest m.sliceId, pubkeyText (asRef m.depositPubkey), pubkeyText (asRef m.stealthPubkey),
          .finite rounded, m.state⟩) := by
  have amount :
      numberField [integral, minimum 0] (some (.number (nearest m.amount))) =
        .ok (.finite rounded) := by
    rw [read]
    apply number_field_ok
    intro check listed
    simp only [List.mem_cons, List.not_mem_nil, or_false] at listed
    rcases listed with rfl | rfl
    · simp [integral, Double.isInteger, Rat.isInt]
    · simp [minimum, Double.atLeast]
  have parsed := (parse_match asRef env.expectedSecret m _).mpr ⟨_, amount, rfl⟩
  rw [deliveryArguments, if_neg (by simp [notifyMatch, secret]), parsed]
  simp only [stealth_text]

/-- A match of an amount that is exact is delivered unchanged. -/
theorem delivery_arguments_match {Point : Type} (env : Env Point) (secret : env.expectedSecret ≠ "")
    {m : PaymentMatch Key} (small : m.amount < 2 ^ 53) :
    deliveryArguments env (notifyMatch asRef env.expectedSecret m) =
      .ok (bytesToHex (asRef m.stealthPubkey).val,
        ⟨nearest m.sliceId, pubkeyText (asRef m.depositPubkey), pubkeyText (asRef m.stealthPubkey),
          .finite m.amount, m.state⟩) :=
  delivery_arguments_rounded asRef env secret (nearest_nat small)

end Request

section Issue

variable {Point σ : Type} [AddCommGroup Point] [LawfulStore σ] {crypto : Primitives Point}
  {env : Env Point}

omit [AddCommGroup Point] in
/-- A request for an address that was answered with success has stored the derived address in a
new record, and answers with the record's identifier and the address. -/
theorem receiving_address_ok {store stored : σ} {call : Call} {inst : Institution}
    {response : Response} (route : call.request.route = .receivingAddress)
    (known : apiKeyAuth store call.request = .ok inst)
    (issued : serve env store call = (response, stored)) (success : response.status = 200) :
    ∃ addr record, deriveStealthAddress env.noble inst.spendPub inst.viewPub call.seed = .ok addr ∧
      record ∈ records stored ∧ record.stealthPubkey = addr.stealthPubkey ∧
      response.depositId = some record.id ∧
      response.text "stealth_pubkey_hex" = some (bytesToHex addr.stealthPubkey) ∧
      response.text "ephemeral_r_hex" = some (bytesToHex addr.ephemeralR) ∧
      response.number "view_tag" = some (.finite addr.viewTag) := by
  simp only [serve, route, authenticated, known, receivingAddress] at issued
  split at issued
  · rename_i parsed
    obtain ⟨rfl, _⟩ := Prod.mk.inj issued
    exact absurd success (parse_body_refused parsed)
  · rename_i body parsed
    split at issued
    · obtain ⟨rfl, _⟩ := Prod.mk.inj issued
      cases success
    · rename_i addr derived
      split at issued
      · obtain ⟨rfl, _⟩ := Prod.mk.inj issued
        cases success
      · rename_i record held added
        obtain ⟨rfl, rfl⟩ := Prod.mk.inj issued
        obtain ⟨_, appended, id, createdAt, same⟩ := create_deposit _ _ _ _ _ added
        refine ⟨addr, record, derived, by simp [appended], by rw [same]; rfl, rfl, rfl, rfl, rfl⟩

/-- A derivation that returns has drawn 64 bytes and met no zero, so that it returns
the scheme's address. -/
theorem derived_ported (agrees : Agrees crypto env.noble) (spendPub : SpendPublicKey Point)
    (viewPub : ViewPublicKey Point) {seed : List UInt8} {addr : Port.StealthAddress}
    (derived : deriveStealthAddress env.noble (spendPub.toBytes crypto).val
      (viewPub.toBytes crypto).val seed = .ok addr) :
    ∃ (rSeed : Bytes 64) (address : Stealth.StealthAddress),
      Stealth.deriveStealthAddressDeterministic crypto spendPub viewPub rSeed 0 = address ∧
        addr = ported address := by
  have sized : seed.length = 64 := derive_sized derived
  have returned : Port.deriveStealthAddressDeterministic env.noble (spendPub.toBytes crypto).val
      (viewPub.toBytes crypto).val seed (0 : UInt64).toNat = .ok addr := derived
  refine ⟨⟨seed, sized⟩, _, rfl, ?_⟩
  by_cases degenerate : ephemeralScalar ⟨seed, sized⟩ = 0 ∨
    offsetScalar crypto viewPub ⟨seed, sized⟩ 0 = 0
  · obtain ⟨message, thrown⟩ := derive_throws agrees spendPub viewPub ⟨seed, sized⟩ 0 degenerate
    rw [returned] at thrown
    cases thrown
  · obtain ⟨ephemeral, offset⟩ := not_or.mp degenerate
    have agreed := derive_agrees agrees spendPub viewPub ⟨seed, sized⟩ 0 ephemeral offset
    exact Except.ok.inj (returned.symm.trans agreed)

/-- A deposit that carries an issued address is matched by the keys it was issued
for. -/
theorem carried_matches {Key : Type} (lawful : crypto.Lawful) {format : AccountFormat Key}
    {deposit : Deposit Key} {slice : SliceCredentials Point} {rSeed : Bytes 64}
    {address : Stealth.StealthAddress} (nonce : slice.nonce = 0)
    (issued : Stealth.deriveStealthAddressDeterministic crypto slice.spendPub
      (slice.viewKey.public crypto) rSeed 0 = address)
    (key : format.asRef deposit.stealthPubkey = address.stealthPubkey)
    (ephemeral : deposit.ephemeralR = address.ephemeralR)
    (tag : deposit.viewTag = address.viewTag) :
    sliceMatches crypto format deposit slice = true ∧
      ∃ point, crypto.decompress deposit.ephemeralR = some point := by
  have scanned := scan_issued lawful slice.spendPub slice.viewKey rSeed 0 issued
  constructor
  · simp only [sliceMatches, scanSlice, key, ephemeral, tag, nonce, scanned]
  · rw [ephemeral, ← issued]
    exact ⟨_, lawful.decompress_compress _⟩

/-- When no other slice matches, the deposit is reported under the matching one. -/
theorem scan_single {Key : Type} {format : AccountFormat Key} {deposit : Deposit Key}
    {indexer : Indexer Point} {slice : SliceCredentials Point} (registered : slice ∈ indexer.slices)
    (matched : sliceMatches crypto format deposit slice = true) {point : Point}
    (decoded : crypto.decompress deposit.ephemeralR = some point)
    (others : ∀ other ∈ indexer.slices,
      other ≠ slice → sliceMatches crypto format deposit other = false)
    (pubkey : Key) :
    indexer.scan crypto format pubkey deposit =
      .ok (some (paymentMatch slice.sliceId pubkey deposit)) := by
  obtain ⟨first, found⟩ :
      ∃ first, indexer.slices.find? (sliceMatches crypto format deposit) = some first :=
    Option.isSome_iff_exists.mp (List.find?_isSome.mpr ⟨slice, registered, matched⟩)
  have same : first = slice := by
    by_contra other
    have skipped := others first (List.mem_of_find?_eq_some found) other
    rw [List.find?_some found] at skipped
    cases skipped
  rw [Indexer.scan, scan_slices_decodable format decoded, found, same]
  rfl

/-- Among distinct keys a match touches the record with its key and no other, in either of the
stores. -/
theorem touches_iff {store : σ}
    (keys : ((records store).map (fun record => record.stealthPubkey)).Nodup)
    {record : DepositRecord} (member : record ∈ records store) {other : DepositRecord}
    (present : other ∈ records store) :
    touches store (bytesToHex record.stealthPubkey) other = true ↔ other.id = record.id := by
  constructor
  · intro touched
    have keyed := touched_key store record.stealthPubkey other present touched
    rw [List.inj_on_of_nodup_map keys present member keyed]
  · intro named
    have same : other = record := List.inj_on_of_nodup_map (distinct store) present member named
    rw [same]
    exact key_touched store record.stealthPubkey record member rfl
      (fun another listed keyed => List.inj_on_of_nodup_map keys listed member keyed)

/-- A match of a stored key is written to its record: the record is the answer, and every other
record stays as it is. Texts and numbers are ones that the columns hold. -/
theorem match_written {store : σ}
    (keys : ((records store).map (fun record => record.stealthPubkey)).Nodup)
    {record : DepositRecord} (member : record ∈ records store) (moment : Moment)
    {onChainAddress : String} {amount : Nat} {state : String}
    (address : columnText onChainAddress) (word : columnText state)
    (small : amount < numericLimit) :
    ∃ now stored,
      Store.applyOnChainMatch store moment (bytesToHex record.stealthPubkey) onChainAddress amount
        state = .ok (some (record.observe onChainAddress amount state now), stored) ∧
      records stored = (records store).map (fun other =>
        if other.id = record.id then other.observe onChainAddress amount state now else other) := by
  obtain ⟨⟨result, stored⟩, applied⟩ :=
    match_accepted store moment (bytesToHex record.stealthPubkey) onChainAddress amount state
      address word small
  obtain ⟨_, now, changed, answer⟩ := apply_match _ _ _ _ _ _ _ _ applied
  have found :
      (records store).find? (touches store (bytesToHex record.stealthPubkey)) = some record := by
    obtain ⟨first, located⟩ : ∃ first,
        (records store).find? (touches store (bytesToHex record.stealthPubkey)) = some first :=
      Option.isSome_iff_exists.mp (List.find?_isSome.mpr
        ⟨record, member, (touches_iff keys member member).mpr rfl⟩)
    have present := List.mem_of_find?_eq_some located
    have named := (touches_iff keys member present).mp (List.find?_some located)
    rw [located, List.inj_on_of_nodup_map (distinct store) present member named]
  rw [found] at answer
  refine ⟨now, stored, by rw [applied, answer]; rfl, ?_⟩
  rw [changed]
  apply List.map_congr_left
  intro other present
  simp only [touches_iff keys member present]

omit [AddCommGroup Point] in
/-- The answer to a delivery that was written. -/
theorem deposit_detected_written (store : σ) (call : Call) {written : σ} {stealthHex : String}
    {body : InternalMatchBody} {updated : DepositRecord}
    (arguments : deliveryArguments env call.request = .ok (stealthHex, body))
    (applied : Store.applyOnChainMatch store call.moment stealthHex body.depositPubkey
      body.amount.toInt.toNat (stateText body.state) = .ok (some updated, written)) :
    ∃ answer : Response, depositDetected env store call = (answer, written) ∧ answer.status = 200 ∧
      answer.depositId = some updated.id := by
  simp only [depositDetected, arguments, applied]
  exact ⟨_, rfl, rfl, rfl⟩

/-- A deposit that carries the numbers of an issued address is reported under the slice of the
institution, and the delivery of the match at any later time writes its address, amount, state
and time to the record that the address was issued with, and to no other. The record's own state
becomes that of the deposit unless the deposit is pending.

Proof: the texts of the answer determine the bytes that the deposit carries, which the slice's
keys find. The record stays in the store with its key along the run, the delivery finds it by
that key, and the two stores write a match alike. -/
theorem payment_recorded {Key : Type} (lawful : crypto.Lawful) (agrees : Agrees crypto env.noble)
    (secret : env.expectedSecret ≠ "") {inst : Institution} {slice : SliceCredentials Point}
    (spendPub : inst.spendPub = (slice.spendPub.toBytes crypto).val)
    (viewPub : inst.viewPub = ((slice.viewKey.public crypto).toBytes crypto).val)
    (nonce : slice.nonce = 0) {store stored : σ} {call : Call} {response : Response}
    (route : call.request.route = .receivingAddress)
    (known : apiKeyAuth store call.request = .ok inst)
    (issued : serve env store call = (response, stored))
    (success : response.status = 200) {events : List Served} {later : σ}
    (run : Run (Step env) stored events later)
    (keys : ((records later).map (fun record => record.stealthPubkey)).Nodup)
    {format : AccountFormat Key} {deposit : Deposit Key}
    (carried : Carries format.asRef deposit response)
    (small : deposit.amount ≤ 2 ^ 53 - 1) {indexer : Indexer Point}
    (registered : slice ∈ indexer.slices)
    (others : ∀ other ∈ indexer.slices,
      other ≠ slice → sliceMatches crypto format deposit other = false)
    (pubkey : Key) (moment : Moment) (seed : List UInt8) :
    let found := paymentMatch slice.sliceId pubkey deposit
    let delivered :=
      serve env later ⟨notifyMatch format.asRef env.expectedSecret found, moment, seed⟩
    indexer.scan crypto format pubkey deposit = .ok (some found) ∧
    ∃ id now, response.depositId = some id ∧ (∃ record ∈ records later, record.id = id) ∧
      delivered.1.status = 200 ∧ delivered.1.depositId = some id ∧
      records delivered.2 = (records later).map (fun record =>
        if record.id = id then
          { record with
            onChainAddress := some (pubkeyText (format.asRef pubkey))
            onChainAmount := some deposit.amount
            onChainState := some (stateText deposit.state)
            onChainObservedAt := some now
            state := if deposit.state = .pending then record.state else deposit.state }
        else record) := by
  intro found delivered
  obtain ⟨addr, created, derived, member, keyed, named, stealthHex, ephemeralHex, tag⟩ :=
    receiving_address_ok route known issued success
  rw [spendPub, viewPub] at derived
  obtain ⟨rSeed, address, scheme, rfl⟩ :=
    derived_ported agrees slice.spendPub (slice.viewKey.public crypto) derived
  -- The texts and the number of the answer determine what the deposit carries.
  have key : format.asRef deposit.stealthPubkey = address.stealthPubkey :=
    Subtype.ext (bytes_to_hex_injective
      (Option.some.inj (carried.stealthPubkey.symm.trans stealthHex)))
  have ephemeral : deposit.ephemeralR = address.ephemeralR := Subtype.ext (bytes_to_hex_injective
    (Option.some.inj (carried.ephemeralR.symm.trans ephemeralHex)))
  have tagged : deposit.viewTag = address.viewTag := by
    have values := Double.finite.inj (Option.some.inj (carried.viewTag.symm.trans tag))
    exact UInt8.toNat_inj.mp (Nat.cast_injective values)
  obtain ⟨matched, point, decoded⟩ := carried_matches lawful nonce scheme key ephemeral tagged
  obtain ⟨record, present, same, kept⟩ := record_kept run member
  have stealth : record.stealthPubkey = (format.asRef deposit.stealthPubkey).val := by
    rw [congrArg DepositCreate.stealthPubkey kept, keyed, key]
    rfl
  have bounded : deposit.amount < numericLimit := by
    unfold numericLimit
    omega
  obtain ⟨now, written, applied, changed⟩ := match_written keys present moment
    (key_column (format.asRef pubkey)) (state_column deposit.state) bounded
  simp only [observe_eq] at changed
  have exact_amount : found.amount < 2 ^ 53 := by
    show deposit.amount < 2 ^ 53
    omega
  have arguments := delivery_arguments_match format.asRef env secret exact_amount
  refine ⟨scan_single registered matched decoded others pubkey, record.id, now, ?_,
    ⟨record, present, rfl⟩, ?_⟩
  · rw [named, same]
  · have amount : (Double.finite deposit.amount).toInt.toNat = deposit.amount := by
      simp [Double.toInt]
    have observed :
        Store.applyOnChainMatch later moment (bytesToHex (format.asRef deposit.stealthPubkey).val)
          (pubkeyText (format.asRef pubkey)) (Double.finite deposit.amount).toInt.toNat
          (stateText deposit.state) =
        .ok (some (record.observe (pubkeyText (format.asRef pubkey)) deposit.amount
          (stateText deposit.state) now), written) := by
      rw [amount, ← stealth]
      exact applied
    obtain ⟨answer, answered, status, about⟩ :=
      deposit_detected_written later ⟨_, moment, seed⟩ arguments observed
    have outcome : delivered = (answer, written) := answered
    rw [outcome]
    exact ⟨status, about, changed⟩

end Issue

namespace Local

open Gateway.Local Stealth.Sample Indexing.Sample Quarantine.Plain

/-- The store after the first address was issued. -/
def issuedStore : MemoryStore := (serve env memory create).2

/-- The keys that the address was issued for, as the indexer knows them. -/
def slice : SliceCredentials Scalar := ⟨1, viewKey, spendKey.public primitives, 0⟩

/-- What the indexer reports of a deposit on it. -/
def found : PaymentMatch Bytes32 := paymentMatch 1 (wallet 262) payment

/-- The deposit on the first address is written to the first record: its address, its
million base units and its state on chain, which is `pending` and leaves the record's. -/
theorem first_payment_recorded :
    indexer.scan primitives sampleFormat (wallet 262) payment =
      .ok (some found) ∧
    ∃ now, records (serve env issuedStore
        ⟨notifyMatch sampleFormat.asRef env.expectedSecret found, ⟨2000, 2000, 0⟩, []⟩).2 =
      (records issuedStore).map (fun record =>
        if record.id = firstId then
          { record with
            onChainAddress := some (pubkeyText (wallet 262))
            onChainAmount := some 1000000
            onChainState := some "pending"
            onChainObservedAt := some now }
        else record) := by
  have secret : env.expectedSecret ≠ "" := by decide
  have spendPub : institution.spendPub = (slice.spendPub.toBytes primitives).val := rfl
  have viewPub : institution.viewPub = ((slice.viewKey.public primitives).toBytes primitives).val :=
    rfl
  have known : apiKeyAuth memory create.request = .ok institution :=
    key_authenticates (by decide) (by decide +kernel) rfl (by decide)
  have issued : serve env memory create = ((serve env memory create).1, issuedStore) := rfl
  have success : (serve env memory create).1.status = 200 := by decide +kernel
  have keys : ((records issuedStore).map (fun record => record.stealthPubkey)).Nodup := by
    decide +kernel
  have carried : Carries sampleFormat.asRef payment (serve env memory create).1 := by
    constructor
    · decide +kernel
    · decide +kernel
    · decide +kernel
  have small : payment.amount ≤ 2 ^ 53 - 1 := by decide +kernel
  have registered : slice ∈ indexer.slices := List.mem_singleton.mpr rfl
  have others : ∀ other ∈ indexer.slices, other ≠ slice →
      sliceMatches primitives sampleFormat payment other = false :=
    fun other listed differs => absurd (List.mem_singleton.mp listed) differs
  obtain ⟨scanned, id, now, named, _, _, _, changed⟩ :=
    payment_recorded primitives_lawful Stealth.Port.Sample.agrees secret spendPub viewPub rfl rfl
      known issued success Run.nil keys carried small registered others
      (wallet 262) ⟨2000, 2000, 0⟩ []
  have first : (serve env memory create).1.depositId = some firstId := by decide +kernel
  obtain rfl := Option.some.inj (named.symm.trans first)
  exact ⟨scanned, now, changed⟩

end Local

end GPay.Delivery
