import GPay.Gateway.Store
import GPay.Stealth.Port

/-!
# The gateway's requests

Every request of an institution is authenticated by its API key, every delivery of
the indexer by the internal secret. A request reads and writes the store through its
operations, and whatever is thrown on the way becomes an internal error. The clock,
random numbers and seeds that a request draws are part of its call.
-/

namespace GPay.Gateway

open Doubles Stealth.Port
open Quarantine (DepositState)

/-- The routes of the gateway, with what stands in their paths and queries. -/
inductive Route where
  | receivingAddress
  | paymentStatus (id : String)
  | release
  | refund
  | treasuryDeposits
  | treasuryDepositsList (limit : Option String)
  | depositDetected

/-- A request: its route, the two headers that are read, and its body unless that is not JSON. -/
structure Request where
  route : Route
  apiKey : Option String
  internalSecret : Option String
  body : Option Json

/-- A request with what its handler draws from the outside: the clocks, a random
number and the bytes of a seed. -/
structure Call where
  request : Request
  moment : Moment
  seed : List UInt8

/-- The status and the body of an answer. -/
structure Response where
  status : Nat
  body : Json

/-- What the gateway is built with: the curve library of its addresses, and the secret that the
indexer has to send. -/
structure Env (Point : Type) where
  noble : Noble Point
  expectedSecret : String

namespace Response

/-- The answer to a success. -/
def ok (members : List (String × Json)) : Response := ⟨200, .object members⟩

/-- An answer that names an error, possibly with further members. -/
def error (status : Nat) (name : String) (members : List (String × Json)) : Response :=
  ⟨status, .object (("error", .string name) :: members)⟩

/-- The answer to anything that is thrown behind a route: the handlers catch nothing, so that a
body that is no JSON, a failing derivation and a failing query come to the same. -/
def internalError : Response := ⟨500, .string "Internal Server Error"⟩

/-- The answer to a body that the schema refuses, with what it says of each field. -/
def invalidBody (detail : Json) : Response := error 400 "invalid_body" [("detail", detail)]

/-- The answer to a record that does not exist, or is another institution's, which are not told
apart. -/
def notFound : Response := error 404 "not_found" []

/-- A member of an answer that is a text. -/
def text (response : Response) (name : String) : Option String :=
  match response.body with
  | .object members =>
      match Json.member members name with
      | some (.string value) => some value
      | _ => none
  | _ => none

/-- A member of an answer that is a number. -/
def number (response : Response) (name : String) : Option Double :=
  match response.body with
  | .object members =>
      match Json.member members name with
      | some (.number value) => some value
      | _ => none
  | _ => none

/-- The record that an answer names, if it names one. Answers that are no success name none. -/
def depositId (response : Response) : Option String := response.text "deposit_id"

end Response

/-- The body after parsing and checking, or the answer to a body that is refused: to one that is
no JSON, and to one that the schema does not accept. -/
def parseBody {α : Type} (request : Request) (safeParse : Json → Except Json α) :
    Except Response α :=
  match request.body with
  | none => .error .internalError
  | some body => (safeParse body).mapError .invalidBody

/-- Nothing is left to decide about a record in such a state: it has been released or
refunded. -/
def terminal (state : DepositState) : Bool := state = .released || state = .refunded

/-- A release or a refund once its body is parsed: the record it names, whether the
record's state allows it, the answer when not, and what is written and answered when
it does. It decides what was undecided, and its success names the record. -/
structure Settlement where
  depositId : String
  allowed : DepositRecord → Bool
  refusal : String
  target : DepositState
  answer : DepositRecord → Response
  undecided : ∀ dep, allowed dep = true → terminal dep.state = false
  decides : terminal target = true
  succeeds : ∀ dep, (answer dep).status = 200 ∧ (answer dep).depositId = some dep.id

/-- What is checked of the record that was read, in this order: that there is one, that it is the
institution's, and that its state allows what is asked. -/
def Settlement.check (settlement : Settlement) (inst : Institution) (found : Option DepositRecord) :
    Except Response DepositRecord :=
  match found with
  | none => .error .notFound
  | some dep =>
      if dep.institutionId ≠ inst.id then .error .notFound
      else if !settlement.allowed dep then
        .error (.error 409 settlement.refusal [("state", .string (stateText dep.state))])
      else .ok dep

/-- A release: of an approved record, to a target that is answered but not stored. Nothing is
done on chain, as the answer says itself. -/
def releaseSettlement (body : ReleaseBody) : Settlement where
  depositId := body.depositId
  allowed dep := dep.state = .approved
  refusal := "not_approved"
  target := .released
  answer dep := .ok [("deposit_id", .string dep.id), ("state", .string "released"),
    ("target_addr_hex", .string body.targetAddrHex),
    ("note", .string "gateway tracks release; on-chain submission goes via gpay-cli or relayer")]
  undecided := by
    intro dep approved
    have state : dep.state = .approved := by simpa using approved
    rw [state]
    rfl
  decides := rfl
  succeeds _ := ⟨rfl, rfl⟩

/-- A refund: of a rejected or expired record, or of a pending one from its expiry on. What is
answered is the refund address that the record was issued with. -/
def refundSettlement (body : RefundBody) (now : Int) : Settlement where
  depositId := body.depositId
  allowed dep := dep.state = .rejected ∨ dep.state = .expired ∨
    (dep.state = .pending ∧ dep.expiresAt ≤ now)
  refusal := "not_refundable"
  target := .refunded
  answer dep := .ok [("deposit_id", .string dep.id), ("state", .string "refunded"),
    ("refund_addr_hex", .string (bytesToHex dep.refundAddr))]
  undecided := by
    intro dep refundable
    have state : dep.state = .rejected ∨ dep.state = .expired ∨
        dep.state = .pending ∧ dep.expiresAt ≤ now := by
      simpa using refundable
    rcases state with state | state | ⟨state, _⟩
    · rw [state]; rfl
    · rw [state]; rfl
    · rw [state]; rfl
  decides := rfl
  succeeds _ := ⟨rfl, rfl⟩

/-- One more of a state, behind the states seen before it. -/
def countState (counts : List (String × Nat)) (state : String) : List (String × Nat) :=
  if state ∈ counts.map Prod.fst then
    counts.map (fun count => if count.1 = state then (state, count.2 + 1) else count)
  else counts ++ [(state, 1)]

/-- How many deposits there are of each state, in the order in which states first occur. A state
of no deposit is left out. -/
def byState (deposits : List DepositRecord) : Json :=
  .object ((deposits.foldl (fun counts d => countState counts (stateText d.state)) []).map
    (fun count => (count.1, .integer count.2)))

/-- `Math.min(…, 500)`, which is no number when the first argument is none, and has no bound
below. -/
def atMost500 : Double → Double
  | .nan => .nan
  | .infinity negative => if negative then .infinity true else .finite 500
  | .finite value => .finite (min value 500)

/-- The limit of a listing, a hundred unless the query gives one. Any text of the query is turned
into a number, whatever it is. -/
def limitOf (query : Option String) : Double :=
  atMost500 (match query with
    | none => .finite 100
    | some text => numberOf text)

/-- The fields that a record shows of its payment on chain. -/
def onChainFields (dep : DepositRecord) : List (String × Json) :=
  [("on_chain_address", .optional .string dep.onChainAddress),
    ("on_chain_amount", .optional (fun amount => .string (toString amount)) dep.onChainAmount),
    ("on_chain_state", .optional .string dep.onChainState)]

/-- What an institution is told of one record: its state, its terms and the public half of its
address, and what is known of its payment on chain. -/
def paymentStatusJson (dep : DepositRecord) : Response :=
  .ok ([("deposit_id", .string dep.id), ("state", .string (stateText dep.state)),
    ("amount_hint", .string (toString dep.amountHint)),
    ("stealth_pubkey_hex", .string (bytesToHex dep.stealthPubkey)),
    ("view_tag", .integer dep.viewTag),
    ("expires_at", .integer dep.expiresAt)] ++ onChainFields dep)

/-- What an institution is told of each record of a listing, with the customer and the times, and
with what is known of its payment on chain. -/
def listItem (d : DepositRecord) : Json :=
  .object ([("deposit_id", .string d.id), ("customer_id", .string d.customerId),
    ("amount_hint", .string (toString d.amountHint)), ("mint", .string d.mint),
    ("stealth_pubkey_hex", .string (bytesToHex d.stealthPubkey)), ("view_tag", .integer d.viewTag),
    ("state", .string (stateText d.state)), ("created_at", .integer d.createdAt),
    ("expires_at", .integer d.expiresAt)] ++ onChainFields d ++
    [("on_chain_observed_at", .optional .integer d.onChainObservedAt)])

section Handlers

variable {Point σ : Type} [Store σ] (env : Env Point)

/-- The institution of a request, or the answer to a key that is missing, empty or nobody's. -/
def apiKeyAuth (store : σ) (request : Request) : Except Response Institution :=
  match request.apiKey with
  | none | some "" => .error (.error 401 "missing X-API-Key header" [])
  | some key =>
      match Store.findByApiKey store key with
      | none => .error (.error 401 "invalid api key" [])
      | some inst => .ok inst

/-- What is stored for a new receiving address: the institution's identifier, the terms of the
body, and the address with all that finds it again but its secret. -/
def newDeposit (inst : Institution) (body : ReceivingAddressBody) (addr : StealthAddress)
    (expiresAt : Int) : DepositCreate where
  institutionId := inst.id
  customerId := body.customerId
  amountHint := (naturalIn 10 body.amountHint.toList).getD 0
  mint := body.mint
  stealthPubkey := addr.stealthPubkey
  ephemeralR := addr.ephemeralR
  viewTag := addr.viewTag
  refundAddr := hexToBytes body.refundAddrHex
  expiresAt

/-- `POST /v1/receiving-address`. The address is derived for the institution's keys from a fresh
seed and under the nonce zero; it is stored before it is answered. -/
def receivingAddress (store : σ) (call : Call) (inst : Institution) : Response × σ :=
  match parseBody call.request ReceivingAddressBody.safeParse with
  | .error refused => (refused, store)
  | .ok body =>
      match deriveStealthAddress env.noble inst.spendPub inst.viewPub call.seed with
      | .error _ => (.internalError, store)
      | .ok addr =>
          let expiresAt := call.moment.now + body.expireSeconds.toInt * 1000
          match Store.createDeposit store call.moment (newDeposit inst body addr expiresAt) with
          | .error _ => (.internalError, store)
          | .ok (deposit, stored) =>
              (.ok [("deposit_id", .string deposit.id),
                ("stealth_pubkey_hex", .string (bytesToHex addr.stealthPubkey)),
                ("ephemeral_r_hex", .string (bytesToHex addr.ephemeralR)),
                ("view_tag", .integer addr.viewTag), ("expires_at", .integer expiresAt)], stored)

/-- `GET /v1/payment-status/:id`. Other institutions' records are not told from none. -/
def paymentStatus (store : σ) (inst : Institution) (id : String) : Response × σ :=
  match Store.getDeposit store id with
  | none => (.notFound, store)
  | some dep =>
      if dep.institutionId ≠ inst.id then (.notFound, store) else (paymentStatusJson dep, store)

/-- Read, check, write: the record that the body names is read and checked, and its new state is
written by its identifier. -/
def settle (store : σ) (inst : Institution) (settlement : Settlement) : Response × σ :=
  match settlement.check inst (Store.getDeposit store settlement.depositId) with
  | .error refused => (refused, store)
  | .ok dep => (settlement.answer dep, (Store.setDepositState store dep.id settlement.target).2)

/-- `POST /v1/release`: the body is parsed, and its record settled as released if it is
approved. -/
def release (store : σ) (call : Call) (inst : Institution) : Response × σ :=
  match parseBody call.request ReleaseBody.safeParse with
  | .error refused => (refused, store)
  | .ok body => settle store inst (releaseSettlement body)

/-- `POST /v1/refund`: the body is parsed, and its record settled as refunded if its state, or
its expiry at this time, allows it. -/
def refund (store : σ) (call : Call) (inst : Institution) : Response × σ :=
  match parseBody call.request RefundBody.safeParse with
  | .error refused => (refused, store)
  | .ok body => settle store inst (refundSettlement body call.moment.now)

/-- `GET /v1/treasury/deposits`: the totals over as many records as a listing has by default, the
newest of the institution. -/
def treasuryDeposits (store : σ) (inst : Institution) : Response × σ :=
  match Store.listInstitutionDeposits store inst.id defaultLimit with
  | .error _ => (.internalError, store)
  | .ok deposits =>
      (.ok [("total", .integer deposits.length), ("by_state", byState deposits)], store)

/-- `GET /v1/treasury/deposits/list`: as many records as the query asks for, the newest of the
institution. -/
def treasuryDepositsList (store : σ) (inst : Institution) (limit : Option String) : Response × σ :=
  match Store.listInstitutionDeposits store inst.id (limitOf limit) with
  | .error _ => (.internalError, store)
  | .ok deposits =>
      (.ok [("total", .integer deposits.length), ("items", .array (deposits.map listItem))], store)

/-- The store call that a delivery comes to, or the answer to one that is refused: for its secret
first, then for its body, then for the text of its stealth key. -/
def deliveryArguments (request : Request) : Except Response (String × InternalMatchBody) :=
  if request.internalSecret = none ∨ request.internalSecret = some "" ∨
      request.internalSecret ≠ some env.expectedSecret then
    .error (.error 403 "forbidden" [])
  else
    match parseBody request InternalMatchBody.safeParse with
    | .error refused => .error refused
    | .ok body =>
        match base58OrHexToHex body.stealthPubkey with
        | .error _ => .error .internalError
        | .ok stealthHex => .ok (stealthHex, body)

/-- `POST /v1/internal/deposit-detected`, which the indexer calls for each match that it reports.
The match is written by the stealth key, whoever's record carries it. -/
def depositDetected (store : σ) (call : Call) : Response × σ :=
  match deliveryArguments env call.request with
  | .error refused => (refused, store)
  | .ok (stealthHex, body) =>
      match Store.applyOnChainMatch store call.moment stealthHex body.depositPubkey
          body.amount.toInt.toNat (stateText body.state) with
      | .error _ => (.internalError, store)
      | .ok (none, stored) =>
          (.error 404 "no_matching_record" [("stealth_pubkey", .string stealthHex)], stored)
      | .ok (some updated, stored) =>
          (.ok [("deposit_id", .string updated.id),
            ("institution_id", .string updated.institutionId),
            ("gateway_state", .string (stateText updated.state))], stored)

/-- Run a handler for the institution that the request authenticates as. Without one the store is
not touched. -/
def authenticated (store : σ) (call : Call) (handler : Institution → Response × σ) : Response × σ :=
  match apiKeyAuth store call.request with
  | .error refused => (refused, store)
  | .ok inst => handler inst

/-- The answer to a call and the store it leaves, route by route. All but the delivery ask for an
API key. -/
def serve (store : σ) (call : Call) : Response × σ :=
  match call.request.route with
  | .receivingAddress => authenticated store call (receivingAddress env store call)
  | .paymentStatus id => authenticated store call (fun inst => paymentStatus store inst id)
  | .release => authenticated store call (release store call)
  | .refund => authenticated store call (refund store call)
  | .treasuryDeposits => authenticated store call (treasuryDeposits store)
  | .treasuryDepositsList limit =>
      authenticated store call (fun inst => treasuryDepositsList store inst limit)
  | .depositDetected => depositDetected env store call

end Handlers

namespace Local

/-! ## A gateway to evaluate

One institution whose keys are those of the group to evaluate in, an empty store of
each kind, and the calls that its runs are made of. -/

open Stealth.Sample Stealth.Port
open Quarantine (DepositState)

/-- The library of the sample group, and a secret for deliveries. -/
def env : Env Stealth.Scalar := ⟨Stealth.Port.Sample.noble, "internal"⟩

/-- The sample's institution, with the keys that the sample's indexer scans for. -/
def institution : Institution where
  id := "bank"
  apiKey := "bank-key"
  spendPub := ((spendKey.public primitives).toBytes primitives).val
  viewPub := ((viewKey.public primitives).toBytes primitives).val
  releaseAuthority := Digits.toLittleEndian 32 5
  webhookUrl := none

/-- Stores that know the institution. -/
def memory : MemoryStore := { MemoryStore.new with institutions := ⟨[institution], by simp⟩ }

/-- A database with that institution and no records. -/
def postgres : PostgresStore :=
  { PostgresStore.new with
    institutions := ⟨[institution], by simp⟩
    apiKeys := by simp
    references := by simp [PostgresStore.new, Tables.Table.empty] }

/-- A call of that time. The random seed is that of the issued address. -/
def call (now : Int) (request : Request) : Call := ⟨request, ⟨now, now, 0⟩, seed.val⟩

/-- A request of the institution. -/
def own (route : Route) (members : List (String × Json)) : Request :=
  ⟨route, some "bank-key", none, some (.object members)⟩

/-- A request for an address, for a million base units. -/
def create : Call :=
  call 1000 (own .receivingAddress [("customer_id", .string "C-1"),
    ("amount_hint", .string "1000000"), ("mint", .string "SOL"), ("expire_seconds", .integer 3600),
    ("refund_addr_hex", .string (bytesToHex (Digits.toLittleEndian 32 6)))])

/-- A request to release a record. -/
def releaseOf (now : Int) (id : String) : Call :=
  call now (own .release [("deposit_id", .string id),
    ("target_addr_hex", .string (bytesToHex (Digits.toLittleEndian 32 7)))])

/-- What the indexer delivers about the issued address. -/
def delivery (now : Int) (state : DepositState) : Call :=
  call now ⟨.depositDetected, none, some "internal", some (.object [("slice_id", .integer 1),
    ("deposit_pubkey", .string "11111111111111111111111111111111"),
    ("stealth_pubkey", .string (bytesToHex issued.stealthPubkey.val)), ("amount", .integer 1000000),
    ("state", .string (stateText state))])⟩

/-- The identifiers of the first record in either store. -/
def firstId : String := depositId 1

end Local

end GPay.Gateway
