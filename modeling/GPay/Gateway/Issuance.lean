import Mathlib.Data.List.Forall2
import GPay.Gateway.Decimals
import GPay.Gateway.Effects

/-!
# What is issued stays on record

The only request that adds a record is the one for a receiving address. Along every run
the records are those that there were, and behind them one for each address that was
answered, in the order of the answers: each with an identifier of its own, and with the
institution, the terms and the address that its answer named. No later request changes
any of these.
-/

namespace GPay.Gateway

open LawfulStore Runs Stealth.Port Doubles Text

/-- What is fixed about a record once it is created: its identifier, the time, and the
institution, the terms and the address that it was created with. -/
structure Issue where
  id : String
  createdAt : Int
  create : DepositCreate
  deriving DecidableEq

/-- The part of a record that no later request changes. -/
def DepositRecord.issue (record : DepositRecord) : Issue :=
  ⟨record.id, record.createdAt, record.toDepositCreate⟩

/-- A request for a receiving address that succeeded. -/
def Served.issues (served : Served) : Bool :=
  match served.call.request.route with
  | .receivingAddress => served.response.status = 200
  | _ => false

section

variable {Point σ : Type} [LawfulStore σ] {env : Env Point}

/-- The record has the terms of the request's body: the customer and the mint as they were
sent, the amount whose decimal digits were sent, the refund address whose hexadecimal digits
were sent, in either case, and an expiry that many seconds after the request. -/
structure Terms (members : List (String × Json)) (now : Int) (create : DepositCreate) : Prop where
  customer : Json.member members "customer_id" = some (.string create.customerId)
  amount : ∃ digits : String, Json.member members "amount_hint" = some (.string digits) ∧
    naturalIn 10 digits.toList = some create.amountHint
  mint : Json.member members "mint" = some (.string create.mint)
  refund : ∃ hex : String, Json.member members "refund_addr_hex" = some (.string hex) ∧
    create.refundAddr.length = 32 ∧ CaseMix hex.toList (bytesToHex create.refundAddr).toList
  expiry : ∃ seconds : Int, Json.member members "expire_seconds" =
    some (.number (.finite seconds)) ∧ create.expiresAt = now + seconds * 1000

/-- The record is what the request asked for and the answer told: it belongs to the
institution whose key the request carried, has the terms of the request, and holds the
address that was derived from the institution's keys and answered. -/
structure Answered (env : Env Point) (store : σ) (served : Served) (record : DepositRecord) :
    Prop where
  owner : ∃ inst addr, apiKeyAuth store served.call.request = .ok inst ∧
    record.institutionId = inst.id ∧
    deriveStealthAddress env.noble inst.spendPub inst.viewPub served.call.seed = .ok addr ∧
    record.stealthPubkey = addr.stealthPubkey ∧ record.ephemeralR = addr.ephemeralR ∧
    record.viewTag = addr.viewTag
  terms : ∃ members, served.call.request.body = some (.object members) ∧
    Terms members served.call.moment.now record.toDepositCreate
  told : served.response = .ok [("deposit_id", .string record.id),
    ("stealth_pubkey_hex", .string (bytesToHex record.stealthPubkey)),
    ("ephemeral_r_hex", .string (bytesToHex record.ephemeralR)),
    ("view_tag", .integer record.viewTag), ("expires_at", .integer record.expiresAt)]

/-- A body that is accepted states the terms of what is stored for it, member by member, as they
were sent.

Proof: by the schema: each field that is accepted was sent under its name, and what the handler
makes of it is read off. -/
theorem body_terms {request : Request} {body : ReceivingAddressBody}
    (parsed : parseBody request ReceivingAddressBody.safeParse = .ok body) (inst : Institution)
    (addr : StealthAddress) (now : Int) :
    ∃ members, request.body = some (.object members) ∧
      Terms members now (newDeposit inst body addr
        (now + body.expireSeconds.toInt * 1000)) := by
  obtain ⟨json, sent, accepted⟩ : ∃ json, request.body = some json ∧
      ReceivingAddressBody.safeParse json = .ok body := by
    unfold parseBody at parsed
    split at parsed
    · cases parsed
    · rename_i json sent
      cases checked : ReceivingAddressBody.safeParse json with
      | error detail =>
        rw [checked] at parsed
        cases parsed
      | ok same =>
        rw [checked] at parsed
        obtain rfl := Except.ok.inj parsed
        exact ⟨json, sent, checked⟩
  obtain ⟨members, rfl, customer, amount, mint, expire, refund⟩ :=
    receiving_address_body_sent accepted
  refine ⟨members, sent, (string_field_sent customer).1, ?_, (string_field_sent mint).1, ?_, ?_⟩
  · obtain ⟨digits, passed⟩ := string_field_sent amount
    have natural : body.amountHint.toList ≠ [] ∧
        ∀ char ∈ body.amountHint.toList, char.isDigit = true := by
      simpa [uintText] using passed uintText (by simp)
    obtain ⟨value, read⟩ := natural_in_text natural.1 natural.2
    refine ⟨_, digits, ?_⟩
    rw [read]
    show _ = some ((naturalIn 10 body.amountHint.toList).getD 0)
    rw [read]
    rfl
  · obtain ⟨hex, passed⟩ := string_field_sent refund
    have accepted : isHex32 body.refundAddrHex = true := passed hex32 (by simp)
    obtain ⟨key, mix⟩ := (is_hex32_iff _).mp accepted
    have read : hexToBytes body.refundAddrHex = key.val := by
      rw [bytes_to_hex_eq, String.toList_ofList] at mix
      exact (case_mix_read mix).2.2
    refine ⟨_, hex, ?_, ?_⟩
    · show (hexToBytes body.refundAddrHex).length = 32
      rw [read]
      exact key.property
    · show CaseMix _ (bytesToHex (hexToBytes body.refundAddrHex)).toList
      rw [read]
      exact mix
  · obtain ⟨number, passed⟩ := number_field_sent expire
    have whole : body.expireSeconds.isInteger = true := passed integral (by simp)
    cases seconds : body.expireSeconds with
    | nan => simp [seconds, Double.isInteger] at whole
    | infinity negative => simp [seconds, Double.isInteger] at whole
    | finite value =>
      rw [seconds, Double.isInteger] at whole
      refine ⟨value.num, ?_, ?_⟩
      · rw [number, seconds, Rat.coe_int_num_of_den_eq_one]
        simpa [Rat.isInt] using whole
      · rfl

/-- What is fixed about a record stays when it is settled. -/
theorem settled_issue (id : String) (state : Quarantine.DepositState) (record : DepositRecord) :
    (record.settled id state).issue = record.issue := by
  unfold DepositRecord.settled
  split <;> rfl

/-- Records that are changed in their places keep what is fixed. -/
theorem issues_kept {before : List DepositRecord} {change : DepositRecord → DepositRecord}
    (kept : ∀ record, (change record).issue = record.issue) :
    (before.map change).map DepositRecord.issue = before.map DepositRecord.issue := by
  rw [List.map_map]
  exact List.map_congr_left (fun record _ => kept record)

/-- The handler refuses and leaves the store alone, or adds the one record that it answers, with
what is fixed about it. -/
theorem receiving_address_issues {store : σ} {call : Call} {inst : Institution}
    (known : apiKeyAuth store call.request = .ok inst) {response : Response} {stored : σ}
    (handled : receivingAddress env store call inst = (response, stored)) :
    (response.status ≠ 200 ∧ stored = store) ∨
      (response.status = 200 ∧ institutions stored = institutions store ∧
        ∃ record, records stored = records store ++ [record] ∧
          Answered env store ⟨call, response⟩ record) := by
  simp only [receivingAddress] at handled
  split at handled
  · rename_i parsed
    obtain ⟨rfl, rfl⟩ := Prod.mk.inj handled
    exact .inl ⟨parse_body_refused parsed, rfl⟩
  · rename_i body parsed
    split at handled
    · obtain ⟨rfl, rfl⟩ := Prod.mk.inj handled
      exact .inl ⟨by decide, rfl⟩
    · rename_i addr derived
      split at handled
      · obtain ⟨rfl, rfl⟩ := Prod.mk.inj handled
        exact .inl ⟨by decide, rfl⟩
      · rename_i record _ added
        obtain ⟨rfl, rfl⟩ := Prod.mk.inj handled
        obtain ⟨same, appended, id, createdAt, rfl⟩ := create_deposit _ _ _ _ _ added
        refine .inr ⟨rfl, same, _, appended, ?_, ?_, rfl⟩
        · exact ⟨inst, addr, known, rfl, derived, rfl, rfl, rfl⟩
        · exact body_terms parsed inst addr call.moment.now

/-- A call adds a record when it issues an address, and otherwise changes none of what is
fixed. -/
theorem call_issues (store : σ) (call : Call) {response : Response} {stored : σ}
    (answered : serve env store call = (response, stored)) :
    institutions stored = institutions store ∧
      ∃ added, (records stored).map DepositRecord.issue =
          (records store).map DepositRecord.issue ++ added.map DepositRecord.issue ∧
        List.Forall₂ (Answered env store)
          ([⟨call, response⟩].filter Served.issues) added := by
  by_cases route : call.request.route = .receivingAddress
  · have issues : Served.issues ⟨call, response⟩ = decide (response.status = 200) := by
      simp only [Served.issues, route]
    have kept : response.status ≠ 200 → stored = store → institutions stored = institutions store ∧
        ∃ added, (records stored).map DepositRecord.issue =
            (records store).map DepositRecord.issue ++ added.map DepositRecord.issue ∧
          List.Forall₂ (Answered env store)
            ([⟨call, response⟩].filter Served.issues) added := by
      rintro refused rfl
      rw [List.filter_singleton, issues, decide_eq_false refused, cond_false]
      exact ⟨rfl, [], by simp, .nil⟩
    simp only [serve, route, authenticated] at answered
    split at answered
    · rename_i failed
      obtain ⟨rfl, rfl⟩ := Prod.mk.inj answered
      exact kept (auth_refused failed) rfl
    · rename_i inst known
      rcases receiving_address_issues known answered with ⟨refused, same⟩ |
        ⟨success, same, record, appended, told⟩
      · exact kept refused same
      · rw [List.filter_singleton, issues, decide_eq_true success, cond_true]
        exact ⟨same, [record], by rw [appended, List.map_append], .cons told .nil⟩
  · have quiet : Served.issues ⟨call, response⟩ = false := by
      unfold Served.issues
      split
      · exact absurd ‹_› route
      · rfl
    rw [List.filter_singleton, quiet, cond_false]
    cases answered_effect answered with
    | kept _ => exact ⟨rfl, [], by simp, .nil⟩
    | created other => exact absurd other route
    | settled requested known checked =>
      refine ⟨set_institutions _ _ _, [], ?_, .nil⟩
      rw [set_records, issues_kept (settled_issue _ _), List.map_nil, List.append_nil]
    | delivered _ arguments applied =>
      obtain ⟨same, now, changed, _⟩ := apply_match _ _ _ _ _ _ _ _ applied
      refine ⟨same, [], ?_, .nil⟩
      rw [changed, issues_kept (fun record => ?_), List.map_nil, List.append_nil]
      split <;> rfl

/-- Whom a request is authenticated as depends on the institutions only. -/
theorem auth_institutions {store other : σ} (same : institutions other = institutions store)
    (request : Request) : apiKeyAuth other request = apiKeyAuth store request := by
  simp only [apiKeyAuth, find_by_api_key, same]

/-- What was answered is fixed about a record. -/
theorem Answered.fixed {store : σ} {served : Served} {record later : DepositRecord}
    (told : Answered env store served record) (same : later.issue = record.issue) :
    Answered env store served later := by
  obtain ⟨id, -, create⟩ := Issue.mk.inj same
  refine ⟨?_, ?_, ?_⟩
  · rw [create]
    exact told.owner
  · rw [create]
    exact told.terms
  · rw [id, create]
    exact told.told

/-- Answers name the records that they told, each its own: the identifiers of the answers are
those of the added records, in order. -/
theorem answered_listed {store : σ} {asked : List Served} {added : List DepositRecord}
    (answered : List.Forall₂ (Answered env store) asked added) :
    asked.filterMap (fun event => event.response.depositId) = added.map DepositRecord.id ∧
      ∀ event ∈ asked, ∃ record ∈ added, Answered env store event record := by
  induction answered with
  | nil => exact ⟨rfl, by simp⟩
  | @cons event record _ _ told _ continued =>
    obtain ⟨named, each⟩ := continued
    have about : event.response.depositId = some record.id := by
      rw [told.told]
      rfl
    refine ⟨by simp only [List.filterMap_cons, about, named, List.map_cons], ?_⟩
    intro other listed
    rcases List.mem_cons.mp listed with rfl | later
    · exact ⟨record, List.mem_cons_self, told⟩
    · obtain ⟨found, member, same⟩ := each other later
      exact ⟨found, List.mem_cons_of_mem _ member, same⟩

/-- Every record that was told has its answer. -/
theorem told_answered {store : σ} {asked : List Served} {added : List DepositRecord}
    (answered : List.Forall₂ (Answered env store) asked added) {record : DepositRecord}
    (member : record ∈ added) : ∃ event ∈ asked, Answered env store event record := by
  induction answered with
  | nil => cases member
  | @cons event first _ _ told _ continued =>
    rcases List.mem_cons.mp member with rfl | later
    · exact ⟨event, List.mem_cons_self, told⟩
    · obtain ⟨other, listed, same⟩ := continued later
      exact ⟨other, List.mem_cons_of_mem _ listed, same⟩

/-- A record is told by its answer whenever the institutions are the same. -/
theorem Answered.before {store other : σ} (same : institutions other = institutions store)
    {served : Served} {record : DepositRecord} (told : Answered env other served record) :
    Answered env store served record := by
  obtain ⟨⟨inst, addr, known, rest⟩, terms, answer⟩ := told
  exact ⟨⟨inst, addr, auth_institutions same _ ▸ known, rest⟩, terms, answer⟩

/-- Along every run the records are those of the start, with their identifiers and terms,
and behind them one record for each address that was issued, in the order of the answers,
as it was asked for and told. Nobody else becomes an institution. -/
theorem run_issues {store stored : σ} {events : List Served}
    (run : Run (Step env) store events stored) :
    institutions stored = institutions store ∧
      ∃ added, (records stored).map DepositRecord.issue =
          (records store).map DepositRecord.issue ++ added.map DepositRecord.issue ∧
        List.Forall₂ (Answered env store) (events.filter Served.issues) added := by
  induction run with
  | nil => exact ⟨rfl, [], by simp, .nil⟩
  | @snoc events middle finish event earlier last issued =>
    obtain ⟨same, added, kept, answered⟩ := issued
    obtain ⟨now, fresh, appended, told⟩ := call_issues middle event.call last
    refine ⟨now.trans same, added ++ fresh, ?_, ?_⟩
    · rw [appended, kept, List.map_append, List.append_assoc]
    · have issued : List.Forall₂ (Answered env store)
          ([event].filter Served.issues) fresh := told.imp (fun _ _ asked => asked.before same)
      rw [List.filter_append]
      exact List.rel_append answered issued

/-- Whatever the gateway is asked, and in whatever order: every address that it answers
stays on record under the answered identifier, for the institution whose key the request
carried, with the customer, the amount, the mint, the refund address and the expiry that
its body named; the identifiers of the answers are distinct and none was in use before.

Proof: by induction on the run. The one request that adds a record is that for an address,
and the others change neither identifiers nor terms; whom a key authenticates does not
change, as no request adds an institution. -/
theorem issues_recorded {store stored : σ} {events : List Served}
    (run : Run (Step env) store events stored) :
    (∀ event ∈ events, event.issues = true → ∃ record ∈ records stored,
      Answered env store event record) ∧
    ((records store).map DepositRecord.id ++
      (events.filter Served.issues).filterMap (fun event => event.response.depositId)).Nodup ∧
    ((records stored).map DepositRecord.id = (records store).map DepositRecord.id ++
      (events.filter Served.issues).filterMap (fun event => event.response.depositId)) := by
  obtain ⟨-, added, kept, answered⟩ := run_issues run
  obtain ⟨named, each⟩ := answered_listed answered
  have ids : (records stored).map DepositRecord.id =
      (records store).map DepositRecord.id ++ added.map DepositRecord.id := by
    have fixed := congrArg (List.map Issue.id) kept
    simpa [Function.comp_def, DepositRecord.issue] using fixed
  rw [named]
  refine ⟨?_, ids ▸ distinct stored, ids⟩
  intro event listed issued
  obtain ⟨record, member, told⟩ := each event (List.mem_filter.mpr ⟨listed, issued⟩)
  have present : record.issue ∈ (records stored).map DepositRecord.issue := by
    rw [kept]
    exact List.mem_append_right _ (List.mem_map_of_mem member)
  obtain ⟨later, stored, same⟩ := List.mem_map.mp present
  exact ⟨later, stored, told.fixed same⟩

end

namespace Local

/-- The institution asks twice. -/
def issuedTwice : List Served × MemoryStore := serveAll env memory [create, create]

/-- Both requests are answered in turn. -/
theorem issued_twice_run : Run (Step env) memory issuedTwice.1 issuedTwice.2 :=
  have met : meets env (fun _ _ => true) memory [create, create] = true := by decide +kernel
  (serve_all_run env met).unguarded

/-- Both addresses are on record, under different identifiers. -/
theorem both_recorded :
    (∀ event ∈ issuedTwice.1, ∃ record ∈ records issuedTwice.2,
      Answered env memory event record) ∧
    ((records issuedTwice.2).map DepositRecord.id).Nodup ∧ (records issuedTwice.2).length = 2 := by
  obtain ⟨recorded, distinct, ids⟩ := issues_recorded issued_twice_run
  have succeeded : ∀ event ∈ issuedTwice.1, event.issues = true := by decide +kernel
  refine ⟨fun event listed => recorded event listed (succeeded event listed), ids ▸ distinct, ?_⟩
  have count := congrArg List.length ids
  rw [List.length_map] at count
  rw [count]
  decide +kernel

end Local

end GPay.Gateway
