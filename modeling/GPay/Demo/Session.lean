import GPay.Custody
import GPay.Demo.Routes
import GPay.Quarantine.Acceptance

/-!
# The demo as a whole

Whoever steps on chain, whatever the gateway is asked and whichever demo requests come in
between, possibly repeated after a failure: a record that was paid once by the router is
not paid again, and its deposit is released or refunded at most once.
-/

namespace GPay.Demo

open Solana Gateway LawfulStore Tables Text Quarantine Runs
open Stealth.Port (deriveStealthAddress)

/-- The chain and the gateway's store, which the demo and everybody else act on. -/
structure Session (σ Key : Type) where
  world : World Key
  gateway : σ

/-- A step on chain, a call to the gateway with its answer, or a demo request with its
answer. -/
inductive Occurrence (Key : Type) where
  | chain (event : Event Key)
  | served (served : Served)
  | demo (call : DemoCall) (response : Response)

/-- One occurrence leads from one session to the next. Steps on chain are anybody's, and so are
the calls to the gateway. -/
inductive Session.Step {Key Point σ : Type} [DecidableEq Key] [Inhabited Key] [Store σ]
    (router : Router Key Point) (rt : Runtime Key) :
    Session σ Key → Occurrence Key → Session σ Key → Prop
  | chain {s : Session σ Key} {event : Event Key} {world : World Key}
      (taken : Quarantine.Step rt s.world event world) :
      Step router rt s (.chain event) { s with world }
  | served {s : Session σ Key} {served : Served} {gateway : σ}
      (answered : serve router.env s.gateway served.call = (served.response, gateway)) :
      Step router rt s (.served served) { s with gateway }
  | demo {s : Session σ Key} {call : DemoCall} {response : Response} {gateway : σ}
      {world : World Key}
      (answered : demo router rt s.gateway call s.world = (response, gateway, world)) :
      Step router rt s (.demo call response) ⟨world, gateway⟩

/-- The record that the body names, if it names one: the identifier is read from the body as
every route of the demo reads it, whatever else the route requires of the body. -/
def DemoCall.depositId (call : DemoCall) : Option String :=
  call.request.body.bind (fun body => (depositIdBody body).toOption)

/-- A demo request about the record, by one of these routes, that was answered with success.
Steps on chain and calls to the gateway are none. -/
def Occurrence.succeeded {Key : Type} (id : String) (routes : List DemoRoute) :
    Occurrence Key → Bool
  | .demo call response =>
      call.route ∈ routes ∧ call.depositId = some id ∧ response.status = 200
  | _ => false

section Store

variable {σ : Type} [LawfulStore σ]

/-- What is fixed about the record is so in the store: some record of it has the same identifier,
the same time of creation, and the same terms and address. -/
def Issued (gateway : σ) (record : DepositRecord) : Prop :=
  record.issue ∈ (records gateway).map DepositRecord.issue

/-- What is read under the record's identifier is the record, up to its state and to what it
shows of a payment, as identifiers are distinct in a store. -/
theorem issued_read {gateway : σ} {record later : DepositRecord} (issued : Issued gateway record)
    (read : Store.getDeposit gateway record.id = some later) : later.issue = record.issue := by
  obtain ⟨stored, listed, same⟩ := List.mem_map.mp issued
  have sameId : stored.id = record.id := congrArg Issue.id same
  rw [get_deposit, ← sameId, find_row (distinct gateway) listed] at read
  rw [← Option.some.inj read, same]

variable {Key Point : Type} [DecidableEq Key] [Inhabited Key] {router : Router Key Point}
  {rt : Runtime Key}

/-- A demo request leaves the store alone, or creates a record for the institution that asked,
under a key derived for it. -/
theorem demo_stored {store stored : σ} {call : DemoCall} {w w' : World Key} {response : Response}
    (answered : demo router rt store call w = (response, stored, w')) :
    stored = store ∨ institutions stored = institutions store ∧
      ∃ inst addr wallet record, apiKeyAuth store call.request = .ok inst ∧
        deriveStealthAddress router.env.noble inst.spendPub inst.viewPub call.seed = .ok addr ∧
        record.toDepositCreate = demoDeposit inst addr wallet call.moment.now ∧
        records stored = records store ++ [record] := by
  have others : ∀ ran : Response × World Key, (ran.1, store, ran.2) = (response, stored, w') →
      stored = store := by
    rintro ran same
    exact (Prod.mk.inj (Prod.mk.inj same).2).1.symm
  unfold demo at answered
  cases route : call.route with
  | init =>
    simp only [route] at answered
    split at answered
    · exact .inl (Prod.mk.inj (Prod.mk.inj answered).2).1.symm
    · rename_i inst known
      obtain rfl := (Prod.mk.inj (Prod.mk.inj answered).2).1
      unfold demoInit
      split
      · exact .inl rfl
      · split
        · exact .inl rfl
        · rename_i wallet loaded _ addr derived
          split
          · exact .inl rfl
          · rename_i created
            obtain ⟨same, appended, id, createdAt, rfl⟩ := create_deposit _ _ _ _ _ created
            exact .inr ⟨same, inst, addr, wallet, _, known, derived, rfl, appended⟩
  | simulatePayment =>
    simp only [route] at answered
    exact .inl (others _ answered)
  | attest =>
    simp only [route] at answered
    exact .inl (others _ answered)
  | release =>
    simp only [route] at answered
    exact .inl (others _ answered)
  | refund =>
    simp only [route] at answered
    exact .inl (others _ answered)

/-- The record stays issued: a step on chain and a demo request leave the store alone, and no
call to the gateway changes what is fixed about a record. -/
theorem issued_step {s s' : Session σ Key} {occurrence : Occurrence Key}
    (step : Session.Step router rt s occurrence s') {record : DepositRecord}
    (issued : Issued s.gateway record) : Issued s'.gateway record := by
  cases step with
  | chain taken => exact issued
  | served answered =>
    obtain ⟨-, added, grown, -⟩ := call_issues _ _ answered
    rw [Issued, grown]
    exact List.mem_append_left _ issued
  | demo answered =>
    rcases demo_stored answered with rfl | ⟨-, -, -, -, other, -, -, -, grown⟩
    · exact issued
    · rw [Issued, grown, List.map_append]
      exact List.mem_append_left _ issued

/-- The record stays issued in the course of a session, by induction on its steps. -/
theorem issued_run {s s' : Session σ Key} {occurrences : List (Occurrence Key)}
    (run : Run (Session.Step router rt) s occurrences s') {record : DepositRecord}
    (issued : Issued s.gateway record) : Issued s'.gateway record := by
  induction run with
  | nil => exact issued
  | snoc earlier last kept => exact issued_step last kept

end Store

section Steps

variable {Key Point σ : Type} [DecidableEq Key] [Inhabited Key] {router : Router Key Point}
  {rt : Runtime Key} {w : World Key}

/-- The event is the call of a vote, whoever casts it and on whichever deposit. -/
def IsVote (event : Event Key) : Prop :=
  ∃ ctx accounts verdict evidence, event = .call ctx (.attest accounts verdict evidence)

/-- A run of the tool for a vote makes at most the call of the vote: the transaction is executed,
or nothing happens on chain. -/
theorem run_cli_run (cli : Cli Key Point) (a : AttestArgs) (attempt : Attempt) (w : World Key) :
    ∃ events, Run (Step rt) w events (runCli cli.toTool rt a attempt w).2 ∧
      ∀ event ∈ events, IsVote event := by
  have none : ∃ events, Run (Step rt) w events w ∧ ∀ event ∈ events, IsVote event :=
    ⟨[], .nil, by simp⟩
  have voted : ∃ events, Run (Step rt) w events (cliAttest cli.toTool rt a attempt w).2 ∧
      ∀ event ∈ events, IsVote event := by
    unfold cliAttest
    split
    · exact none
    · exact none
    · simp only
      split
      · exact none
      · rename_i executed
        refine ⟨_, .single (.call executed), fun event listed => ?_⟩
        exact ⟨_, _, _, _, List.mem_singleton.mp listed⟩
  unfold runCli
  split <;> simpa [*] using voted

/-- The loop over the oracles makes a run of votes, one for each oracle at most, whatever each
run of the tool meets. -/
theorem attest_loop_run (cli : Cli Key Point) (cfg : Config) (dep : DepositRecord)
    (onChainAddress : String) (verdict : AmlVerdict) (calls : List (String × Attempt))
    (sigs : List String) (w : World Key) :
    ∃ events, Run (Step rt) w events
        (attestLoop cli.toTool rt cfg dep onChainAddress verdict calls sigs w).2 ∧
      ∀ event ∈ events, IsVote event := by
  induction calls generalizing sigs w with
  | nil => exact ⟨[], .nil, by simp⟩
  | cons call rest continued =>
    obtain ⟨oracleKeypair, attempt⟩ := call
    obtain ⟨events, voted, votes⟩ : ∃ events, Run (Step rt) w events (runCli cli.toTool rt
          (attestArgs cfg dep onChainAddress verdict oracleKeypair) attempt w).2 ∧
        ∀ event ∈ events, IsVote event :=
      run_cli_run cli _ attempt w
    unfold attestLoop
    split
    rename_i r after ran
    rw [ran] at voted
    split
    · exact ⟨events, voted, votes⟩
    · obtain ⟨more, others, also⟩ := continued (sigs ++ [signatureOf r]) after
      refine ⟨events ++ more, voted.append others, ?_⟩
      intro event listed
      exact (List.mem_append.mp listed).elim (votes event) (also event)

/-- A request to vote makes a run of votes, if it makes anything. A request that is refused
before its loop makes none. -/
theorem attest_run [Store σ] (cli : Cli Key Point) (cfg : Config) (store : σ) (request : Request)
    (round : Round) (w : World Key) :
    ∃ events, Run (Step rt) w events (attest cli.toTool rt cfg store request round w).2 ∧
      ∀ event ∈ events, IsVote event := by
  have none (w : World Key) : ∃ events, Run (Step rt) w events w ∧
      ∀ event ∈ events, IsVote event := ⟨[], .nil, by simp⟩
  unfold attest
  split
  · exact none w
  · exact none w
  · split
    · exact none w
    · split
      · exact none w
      · split
        · exact none w
        · split
          · exact none w
          · exact none w
          · exact attest_loop_run ..

end Steps

section Effect

variable {Key Point σ : Type} [DecidableEq Key] [Inhabited Key] [LawfulStore σ]

/-- What a demo request comes to on chain: one run of the tool for a record of the
institution, or a run of votes when it neither pays a record nor settles one. -/
inductive DemoEffect (router : Router Key Point) (rt : Runtime Key) (store : σ) (call : DemoCall)
    (w : World Key) : Response × World Key → Prop
  | apart {response : Response} {w' : World Key} {events : List (Event Key)}
      (run : Run (Step rt) w events w') (votes : ∀ event ∈ events, IsVote event)
      (other : response.status ≠ 200 ∨ call.route = .init ∨ call.route = .attest) :
      DemoEffect router rt store call w (response, w')
  | simulated {record : DepositRecord} {answer : Response × World Key}
      (route : call.route = .simulatePayment) (asked : Asked store call record)
      (handled : Handled rt w ((demoWalletPubkey router).bind (fun wallet =>
        depositSolDirect router.cli rt (simulateArgs router record wallet call.moment.now)))
        simulateAnswer answer) :
      DemoEffect router rt store call w answer
  | released {record : DepositRecord} {answer : Response × World Key}
      (route : call.route = .release) (asked : Asked store call record)
      (handled : Handled rt w (releaseSol router.cli rt (releaseArgs router record call.target))
        (releaseAnswer (base58Text call.target)) answer) :
      DemoEffect router rt store call w answer
  | refunded {record : DepositRecord} {answer : Response × World Key}
      (route : call.route = .refund) (asked : Asked store call record)
      (handled : Handled rt w (refundSol router.cli rt (refundArgs router record))
        (refundAnswer (base58Text record.refundAddr)) answer) :
      DemoEffect router rt store call w answer

variable {router : Router Key Point} {rt : Runtime Key}

/-- A request about a record does what its handler does, or nothing: it is answered without the
handler if it is not authenticated, not well formed, or not about an own record. -/
theorem on_record_effect {store : σ} {call : DemoCall} {w : World Key}
    {handler : DepositRecord → Response × World Key}
    (effect : ∀ record, Asked store call record →
      DemoEffect router rt store call w (handler record)) :
    DemoEffect router rt store call w (onRecord store call depositIdBody w handler) := by
  rcases on_record_cases store call w handler with ⟨record, asked, handled⟩ | ⟨_, failed, refused⟩
  · rw [handled]
    exact effect record asked
  · rw [refused]
    exact .apart .nil (by simp) (.inl failed)

/-- Every demo request comes to one of these: it leaves the chain alone, or a command of it has
been executed, or it has made a run of votes. The handlers are gone through one by one. -/
theorem demo_effect {store stored : σ} {call : DemoCall} {w w' : World Key} {response : Response}
    (answered : demo router rt store call w = (response, stored, w')) :
    DemoEffect router rt store call w (response, w') := by
  have ran : ∀ answer : Response × World Key, (answer.1, store, answer.2) = (response, stored, w') →
      answer = (response, w') := by
    intro answer same
    obtain ⟨told, rest⟩ := Prod.mk.inj same
    exact Prod.ext told (Prod.mk.inj rest).2
  unfold demo at answered
  cases route : call.route with
  | init =>
    have same : w = w' := by
      simp only [route] at answered
      split at answered <;> exact (Prod.mk.inj (Prod.mk.inj answered).2).2
    rw [← same]
    exact .apart .nil (by simp) (.inr (.inl route))
  | simulatePayment =>
    simp only [route] at answered
    rw [← ran _ answered]
    exact on_record_effect fun record asked => .simulated route asked (simulate_handled ..)
  | attest =>
    simp only [route] at answered
    obtain ⟨events, voted, votes⟩ := @attest_run _ _ _ _ _ rt _ router.cli router.cfg.toConfig store
      call.request call.round w
    rw [ran _ answered] at voted
    exact .apart voted votes (.inr (.inr route))
  | release =>
    simp only [route] at answered
    rw [← ran _ answered]
    exact on_record_effect fun record asked => .released route asked (release_handled ..)
  | refund =>
    simp only [route] at answered
    rw [← ran _ answered]
    exact on_record_effect fun record asked => .refunded route asked (refund_handled ..)

end Effect

section Settlement

variable {Key Point σ : Type} [DecidableEq Key] [Inhabited Key] [LawfulStore σ]
  {router : Router Key Point} {rt : Runtime Key} {record : DepositRecord} {vault key : Key}

/-- The record that a request was handled for is the one that its body names, so that two
requests with the same body are about the same record. -/
theorem asked_deposit_id {store : σ} {call : DemoCall} (asked : Asked store call record) :
    call.depositId = some record.id := by
  obtain ⟨body, sent, parsed⟩ := asked.named
  rw [DemoCall.depositId, sent, Option.bind_some, parsed]
  rfl

/-- The record that a request is about is one of the store. -/
theorem Asked.listed {store : σ} {call : DemoCall} (asked : Asked store call record) :
    record ∈ records store := by
  have stored := asked.stored
  rw [get_deposit] at stored
  exact List.mem_of_find?_eq_some stored

/-- A request about an issued record is still about it in a later store, if it is authenticated
and well formed there, up to the record's state and to what it shows. -/
theorem Asked.kept {store stored : σ} {call : DemoCall} (asked : Asked store call record)
    (same : institutions stored = institutions store) {later : DepositRecord}
    (listed : later ∈ records stored) (fixed : later.issue = record.issue) :
    Asked stored call later := by
  obtain ⟨⟨inst, known, owned⟩, ⟨body, sent, parsed⟩, -⟩ := asked
  obtain ⟨id, -, create⟩ := Issue.mk.inj fixed
  refine ⟨⟨inst, (auth_institutions same _).trans known, ?_⟩, ⟨body, sent, ?_⟩, ?_⟩
  · exact (congrArg DepositCreate.institutionId create).trans owned
  · rw [parsed, id]
  · rw [get_deposit, find_row (distinct stored) listed]

/-- What a request is about is the record of the store that has its identifier. -/
theorem Asked.same {store : σ} {call : DemoCall} (asked : Asked store call record)
    {other : DepositRecord} (listed : other ∈ records store) (named : record.id = other.id) :
    record = other := by
  have stored := asked.stored
  rw [get_deposit, named, find_row (distinct store) listed] at stored
  exact (Option.some.inj stored).symm

/-- What happens on chain in the course of an occurrence: a payment that was answered with
success has opened the deposit of the record, and a release or a refund has paid it out. -/
structure OnChain (id : String) (key : Key) (occurrence : Occurrence Key)
    (events : List (Event Key)) : Prop where
  opens : occurrence.succeeded id [.simulatePayment] = true → ∃ event ∈ events, event.Opens key
  pays : (occurrence.succeeded id [.release, .refund]).toNat ≤
    events.countP (fun event => decide (event.Pays key))

/-- What leaves the chain alone is a run of no events, with nothing on chain that an answer of
success would stand for. -/
theorem OnChain.of_quiet {id : String} {occurrence : Occurrence Key} (events : List (Event Key))
    (unpaid : occurrence.succeeded id [.simulatePayment] = false)
    (unsettled : occurrence.succeeded id [.release, .refund] = false) :
    OnChain id key occurrence events where
  opens paid := by
    rw [unpaid] at paid
    cases paid
  pays := by
    rw [unsettled]
    exact Nat.zero_le _

/-- A release or a refund that was answered with success paid out the deposit at the address that
the record gives, in one event on chain. -/
theorem payout_on_chain (faithful : router.cli.Lawful)
    (located : Located router rt record vault key) {demoCall : DemoCall}
    (unsimulated : demoCall.route ≠ .simulatePayment) {later : DepositRecord}
    (same : demoCall.depositId = some record.id → later.issue = record.issue) {w w' : World Key}
    {response : Response} {who name keypair target : String}
    {call : (signer vault deposit target : Key) → Instruction Key}
    {answer : List (String × Json) → List (String × Json)}
    (pays : ∀ signer vault deposit target, ∃ payout,
      (call signer vault deposit target).payout = some payout ∧ payout.deposit = deposit)
    (handled : Handled rt w (payoutSol router.cli rt who name call keypair
      router.cfg.vaultAuthorityPubkey (base58Text later.stealthPubkey)
      (bytesToHex later.ephemeralR) target) answer (response, w')) :
    ∃ events, Run (Step rt) w events w' ∧
      OnChain record.id key (.demo demoCall response) events := by
  obtain ⟨events, run, -, done⟩ := handled.run
  refine ⟨events, run, ?_, ?_⟩
  · simp [Occurrence.succeeded, unsimulated]
  · by_cases succeeded : demoCall.depositId = some record.id ∧ response.status = 200
    · obtain ⟨named, success⟩ := succeeded
      obtain ⟨ready, clock, -, made, -, rfl⟩ := done success
      obtain ⟨signer, vault', key', targetKey, -, place, -, rfl⟩ :=
        (payout_sol_ready faithful).mp made
      obtain ⟨rfl, rfl⟩ := located.unique (same named) place
      obtain ⟨payout, view, here⟩ := pays signer vault' key' targetKey
      rw [List.countP_singleton, if_pos]
      · exact Bool.toNat_le _
      · exact decide_eq_true ⟨payout, view, here⟩
    · simp [Occurrence.succeeded, succeeded]

/-- Each step is a run on chain: of one event, of none, or of the votes that a request makes.
What was answered with success about the record is found among its events. -/
theorem session_step (faithful : router.cli.Lawful) {s s' : Session σ Key}
    {occurrence : Occurrence Key} (step : Session.Step router rt s occurrence s')
    (issued : Issued s.gateway record) (located : Located router rt record vault key) :
    ∃ events, Run (Step rt) s.world events s'.world ∧
      OnChain record.id key occurrence events := by
  cases step with
  | chain taken => exact ⟨_, .single taken, .of_quiet _ rfl rfl⟩
  | served answered => exact ⟨[], .nil, .of_quiet _ rfl rfl⟩
  | @demo call response gateway world answered =>
    have same : ∀ later, Asked s.gateway call later → call.depositId = some record.id →
        later.issue = record.issue := by
      intro later asked named
      have sameId : later.id = record.id :=
        Option.some.inj ((asked_deposit_id asked).symm.trans named)
      exact issued_read issued (sameId ▸ asked.stored)
    cases demo_effect answered with
    | apart run votes other =>
      refine ⟨_, run, .of_quiet _ ?_ ?_⟩
      · rcases other with failed | route | route <;> simp [Occurrence.succeeded, *]
      · rcases other with failed | route | route <;> simp [Occurrence.succeeded, *]
    | simulated route asked handled =>
      obtain ⟨events, run, -, done⟩ := handled.run
      refine ⟨events, run, ?_, by simp [Occurrence.succeeded, route]⟩
      intro succeeded
      obtain ⟨-, named, success⟩ := of_decide_eq_true succeeded
      obtain ⟨ready, clock, -, made, -, rfl⟩ := done success
      obtain ⟨wallet, -, made⟩ := (bind_ok_iff ..).mp made
      obtain ⟨depositor, vault', key', args, printed, place, -, -, -, rfl, -⟩ :=
        simulate_ready faithful made
      obtain ⟨rfl, rfl⟩ := located.unique (same _ asked named) place
      exact ⟨_, List.mem_singleton.mpr rfl, _, rfl, rfl⟩
    | released route asked handled =>
      exact payout_on_chain faithful located (by simp [route]) (same _ asked)
        (fun _ _ _ _ => ⟨_, rfl, rfl⟩) handled
    | refunded route asked handled =>
      exact payout_on_chain faithful located (by simp [route]) (same _ asked)
        (fun _ _ _ _ => ⟨_, rfl, rfl⟩) handled

/-- A session is a run on chain in which every successful request about the record has left
its event. -/
theorem session_run (faithful : router.cli.Lawful) {s s' : Session σ Key}
    {occurrences : List (Occurrence Key)}
    (run : Run (Session.Step router rt) s occurrences s') (issued : Issued s.gateway record)
    (located : Located router rt record vault key) :
    Issued s'.gateway record ∧ ∃ events, Run (Step rt) s.world events s'.world ∧
      (∀ occurrence ∈ occurrences, occurrence.succeeded record.id [.simulatePayment] = true →
        ∃ event ∈ events, event.Opens key) ∧
      occurrences.countP (Occurrence.succeeded record.id [.release, .refund]) ≤
        events.countP (fun event => decide (event.Pays key)) := by
  induction run with
  | nil => exact ⟨issued, [], .nil, by simp, le_rfl⟩
  | @snoc occurrences middle after occurrence earlier last continued =>
    obtain ⟨kept, events, ran, opens, pays⟩ := continued
    obtain ⟨more, stepped, here⟩ := session_step faithful last kept located
    refine ⟨issued_step last kept, events ++ more, ran.append stepped, ?_, ?_⟩
    · intro other listed succeeded
      rcases List.mem_append.mp listed with listed | listed
      · obtain ⟨event, member, opened⟩ := opens other listed succeeded
        exact ⟨event, List.mem_append_left _ member, opened⟩
      · obtain rfl := List.mem_singleton.mp listed
        obtain ⟨event, member, opened⟩ := here.opens succeeded
        exact ⟨event, List.mem_append_right _ member, opened⟩
    · have paid := here.pays
      rw [List.countP_append, List.countP_append, List.countP_singleton]
      by_cases succeeded : occurrence.succeeded record.id [.release, .refund] = true
      · simp only [succeeded, Bool.toNat_true, if_true] at paid ⊢
        omega
      · simp only [succeeded, Bool.false_eq_true, if_false]
        omega

/-- The deposit that a payment for the record has opened, as it was told. The router's own key
paid for it, and the transaction could write the accounts of both. -/
structure Simulated (router : Router Key Point) (rt : Runtime Key) (call : DemoCall)
    (response : Response) (record : DepositRecord) (key : Key) (deposit : Deposit Key) : Prop where
  located : Located router rt record deposit.vault key
  told : response.text "deposit_pda" = some (router.cli.pubkeyText key)
  payer : router.cli.readKeypairFile router.cfg.demoWalletKeypair = .ok deposit.depositor
  writable : rt.reserved key = false ∧ rt.reserved deposit.depositor = false
  terms : ∃ wallet args, demoWalletPubkey router = .ok wallet ∧
    PaysFor router record wallet call.moment.now args ∧
    newDeposit args deposit.bump deposit.vault default deposit.depositor deposit.createdAt =
      .ok deposit

/-- A payment that was answered with success has opened the deposit of its record: one call was
executed, and it opened the address that the record gives. -/
theorem simulated_opens (lawful : Solana.Lawful rt) (faithful : router.cli.Lawful)
    {s s' : Session σ Key} {call : DemoCall} {response : Response}
    (simulates : call.route = .simulatePayment)
    (step : Session.Step router rt s (.demo call response) s') (success : response.status = 200) :
    ∃ record event key deposit, Asked s.gateway call record ∧
      Run (Step rt) s.world [event] s'.world ∧ depositAt s'.world key = some deposit ∧
      Simulated router rt call response record key deposit := by
  cases step with
  | @demo _ _ gateway world answered =>
    cases demo_effect answered with
    | apart run votes other =>
      rcases other with failed | route | route
      · exact absurd success failed
      · cases route.symm.trans simulates
      · cases route.symm.trans simulates
    | released route asked handled => cases route.symm.trans simulates
    | refunded route asked handled => cases route.symm.trans simulates
    | @simulated record answer route asked handled =>
      obtain ⟨events, run, -, done⟩ := handled.run
      obtain ⟨ready, clock, signature, made, told, rfl⟩ := done success
      obtain ⟨wallet, loaded, made⟩ := (bind_ok_iff ..).mp made
      obtain ⟨depositor, vault, key, args, printed, place, read, pays, -, rfl, text⟩ :=
        simulate_ready faithful made
      obtain ⟨between, step, last⟩ := run.of_cons
      obtain rfl := last.of_nil
      cases step with
      | call executed =>
        obtain ⟨house, deposit, spec⟩ := opened_of_exec lawful executed rfl
        have accepted := spec.accepted
        obtain ⟨-, -, -, filled⟩ := (new_deposit_ok_iff ..).mp accepted
        have told_key : response.text "deposit_pda" = some (router.cli.pubkeyText key) := by
          rw [told, ← text signature]
          rfl
        have writable : rt.reserved key = false ∧ rt.reserved depositor = false :=
          spec.writable.imp (fun listed => ((mem_demoted rt _ _).mp listed).2)
            (fun listed => ((mem_demoted rt _ _).mp listed).2)
        refine ⟨record, _, key, deposit, asked, run, deposit_at_iff.mpr spec.saved, ?_, told_key,
          ?_, ?_, wallet, args, loaded, pays, ?_⟩
        · rw [filled]
          exact place
        · rw [filled]
          exact read
        · rw [filled]
          exact writable
        · rw [filled] at accepted ⊢
          exact accepted

/-- A payment that has just been made for a record: the request asked for it, the command made
the deposit at the address that the answer tells, and the deposit is one of lamports. -/
structure Made (router : Router Key Point) (rt : Runtime Key) (start middle : Session σ Key)
    (call : DemoCall) (response : Response) (record : DepositRecord) (key : Key)
    (deposit : Deposit Key) : Prop where
  asked : Asked start.gateway call record
  simulated : Simulated router rt call response record key deposit
  placed : depositAt middle.world key = some deposit
  lamports : deposit.mint = default
  issued : Issued middle.gateway record
  reached : ∃ events, Reached rt events middle.world

/-- A payment that was answered with success has been made: the deposit is on chain with the
terms of the record, in lamports, and the record is issued. -/
theorem payment_made (lawful : Solana.Lawful rt) (faithful : router.cli.Lawful)
    {events : List (Event Key)} {start middle : Session σ Key} {call : DemoCall}
    {response : Response} (reached : Reached rt events start.world)
    (simulates : call.route = .simulatePayment)
    (paid : Session.Step router rt start (.demo call response) middle)
    (success : response.status = 200) :
    ∃ record key deposit, Made router rt start middle call response record key deposit := by
  obtain ⟨record, event, key, deposit, asked, opened, placed, simulated⟩ :=
    simulated_opens lawful faithful simulates paid success
  have lamports : deposit.mint = default := by
    obtain ⟨wallet, args, -, -, accepted⟩ := simulated.terms
    obtain ⟨-, -, -, filled⟩ := (new_deposit_ok_iff ..).mp accepted
    rw [filled]
  exact ⟨record, key, deposit, asked, simulated, placed, lamports,
    issued_step paid (List.mem_map_of_mem asked.listed), _, reached.append opened⟩

/-- What the deposit of a payment comes to in the course of a session: it stands on chain, and
what is answered with success about its record afterwards, another payment or a payout, has
happened on chain to its address. -/
structure Paid (router : Router Key Point) (rt : Runtime Key) (start finish : Session σ Key)
    (call : DemoCall) (response : Response) (occurrences : List (Occurrence Key))
    (record : DepositRecord) (key : Key) (deposit final : Deposit Key)
    (since : List (Event Key)) : Prop where
  asked : Asked start.gateway call record
  simulated : Simulated router rt call response record key deposit
  lamports : deposit.mint = default
  issued : Issued finish.gateway record
  reached : ∃ events, Reached rt events finish.world
  standing : Stands rt key deposit final since finish.world
  opens : ∀ occurrence ∈ occurrences,
    occurrence.succeeded record.id [.simulatePayment] = true → ∃ event ∈ since, event.Opens key
  pays : occurrences.countP (Occurrence.succeeded record.id [.release, .refund]) ≤
    since.countP (fun event => decide (event.Pays key))

/-- The deposit of a payment stands from then on, whatever happens in the course of the session,
and the answers of success about its record are events at its address. -/
theorem Made.paid (lawful : Solana.Lawful rt) (faithful : router.cli.Lawful)
    {start middle finish : Session σ Key} {call : DemoCall} {response : Response} {key : Key}
    {deposit : Deposit Key} (made : Made router rt start middle call response record key deposit)
    {occurrences : List (Occurrence Key)}
    (run : Run (Session.Step router rt) middle occurrences finish) :
    ∃ final since,
      Paid router rt start finish call response occurrences record key deposit final since := by
  obtain ⟨kept, since, chain, opens, pays⟩ :=
    session_run faithful run made.issued made.simulated.located
  obtain ⟨events, reached⟩ := made.reached
  obtain ⟨final, standing⟩ := stands_run lawful reached made.placed made.lamports chain
  exact ⟨final, since, made.asked, made.simulated, made.lamports, kept, ⟨_, reached.append chain⟩,
    standing, opens, pays⟩

/-- Once a payment for a record was answered with success: whatever is done on chain, at the
gateway and by further demo requests, the deposit that it opened keeps its terms, no other
payment for the record is answered with success, and at most one release or refund is. If one is,
the deposit is in a final state.

Proof: a success means that a command was executed on chain, on the deposit whose address the
record gives. That deposit stands, so that it is opened once and paid out at most once. -/
theorem demo_settles_once (lawful : Solana.Lawful rt) (faithful : router.cli.Lawful)
    {events : List (Event Key)} {start middle finish : Session σ Key} {call : DemoCall}
    {response : Response} (reached : Reached rt events start.world)
    (simulates : call.route = .simulatePayment)
    (paid : Session.Step router rt start (.demo call response) middle)
    (success : response.status = 200) {occurrences : List (Occurrence Key)}
    (run : Run (Session.Step router rt) middle occurrences finish) :
    ∃ record key deposit final, Asked start.gateway call record ∧
      depositAt middle.world key = some deposit ∧
      Simulated router rt call response record key deposit ∧
      depositAt finish.world key = some final ∧ deposit.SameTerms final ∧
      (∀ occurrence ∈ occurrences,
        occurrence.succeeded record.id [.simulatePayment] = false) ∧
      occurrences.countP (Occurrence.succeeded record.id [.release, .refund]) ≤ 1 ∧
      ∀ occurrence ∈ occurrences,
        occurrence.succeeded record.id [.release, .refund] = true → final.state.Final := by
  obtain ⟨record, key, deposit, made⟩ := payment_made lawful faithful reached simulates paid success
  obtain ⟨final, since, spec⟩ := made.paid lawful faithful run
  have standing := spec.standing
  have pays := spec.pays
  have once : since.countP (fun event => decide (event.Pays key)) + unpaid key finish.world ≤ 1 :=
    standing.paid.trans (by split <;> decide)
  refine ⟨record, key, deposit, final, made.asked, made.placed, made.simulated, standing.found,
    standing.terms, ?_, by omega, ?_⟩
  · intro occurrence listed
    rw [← Bool.not_eq_true]
    intro again
    obtain ⟨opening, member, there⟩ := spec.opens occurrence listed again
    exact standing.unopened opening member there
  · intro occurrence listed settled
    have counted : 0 < occurrences.countP (Occurrence.succeeded record.id [.release, .refund]) :=
      List.countP_pos_iff.mpr ⟨occurrence, listed, settled⟩
    have spent : unpaid key finish.world = 0 := by omega
    by_contra undecided
    simp [unpaid, standing.found, undecided] at spent

end Settlement

section Payouts

variable {Key Point σ : Type} [DecidableEq Key] [Inhabited Key] [LawfulStore σ]
  {router : Router Key Point} {rt : Runtime Key} {start finish : Session σ Key}
  {call : DemoCall} {response : Response} {occurrences : List (Occurrence Key)}
  {record : DepositRecord} {key : Key} {deposit final : Deposit Key} {since : List (Event Key)}

/-- The tool and the router read the same key from the file of the wallet. The one reads it to
sign with it, the other to name its public key as the release authority. -/
def OneWallet (router : Router Key Point) : Prop :=
  ∀ wallet, demoWalletPubkey router = .ok wallet → ∃ signer,
    router.cli.readKeypairFile router.cfg.demoWalletKeypair = .ok signer ∧
      (router.cli.keys signer).val = wallet

/-- What a later request about the record finds is the record that was paid, up to its state and
to what it shows of the payment. -/
theorem Paid.later_issue
    (spec : Paid router rt start finish call response occurrences record key deposit final since)
    {request : DemoCall} {later : DepositRecord} (asked : Asked finish.gateway request later)
    (same : request.depositId = call.depositId) : later.issue = record.issue := by
  have sameId : later.id = record.id :=
    Option.some.inj ((asked_deposit_id asked).symm.trans
      (same.trans (asked_deposit_id spec.asked)))
  exact issued_read spec.issued (sameId ▸ asked.stored)

/-- The wallet is the release authority of the deposit, and it is none of the keys that
transactions may not write. -/
theorem Paid.release_authority
    (spec : Paid router rt start finish call response occurrences record key deposit final since)
    (oneWallet : OneWallet router) :
    router.cli.readKeypairFile router.cfg.demoWalletKeypair = .ok final.releaseAuthority ∧
      rt.reserved final.releaseAuthority = false := by
  obtain ⟨wallet, args, loaded, pays, accepted⟩ := spec.simulated.terms
  obtain ⟨-, -, -, filled⟩ := (new_deposit_ok_iff ..).mp accepted
  obtain ⟨signer, read, own⟩ := oneWallet wallet loaded
  have payer : deposit.depositor = signer :=
    Except.ok.inj (spec.simulated.payer.symm.trans read)
  have authority : final.releaseAuthority = signer := by
    apply router.cli.keys.injective
    apply Subtype.ext
    rw [own, ← pays.releaseAuthority, spec.standing.terms, filled]
  rw [read, authority, ← payer]
  exact ⟨rfl, spec.simulated.writable.2⟩

/-- The deposit is refunded to the address of the record, whose text the payment was made
with. -/
theorem Paid.refund_addr
    (spec : Paid router rt start finish call response occurrences record key deposit final since) :
    (router.cli.keys final.refundAddr).val = record.refundAddr := by
  obtain ⟨wallet, args, -, pays, accepted⟩ := spec.simulated.terms
  obtain ⟨-, -, -, filled⟩ := (new_deposit_ok_iff ..).mp accepted
  rw [← pays.refundAddr, spec.standing.terms, filled]

variable {request : DemoCall} {later : DepositRecord} {clock : Clock} {signature : String}

/-- A release that reaches the chain is answered with success exactly when the record and the
deposit are approved and the target may receive the amount.

Proof: the handler asks for the state of the record, and the transaction is the release of the
deposit to the target, which the wallet signs. -/
theorem Paid.release_iff
    (spec : Paid router rt start finish call response occurrences record key deposit final since)
    (lawful : Solana.Lawful rt) (injective : SeedsInjective rt)
    (checked : RentChecked rt Content.space) (faithful : router.cli.Lawful)
    (oneWallet : OneWallet router) (fits : SupplyFits finish.world)
    (asked : Asked finish.gateway request later) (same : request.depositId = call.depositId)
    (met : request.passage = .reached clock signature) (route : request.route = .release)
    {target : Key} (fresh : (router.cli.keys target).val = request.target) :
    (demo router rt finish.gateway request finish.world).1.status = 200 ↔
      later.state = .approved ∧ final.state = .approved ∧
        Receivable rt finish.world key target final.amount := by
  have located : Located router rt later deposit.vault key :=
    spec.simulated.located.kept (spec.later_issue asked same)
  obtain ⟨events, reached⟩ := spec.reached
  have terms := spec.standing.terms
  obtain ⟨authority, free⟩ := spec.release_authority oneWallet
  obtain ⟨ready, made, told, payer, instruction⟩ := payout_prepared faithful located authority
    (reads_bytes faithful fresh) (show "target" ≠ "error" by decide)
    (fun release vault deposit target => .release ⟨release, vault, deposit, target⟩)
    "release authority"
  have prepared : releaseSol router.cli rt (releaseArgs router later request.target) =
      .ok ready := made
  have sent : SentBy (ready.context clock) final.releaseAuthority key target := by
    rw [Prepared.context, payer, instruction]
    constructor <;> simp
  have house : final.vault = deposit.vault := by rw [terms]
  have recorded : final.mint = default := by
    rw [terms]
    exact spec.lamports
  simp only [demo, route, ReleaseBody.safeParse, on_record_asked asked, demoRelease, ne_eq, ite_not,
    prepared, met]
  by_cases approved : later.state = .approved
  · rw [if_pos approved, command_succeeds_iff _ (told _), instruction, release_transacted_iff lawful
      injective checked reached fits spec.standing.found recorded house rfl sent free
      spec.simulated.writable.1]
    exact ⟨fun due => ⟨approved, due⟩, And.right⟩
  · rw [if_neg approved]
    exact iff_of_false (show (409 : Nat) ≠ 200 by decide) (fun both => approved both.1)

/-- A refund that reaches the chain is answered with success exactly when the deposit is
rejected, or still pending when it has expired, and the refund address may receive the amount. -/
theorem Paid.refund_iff
    (spec : Paid router rt start finish call response occurrences record key deposit final since)
    (lawful : Solana.Lawful rt) (injective : SeedsInjective rt)
    (checked : RentChecked rt Content.space) (faithful : router.cli.Lawful)
    (oneWallet : OneWallet router) (fits : SupplyFits finish.world)
    (asked : Asked finish.gateway request later) (same : request.depositId = call.depositId)
    (met : request.passage = .reached clock signature) (route : request.route = .refund) :
    (demo router rt finish.gateway request finish.world).1.status = 200 ↔
      (final.state = .rejected ∨
        final.state = .pending ∧ final.expireAt ≤ clock.unixTimestamp) ∧
        Receivable rt finish.world key final.refundAddr final.amount := by
  have issue := spec.later_issue asked same
  have located : Located router rt later deposit.vault key := spec.simulated.located.kept issue
  obtain ⟨events, reached⟩ := spec.reached
  have terms := spec.standing.terms
  have back : (router.cli.keys final.refundAddr).val = later.refundAddr :=
    spec.refund_addr.trans (congrArg (fun issue => issue.create.refundAddr) issue.symm)
  obtain ⟨authority, free⟩ := spec.release_authority oneWallet
  obtain ⟨ready, made, told, payer, instruction⟩ := payout_prepared faithful located authority
    (reads_bytes faithful back) (show "refund_target" ≠ "error" by decide)
    (fun caller vault deposit target => .refund ⟨caller, vault, deposit, target⟩) "caller"
  have prepared : refundSol router.cli rt (refundArgs router later) = .ok ready := made
  have sent : SentBy (ready.context clock) final.releaseAuthority key final.refundAddr := by
    rw [Prepared.context, payer, instruction]
    constructor <;> simp
  have house : final.vault = deposit.vault := by rw [terms]
  have recorded : final.mint = default := by
    rw [terms]
    exact spec.lamports
  simp only [demo, route, RefundBody.safeParse, on_record_asked asked, demoRefund, prepared, met]
  rw [command_succeeds_iff _ (told _), instruction, refund_transacted_iff lawful injective checked
    reached fits spec.standing.found recorded house rfl sent free spec.simulated.writable.1]
  rfl

/-- Whatever is done in the meantime, once a payment for a record was answered with success: a
release that reaches the chain is answered with success exactly when the record and the deposit
on chain are approved, and a refund exactly when the deposit is rejected, or still pending when
it has expired, if in either case the runtime lets a transaction leave the amount with the
account that is paid.

Proof: the deposit stands since its payment, under the terms of the record. -/
theorem demo_payouts_iff (lawful : Solana.Lawful rt) (injective : SeedsInjective rt)
    (checked : RentChecked rt Content.space) (faithful : router.cli.Lawful)
    (oneWallet : OneWallet router)
    {events : List (Event Key)} {start middle finish : Session σ Key} {call : DemoCall}
    {response : Response} (reached : Reached rt events start.world)
    (simulates : call.route = .simulatePayment)
    (paid : Session.Step router rt start (.demo call response) middle)
    (success : response.status = 200) {occurrences : List (Occurrence Key)}
    (run : Run (Session.Step router rt) middle occurrences finish)
    (fits : SupplyFits finish.world) {request : DemoCall} {later : DepositRecord}
    (asked : Asked finish.gateway request later) (same : request.depositId = call.depositId)
    {clock : Clock} {signature : String} (met : request.passage = .reached clock signature) :
    ∃ key final, response.text "deposit_pda" = some (router.cli.pubkeyText key) ∧
      depositAt finish.world key = some final ∧
      (request.route = .release → ∀ target, (router.cli.keys target).val = request.target →
        ((demo router rt finish.gateway request finish.world).1.status = 200 ↔
          later.state = .approved ∧ final.state = .approved ∧
            Receivable rt finish.world key target final.amount)) ∧
      (request.route = .refund →
        ((demo router rt finish.gateway request finish.world).1.status = 200 ↔
          (final.state = .rejected ∨
            final.state = .pending ∧ final.expireAt ≤ clock.unixTimestamp) ∧
            Receivable rt finish.world key final.refundAddr final.amount)) := by
  obtain ⟨record, key, deposit, made⟩ := payment_made lawful faithful reached simulates paid success
  obtain ⟨final, since, spec⟩ := made.paid lawful faithful run
  refine ⟨key, final, spec.simulated.told, spec.standing.found, ?_, ?_⟩
  · intro route target fresh
    exact spec.release_iff lawful injective checked faithful oneWallet fits asked same met route
      fresh
  · intro route
    exact spec.refund_iff lawful injective checked faithful oneWallet fits asked same met route

end Payouts

namespace Sample

open Quarantine.Plain Delivery.Local
open Stealth.Sample (issued)
open Custody.Local (issuedRecord)

/-- The router pays from the first wallet, which is also the operator's: it is the authority of
the vault that the router is configured with. -/
def router : Router Bytes32 Stealth.Scalar where
  cfg := ⟨⟨base58Text (wallet 1).val, "o1.json", "o2.json"⟩, "depositor.json"⟩
  env := Gateway.Local.env
  cli
  loadKeypair path :=
    if path = "depositor.json" then .ok (wallet 1).val
    else .error "ENOENT: no such file or directory"

/-- The sample's tool is the one that the commands are sampled with, which behaves as it
should. -/
theorem router_lawful : router.cli.Lawful := cli_lawful

/-- The router's key file of the wallet can be read, and holds the first wallet's key. -/
theorem router_reads :
    router.cli.readKeypairFile router.cfg.demoWalletKeypair = .ok (wallet 1) := rfl

/-- The operator of the sample is the first wallet. -/
theorem router_vault :
    router.cli.pubkeyFromStr router.cfg.vaultAuthorityPubkey = some (wallet 1) := by
  have named : router.cfg.vaultAuthorityPubkey = base58Text (wallet 1).val := rfl
  have same : (router.cli.keys (wallet 1)).val = (wallet 1).val := rfl
  rw [named]
  exact reads_bytes router_lawful same

/-- The router reads the public key of the wallet. -/
theorem wallet_loaded : demoWalletPubkey router = .ok (wallet 1).val := by decide +kernel

/-- The key that the router names is the key that the tool signs with. -/
theorem one_wallet : OneWallet router := by
  intro wallet loaded
  obtain rfl := Except.ok.inj (wallet_loaded.symm.trans loaded)
  exact ⟨_, router_reads, rfl⟩

/-- A request of the first institution about the first record, whose run of the tool gets through
in the second that is given. -/
def ask (route : DemoRoute) (now : Nat) : DemoCall where
  route
  request := ⟨.paymentStatus Gateway.Local.firstId, some "bank-key", none,
    some (.object [("deposit_id", .string Gateway.Local.firstId)])⟩
  moment := ⟨2000, 2000, 0⟩
  seed := []
  target := (wallet 7).val
  passage := .reached (Quarantine.Local.second now) "signature"
  round := ⟨.lost "", .lost ""⟩

/-- The request is about the first record. -/
theorem asked_id (route : DemoRoute) (now : Nat) :
    (ask route now).depositId = some Gateway.Local.firstId := by
  rfl

/-- It is the record's institution that asks, so that the request is handled. -/
theorem record_asked (route : DemoRoute) (now : Nat) :
    Asked issuedStore (ask route now) issuedRecord where
  known := ⟨Gateway.Local.institution, by rfl, by rfl⟩
  named := ⟨_, rfl, by rfl⟩
  stored := by rfl

/-- What the request is answered, and the session that it leaves. -/
def proceed (s : Session MemoryStore Bytes32) (call : DemoCall) :
    Response × Session MemoryStore Bytes32 :=
  let left := demo router (runtime derive) s.gateway call s.world
  (left.1, ⟨left.2.2, left.2.1⟩)

/-- Answering a request so is a step of the session. -/
theorem proceed_step (s : Session MemoryStore Bytes32) (call : DemoCall) :
    Session.Step router (runtime derive) s (.demo call (proceed s call).1)
      (proceed s call).2 :=
  .demo rfl

/-- The vault with a number of deposits. -/
def house (count : Nat) : Vault Bytes32 :=
  ⟨255, wallet 1, [wallet 2, wallet 3, wallet 4], 2, false, count⟩

/-- The world with the vault, and without a deposit. -/
def openWorld : World Bytes32 :=
  ((start.move (wallet 1) (wallet 100) ((128 + vaultSpace) * 6960)).setData
    (wallet 100) (.program (.vault Vault.zeroed))).setData
    (wallet 100) (.program (.vault (house 0)))

/-- The world with the vault is reached by one call, which opens the vault. -/
theorem open_reached : Reached (runtime derive) [openVault] openWorld :=
  ⟨start, start_genesis, .single (.call (by rfl))⟩

/-- The arguments of the payment: an hour, less the second that has passed. -/
def paymentArgs : DepositArgs Bytes32 :=
  ⟨wallet 6, issued.ephemeralR, 1, funds, wallet 6, wallet 1, 3599⟩

/-- The arguments are those that the record asks for: its amount, its address and what is left of
the time to its expiry. -/
theorem record_pays : PaysFor router issuedRecord (wallet 1).val 2000 paymentArgs where
  stealthPubkey := by decide +kernel
  ephemeralR := by decide +kernel
  viewTag := by decide +kernel
  amount := by decide +kernel
  refundAddr := by decide +kernel
  releaseAuthority := rfl
  expireSeconds := by decide +kernel

/-- The deposit that it opens. -/
def paidDeposit : Deposit Bytes32 :=
  ⟨255, wallet 100, wallet 6, issued.ephemeralR, 1, wallet 0, funds, wallet 1, wallet 6, wallet 1,
    1001, 4600, .pending, [], 0, 0⟩

/-- The world with the deposit: its account has its rent and the amount, and the vault has
counted it. -/
def paidWorld : World Bytes32 :=
  ((((openWorld.move (wallet 1) (wallet 262) ((128 + depositSpace) * 6960)).setData
    (wallet 262) (.program (.deposit Deposit.zeroed))).move (wallet 1) (wallet 262) funds).setData
    (wallet 100) (.program (.vault (house 1)))).setData
    (wallet 262) (.program (.deposit paidDeposit))

set_option maxRecDepth 10000 in
/-- The transaction of the payment gets through: the program accepts it, and no account is left
short of its rent. -/
theorem paid_executed {ready : Prepared Bytes32} (signs : ready.payer = wallet 1)
    (instruction : ready.instruction = .deposit ⟨wallet 1, wallet 100, wallet 262⟩ paymentArgs) :
    transact (runtime derive) (ready.context (Local.second 1001)) ready.instruction openWorld =
      .ok paidWorld := by
  rw [Prepared.context, instruction, signs]
  exact transact_ok_iff.mpr ⟨by rfl, by decide +kernel⟩

/-- The balances still fit in 64 bits, as lamports have only moved. -/
theorem paid_fits : SupplyFits paidWorld := by
  have funded : SupplyFits start := by
    intro keys
    calc ∑ key ∈ keys, start.lamports key
        ≤ ∑ key ∈ keys ∪ {wallet 1}, start.lamports key :=
          Finset.sum_le_sum_of_subset Finset.subset_union_left
      _ = ∑ key ∈ {wallet 1}, start.lamports key := by
          refine (Finset.sum_subset Finset.subset_union_right ?_).symm
          intro key _ outside
          simp_all [World.lamports, start]
      _ ≤ u64Max := by decide +kernel
  have opened := ((funded.move (by decide +kernel : wallet 1 ≠ wallet 100)
    (by decide +kernel : (128 + vaultSpace) * 6960 ≤ start.lamports (wallet 1))).setData
      (wallet 100) (.program (.vault Vault.zeroed))).setData (wallet 100)
        (.program (.vault (house 0)))
  exact ((((opened.move (by decide +kernel) (by decide +kernel)).setData _ _).move
    (by decide +kernel) (by decide +kernel)).setData _ _).setData _ _

/-- The session before the payment. -/
def opened : Session MemoryStore Bytes32 := ⟨openWorld, issuedStore⟩

/-- The payment, and the session it leaves. -/
def payment : Response × Session MemoryStore Bytes32 := proceed opened (ask .simulatePayment 1001)

/-- The payment is answered with success, and leaves the deposit on chain and the store as it
was. -/
theorem payment_success : payment.1.status = 200 ∧ payment.2 = ⟨paidWorld, issuedStore⟩ := by
  have vault : pda (runtime derive) (.vault (wallet 1)) = .ok (wallet 100) :=
    pda_found (show _ = some (wallet 100, 255) by decide +kernel)
  have place : pda (runtime derive)
      (.deposit (wallet 100) paymentArgs.stealthPubkey paymentArgs.ephemeralR) =
        .ok (wallet 262) := pda_found (show _ = some (wallet 262, 255) by decide +kernel)
  obtain ⟨printed, made, told⟩ := simulate_prepared router_lawful router_reads router_vault vault
    place record_pays (by decide) (by decide)
  have left := simulate_answered (record_asked .simulatePayment 1001) rfl wallet_loaded made rfl
    (told "signature") (paid_executed rfl rfl)
  rw [payment, proceed, opened, left]
  exact ⟨rfl, rfl⟩

/-- The payment is a step of the session, which the general results are about. -/
theorem payment_step :
    Session.Step router (runtime derive) opened
      (.demo (ask .simulatePayment 1001) payment.1) payment.2 :=
  proceed_step _ _

/-- The deposit of the payment is the only one on chain. -/
theorem paid_only {key : Bytes32} {deposit : Deposit Bytes32}
    (found : depositAt paidWorld key = some deposit) :
    key = wallet 262 ∧ deposit = paidDeposit := by
  have nothing : start.data key = .system := by
    simp only [World.data, start]
    split <;> rfl
  rw [deposit_at_iff] at found
  simp only [paidWorld, openWorld, World.data_set_data, World.data_move, nothing] at found
  split_ifs at found with here
  · rw [Solana.Data.program.injEq, Content.deposit.injEq] at found
    exact ⟨here, found.symm⟩
  all_goals cases found

/-- The balances still fit in 64 bits after the payment. -/
theorem payment_fits : SupplyFits payment.2.world := by
  rw [payment_success.2]
  exact paid_fits

/-- The record can be asked about after the payment, by its institution. -/
theorem payment_asked (route : DemoRoute) (now : Nat) :
    Asked payment.2.gateway (ask route now) issuedRecord := by
  rw [payment_success.2]
  exact record_asked route now

/-- What the next request is answered. -/
def next (route : DemoRoute) (now : Nat) : Response × Session MemoryStore Bytes32 :=
  proceed payment.2 (ask route now)

/-- The answer to the next request is that of the router. -/
theorem next_answer (route : DemoRoute) (now : Nat) :
    (next route now).1 = (demo router (runtime derive) payment.2.gateway (ask route now)
      payment.2.world).1 := by
  rw [next, proceed]

/-- The refund address may receive the amount, and so may the fresh key. -/
theorem paid_receivable (number : Nat) (named : number = 6 ∨ number = 7) :
    Receivable (runtime derive) payment.2.world (wallet 262) (wallet number) funds := by
  rw [payment_success.2]
  rcases named with rfl | rfl
  · exact ⟨by decide +kernel, fun _ => by decide +kernel⟩
  · exact ⟨by decide +kernel, fun _ => by decide +kernel⟩

/-- The refund of the expired deposit is answered with success. -/
theorem refund_made : (next .refund 5000).1.status = 200 := by
  obtain ⟨record, key, deposit, made⟩ := payment_made (runtime_lawful derive)
    router_lawful open_reached rfl payment_step payment_success.1
  obtain ⟨final, since, spec⟩ := made.paid (runtime_lawful derive) router_lawful .nil
  have placed := spec.standing.found
  rw [payment_success.2] at placed
  obtain ⟨rfl, rfl⟩ := paid_only placed
  rw [next_answer, spec.refund_iff (runtime_lawful derive) derive_injective
    (runtime_checked derive) router_lawful one_wallet payment_fits (payment_asked .refund 5000)
    ((asked_id ..).trans (asked_id ..).symm) rfl rfl]
  exact ⟨.inr ⟨rfl, by decide⟩, paid_receivable 6 (.inl rfl)⟩

/-- The deposit is refunded once it has expired, and then the payment is asked for again, which
fails: the address of the deposit is occupied. -/
def again : Response × Session MemoryStore Bytes32 :=
  proceed (next .refund 5000).2 (ask .simulatePayment 5001)

/-- The second payment fails, and the deposit of the first is final. -/
theorem payment_settled_once : again.1.status ≠ 200 ∧
    ∃ key final, depositAt again.2.world key = some final ∧ final.state.Final := by
  have run : Run (Session.Step router (runtime derive)) payment.2
      ([.demo (ask .refund 5000) (next .refund 5000).1] ++
        [.demo (ask .simulatePayment 5001) again.1])
      again.2 := (Run.single (proceed_step _ _)).append (.single (proceed_step _ _))
  obtain ⟨record, key, -, final, asked, -, -, found, -, unpaid, -, settled⟩ :=
    demo_settles_once (runtime_lawful derive) router_lawful open_reached rfl payment_step
      payment_success.1 run
  have first : record.id = Gateway.Local.firstId :=
    Option.some.inj ((asked_deposit_id asked).symm.trans (asked_id _ _))
  rw [first] at unpaid settled
  have twice := unpaid (.demo (ask .simulatePayment 5001) again.1) (by simp)
  have once := settled (.demo (ask .refund 5000) (next .refund 5000).1) (by simp)
  simp only [Occurrence.succeeded, asked_id, refund_made, decide_eq_true_eq,
    decide_eq_false_iff_not] at twice once
  exact ⟨fun success => twice ⟨by simp [ask], trivial, success⟩, key, final, found,
    once ⟨by simp [ask], trivial, trivial⟩⟩

/-- While the deposit is pending it is not released, and it is refunded once it has expired. -/
theorem payouts_awaited :
    (next .release 2000).1.status ≠ 200 ∧ (next .refund 5000).1.status = 200 := by
  have paid := fun route now => demo_payouts_iff (runtime_lawful derive) derive_injective
    (runtime_checked derive) router_lawful one_wallet open_reached rfl payment_step
    payment_success.1 .nil payment_fits (payment_asked route now)
    ((asked_id ..).trans (asked_id ..).symm) rfl
  constructor
  · obtain ⟨key, final, -, placed, release, -⟩ := paid .release 2000
    rw [payment_success.2] at placed
    obtain ⟨-, rfl⟩ := paid_only placed
    rw [next_answer, Ne, release rfl (wallet 7) rfl]
    rintro ⟨-, approved, -⟩
    cases approved
  · obtain ⟨key, final, -, placed, -, refund⟩ := paid .refund 5000
    rw [payment_success.2] at placed
    obtain ⟨rfl, rfl⟩ := paid_only placed
    rw [next_answer, refund rfl]
    exact ⟨.inr ⟨rfl, by decide⟩, paid_receivable 6 (.inl rfl)⟩

end Sample

end GPay.Demo
