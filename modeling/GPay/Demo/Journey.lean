import GPay.Demo.Session
import GPay.Polling

/-!
# From the payment to its release

The demo with the indexer: a store that was empty holds keys derived for its institutions
only, so that a payment of the router is found by the keys that they have registered. After a
round of the indexer the record shows the payment, and the release follows the verdict on chain.
-/

namespace GPay.Demo

open Solana Gateway LawfulStore Text Quarantine Runs Indexing
open Stealth (Primitives SpendPublicKey ViewPublicKey)
open Stealth.Port (deriveStealthAddress Agrees)
open Polling (Delivers Payment)
open Provenance (Shows)
open Reading (Listing)

/-- The amounts of the deposits that are opened on chain are `u64`s, as they are when they are
read from a transaction. -/
def Occurrence.Typed {Key : Type} [Inhabited Key] : Occurrence Key → Prop
  | .chain event => event.Typed
  | _ => True

section Steps

variable {Key Point σ : Type} [DecidableEq Key] [Inhabited Key] [LawfulStore σ]
  {router : Router Key Point} {rt : Runtime Key} {s s' : Session σ Key}
  {occurrence : Occurrence Key} {occurrences : List (Occurrence Key)}

omit [DecidableEq Key] in
/-- An event that opens nothing has no amount. -/
theorem typed_quiet {event : Event Key} (quiet : event.opening = none) : event.Typed := by
  intro opening opens
  rw [quiet] at opens
  cases opens

omit [DecidableEq Key] in
/-- A payout opens nothing. -/
theorem payout_typed (faithful : router.cli.Lawful) {record : DepositRecord}
    {who name keypair target : String}
    {call : (signer vault deposit target : Key) → Instruction Key}
    (pays : ∀ signer vault deposit target, (call signer vault deposit target).opening = none)
    {ready : Prepared Key}
    (made : payoutSol router.cli rt who name call keypair router.cfg.vaultAuthorityPubkey
      (base58Text record.stealthPubkey) (bytesToHex record.ephemeralR) target = .ok ready)
    (ctx : Context Key) : (Event.call ctx ready.instruction).Typed := by
  obtain ⟨signer, vault, key, targetKey, -, -, -, rfl⟩ := (payout_sol_ready faithful).mp made
  exact typed_quiet (pays signer vault key targetKey)

/-- Each step of a session is a run on chain with amounts of their type, as what the tool sends
was read as a `u64`. -/
theorem typed_step (faithful : router.cli.Lawful)
    (step : Session.Step router rt s occurrence s') (typed : occurrence.Typed) :
    ∃ events, Run (Step rt) s.world events s'.world ∧ ∀ event ∈ events, event.Typed := by
  cases step with
  | chain taken => exact ⟨_, .single taken, by simpa [Occurrence.Typed] using typed⟩
  | served answered => exact ⟨[], .nil, by simp⟩
  | demo answered =>
    cases demo_effect answered with
    | apart run votes other =>
      refine ⟨_, run, fun event listed => ?_⟩
      obtain ⟨ctx, accounts, verdict, evidence, rfl⟩ := votes event listed
      exact typed_quiet rfl
    | simulated route asked handled =>
      obtain ⟨events, run, each, -⟩ := handled.run
      refine ⟨events, run, ?_⟩
      rintro event listed
      obtain ⟨ready, clock, made, rfl⟩ := each event listed
      obtain ⟨wallet, -, made⟩ := (bind_ok_iff ..).mp made
      obtain ⟨-, -, -, args, -, -, -, -, held, rfl, -⟩ := simulate_ready faithful made
      rintro opening ⟨⟩
      exact held
    | released route asked handled =>
      obtain ⟨events, run, each, -⟩ := handled.run
      refine ⟨events, run, fun event listed => ?_⟩
      obtain ⟨ready, clock, made, rfl⟩ := each event listed
      exact payout_typed faithful (fun _ _ _ _ => rfl) made _
    | refunded route asked handled =>
      obtain ⟨events, run, each, -⟩ := handled.run
      refine ⟨events, run, fun event listed => ?_⟩
      obtain ⟨ready, clock, made, rfl⟩ := each event listed
      exact payout_typed faithful (fun _ _ _ _ => rfl) made _

/-- So is a whole session. -/
theorem session_typed (faithful : router.cli.Lawful)
    (run : Run (Session.Step router rt) s occurrences s')
    (typed : ∀ occurrence ∈ occurrences, occurrence.Typed) :
    ∃ events, Run (Step rt) s.world events s'.world ∧ ∀ event ∈ events, event.Typed := by
  induction run with
  | nil => exact ⟨[], .nil, by simp⟩
  | snoc earlier last continued =>
    obtain ⟨events, ran, held⟩ :=
      continued (fun occurrence listed => typed occurrence (List.mem_append_left _ listed))
    obtain ⟨more, stepped, also⟩ := typed_step faithful last (typed _ (by simp))
    refine ⟨events ++ more, ran.append stepped, ?_⟩
    intro event listed
    exact (List.mem_append.mp listed).elim (held event) (also event)

/-- The key of the record was derived for an institution, from some seed and under the nonce
zero. -/
def Derived (router : Router Key Point) (registered : List Institution) (record : DepositRecord) :
    Prop :=
  ∃ inst ∈ registered, ∃ seed addr,
    deriveStealthAddress router.env.noble inst.spendPub inst.viewPub seed = .ok addr ∧
      record.stealthPubkey = addr.stealthPubkey ∧ record.ephemeralR = addr.ephemeralR ∧
      record.viewTag = addr.viewTag

omit [DecidableEq Key] [Inhabited Key] in
/-- A record whose fixed part is the same was derived for the same institution. -/
theorem Derived.kept {registered : List Institution} {record later : DepositRecord}
    (derived : Derived router registered record) (same : later.issue = record.issue) :
    Derived router registered later := by
  obtain ⟨inst, listed, seed, addr, made, key, ephemeral, tag⟩ := derived
  obtain ⟨-, -, create⟩ := Issue.mk.inj same
  refine ⟨inst, listed, seed, addr, made, ?_, ?_, ?_⟩
  · exact (congrArg DepositCreate.stealthPubkey create).trans key
  · exact (congrArg DepositCreate.ephemeralR create).trans ephemeral
  · exact (congrArg DepositCreate.viewTag create).trans tag

/-- Who is authenticated is an institution of the store. -/
theorem authentic_listed {store : σ} {request : Request} {inst : Institution}
    (known : apiKeyAuth store request = .ok inst) : inst ∈ institutions store := by
  unfold apiKeyAuth at known
  split at known
  · cases known
  · cases known
  · rename_i key _ _
    rw [find_by_api_key] at known
    split at known
    · cases known
    · rename_i found
      obtain rfl := Except.ok.inj known
      exact List.mem_of_find?_eq_some found

/-- The institutions stay in a step of a session, and every record's key was derived for one of
them, as those are the only records that are created. -/
theorem derived_step (step : Session.Step router rt s occurrence s') :
    institutions s'.gateway = institutions s.gateway ∧
      ((∀ record ∈ records s.gateway, Derived router (institutions s.gateway) record) →
        ∀ record ∈ records s'.gateway, Derived router (institutions s.gateway) record) := by
  cases step with
  | chain taken => exact ⟨rfl, id⟩
  | served answered =>
    obtain ⟨same, added, grown, told⟩ := call_issues _ _ answered
    refine ⟨same, fun derived record stored => ?_⟩
    have listed := List.mem_map_of_mem (f := DepositRecord.issue) stored
    rw [grown, List.mem_append, List.mem_map, List.mem_map] at listed
    rcases listed with ⟨earlier, member, kept⟩ | ⟨fresh, member, kept⟩
    · exact (derived earlier member).kept kept.symm
    · obtain ⟨event, -, answer⟩ := told_answered told member
      obtain ⟨inst, addr, known, -, made, key, ephemeral, tag⟩ := answer.owner
      exact Derived.kept ⟨inst, authentic_listed known, _, addr, made, key, ephemeral, tag⟩
        kept.symm
  | demo answered =>
    rcases demo_stored answered with
      rfl | ⟨same, inst, addr, wallet, fresh, known, made, terms, grown⟩
    · exact ⟨rfl, id⟩
    · refine ⟨same, fun derived record stored => ?_⟩
      rw [grown, List.mem_append, List.mem_singleton] at stored
      rcases stored with earlier | rfl
      · exact derived record earlier
      · refine ⟨inst, authentic_listed known, _, addr, made, ?_, ?_, ?_⟩
        all_goals rw [terms]; rfl

/-- In the course of a session that began without records, too. -/
theorem session_derived (run : Run (Session.Step router rt) s occurrences s')
    (empty : records s.gateway = []) :
    institutions s'.gateway = institutions s.gateway ∧
      ∀ record ∈ records s'.gateway, Derived router (institutions s.gateway) record := by
  induction run with
  | nil => exact ⟨rfl, by simp [empty]⟩
  | snoc earlier last continued =>
    obtain ⟨same, derived⟩ := continued
    obtain ⟨still, grown⟩ := derived_step last
    rw [same] at still grown
    exact ⟨still, grown derived⟩

/-- What the gateway is asked is part of a session. -/
theorem served_run {events : List Served} {store stored : σ}
    (run : Run (Gateway.Step router.env) store events stored) (w : World Key) :
    Run (Session.Step router rt) ⟨w, store⟩ (events.map .served) ⟨w, stored⟩ := by
  induction run with
  | nil => exact .nil
  | snoc earlier last continued =>
    rw [List.map_append]
    exact continued.append (.single (.served last))

omit [DecidableEq Key] in
/-- A round of the gateway opens no deposit on chain, so that amounts are of their type along it
if they were before. -/
theorem typed_round (typed : ∀ occurrence ∈ occurrences, occurrence.Typed) (round : List Served) :
    ∀ occurrence ∈ occurrences ++ round.map Occurrence.served, occurrence.Typed := by
  intro occurrence listed
  rcases List.mem_append.mp listed with listed | listed
  · exact typed occurrence listed
  · obtain ⟨event, -, rfl⟩ := List.mem_map.mp listed
    trivial

/-- The votes of a request open no deposit and keep the terms of every one, by induction on their
run. -/
theorem votes_keep {w w' : World Key} {events : List (Event Key)} (run : Run (Step rt) w events w')
    (votes : ∀ event ∈ events, IsVote event) {key : Key} {deposit : Deposit Key}
    (found : depositAt w' key = some deposit) :
    ∃ earlier, depositAt w key = some earlier ∧ earlier.SameTerms deposit := by
  induction run generalizing deposit with
  | nil => exact ⟨deposit, found, .refl _⟩
  | @snoc events middle after event earlier last continued =>
    have before : ∀ event ∈ events, IsVote event :=
      fun event listed => votes event (List.mem_append_left _ listed)
    obtain ⟨ctx, accounts, verdict, evidence, rfl⟩ := votes event (by simp)
    cases last with
    | call executed =>
      obtain ⟨vault, old, new, spec⟩ := (attest_ok_iff ..).mp executed
      rw [deposit_at_iff, spec.saved, World.data_set_data] at found
      split_ifs at found with here
      · subst here
        rw [Solana.Data.program.injEq, Content.deposit.injEq] at found
        obtain rfl := found
        obtain ⟨first, there, same⟩ := continued before (deposit_at_iff.mpr spec.at_deposit)
        exact ⟨first, there, same.trans ((DepositChange.attested rfl spec).same_terms
          spec.at_deposit)⟩
      · exact continued before (deposit_at_iff.mpr found)

end Steps

section Round

variable {Key Point σ : Type} [DecidableEq Key] [Inhabited Key] [AddCommGroup Point]
  [LawfulStore σ] {router : Router Key Point} {rt : Runtime Key} {indexer : Indexer Point}

/-- The indexer scans for the keys of the institution. -/
def Registered (crypto : Primitives Point) (indexer : Indexer Point) (inst : Institution) : Prop :=
  ∃ slice ∈ indexer.slices, slice.nonce = 0 ∧ inst.spendPub = (slice.spendPub.toBytes crypto).val ∧
    inst.viewPub = ((slice.viewKey.public crypto).toBytes crypto).val

/-- The parts fit together, and nothing has been issued or stored at the beginning: the libraries
and the runtime behave as documented, the router pays from one wallet, and the indexer scans for
every institution that the gateway knows. -/
structure Deployed (router : Router Key Point) (rt : Runtime Key) (indexer : Indexer Point)
    (origin : Session σ Key) : Prop where
  lawful : Solana.Lawful rt
  injective : SeedsInjective rt
  checked : RentChecked rt Content.space
  faithful : router.cli.Lawful
  oneWallet : OneWallet router
  crypto : router.cli.crypto.Lawful
  agrees : Agrees router.cli.crypto router.env.noble
  secret : router.env.expectedSecret ≠ ""
  genesis : Genesis origin.world
  empty : records origin.gateway = []
  registered : ∀ inst ∈ institutions origin.gateway, Registered router.cli.crypto indexer inst

/-- A round of the indexer: a pass over the chain that ended well, and a run of the gateway
that delivers what it has reported. -/
structure Watched (router : Router Key Point) (indexer : Indexer Point) (w : World Key)
    (store stored : σ) (events : List Served) : Prop where
  pass : ∃ accounts found, Listing router.cli.keys w accounts ∧
    scanProgramAccounts router.cli.crypto (format router.cli.keys) (.ok accounts) indexer =
      .ok found ∧ Delivers router.env router.cli.keys events found
  run : Run (Gateway.Step router.env) store events stored

omit [DecidableEq Key] [Inhabited Key] in
/-- A round of the main loop is one when its pass ends well and all that it delivers arrives. -/
theorem poll_watched {w : World Key} {accounts : List (Key × List UInt8)}
    (listing : Listing router.cli.keys w accounts) {found : List (PaymentMatch Key)}
    (ended : scanProgramAccounts router.cli.crypto (format router.cli.keys) (.ok accounts) indexer =
      .ok found)
    {arrival : PaymentMatch Key → Option Moment} (arrives : ∀ m ∈ found, (arrival m).isSome = true)
    (store : σ) :
    let round := Polling.poll router.env router.cli.crypto (format router.cli.keys) indexer
      (.ok accounts) arrival store
    Watched router indexer w store round.2 round.1 := by
  obtain ⟨run, delivers⟩ := @Polling.poll_run _ _ _ _ router.env _ router.cli.crypto
    (format router.cli.keys) indexer (.ok accounts) arrival store
  simp only [ended, List.filter_eq_self.mpr arrives] at delivers
  exact ⟨⟨accounts, found, listing, ended, delivers⟩, run⟩

/-- No other deposit on chain carries the key of the record. Anybody may make one, as the key is
public. -/
def Sole (router : Router Key Point) (w : World Key) (record : DepositRecord) (key : Key) : Prop :=
  ∀ other deposit, depositAt w other = some deposit →
    (router.cli.keys deposit.stealthPubkey).val = record.stealthPubkey → other = key

/-- The deposit can be found by the keys of its record: it carries the record's stealth key, some
slice of the indexer matches it, and what is on chain can be read. -/
structure Traced (router : Router Key Point) (indexer : Indexer Point) (w : World Key)
    (record : DepositRecord) (deposit : Deposit Key) : Prop where
  storage : Storage w
  carries : (router.cli.keys deposit.stealthPubkey).val = record.stealthPubkey
  matched : ∃ slice ∈ indexer.slices,
    sliceMatches router.cli.crypto (format router.cli.keys) deposit slice = true

section Payment

variable {start finish : Session σ Key} {call : DemoCall} {response : Response}
  {occurrences : List (Occurrence Key)} {record : DepositRecord} {key : Key}
  {deposit final : Deposit Key} {since : List (Event Key)}

omit [AddCommGroup Point] in
/-- The deposit carries the keys of its record. -/
theorem Paid.carries
    (spec : Paid router rt start finish call response occurrences record key deposit final since) :
    (router.cli.keys final.stealthPubkey).val = record.stealthPubkey ∧
      final.ephemeralR.val = record.ephemeralR ∧ final.viewTag.toNat = record.viewTag := by
  obtain ⟨wallet, args, -, pays, accepted⟩ := spec.simulated.terms
  obtain ⟨-, -, -, filled⟩ := (new_deposit_ok_iff ..).mp accepted
  rw [spec.standing.terms, filled]
  exact ⟨pays.stealthPubkey, pays.ephemeralR, pays.viewTag⟩

/-- A slice of the record's institution matches the deposit, as the record's key was derived for
that institution's keys. -/
theorem Paid.matched
    (spec : Paid router rt start finish call response occurrences record key deposit final since)
    (crypto : router.cli.crypto.Lawful) (agrees : Agrees router.cli.crypto router.env.noble)
    {institutions : List Institution} (derived : Derived router institutions record)
    (registered : ∀ inst ∈ institutions, Registered router.cli.crypto indexer inst) :
    ∃ slice ∈ indexer.slices,
      sliceMatches router.cli.crypto (format router.cli.keys) final slice = true := by
  obtain ⟨inst, listed, seed, addr, made, key, ephemeral, tag⟩ := derived
  obtain ⟨slice, member, nonce, spendPub, viewPub⟩ := registered inst listed
  rw [spendPub, viewPub] at made
  obtain ⟨rSeed, address, scheme, rfl⟩ := Delivery.derived_ported agrees slice.spendPub
    (slice.viewKey.public router.cli.crypto) made
  obtain ⟨sameKey, sameEphemeral, sameTag⟩ := spec.carries
  refine ⟨slice, member, (Delivery.carried_matches crypto nonce scheme ?_ ?_ ?_).1⟩
  · exact Subtype.ext (sameKey.trans key)
  · exact Subtype.ext (sameEphemeral.trans ephemeral)
  · exact UInt8.toNat_inj.mp (sameTag.trans tag)

/-- In the demo from its beginning a payment can be traced, whatever comes behind it: its deposit
stands, carries the record's key, and is matched. -/
theorem Made.traced {origin middle : Session σ Key} (deployed : Deployed router rt indexer origin)
    {earlier : List (Occurrence Key)} (before : Run (Session.Step router rt) origin earlier start)
    (paid : Session.Step router rt start (.demo call response) middle)
    (made : Made router rt start middle call response record key deposit)
    (run : Run (Session.Step router rt) middle occurrences finish)
    (typed : ∀ occurrence ∈ earlier ++ occurrences, occurrence.Typed) :
    ∃ final since,
      Paid router rt start finish call response occurrences record key deposit final since ∧
        Traced router indexer finish.world record final := by
  obtain ⟨final, since, spec⟩ := made.paid deployed.lawful deployed.faithful run
  have whole : Run (Session.Step router rt) origin
      (earlier ++ [.demo call response] ++ occurrences) finish :=
    (before.append (.single paid)).append run
  obtain ⟨history, chain, amounts⟩ := session_typed deployed.faithful whole (by
    intro occurrence listed
    simp only [List.append_assoc, List.mem_append, List.mem_singleton] at listed
    rcases listed with listed | rfl | listed
    · exact typed occurrence (List.mem_append_left _ listed)
    · trivial
    · exact typed occurrence (List.mem_append_right _ listed))
  obtain ⟨-, derived⟩ := session_derived before deployed.empty
  exact ⟨final, since, spec, Reached.storage deployed.lawful ⟨_, deployed.genesis, chain⟩ amounts,
    spec.carries.1, spec.matched deployed.crypto deployed.agrees
      (derived record spec.asked.listed) deployed.registered⟩

omit [DecidableEq Key] [Inhabited Key] in
/-- After a round the record of a traced payment shows it, and has its state when it is decided
and the record was not released or refunded meanwhile. -/
theorem Traced.shown {w : World Key} (traced : Traced router indexer w record final)
    (found : depositAt w key = some final) (secret : router.env.expectedSecret ≠ "")
    {store stored : σ} (issued : Issued store record) {events : List Served}
    (watched : Watched router indexer w store stored events)
    (distinct : ((records stored).map (fun record => record.stealthPubkey)).Nodup)
    (sole : Sole router w record key) :
    ∃ shown ∈ records stored, shown.issue = record.issue ∧ Shows router.cli.keys shown key final ∧
      ((∀ event ∈ events, settles record.id event = false) → final.state ≠ .pending →
        shown.state = final.state) := by
  obtain ⟨accounts, reports, listing, ended, delivers⟩ := watched.pass
  obtain ⟨slice, member, matched⟩ := traced.matched
  obtain ⟨current, present, same⟩ := List.mem_map.mp issued
  have keyed : current.stealthPubkey = record.stealthPubkey := Polling.issue_key same
  have payment : Payment router.cli.crypto router.cli.keys indexer w current key final :=
    ⟨found, traced.carries.trans keyed.symm, slice, member, matched⟩
  obtain ⟨shown, listed, fixed, shows, state⟩ :=
    Polling.payment_shown traced.storage (List.ne_nil_of_mem member) listing ended watched.run
      delivers secret distinct present payment
      (fun other deposit paid => sole other deposit paid.1 (paid.2.1.trans keyed))
  rw [Polling.issue_id same] at state
  exact ⟨shown, listed, fixed.trans same, shows, state⟩

end Payment

/-- In the demo from its beginning: whatever is done on chain, at the gateway and by demo
requests before and after a payment that was answered with success, a round of the indexer
that ends well and whose deliveries all arrive leaves the record showing the deposit that the
payment opened, with its amount as far as a double holds it, if no other deposit carries its
key. If moreover the record was not released or refunded meanwhile, a release that reaches the
chain is answered with success exactly when that deposit is approved and the runtime lets the
target have the amount.

Proof: the payment can be traced by the keys that the institution has registered, so that the
pass reports it and its delivery leaves the record with the state of the deposit. -/
theorem mirrored_release_iff {origin start middle finish : Session σ Key}
    (deployed : Deployed router rt indexer origin) {earlier later : List (Occurrence Key)}
    (before : Run (Session.Step router rt) origin earlier start) {call : DemoCall}
    {response : Response} (simulates : call.route = .simulatePayment)
    (paid : Session.Step router rt start (.demo call response) middle)
    (success : response.status = 200) (after : Run (Session.Step router rt) middle later finish)
    (typed : ∀ occurrence ∈ earlier ++ later, occurrence.Typed) (fits : SupplyFits finish.world)
    {events : List Served} {stored : σ}
    (watched : Watched router indexer finish.world finish.gateway stored events)
    (distinct : ((records stored).map (fun record => record.stealthPubkey)).Nodup) :
    ∃ record key final, Asked start.gateway call record ∧
      response.text "deposit_pda" = some (router.cli.pubkeyText key) ∧
      depositAt finish.world key = some final ∧
      (Sole router finish.world record key →
        (∃ shown ∈ records stored, shown.id = record.id ∧ Shows router.cli.keys shown key final ∧
          (final.amount < 2 ^ 53 → shown.onChainAmount = some final.amount)) ∧
        ((∀ event ∈ events, settles record.id event = false) →
          ∀ (request : DemoCall) (shown : DepositRecord) (clock : Clock) (signature : String),
            request.route = .release → request.passage = .reached clock signature →
            ∀ target, (router.cli.keys target).val = request.target →
            Asked stored request shown → shown.id = record.id →
            ((demo router rt stored request finish.world).1.status = 200 ↔
              final.state = .approved ∧
                Receivable rt finish.world key target final.amount))) := by
  obtain ⟨past, started, -⟩ := session_typed deployed.faithful before
    (fun occurrence listed => typed occurrence (List.mem_append_left _ listed))
  obtain ⟨record, key, deposit, made⟩ := payment_made deployed.lawful deployed.faithful
    ⟨_, deployed.genesis, started⟩ simulates paid success
  obtain ⟨final, since, spec, traced⟩ := made.traced deployed before paid
    (after.append (served_run watched.run finish.world))
    (List.append_assoc .. ▸ typed_round typed events)
  refine ⟨record, key, final, made.asked, made.simulated.told, spec.standing.found, fun sole => ?_⟩
  obtain ⟨shown, listed, fixed, shows, state⟩ := traced.shown spec.standing.found deployed.secret
    (issued_run after made.issued) watched distinct sole
  have shownId : shown.id = record.id := Polling.issue_id fixed
  refine ⟨⟨shown, listed, shownId, shows, shows.exact⟩, ?_⟩
  intro unsettled request later clock signature route met target fresh asked named
  have alike : later = shown := asked.same listed (named.trans shownId.symm)
  have about : request.depositId = call.depositId := by
    rw [asked_deposit_id asked, asked_deposit_id made.asked, named]
  rw [spec.release_iff deployed.lawful deployed.injective deployed.checked deployed.faithful
    deployed.oneWallet fits asked about met route fresh, alike]
  constructor
  · exact And.right
  · rintro ⟨approved, receivable⟩
    have decided : final.state ≠ .pending := by
      rw [approved]
      decide
    exact ⟨(state unsettled decided).trans approved, approved, receivable⟩

/-- The deposit waits for its first vote, and no other carries its key. The router's two oracles
are distinct, they are listed in its vault, and the two of them are enough. -/
structure Awaits (router : Router Key Point) (w : World Key) (record : DepositRecord) (key : Key)
    (deposit : Deposit Key) (vault : Vault Key) (first second : Key) : Prop where
  found : depositAt w key = some deposit
  sole : Sole router w record key
  pending : deposit.state = .pending
  unvoted : deposit.attestations = []
  house : vaultAt w deposit.vault = some vault
  small : vault.minAttestations ≤ 2
  readsFirst : router.cli.readKeypairFile router.cfg.oracle1Keypair = .ok first
  readsSecond : router.cli.readKeypairFile router.cfg.oracle2Keypair = .ok second
  distinct : first ≠ second
  firstListed : first ∈ vault.oracleSet
  secondListed : second ∈ vault.oracleSet

/-- The institution of the record asks for a verdict on it, and both runs of the tool reach the
chain before that time. -/
structure Attests (store : σ) (request : DemoCall) (record : DepositRecord) (verdict : AmlVerdict)
    (expireAt : Int) : Prop where
  route : request.route = .attest
  asks : ∃ inst, Asks store inst record verdict request.request ∧ record.institutionId = inst.id
  begun : request.round.first.reaches = true
  ended : request.round.second.reaches = true
  early : request.round.Before expireAt

section Completion

variable {start middle finish : Session σ Key} {call : DemoCall} {response : Response}
  {occurrences : List (Occurrence Key)} {record shown : DepositRecord} {key : Key}
  {deposit final : Deposit Key} {since : List (Event Key)}

omit [AddCommGroup Point] in
/-- The router is configured with the authority of the deposit's vault. -/
theorem Paid.vault_authority
    (spec : Paid router rt start finish call response occurrences record key deposit final since)
    (lawful : Solana.Lawful rt) (injective : SeedsInjective rt) {vault : Vault Key}
    (house : vaultAt finish.world final.vault = some vault) :
    router.cli.pubkeyFromStr router.cfg.vaultAuthorityPubkey = some vault.authority := by
  obtain ⟨authority, named, derived⟩ := spec.simulated.located.house
  obtain ⟨events, reached⟩ := spec.reached
  obtain ⟨bump, found⟩ := reached.vault_found lawful (vault_at_iff.mp house)
  have sameVault : final.vault = deposit.vault := by rw [spec.standing.terms]
  unfold pda at derived
  split at derived
  · rename_i vaultKey other located
    obtain rfl := Except.ok.inj derived
    rw [sameVault] at found
    obtain ⟨same, -⟩ := injective _ _ _ _ _ (lawful.find_derived _ _ _ located)
      (lawful.find_derived _ _ _ found)
    rw [named, Seeds.vault.inj same]
  · cases derived

omit [AddCommGroup Point] in
/-- Once the record shows the deposit, the deposit awaits the verdict that its institution asks
for: the router finds it by the record and has the keys of two of its oracles. -/
theorem Paid.awaiting
    (spec : Paid router rt start finish call response occurrences record key deposit final since)
    (lawful : Solana.Lawful rt) (injective : SeedsInjective rt) (faithful : router.cli.Lawful)
    {vault : Vault Key} {first second : Key}
    (awaits : Awaits router finish.world record key final vault first second)
    (listed : shown ∈ records finish.gateway) (fixed : shown.issue = record.issue)
    (shows : Shows router.cli.keys shown key final) {inst : Institution}
    (owned : record.institutionId = inst.id) :
    ∃ events, Awaiting router.cli.toTool rt router.cfg.toConfig finish.gateway inst shown events
      finish.world key final vault first second := by
  obtain ⟨events, reached⟩ := spec.reached
  obtain ⟨carriesKey, carriesEphemeral, -⟩ := spec.carries
  obtain ⟨sameId, -, create⟩ := Issue.mk.inj fixed
  have nonempty : Indexing.pubkeyText (router.cli.keys key) ≠ "" := by
    intro empty
    have bytes : (router.cli.keys key).val = [] := base58_text_injective empty
    simpa [bytes] using (router.cli.keys key).property
  have recorded : RecordOf router.cli.toTool finish.gateway inst shown final :=
    { stored := by rw [get_deposit, Tables.find_row (LawfulStore.distinct _) listed]
      owned := (congrArg DepositCreate.institutionId create).trans owned
      onChainAddress := ⟨_, shows.address, nonempty⟩
      stealthPubkey := reads_bytes faithful
        (carriesKey.trans (congrArg DepositCreate.stealthPubkey create).symm)
      ephemeralR := (congrArg DepositCreate.ephemeralR create).trans carriesEphemeral.symm }
  exact ⟨events, reached, awaits.found, awaits.house, awaits.pending, awaits.unvoted, awaits.small,
    ⟨spec.vault_authority lawful injective awaits.house, awaits.readsFirst,
      awaits.readsSecond⟩,
    awaits.firstListed, awaits.secondListed, recorded⟩

end Completion

omit [AddCommGroup Point] in
/-- A request that attests votes on chain and leaves the store alone. -/
theorem attests_effect {s s' : Session σ Key} {request : DemoCall} {answer : Response}
    (route : request.route = .attest)
    (step : Session.Step router rt s (.demo request answer) s') :
    s' = ⟨(attest router.cli.toTool rt router.cfg.toConfig s.gateway request.request request.round
      s.world).2, s.gateway⟩ := by
  cases step with
  | demo answered =>
    simp only [demo, route] at answered
    obtain ⟨-, rest⟩ := Prod.mk.inj answered
    obtain ⟨same, left⟩ := Prod.mk.inj rest
    rw [← same, ← left]

/-- A verdict has decided the deposit, which is still to be paid out as it was, and which no other
deposit shares its key with. -/
structure Decided (router : Router Key Point) (w : World Key) (record : DepositRecord) (key : Key)
    (deposit decided : Deposit Key) (verdict : AmlVerdict) : Prop where
  found : depositAt w key = some decided
  state : decided.state = verdictTarget verdict
  sole : Sole router w record key
  amount : decided.amount = deposit.amount
  refundAddr : decided.refundAddr = deposit.refundAddr

omit [AddCommGroup Point] in
/-- Once the record shows it, the deposit is decided by a request to attest that meets no failure
and comes in time.

Proof: what is attested is the deposit that the record shows, on which both oracles vote. Votes
keep the terms of every deposit, and so the keys that deposits carry. -/
theorem Paid.decided {start attested : Session σ Key} {w : World Key} {stored : σ}
    {call request : DemoCall} {response answer : Response} {occurrences : List (Occurrence Key)}
    {record shown : DepositRecord} {key first second : Key} {deposit final : Deposit Key}
    {vault : Vault Key} {verdict : AmlVerdict} {since : List (Event Key)}
    (spec : Paid router rt start ⟨w, stored⟩ call response occurrences record key deposit final
      since)
    (lawful : Solana.Lawful rt) (injective : SeedsInjective rt) (faithful : router.cli.Lawful)
    (awaits : Awaits router w record key final vault first second)
    (listed : shown ∈ records stored) (fixed : shown.issue = record.issue)
    (shows : Shows router.cli.keys shown key final)
    (attests : Attests stored request record verdict final.expireAt)
    (voted : Session.Step router rt ⟨w, stored⟩ (.demo request answer) attested) :
    ∃ decided, Decided router attested.world record key final decided verdict := by
  obtain ⟨inst, asks, owned⟩ := attests.asks
  obtain ⟨_, awaiting⟩ := spec.awaiting lawful injective faithful awaits listed fixed shows owned
  have shownId : shown.id = record.id := Polling.issue_id fixed
  obtain ⟨decided, found, state⟩ := attest_decides lawful injective faithful.hex awaiting
    awaits.distinct
    (⟨asks.known, shownId.symm ▸ asks.body⟩ : Asks stored inst shown verdict request.request)
    attests.early attests.begun attests.ended
  have world : attested.world = (attest router.cli.toTool rt router.cfg.toConfig stored
      request.request request.round w).2 :=
    congrArg Session.world (attests_effect attests.route voted)
  rw [← world] at found
  obtain ⟨ballots, cast, votes⟩ := @attest_run _ _ _ _ _ rt _ router.cli router.cfg.toConfig stored
    request.request request.round w
  rw [← world] at cast
  obtain ⟨former, earlier, terms⟩ := votes_keep cast votes found
  obtain rfl : former = final := Option.some.inj (earlier.symm.trans awaits.found)
  refine ⟨decided, found, state, ?_, by rw [terms], by rw [terms]⟩
  intro other carrier there carries
  obtain ⟨before, stands, same⟩ := votes_keep cast votes there
  rw [same] at carries
  exact awaits.sole other before stands carries

end Round

namespace Sample

open Quarantine.Plain Delivery.Local
open Custody.Local (issuedRecord)

/-- The operator opens the vault, and the institution asks for an address. -/
def opening : List (Occurrence Bytes32) :=
  [.chain openVault, .served ⟨Gateway.Local.create,
    (serve Gateway.Local.env Gateway.Local.memory Gateway.Local.create).1⟩]

/-- These lead to the session before the payment. -/
theorem opening_run : Run (Session.Step router (runtime derive))
    (⟨start, Gateway.Local.memory⟩ : Session MemoryStore Bytes32) opening opened := by
  have vault : Session.Step router (runtime derive)
      (⟨start, Gateway.Local.memory⟩ : Session MemoryStore Bytes32) (.chain openVault)
      ⟨openWorld, Gateway.Local.memory⟩ := .chain (.call (by rfl))
  exact .cons vault (.single (.served (by rfl)))

/-- A clean vote on the payment's deposit. -/
def vote (oracle now : Nat) : Event Bytes32 :=
  .call (context now) (.attest ⟨wallet oracle, wallet 100, wallet 262⟩ .clean Bytes32.zeros)

/-- The deposit after the first vote. -/
def votedDeposit : Deposit Bytes32 :=
  { paidDeposit with
    attestations := [⟨wallet 2, .clean, 1002, Bytes32.zeros⟩]
    cleanCount := 1 }

/-- The deposit after the vote of another oracle. -/
def clearedDeposit : Deposit Bytes32 :=
  { paidDeposit with
    state := .approved
    attestations := [⟨wallet 2, .clean, 1002, Bytes32.zeros⟩,
      ⟨wallet 3, .clean, 1003, Bytes32.zeros⟩]
    cleanCount := 2 }

/-- The world after both votes, which write the deposit's record only. -/
def clearedWorld : World Bytes32 :=
  (paidWorld.setData (wallet 262) (.program (.deposit votedDeposit))).setData (wallet 262)
    (.program (.deposit clearedDeposit))

/-- What happens after the payment: two oracles clear it. -/
def votes : List (Occurrence Bytes32) := [.chain (vote 2 1002), .chain (vote 3 1003)]

set_option maxRecDepth 10000 in
/-- Both votes are steps of the session. -/
theorem votes_run : Run (Session.Step router (runtime derive)) payment.2 votes
    (⟨clearedWorld, issuedStore⟩ : Session MemoryStore Bytes32) := by
  have first : Session.Step router (runtime derive)
      (⟨paidWorld, issuedStore⟩ : Session MemoryStore Bytes32) (.chain (vote 2 1002))
      ⟨paidWorld.setData (wallet 262) (.program (.deposit votedDeposit)), issuedStore⟩ :=
    .chain (.call (by rfl))
  rw [payment_success.2]
  exact .cons first (.single (.chain (.call (by rfl))))

/-- No deposit but the payment's is opened. -/
theorem opening_typed : ∀ occurrence ∈ opening ++ votes, occurrence.Typed := by
  intro occurrence listed
  simp only [opening, votes, List.cons_append, List.nil_append, List.mem_cons, List.not_mem_nil,
    or_false] at listed
  rcases listed with rfl | rfl | rfl | rfl
  · exact typed_quiet rfl
  · trivial
  · exact typed_quiet rfl
  · exact typed_quiet rfl

/-- The deposit is cleared. -/
theorem cleared_found : depositAt clearedWorld (wallet 262) = some clearedDeposit :=
  deposit_at_iff.mpr (by simp [clearedWorld])

/-- It is the only deposit. -/
theorem cleared_only {key : Bytes32} {deposit : Deposit Bytes32}
    (found : depositAt clearedWorld key = some deposit) : key = wallet 262 := by
  by_contra elsewhere
  have paid : depositAt paidWorld key = some deposit := by
    rw [deposit_at_iff] at found ⊢
    simpa [clearedWorld, elsewhere] using found
  exact elsewhere (paid_only paid).1

/-- Votes change no balance. -/
theorem cleared_fits : SupplyFits clearedWorld := (paid_fits.setData _ _).setData _ _

/-- What is stored on chain when the demo has run to its payment and on. -/
theorem demo_storage {later : List (Occurrence Bytes32)} {s : Session MemoryStore Bytes32}
    (after : Run (Session.Step router (runtime derive)) payment.2 later s)
    (typed : ∀ occurrence ∈ opening ++ later, occurrence.Typed) : Storage s.world := by
  obtain ⟨events, chain, amounts⟩ := session_typed router_lawful
    ((opening_run.append (.single payment_step)).append after) (by
      intro occurrence listed
      simp only [List.append_assoc, List.mem_append, List.mem_singleton] at listed
      rcases listed with listed | rfl | listed
      · exact typed occurrence (List.mem_append_left _ listed)
      · trivial
      · exact typed occurrence (List.mem_append_right _ listed))
  exact Reached.storage (runtime_lawful derive) ⟨_, start_genesis, chain⟩ amounts

/-- The fresh key may receive the amount. -/
theorem fresh_receivable : Receivable (runtime derive) clearedWorld (wallet 262) (wallet 7) funds :=
  ⟨by decide +kernel, fun _ => by decide +kernel⟩

/-- The account of the one deposit. -/
def accounts (deposit : Deposit Bytes32) : List (Bytes32 × List UInt8) :=
  [(wallet 262, (Content.deposit deposit).padded (Equiv.refl Bytes32))]

/-- The node lists the one account, when it is the only deposit. -/
theorem only_listing {w : World Bytes32} {deposit : Deposit Bytes32} (storage : Storage w)
    (found : depositAt w (wallet 262) = some deposit)
    (only : ∀ key other, depositAt w key = some other → key = wallet 262) :
    Listing router.cli.keys w (accounts deposit) := by
  have stored := deposit_at_iff.mp found
  have held := padded_holds (Equiv.refl Bytes32) (storage _ _ stored)
  refine ⟨List.nodup_singleton _, ?_, ?_⟩
  · intro account member
    obtain rfl := List.mem_singleton.mp member
    exact ⟨held.sized, _, stored, held⟩
  · intro key content there size
    obtain ⟨other, rfl⟩ := (content_space_iff content).mp size
    rw [only key other (deposit_at_iff.mpr there)]
    exact List.mem_singleton.mpr rfl

/-- What the indexer reports of it. -/
def reports (state : DepositState) : List (PaymentMatch Bytes32) :=
  [⟨1, wallet 262, wallet 6, funds, state⟩]

/-- The pass over that account. -/
def pass (deposit : Deposit Bytes32) : Except PassError (List (PaymentMatch Bytes32)) :=
  scanProgramAccounts router.cli.crypto (format router.cli.keys) (.ok (accounts deposit))
    Indexing.Sample.indexer

/-- The pass ends well over the pending deposit and over the cleared one. -/
theorem pass_ended : pass paidDeposit = .ok (reports .pending) ∧
    pass clearedDeposit = .ok (reports .approved) := by
  constructor <;> decide +kernel

/-- The round that delivers it. -/
def polled (deposit : Deposit Bytes32) (store : MemoryStore) : List Served × MemoryStore :=
  Polling.poll router.env router.cli.crypto (format router.cli.keys) Indexing.Sample.indexer
    (.ok (accounts deposit)) (fun _ => some ⟨2000, 2000, 0⟩) store

/-- After the votes that is a round of the indexer. -/
theorem cleared_watched (store : MemoryStore) :
    Watched router Indexing.Sample.indexer clearedWorld store (polled clearedDeposit store).2
      (polled clearedDeposit store).1 :=
  poll_watched (only_listing (demo_storage votes_run opening_typed) cleared_found
    (fun _ _ there => cleared_only there)) pass_ended.2 (fun _ _ => rfl) store

/-- The parts of the sample fit together. -/
theorem deployed : Deployed router (runtime derive) Indexing.Sample.indexer
    (⟨start, Gateway.Local.memory⟩ : Session MemoryStore Bytes32) where
  lawful := runtime_lawful derive
  injective := derive_injective
  checked := runtime_checked derive
  faithful := router_lawful
  oneWallet := one_wallet
  crypto := Stealth.Sample.primitives_lawful
  agrees := Stealth.Port.Sample.agrees
  secret := by decide
  genesis := start_genesis
  empty := rfl
  registered := by
    intro inst listed
    obtain rfl := List.mem_singleton.mp listed
    exact ⟨_, List.mem_singleton.mpr rfl, rfl, rfl, rfl⟩

/-- The record as it shows the deposit. -/
def shownRecord (state : DepositState) : DepositRecord :=
  issuedRecord.observe (base58Text (wallet 262).val) funds (stateText state) 2000

/-- The store after a round over the pending deposit. -/
def pendingStore : MemoryStore := (polled paidDeposit issuedStore).2

/-- What the rounds leave in the store: the record shows the deposit, and has its state. -/
theorem polled_records : records pendingStore = [shownRecord .pending] ∧
    ∀ store ∈ [issuedStore, pendingStore],
      records (polled clearedDeposit store).2 = [shownRecord .approved] ∧
        ∀ event ∈ (polled clearedDeposit store).1,
          settles Gateway.Local.firstId event = false := by decide +kernel

/-- The record can be asked about as it shows the deposit. -/
theorem shown_asked {store : MemoryStore} (state : DepositState)
    (same : institutions store = institutions issuedStore)
    (stored : records store = [shownRecord state]) (route : DemoRoute) (now : Nat) :
    Asked store (ask route now) (shownRecord state) := by
  apply (record_asked route now).kept same
  · rw [stored]
    exact List.mem_singleton.mpr rfl
  · rfl

/-- The record is the first one. -/
theorem issued_id : issuedRecord.id = Gateway.Local.firstId :=
  Option.some.inj ((asked_deposit_id (record_asked .release 0)).symm.trans (asked_id ..))

/-- It still is when it shows the deposit. -/
theorem shown_id (state : DepositState) : (shownRecord state).id = Gateway.Local.firstId :=
  issued_id

/-- After the round the cleared payment is released to the fresh key, and the record shows it. -/
theorem payment_released :
    (demo router (runtime derive) (polled clearedDeposit issuedStore).2 (ask .release 2000)
      clearedWorld).1.status = 200 ∧
      ∃ shown ∈ records (polled clearedDeposit issuedStore).2,
        Shows router.cli.keys shown (wallet 262) clearedDeposit ∧
          shown.onChainAmount = some funds := by
  obtain ⟨stored, unsettled⟩ := polled_records.2 issuedStore (by simp)
  obtain ⟨record, key, final, asked, -, found, mirrored⟩ :=
    mirrored_release_iff deployed opening_run rfl payment_step payment_success.1 votes_run
      opening_typed cleared_fits (cleared_watched issuedStore) (by simp [stored])
  obtain rfl := cleared_only found
  obtain rfl := Option.some.inj (found.symm.trans cleared_found)
  obtain ⟨⟨shown, listed, -, shows, exact_amount⟩, released⟩ :=
    mirrored (fun other deposit there _ => cleared_only there)
  have first : record.id = Gateway.Local.firstId :=
    Option.some.inj ((asked_deposit_id asked).symm.trans (asked_id ..))
  rw [← first] at unsettled
  refine ⟨?_, shown, listed, shows, exact_amount (by decide)⟩
  have target : (router.cli.keys (wallet 7)).val = (ask .release 2000).target := rfl
  have approved : clearedDeposit.state = .approved := rfl
  have still := (run_issues (cleared_watched issuedStore).run).1
  rw [released unsettled (ask .release 2000) (shownRecord .approved)
    (Quarantine.Local.second 2000) "signature" rfl rfl (wallet 7) target
    (shown_asked .approved still stored .release 2000) ((shown_id .approved).trans first.symm)]
  exact ⟨approved, fresh_receivable⟩

/-- The vault and the deposit have different addresses. -/
theorem elsewhere : wallet 100 ≠ wallet 262 := by decide +kernel

end Sample

end GPay.Demo
