import GPay.Quarantine.Tally

/-!
# Deciding a deposit by votes

A call of `attest` on a deposit is an offer of one vote: it is executed exactly
when the abstract vote accepts the offer, and a failed call changes nothing. Hence
the library's laws carry over. The order of the calls does not matter unless both
verdicts have a threshold of votes, and a verdict can be brought about exactly
when the oracle list has a threshold of distinct keys.

The vault's creation compares the threshold with the length of the list instead,
which counts a repeated key every time.
-/

namespace GPay.Quarantine

open Solana Runs Quorum

variable {Key : Type}

/-- The variable part of an `attest` call on a given deposit: the transaction, and who says what
with which evidence. -/
structure Ballot (Key : Type) where
  ctx : Context Key
  oracle : Key
  verdict : AmlVerdict
  evidenceHash : Bytes32

namespace Ballot

/-- The call of a ballot. -/
def event (vaultKey key : Key) (ballot : Ballot Key) : Event Key :=
  .call ballot.ctx (.attest ⟨ballot.oracle, vaultKey, key⟩ ballot.verdict ballot.evidenceHash)

/-- What a ballot leaves in the record. -/
def attestation (ballot : Ballot Key) : Attestation Key :=
  ⟨ballot.oracle, ballot.verdict, ballot.ctx.now, ballot.evidenceHash⟩

/-- The transaction is signed by the oracle, may write the deposit and is in time. -/
structure Valid (key : Key) (deposit : Deposit Key) (ballot : Ballot Key) : Prop where
  signed : ballot.oracle ∈ ballot.ctx.signers
  writable : key ∈ ballot.ctx.writable
  early : ballot.ctx.now < deposit.expireAt

end Ballot

/-- The state the calls bring about when they are all counted, by the number of ballots of each
verdict. -/
def verdictState (threshold : Nat) (ballots : List (Ballot Key)) : DepositState :=
  if threshold ≤ ballots.countP (·.verdict = .dirty) then .rejected
  else if threshold ≤ ballots.countP (·.verdict = .clean) then .approved
  else .pending

/-- Counting ballots of a verdict is counting votes of its side. -/
theorem tally_ballots (ballots : List (Ballot Key)) (verdict : AmlVerdict) :
    tally (verdict = .dirty) (ballots.map (·.attestation.vote)) =
      ballots.countP (·.verdict = verdict) := by
  rw [tally, List.countP_map]
  congr 1
  funext ballot
  cases same : ballot.verdict <;> cases verdict <;>
    simp [Ballot.attestation, Attestation.vote, same]

/-- The state dictated by all the votes is the state of the counted calls. -/
theorem state_of_ballots (threshold : Nat) (ballots : List (Ballot Key)) :
    stateOf (outcome threshold (ballots.map (·.attestation.vote))) =
      verdictState threshold ballots := by
  have dirty := tally_ballots ballots .dirty
  have clean := tally_ballots ballots .clean
  rw [outcome, verdictState, ← dirty, ← clean]
  simp only [decide_true, reduceCtorEq, decide_false]
  split
  · rfl
  · split <;> rfl

variable [DecidableEq Key] [Inhabited Key] {rt : Runtime Key}

/-- Make a call; if it fails nothing changes, so that the calls of a list may be made whatever
becomes of each. -/
def submit (rt : Runtime Key) (w : World Key) (event : Event Key) : World Key :=
  (next rt w event).getD w

/-- A deposit of a reachable world whose state is the outcome of its votes, as it
is until its payout. -/
structure Polled (rt : Runtime Key) (events : List (Event Key)) (w : World Key) (key : Key)
    (deposit : Deposit Key) (vault : Vault Key) : Prop where
  reached : Reached rt events w
  at_key : w.data key = .program (.deposit deposit)
  at_house : w.data deposit.vault = .program (.vault vault)
  agrees : deposit.state = stateOf (outcome vault.minAttestations deposit.votes)

/-- A pending deposit is under vote. -/
theorem Polled.of_pending (lawful : Lawful rt) (injective : SeedsInjective rt)
    {events : List (Event Key)} {w : World Key} {key : Key} {deposit : Deposit Key}
    {vault : Vault Key}
    (reached : Reached rt events w) (at_key : w.data key = .program (.deposit deposit))
    (at_house : w.data deposit.vault = .program (.vault vault))
    (pending : deposit.state = .pending) :
    Polled rt events w key deposit vault := by
  have sound := reached.tallied lawful injective _ _ _ at_key at_house
  exact ⟨reached, at_key, at_house, by rw [pending, sound.pending_open pending]; rfl⟩

section Offer

variable {events : List (Event Key)} {w : World Key} {key : Key} {deposit : Deposit Key}
  {vault : Vault Key} {ballot : Ballot Key}

/-- An accepted offer is a successful call, and the deposit stays under vote, with one more vote
in its box. -/
theorem Polled.accepted (lawful : Lawful rt) (injective : SeedsInjective rt)
    (polled : Polled rt events w key deposit vault) (valid : ballot.Valid key deposit)
    (accepts :
      Accepts vault.minAttestations vault.oracleSet deposit.votes ballot.attestation.vote) :
    ∃ w', next rt w (ballot.event deposit.vault key) = some w' ∧
      Polled rt (events ++ [ballot.event deposit.vault key]) w' key
        (deposit.voted vault.minAttestations ballot.attestation) vault := by
  have sound := polled.reached.sound lawful
  have vaultSound := sound.vaults _ _ polled.at_house
  have tally := polled.reached.tallied lawful injective _ _ _ polled.at_key polled.at_house
  have pending : deposit.state = .pending := by rw [polled.agrees, accepts.pending]; rfl
  have fresh : ∀ earlier ∈ deposit.attestations, earlier.oracle ≠ ballot.oracle :=
    fun earlier member => accepts.fresh earlier.vote (List.mem_map_of_mem member)
  have unsaturated : deposit.attestations.length < 255 :=
    lt_of_le_of_lt (tally.capacity vaultSound.few) (by decide)
  have voted : TallySound vault.minAttestations vault.oracleSet
      (deposit.voted vault.minAttestations ballot.attestation) :=
    tally.voted pending accepts.eligible fresh valid.early unsaturated
  have executed := (attest_ok_iff rt ballot.ctx ⟨ballot.oracle, deposit.vault, key⟩ ballot.verdict
    ballot.evidenceHash w _).mpr ⟨vault, deposit, _, {
      signed := valid.signed
      at_vault := polled.at_house
      at_deposit := polled.at_key
      vault_derived := vaultSound.derived
      running := vaultSound.running
      derived := (sound.deposits _ _ polled.at_key).derived
      writable := valid.writable
      handled := (attest_handler_ok_iff ..).mpr ⟨pending, accepts.eligible, fresh, valid.early, rfl⟩
      fits := deposit_fits (voted.capacity vaultSound.few)
      saved := rfl }⟩
  have apart : deposit.vault ≠ key := by
    intro same
    have stored := polled.at_key
    rw [← same, polled.at_house] at stored
    cases stored
  refine ⟨_, ?_, polled.reached.step (.call executed), ?_, ?_, ?_⟩
  · simp [next, Ballot.event, exec, executed, Except.toOption]
  · simp [Ballot.attestation]
  · simpa [Deposit.voted, apart] using polled.at_house
  · rw [votes_voted]
    exact (tally.counted pending unsaturated).2.2

/-- A call that succeeds was an accepted offer, so that a refused offer is a call that fails. -/
theorem Polled.refused (lawful : Lawful rt) (injective : SeedsInjective rt)
    (polled : Polled rt events w key deposit vault)
    (refuses : ¬ Accepts vault.minAttestations vault.oracleSet deposit.votes
      ballot.attestation.vote) :
    next rt w (ballot.event deposit.vault key) = none := by
  cases executed : attest rt ballot.ctx ⟨ballot.oracle, deposit.vault, key⟩ ballot.verdict
    ballot.evidenceHash w with
  | error error => simp [next, Ballot.event, exec, executed, Except.toOption]
  | ok w' =>
    obtain ⟨house, before, after, spec⟩ := (attest_ok_iff ..).mp executed
    obtain rfl : vault = house := by
      have stored := spec.at_vault
      simpa [polled.at_house] using stored
    obtain rfl : deposit = before := by
      have stored := spec.at_deposit
      simpa [polled.at_key] using stored
    obtain ⟨pending, eligible, fresh, _, _⟩ := (attest_handler_ok_iff ..).mp spec.handled
    have tally := polled.reached.tallied lawful injective _ _ _ polled.at_key polled.at_house
    have accepts : Accepts vault.minAttestations vault.oracleSet deposit.votes
        ballot.attestation.vote := tally.accepts pending eligible fresh
    exact absurd accepts refuses

/-- A call offers its vote to the abstract box, whether it succeeds or fails: the step of the
simulation. -/
theorem Polled.submitted (lawful : Lawful rt) (injective : SeedsInjective rt)
    (polled : Polled rt events w key deposit vault) (valid : ballot.Valid key deposit) :
    ∃ events' deposit',
      Polled rt events' (submit rt w (ballot.event deposit.vault key)) key deposit' vault ∧
      deposit.SameTerms deposit' ∧
      deposit'.votes =
        offer vault.minAttestations vault.oracleSet deposit.votes ballot.attestation.vote := by
  by_cases accepts :
    Accepts vault.minAttestations vault.oracleSet deposit.votes ballot.attestation.vote
  · obtain ⟨w', taken, voted⟩ := polled.accepted lawful injective valid accepts
    refine ⟨_, deposit.voted vault.minAttestations ballot.attestation,
      by simpa [submit, taken] using voted, rfl, ?_⟩
    rw [votes_voted, offer_accepted accepts]
  · have taken := polled.refused lawful injective accepts
    exact ⟨events, deposit, by simpa [submit, taken] using polled, .refl _,
      (offer_refused accepts).symm⟩

/-- Calls in a row poll their votes, by induction on the list of calls. -/
theorem Polled.submittedAll (lawful : Lawful rt) (injective : SeedsInjective rt)
    {ballots : List (Ballot Key)} (polled : Polled rt events w key deposit vault)
    (valid : ∀ ballot ∈ ballots, ballot.Valid key deposit) :
    ∃ events' deposit', Polled rt events'
        ((ballots.map (Ballot.event deposit.vault key)).foldl (submit rt) w) key deposit' vault ∧
      deposit'.votes = poll vault.minAttestations vault.oracleSet deposit.votes
        (ballots.map (·.attestation.vote)) := by
  induction ballots generalizing events w deposit with
  | nil => exact ⟨events, deposit, polled, rfl⟩
  | cons ballot rest continued =>
    obtain ⟨between, deposit', polled', terms, votes⟩ :=
      polled.submitted lawful injective (valid ballot (by simp))
    have house : deposit'.vault = deposit.vault := by rw [terms]
    have expiry : deposit'.expireAt = deposit.expireAt := by rw [terms]
    obtain ⟨final, deposit'', polled'', polls⟩ := continued polled' (fun other member =>
      have earlier := valid other (by simp [member])
      ⟨earlier.signed, earlier.writable, expiry ▸ earlier.early⟩)
    exact ⟨final, deposit'', by simpa [house] using polled'', by rw [polls, votes]; rfl⟩

end Offer

/-- Votes of distinct oracles of the vault on a fresh deposit lead to the state that their counts
dictate, in whatever order they are cast, unless both verdicts have a threshold of votes. They
cannot both have one when the threshold is more than half of the oracles.

Proof: what the handler accepts is a poll of the votes in their order, which stops at the first
verdict with a threshold. A poll whose verdicts do not both have one ends in a state that depends
on the counts alone, and these are the same for a permutation. -/
theorem verdict_order_independent (lawful : Lawful rt) (injective : SeedsInjective rt)
    {events : List (Event Key)} {w : World Key} (reached : Reached rt events w) {key : Key}
    {deposit : Deposit Key} {vault : Vault Key} (found : depositAt w key = some deposit)
    (house : vaultAt w deposit.vault = some vault) (pending : deposit.state = .pending)
    (fresh : deposit.attestations = []) {ballots : List (Ballot Key)}
    (distinct : (ballots.map Ballot.oracle).Nodup)
    (eligible : ∀ ballot ∈ ballots, ballot.oracle ∈ vault.oracleSet)
    (valid : ∀ ballot ∈ ballots, ballot.Valid key deposit)
    (uncontested : vault.oracleSet.toFinset.card < 2 * vault.minAttestations ∨
      ¬ (vault.minAttestations ≤ ballots.countP (·.verdict = .dirty) ∧
        vault.minAttestations ≤ ballots.countP (·.verdict = .clean))) :
    ∀ order : List (Ballot Key), order.Perm ballots →
      (depositAt ((order.map (Ballot.event deposit.vault key)).foldl (submit rt) w) key).map
        Deposit.state = some (verdictState vault.minAttestations ballots) := by
  intro order reordered
  have polled := Polled.of_pending lawful injective reached (deposit_at_iff.mp found)
    (vault_at_iff.mp house) pending
  have votes : (order.map (·.attestation.vote)).Perm (ballots.map (·.attestation.vote)) :=
    reordered.map _
  have voters : ((order.map (·.attestation.vote)).map Vote.voter).Nodup := by
    rw [((votes.map Vote.voter).nodup_iff)]
    simpa [Function.comp_def, Ballot.attestation, Attestation.vote] using distinct
  have listed : ∀ vote ∈ order.map (·.attestation.vote), vote.voter ∈ vault.oracleSet := by
    intro vote member
    obtain ⟨ballot, inside, rfl⟩ := List.mem_map.mp member
    exact eligible ballot (reordered.mem_iff.mp inside)
  have open_ : ¬ (vault.minAttestations ≤ tally true (order.map (·.attestation.vote)) ∧
      vault.minAttestations ≤ tally false (order.map (·.attestation.vote))) := by
    rcases uncontested with majority | uncontested
    · exact uncontested_of_majority _ voters listed majority
    · have dirty : tally true (ballots.map (·.attestation.vote)) = _ := tally_ballots ballots .dirty
      have clean : tally false (ballots.map (·.attestation.vote)) = _ :=
        tally_ballots ballots .clean
      rw [tally_perm true votes, tally_perm false votes, dirty, clean]
      exact uncontested
  obtain ⟨events', final, after, polls⟩ := polled.submittedAll lawful injective
    (fun ballot member => valid ballot (reordered.mem_iff.mp member))
  have unvoted : deposit.votes = [] := by simp [Deposit.votes, fresh]
  have decided : final.state = verdictState vault.minAttestations ballots := by
    rw [after.agrees, polls, unvoted,
      poll_outcome [] _ (by simpa using voters) listed (by simpa using open_), List.nil_append,
      outcome_perm _ votes, state_of_ballots]
  rw [deposit_at_iff.mpr after.at_key, Option.map_some, decided]

/-- Two calls for a clearance and one against it, in two orders. -/
def panel : List (Ballot Address) :=
  [⟨Local.context 1002, .wallet 2, .clean, Bytes32.zeros⟩,
    ⟨Local.context 1003, .wallet 3, .dirty, Bytes32.zeros⟩,
    ⟨Local.context 1004, .wallet 4, .clean, Bytes32.zeros⟩]

/-- The fresh deposit is on chain. -/
theorem fresh_found : depositAt (Local.after Local.freshDeposit) Local.depositKey =
    some (Local.fresh 1001 default 500) := by
  decide +kernel

/-- Its vault is on chain. -/
theorem fresh_house : vaultAt (Local.after Local.freshDeposit) Local.vaultKey =
    some (Local.openedVault Local.oracles 2 1) := by
  decide +kernel

/-- Three oracles clear the deposit in whichever order they vote. -/
theorem verdict_order_independent_panel :
    (depositAt ((panel.map (Ballot.event Local.vaultKey Local.depositKey)).foldl
      (submit Local.runtime) (Local.after Local.freshDeposit)) Local.depositKey).map Deposit.state =
        some .approved ∧
    (depositAt ((panel.reverse.map (Ballot.event Local.vaultKey Local.depositKey)).foldl
      (submit Local.runtime) (Local.after Local.freshDeposit)) Local.depositKey).map Deposit.state =
        some .approved := by
  have valid : ∀ ballot ∈ panel, ballot.Valid Local.depositKey (Local.fresh 1001 default 500) := by
    intro ballot member
    refine ⟨?_, ?_, ?_⟩ <;> revert ballot <;> decide +kernel
  have verdict :=
    verdict_order_independent Local.runtime_lawful Local.runtime_injective Local.fresh_reached
      fresh_found fresh_house rfl rfl (by decide +kernel) (by decide +kernel) valid
      (.inl (by decide +kernel))
  exact ⟨verdict _ (.refl _), verdict _ (List.reverse_perm _)⟩

section Reach

variable {events : List (Event Key)} {w : World Key} {key : Key} {deposit : Deposit Key}
  {vault : Vault Key}

/-- Successful calls of `attest` by listed oracles, all at one clock value, bring
the deposit to the state. -/
def Attainable (rt : Runtime Key) (w : World Key) (key : Key) (deposit : Deposit Key)
    (vault : Vault Key) (clock : Clock) (state : DepositState) : Prop :=
  ∃ (ballots : List (Ballot Key)) (w' : World Key),
    (∀ ballot ∈ ballots, ballot.oracle ∈ vault.oracleSet ∧ ballot.oracle ∈ ballot.ctx.signers ∧
      ballot.ctx.clock = clock) ∧
    Run (Step rt) w (ballots.map (Ballot.event deposit.vault key)) w' ∧
    (depositAt w' key).map Deposit.state = some state

/-- The call of one oracle, with the signature and the access it needs. -/
def solo (clock : Clock) (key : Key) (verdict : AmlVerdict) (evidenceHash : Bytes32)
    (oracle : Key) : Ballot Key :=
  ⟨⟨clock, [oracle], [key]⟩, oracle, verdict, evidenceHash⟩

/-- Distinct oracles up to the threshold all succeed when they agree, and the last one decides
the deposit. -/
theorem Polled.unanimous (lawful : Lawful rt) (injective : SeedsInjective rt) {clock : Clock}
    (verdict : AmlVerdict) (evidenceHash : Bytes32) {earlier : List Key} (oracles : List Key)
    (polled : Polled rt events w key deposit vault) (early : clock.unixTimestamp < deposit.expireAt)
    (votes : deposit.votes = unanimous (verdict = .dirty) earlier)
    (few : (earlier ++ oracles).length ≤ vault.minAttestations)
    (distinct : (earlier ++ oracles).Nodup)
    (eligible : ∀ oracle ∈ oracles, oracle ∈ vault.oracleSet) :
    ∃ events' w' deposit', Run (Step rt) w
        ((oracles.map (solo clock key verdict evidenceHash)).map (Ballot.event deposit.vault key))
          w' ∧
      Polled rt events' w' key deposit' vault ∧
      deposit'.votes = unanimous (verdict = .dirty) (earlier ++ oracles) := by
  induction oracles generalizing events w deposit earlier with
  | nil => exact ⟨events, w, deposit, .nil, polled, by simpa using votes⟩
  | cons oracle rest continued =>
    let ballot := solo clock key verdict evidenceHash oracle
    have fresh : oracle ∉ earlier := fun repeated =>
      (List.nodup_append.mp distinct).2.2 _ repeated _ (by simp) rfl
    have below : earlier.length < vault.minAttestations := by
      simp only [List.length_append, List.length_cons] at few
      omega
    have accepts : Accepts vault.minAttestations vault.oracleSet deposit.votes
        ballot.attestation.vote :=
      votes ▸ unanimous_accepts _ below (eligible oracle (by simp)) fresh
    have valid : ballot.Valid key deposit := ⟨by simp [ballot, solo], by simp [ballot, solo], early⟩
    obtain ⟨middle, taken, polled'⟩ := polled.accepted lawful injective valid accepts
    have joined : earlier ++ oracle :: rest = (earlier ++ [oracle]) ++ rest := by simp
    rw [joined] at few distinct ⊢
    have votes' : (deposit.voted vault.minAttestations ballot.attestation).votes =
        unanimous (verdict = .dirty) (earlier ++ [oracle]) := by
      rw [votes_voted, votes]
      simp [Quorum.unanimous, ballot, solo, Ballot.attestation, Attestation.vote]
    obtain ⟨events', w', deposit', run, final, polls⟩ := continued polled' early votes' few distinct
      (fun other member => eligible other (by simp [member]))
    exact ⟨events', w', deposit', Run.cons (next_step _ _ _ _ taken) run, final, polls⟩

/-- A verdict can be brought about on a fresh deposit when the oracle list has a
threshold of distinct keys. -/
theorem attainable_of_distinct (lawful : Lawful rt) (injective : SeedsInjective rt)
    (polled : Polled rt events w key deposit vault) (fresh : deposit.attestations = [])
    {clock : Clock} (early : clock.unixTimestamp < deposit.expireAt) (verdict : AmlVerdict)
    (enough : vault.minAttestations ≤ vault.oracleSet.toFinset.card) :
    Attainable rt w key deposit vault clock (stateOf (decision (verdict = .dirty))) := by
  let oracles := vault.oracleSet.dedup.take vault.minAttestations
  have eligible : ∀ oracle ∈ oracles, oracle ∈ vault.oracleSet :=
    fun oracle member => List.mem_dedup.mp (List.mem_of_mem_take member)
  have count : oracles.length = vault.minAttestations := by
    rw [List.length_take, ← List.card_toFinset, min_eq_left enough]
  have distinct : oracles.Nodup := (List.nodup_dedup _).sublist (List.take_sublist _ _)
  have unvoted : deposit.votes = unanimous (verdict = .dirty) [] := by
    simp [Deposit.votes, fresh, Quorum.unanimous]
  obtain ⟨events', w', deposit', run, final, votes⟩ :=
    Polled.unanimous lawful injective verdict deposit.ephemeralR oracles polled early unvoted
      count.le distinct eligible
  have positive := ((polled.reached.sound lawful).vaults _ _ polled.at_house).positive
  refine ⟨_, w', ?_, run, ?_⟩
  · intro ballot member
    obtain ⟨oracle, listed, rfl⟩ := List.mem_map.mp member
    exact ⟨eligible oracle listed, by simp [solo], rfl⟩
  · rw [deposit_at_iff.mpr final.at_key, Option.map_some, final.agrees, votes, List.nil_append,
      unanimous_outcome positive _ _ count.ge]

/-- A decided deposit shows that the oracle list has a threshold of distinct keys, as each of
them has voted once. -/
theorem distinct_of_attainable (lawful : Lawful rt) (injective : SeedsInjective rt)
    (polled : Polled rt events w key deposit vault) {clock : Clock} (verdict : AmlVerdict)
    (attainable : Attainable rt w key deposit vault clock (stateOf (decision (verdict = .dirty)))) :
    vault.minAttestations ≤ vault.oracleSet.toFinset.card := by
  obtain ⟨ballots, w', _, run, state⟩ := attainable
  obtain ⟨final, found, decided⟩ := Option.map_eq_some_iff.mp state
  have at_key := deposit_at_iff.mp found
  have reached := polled.reached.append run
  have sound := polled.reached.sound lawful
  have house := same_vault injective sound (reached.sound lawful) polled.at_key at_key
  obtain ⟨count, at_house⟩ := run_vault_stays lawful sound run polled.at_house
  have tally := reached.tallied lawful injective _ _ _ at_key (house ▸ at_house)
  apply threshold_le_of_decided tally.box
  intro undecided
  have dictated := tally.dictated
  rw [decided, undecided] at dictated
  cases verdict <;> cases dictated

/-- Both verdicts can be brought about on a fresh deposit before its expiry exactly when the
threshold is at most the number of distinct oracles. An oracle that the set repeats counts once,
as it votes once.

Proof: a verdict that is reached has a threshold of distinct voters behind it, all of the set.
Conversely the first oracles of the set without repetitions, as many as the threshold, decide the
deposit with one vote each. -/
theorem verdicts_attainable_iff (lawful : Lawful rt) (injective : SeedsInjective rt)
    (reached : Reached rt events w) (found : depositAt w key = some deposit)
    (house : vaultAt w deposit.vault = some vault) (pending : deposit.state = .pending)
    (fresh : deposit.attestations = []) {clock : Clock}
    (early : clock.unixTimestamp < deposit.expireAt) :
    (Attainable rt w key deposit vault clock .approved ∧
      Attainable rt w key deposit vault clock .rejected) ↔
      vault.minAttestations ≤ vault.oracleSet.toFinset.card := by
  have polled := Polled.of_pending lawful injective reached (deposit_at_iff.mp found)
    (vault_at_iff.mp house) pending
  constructor
  · rintro ⟨approved, _⟩
    exact distinct_of_attainable lawful injective polled .clean approved
  · intro enough
    exact ⟨attainable_of_distinct lawful injective polled fresh early .clean enough,
      attainable_of_distinct lawful injective polled fresh early .dirty enough⟩

end Reach

/-- The panel can bring about either verdict. -/
theorem verdicts_attainable_panel :
    Attainable Local.runtime (Local.after Local.freshDeposit) Local.depositKey
      (Local.fresh 1001 default 500) (Local.openedVault Local.oracles 2 1) (Local.second 1002)
      .approved ∧
    Attainable Local.runtime (Local.after Local.freshDeposit) Local.depositKey
      (Local.fresh 1001 default 500) (Local.openedVault Local.oracles 2 1) (Local.second 1002)
      .rejected :=
  (verdicts_attainable_iff Local.runtime_lawful Local.runtime_injective Local.fresh_reached
    fresh_found fresh_house rfl rfl (by decide +kernel)).mpr (by decide +kernel)

/-- A vault whose list names one oracle twice, and its first deposit. -/
def repeatedOracle : List (Event Address) :=
  [Local.openVault [.wallet 2, .wallet 2] 2, Local.depositLamports 1001 500]

/-- The list and the threshold two are accepted, but neither verdict can be
brought about. -/
theorem repeated_oracle_unattainable :
    Reached Local.runtime repeatedOracle (Local.after repeatedOracle) ∧
    depositAt (Local.after repeatedOracle) Local.depositKey = some (Local.fresh 1001 default 500) ∧
    vaultAt (Local.after repeatedOracle) Local.vaultKey =
      some (Local.openedVault [.wallet 2, .wallet 2] 2 1) ∧
    (Local.second 1002).unixTimestamp < (Local.fresh 1001 default 500).expireAt ∧
    ¬ Attainable Local.runtime (Local.after repeatedOracle) Local.depositKey
      (Local.fresh 1001 default 500) (Local.openedVault [.wallet 2, .wallet 2] 2 1)
      (Local.second 1002) .approved ∧
    ¬ Attainable Local.runtime (Local.after repeatedOracle) Local.depositKey
      (Local.fresh 1001 default 500) (Local.openedVault [.wallet 2, .wallet 2] 2 1)
      (Local.second 1002) .rejected := by
  have reached : Reached Local.runtime repeatedOracle (Local.after repeatedOracle) :=
    Local.after_reached (by decide +kernel)
  have found : depositAt (Local.after repeatedOracle) Local.depositKey =
      some (Local.fresh 1001 default 500) := by decide +kernel
  have house : vaultAt (Local.after repeatedOracle) Local.vaultKey =
      some (Local.openedVault [.wallet 2, .wallet 2] 2 1) := by decide +kernel
  have polled := Polled.of_pending Local.runtime_lawful Local.runtime_injective reached
    (deposit_at_iff.mp found) (vault_at_iff.mp house) rfl
  have short : ¬ 2 ≤ [Address.wallet 2, .wallet 2].toFinset.card := by decide +kernel
  refine ⟨reached, found, house, by decide +kernel, ?_, ?_⟩
  · intro approved
    exact short (distinct_of_attainable Local.runtime_lawful Local.runtime_injective polled .clean
      approved)
  · intro rejected
    exact short (distinct_of_attainable Local.runtime_lawful Local.runtime_injective polled .dirty
      rejected)

end GPay.Quarantine
