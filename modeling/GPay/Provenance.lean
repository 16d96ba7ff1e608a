import GPay.Custody
import GPay.Quarantine.Gate
import GPay.Quarantine.Lifecycle

/-!
# What a record of the gateway is based on

The gateway never asks the chain. What a record shows of its payment comes with a
delivered match, and its state from a match, from a release or refund that its
institution asked for, or from its creation.

All of it leads back into the run: what is shown of a payment is what one deposit with
the record's key once held, its amount rounded to a double on the way; the state was that
of such a deposit or was written to a record that allowed it; and behind every approval
and every release there are the votes that cleared a deposit with the record's key.
-/

namespace GPay.Provenance

open Solana Runs Doubles Stealth Indexing Gateway LawfulStore Delivery Custody
open Quarantine (Deposit DepositState depositAt Cleared vaultAt)

variable {Point Key σ : Type} [AddCommGroup Point] [DecidableEq Key] [Inhabited Key]

/-- At one time in the course of the run the chain stored this deposit at the address, and
it carries the key. -/
def Sighted [Store σ] (d : Deployment Point Key) (start : System σ Key)
    (events : List (Happening Key)) (finish : System σ Key) (stealthPubkey : List UInt8)
    (key : Key) (deposit : Deposit Key) : Prop :=
  ∃ earlier later past, events = earlier ++ later ∧ Run (Step d) start earlier past ∧
    Run (Step d) past later finish ∧ depositAt past.world key = some deposit ∧
    (d.format.asRef deposit.stealthPubkey).val = stealthPubkey

/-- Nothing is known of a payment: the record shows no address, no amount, no state and no
time. -/
structure Unreported (record : DepositRecord) : Prop where
  address : record.onChainAddress = none
  amount : record.onChainAmount = none
  state : record.onChainState = none
  observed : record.onChainObservedAt = none

/-- The record shows this deposit at the address. The amount that it shows has passed
through a double: it is the stored amount rounded to one, which above 2^53 may be another
natural. -/
structure Shows (asRef : Key → Bytes32) (record : DepositRecord) (key : Key)
    (deposit : Deposit Key) : Prop where
  address : record.onChainAddress = some (pubkeyText (asRef key))
  amount : record.onChainAmount = some (nearest deposit.amount).toInt.toNat
  state : record.onChainState = some (stateText deposit.state)
  observed : record.onChainObservedAt.isSome = true

omit [AddCommGroup Point] [DecidableEq Key] [Inhabited Key] in
/-- An amount of at most 53 bits is shown as it was stored. -/
theorem Shows.exact {asRef : Key → Bytes32} {record : DepositRecord} {key : Key}
    {deposit : Deposit Key} (shows : Shows asRef record key deposit)
    (small : deposit.amount < 2 ^ 53) : record.onChainAmount = some deposit.amount := by
  rw [shows.amount, nearest_nat small]
  simp [Double.toInt]

/-- Where the state of a record comes from: its creation, a deposit on chain, or a release
or refund by its institution, which the state it had by then allowed. -/
inductive Origin [Store σ] (d : Deployment Point Key) (start : System σ Key)
    (events : List (Happening Key)) (finish : System σ Key) (record : DepositRecord) : Prop
  | issued (pending : record.state = .pending)
  | observed {key : Key} {deposit : Deposit Key}
      (sighted : Sighted d start events finish record.stealthPubkey key deposit)
      (same : record.state = deposit.state)
  | settled {earlier later : List (Happening Key)} {past : System σ Key} {served : Served}
      {inst : Institution} {settlement : Settlement} {dep : DepositRecord}
      (split : events = earlier ++ .request served :: later)
      (reached : Run (Step d) start earlier past)
      (since : Run (Step d) past (.request served :: later) finish)
      (requested : Requests served.call settlement)
      (known : apiKeyAuth past.gateway served.call.request = .ok inst)
      (checked : settlement.check inst (Store.getDeposit past.gateway settlement.depositId) =
        .ok dep)
      (about : dep.id = record.id) (owner : record.institutionId = inst.id)
      (same : record.state = settlement.target)

/-- What is known of a record along a run: what it shows of its payment was on chain, its state
has an origin, and if it is approved or released there was a deposit with its key on chain that
was. -/
structure Told [Store σ] (d : Deployment Point Key) (start : System σ Key)
    (events : List (Happening Key)) (finish : System σ Key) (record : DepositRecord) : Prop where
  chain : Unreported record ∨ ∃ key deposit,
    Sighted d start events finish record.stealthPubkey key deposit ∧
      Shows d.format.asRef record key deposit
  origin : Origin d start events finish record
  cleared : record.state = .approved ∨ record.state = .released →
    ∃ key deposit, Sighted d start events finish record.stealthPubkey key deposit ∧
      (deposit.state = .approved ∨ deposit.state = .released)

section Run

variable [Store σ] {d : Deployment Point Key} {start before after : System σ Key}
  {events : List (Happening Key)} {event : Happening Key} {record : DepositRecord}

/-- What was sighted remains so. -/
theorem Sighted.extend {stealthPubkey : List UInt8} {key : Key} {deposit : Deposit Key}
    (sighted : Sighted d start events before stealthPubkey key deposit)
    (taken : Step d before event after) :
    Sighted d start (events ++ [event]) after stealthPubkey key deposit := by
  obtain ⟨earlier, later, past, rfl, reached, since, read, same⟩ := sighted
  exact ⟨earlier, later ++ [event], past, by simp, reached, since.snoc taken, read, same⟩

/-- A state keeps its origin as the run goes on. -/
theorem Origin.extend (origin : Origin d start events before record)
    (taken : Step d before event after) : Origin d start (events ++ [event]) after record := by
  cases origin with
  | issued pending => exact .issued pending
  | observed sighted same => exact .observed (sighted.extend taken) same
  | @settled earlier later _ served _ _ _ split reached since requested known checked about owner
      same =>
    have listed : events ++ [event] = earlier ++ .request served :: (later ++ [event]) := by
      simp [split]
    exact .settled listed reached (since.snoc taken) requested known checked about owner same

/-- What is known of a record that a step leaves alone stays known. -/
theorem Told.extend (told : Told d start events before record) (taken : Step d before event after) :
    Told d start (events ++ [event]) after record where
  chain := told.chain.imp_right (fun ⟨key, deposit, sighted, shows⟩ =>
    ⟨key, deposit, sighted.extend taken, shows⟩)
  origin := told.origin.extend taken
  cleared state :=
    have ⟨key, deposit, sighted, final⟩ := told.cleared state
    ⟨key, deposit, sighted.extend taken, final⟩

/-- A new record tells nothing yet. -/
theorem told_created (create : DepositCreate) (id : String) (createdAt : Int) :
    Told d start events before (create.record id createdAt) where
  chain := .inl ⟨rfl, rfl, rfl, rfl⟩
  origin := .issued rfl
  cleared := by
    rintro (approved | released)
    · cases approved
    · cases released

/-- Every match that was ever found reports a deposit as it was stored in the course of the run,
with all that it says of the deposit. -/
theorem found_from (idle : start.found = []) (run : Run (Step d) start events before)
    {m : PaymentMatch Key} (known : m ∈ before.found) :
    ∃ sliceId deposit, m = paymentMatch sliceId m.depositPubkey deposit ∧
      Sighted d start events before (d.format.asRef m.stealthPubkey).val m.depositPubkey
        deposit := by
  induction run with
  | nil => simp [idle] at known
  | @snoc events middle finish event earlier last sighted =>
    have before : m ∈ middle.found → ∃ sliceId deposit,
        m = paymentMatch sliceId m.depositPubkey deposit ∧
          Sighted d start (events ++ [event]) finish (d.format.asRef m.stealthPubkey).val
            m.depositPubkey deposit := by
      intro listed
      obtain ⟨sliceId, deposit, same, found⟩ := sighted listed
      exact ⟨sliceId, deposit, same, found.extend last⟩
    have single := Run.single last
    cases last with
    | chain taken => exact before known
    | request outsider answered => exact before known
    | deliver listed posted answered => exact before known
    | pass truthful ended =>
      rcases List.mem_append.mp known with listed | new
      · exact before listed
      · rcases scan_accounts_match ended new with none |
          ⟨account, member, deposit, sliceId, read, rfl⟩
        · cases none
        · exact ⟨sliceId, deposit, rfl, events, _, middle, rfl, earlier, single,
            truthful account member deposit read, rfl⟩

end Run

section Delivery

variable {asRef : Key → Bytes32} {env : Env Point} {secret : String} {m : PaymentMatch Key}

omit [AddCommGroup Point] [DecidableEq Key] [Inhabited Key] in
/-- Whatever a delivered match is taken for has its address and its rounded amount, besides its
key and its state. -/
theorem delivery_fields {stealthHex : String} {body : InternalMatchBody}
    (arguments : deliveryArguments env (notifyMatch asRef secret m) = .ok (stealthHex, body)) :
    body.depositPubkey = pubkeyText (asRef m.depositPubkey) ∧ body.amount = nearest m.amount := by
  unfold deliveryArguments at arguments
  split at arguments
  · cases arguments
  · split at arguments
    · cases arguments
    · rename_i parsed
      obtain ⟨amount, accepted, rfl⟩ := (parse_match asRef secret m _).mp parsed
      rw [stealth_text] at arguments
      obtain ⟨rfl, rfl⟩ := Prod.mk.inj (Except.ok.inj arguments)
      obtain ⟨sent, -⟩ := number_field_sent accepted
      exact ⟨rfl, (Json.number.inj (Option.some.inj sent)).symm⟩

end Delivery

section Step

variable [LawfulStore σ] {d : Deployment Point Key} {start before after : System σ Key}
  {events : List (Happening Key)} {record : DepositRecord}

/-- A release or a refund keeps what is known of the records: a release was allowed by an
approval, and no request approves. -/
theorem told_settled {served : Served} {inst : Institution} {settlement : Settlement}
    {dep : DepositRecord} (reached : Run (Step d) start events before)
    (taken : Step d before (.request served) after) (requested : Requests served.call settlement)
    (known : apiKeyAuth before.gateway served.call.request = .ok inst)
    (checked : settlement.check inst (Store.getDeposit before.gateway settlement.depositId) =
      .ok dep)
    (stored : record ∈ records before.gateway) (told : Told d start events before record) :
    Told d start (events ++ [.request served]) after
      (record.settled dep.id settlement.target) := by
  have extended := told.extend taken
  by_cases about : record.id = dep.id
  · obtain ⟨read, owner, allowed⟩ := check_passed checked
    have present : dep ∈ records before.gateway := by
      rw [get_deposit] at read
      exact List.mem_of_find?_eq_some read
    obtain rfl : record = dep :=
      List.inj_on_of_nodup_map (distinct before.gateway) stored present about
    rw [DepositRecord.settled, if_pos rfl]
    have chain : Unreported { record with state := settlement.target } ∨ ∃ key deposit,
        Sighted d start (events ++ [.request served]) after record.stealthPubkey key deposit ∧
          Shows d.format.asRef { record with state := settlement.target } key deposit := by
      rcases extended.chain with ⟨address, amount, state, observed⟩ |
        ⟨key, deposit, sighted, address, amount, state, observed⟩
      · exact .inl ⟨address, amount, state, observed⟩
      · exact .inr ⟨key, deposit, sighted, address, amount, state, observed⟩
    refine ⟨chain, .settled rfl reached (Run.single taken) requested known checked rfl owner rfl,
      ?_⟩
    have approved : settlement.target = .approved ∨ settlement.target = .released →
        record.state = .approved := by
      rcases requested with ⟨-, body, -, rfl⟩ | ⟨-, body, -, rfl⟩
      · intro _
        simpa [releaseSettlement] using allowed
      · rintro (impossible | impossible)
        · cases impossible
        · cases impossible
    exact fun state => extended.cleared (.inl (approved state))
  · rw [DepositRecord.settled, if_neg about]
    exact extended

/-- A match that is written to a record makes it show what was sighted, under the record's own
key. -/
theorem told_observed {m : PaymentMatch Key} {sliceId : Nat} {deposit : Deposit Key}
    (reported : m = paymentMatch sliceId m.depositPubkey deposit)
    (sighted : Sighted d start events before record.stealthPubkey m.depositPubkey deposit)
    (now : Int) (told : Told d start events before record) :
    Told d start events before (record.observe (pubkeyText (d.format.asRef m.depositPubkey))
      (nearest m.amount).toInt.toNat (stateText m.state) now) := by
  have amount : m.amount = deposit.amount := by rw [reported]; rfl
  have same : m.state = deposit.state := by rw [reported]; rfl
  have chain : Shows d.format.asRef (record.observe (pubkeyText (d.format.asRef m.depositPubkey))
      (nearest m.amount).toInt.toNat (stateText m.state) now) m.depositPubkey deposit :=
    ⟨rfl, by rw [← amount]; rfl, by rw [← same]; rfl, rfl⟩
  refine ⟨.inr ⟨m.depositPubkey, deposit, sighted, chain⟩, ?_, ?_⟩
  · by_cases pending : m.state = .pending
    · have kept : (record.observe (pubkeyText (d.format.asRef m.depositPubkey))
          (nearest m.amount).toInt.toNat (stateText m.state) now).state = record.state := by
        rw [observe_state, if_pos pending]
      cases told.origin with
      | issued unpaid => exact .issued (kept.trans unpaid)
      | observed seen state => exact .observed seen (kept.trans state)
      | settled split reached since requested known checked about owner state =>
        exact .settled split reached since requested known checked about owner (kept.trans state)
    · exact .observed sighted (by rw [observe_state, if_neg pending, same])
  · by_cases pending : m.state = .pending
    · have kept : (record.observe (pubkeyText (d.format.asRef m.depositPubkey))
          (nearest m.amount).toInt.toNat (stateText m.state) now).state = record.state := by
        rw [observe_state, if_pos pending]
      rw [kept]
      exact told.cleared
    · have written : (record.observe (pubkeyText (d.format.asRef m.depositPubkey))
          (nearest m.amount).toInt.toNat (stateText m.state) now).state = deposit.state := by
        rw [observe_state, if_neg pending, same]
      rw [written]
      exact fun final => ⟨m.depositPubkey, deposit, sighted, final⟩

/-- What a call without the secret leaves in the store was told before, or is told by the
call itself. -/
theorem told_request (reached : Run (Step d) start events before)
    (told : ∀ record ∈ records before.gateway, Told d start events before record)
    {call : Call} {response : Response} (taken : Step d before (.request ⟨call, response⟩) after)
    (outsider : call.request.internalSecret ≠ some d.env.expectedSecret)
    (answered : serve d.env before.gateway call = (response, after.gateway)) :
    ∀ record ∈ records after.gateway,
      Told d start (events ++ [.request ⟨call, response⟩]) after record := by
  have effect := answered_effect answered
  generalize left : after.gateway = gateway at effect
  intro record stored
  cases effect with
  | kept quiet => exact (told record stored).extend taken
  | created route known added =>
    obtain ⟨_, appended, id, createdAt, same⟩ := create_deposit _ _ _ _ _ added
    rw [appended] at stored
    rcases List.mem_append.mp stored with earlier | last
    · exact (told record earlier).extend taken
    · rw [List.mem_singleton.mp last, same]
      exact told_created _ id createdAt
  | settled requested known checked =>
    rw [set_records] at stored
    obtain ⟨other, present, rfl⟩ := List.mem_map.mp stored
    exact told_settled reached taken requested known checked present (told other present)
  | delivered route arguments applied =>
    rw [outsider_refused outsider] at arguments
    cases arguments

/-- What a delivery leaves in the store was told before, or is told by its match, which was found
by a pass. -/
theorem told_delivery (idle : start.found = []) (reached : Run (Step d) start events before)
    (told : ∀ record ∈ records before.gateway, Told d start events before record)
    {m : PaymentMatch Key} {call : Call} {response : Response}
    (taken : Step d before (.deliver m ⟨call, response⟩) after) (known : m ∈ before.found)
    (posted : call.request = notifyMatch d.format.asRef d.env.expectedSecret m)
    (answered : serve d.env before.gateway call = (response, after.gateway)) :
    ∀ record ∈ records after.gateway,
      Told d start (events ++ [.deliver m ⟨call, response⟩]) after record := by
  have effect := answered_effect answered
  generalize left : after.gateway = gateway at effect
  intro record stored
  have route : call.request.route = .depositDetected := by rw [posted]; rfl
  cases effect with
  | kept quiet => exact (told record stored).extend taken
  | created other => cases other.symm.trans route
  | settled requested =>
    rcases requested with ⟨other, -⟩ | ⟨other, -⟩
    · cases other.symm.trans route
    · cases other.symm.trans route
  | @delivered _ _ stealthHex body _ _ arguments applied =>
    obtain ⟨_, now, changed, _⟩ := apply_match _ _ _ _ _ _ _ _ applied
    rw [changed] at stored
    obtain ⟨other, present, rfl⟩ := List.mem_map.mp stored
    split
    · rename_i touched
      rw [posted] at arguments
      obtain ⟨hex, state⟩ := delivery_arguments_of_match d.format.asRef arguments
      obtain ⟨address, amount⟩ := delivery_fields arguments
      obtain ⟨sliceId, deposit, reported, sighted⟩ := found_from idle reached known
      have keyed := touched_key before.gateway _ other present (hex ▸ touched)
      rw [← keyed] at sighted
      rw [address, amount, state]
      exact (told_observed reported sighted now (told other present)).extend taken
    · exact (told other present).extend taken

/-- Along every run the records are told, if at its beginning nothing was known of any payment
and every record was pending.

Proof: by induction on the run, one lemma for each kind of step. -/
theorem run_told (idle : start.found = [])
    (unused : ∀ record ∈ records start.gateway, Unreported record ∧ record.state = .pending)
    (run : Run (Step d) start events after) :
    ∀ record ∈ records after.gateway, Told d start events after record := by
  induction run with
  | nil =>
    intro record stored
    obtain ⟨unreported, pending⟩ := unused record stored
    refine ⟨.inl unreported, .issued pending, ?_⟩
    rw [pending]
    rintro (impossible | impossible)
    · cases impossible
    · cases impossible
  | snoc earlier last told =>
    have taken := id last
    cases last with
    | chain moved => exact fun record stored => (told record stored).extend taken
    | pass truthful ended => exact fun record stored => (told record stored).extend taken
    | request outsider answered => exact told_request earlier told taken outsider answered
    | deliver known posted answered =>
      exact told_delivery idle earlier told taken known posted answered

/-- In every run of chain, indexer and gateway: what a record shows of its payment was
stored on chain at one address, under the record's key, in the course of the run, with the
amount rounded to a double and so exact below 2^53; its state is pending, that of such a
deposit, or the one that a release or refund by its institution wrote when its state
allowed it. No record ever expires.

Proof: by induction on the run. A delivery writes what its match reports, a match was found
by a pass, and a pass reads what is stored at that time; on chain no deposit is expired. -/
theorem records_told (lawful : Lawful d.runtime) (injective : Quarantine.SeedsInjective d.runtime)
    (genesis : Genesis start.world) (idle : start.found = [])
    (unused : ∀ record ∈ records start.gateway, Unreported record ∧ record.state = .pending)
    (run : Run (Step d) start events after) (stored : record ∈ records after.gateway) :
    (Unreported record ∨ ∃ key deposit,
      Sighted d start events after record.stealthPubkey key deposit ∧
        Shows d.format.asRef record key deposit ∧
        (deposit.amount < 2 ^ 53 → record.onChainAmount = some deposit.amount)) ∧
      Origin d start events after record ∧ record.state ≠ .expired := by
  have told := run_told idle unused run record stored
  refine ⟨told.chain.imp_right ?_, told.origin, ?_⟩
  · rintro ⟨key, deposit, sighted, shows⟩
    exact ⟨key, deposit, sighted, shows, shows.exact⟩
  intro expired
  cases told.origin with
  | issued pending => cases pending.symm.trans expired
  | @observed key deposit sighted same =>
    obtain ⟨earlier, later, past, rfl, reached, -, read, -⟩ := sighted
    exact Quarantine.unexpired lawful injective ⟨start.world, genesis, chain_run reached⟩
      (Quarantine.deposit_at_iff.mp read) (same.symm.trans expired)
  | @settled _ _ _ _ _ settlement _ _ _ _ _ _ _ _ _ same =>
    have decided := settlement.decides
    rw [← same, expired] at decided
    cases decided

end Step

namespace Local

open Quarantine.Plain Gateway.Local Delivery.Local Custody.Local

/-- The system after the match of the cleared deposit was delivered. -/
def delivered : System MemoryStore Bytes32 :=
  { scanned with gateway := (serve Gateway.Local.env issuedStore delivery).2 }

/-- The record that it was written to. -/
def approvedRecord : DepositRecord := (records delivered.gateway).head (by decide +kernel)

/-- The run with the delivery at its end. -/
theorem delivered_run : Run (Step (deployment (wallet 1))) quiet
    (history ++ [.deliver sighting delivering]) delivered :=
  (history_run (wallet 1)).snoc (decoy_delivered (wallet 1))

/-- At its start there is no record. -/
theorem memory_unused : ∀ record ∈ records quiet.gateway,
    Unreported record ∧ record.state = .pending := by
  intro record stored
  cases stored

/-- The approved record shows the deposit that was cleared, with its amount. -/
theorem approved_told : ∃ key deposit,
    Sighted (deployment (wallet 1)) quiet (history ++ [.deliver sighting delivering]) delivered
        approvedRecord.stealthPubkey key deposit ∧
      Shows (deployment (wallet 1)).format.asRef approvedRecord key deposit ∧
      (deposit.amount < 2 ^ 53 → approvedRecord.onChainAmount = some deposit.amount) := by
  obtain ⟨chain, -, -⟩ := records_told (runtime_lawful derive) derive_injective start_genesis rfl
    memory_unused delivered_run (List.head_mem _ : approvedRecord ∈ records delivered.gateway)
  rcases chain with unreported | shown
  · have reported : approvedRecord.onChainAddress ≠ none := by decide +kernel
    exact absurd unreported.address reported
  · exact shown

end Local

section Decisions

variable [LawfulStore σ] {d : Deployment Point Key} {start after : System σ Key}
  {events : List (Happening Key)} {record : DepositRecord}

/-- In every run: a record that is approved or released has a deposit on chain behind it that
carries its key and that a threshold of the oracles of the deposit's vault cleared, each with a
clean vote of its own that it signed before the deposit expired.

Proof: the record was told its state by a delivery of a deposit that was approved or released
when a pass read it. At that point of the run the tally of the chain applies, and the votes and
the vault's oracles stay for the rest of it. -/
theorem decisions_cleared (lawful : Lawful d.runtime)
    (injective : Quarantine.SeedsInjective d.runtime) (genesis : Genesis start.world)
    (idle : start.found = [])
    (unused : ∀ record ∈ records start.gateway, Unreported record ∧ record.state = .pending)
    (run : Run (Step d) start events after) (stored : record ∈ records after.gateway)
    (decided : record.state = .approved ∨ record.state = .released) :
    ∃ key deposit vault, Sighted d start events after record.stealthPubkey key deposit ∧
      vaultAt after.world deposit.vault = some vault ∧ 1 ≤ vault.minAttestations ∧
      Cleared (events.filterMap Happening.onChain) key vault deposit.expireAt := by
  obtain ⟨key, deposit, sighted, final⟩ := (run_told idle unused run record stored).cleared decided
  obtain ⟨earlier, later, past, rfl, reached, since, read, keyed⟩ := id sighted
  have found := Quarantine.deposit_at_iff.mp read
  have onChain := chain_run reached
  have world : Quarantine.Reached d.runtime (earlier.filterMap Happening.onChain) past.world :=
    ⟨start.world, genesis, onChain⟩
  have sound := world.sound lawful
  obtain ⟨vault, house⟩ := (sound.deposits _ _ found).housed
  have tally := world.tallied lawful injective _ _ _ found house
  have positive := (sound.vaults _ _ house).positive
  obtain ⟨before, votes, ctx, instruction, opening, created⟩ :=
    Quarantine.run_created lawful genesis onChain found
  have counted := (tally.approved positive final).1.ge
  obtain ⟨oracles, enough, voted⟩ := created.cleared onChain tally counted
  -- The vault is the one of today but for its counter.
  obtain ⟨count, today⟩ := Quarantine.run_vault_stays lawful sound (chain_run since) house
  refine ⟨key, deposit, { vault with depositCount := count }, sighted,
    Quarantine.vault_at_iff.mpr today, positive, oracles, enough, ?_⟩
  intro oracle member
  obtain ⟨listed, caller, accounts, evidenceHash, cast, rest⟩ := voted oracle member
  refine ⟨listed, caller, accounts, evidenceHash, ?_, rest⟩
  rw [List.filterMap_append, created.listed]
  simp [cast]

end Decisions

namespace Local

open Quarantine.Plain Custody.Local

/-- Two of the payer's oracles cleared it. -/
theorem approved_cleared : ∃ key deposit vault,
    Sighted (deployment (wallet 1)) quiet (history ++ [.deliver sighting delivering]) delivered
        approvedRecord.stealthPubkey key deposit ∧
      vaultAt delivered.world deposit.vault = some vault ∧ 1 ≤ vault.minAttestations ∧
      Cleared ((history ++ [Happening.deliver sighting delivering]).filterMap Happening.onChain)
        key vault deposit.expireAt :=
  decisions_cleared (runtime_lawful derive) derive_injective start_genesis rfl memory_unused
    delivered_run (List.head_mem _ : approvedRecord ∈ records delivered.gateway)
    (.inl (by decide +kernel))

end Local

end GPay.Provenance
