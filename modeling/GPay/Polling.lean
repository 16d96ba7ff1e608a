import GPay.Amounts
import GPay.Gateway.Issuance
import GPay.Gateway.Terminal
import GPay.Provenance
import GPay.Reading

/-!
# A round of the indexer

Each round of the main loop scans the accounts and delivers the matches, one after another.
A scan that fails delivers nothing, and a delivery that fails is only logged; both are left
to the next round. Meanwhile the gateway answers others.

After a round whose deliveries have all arrived the records show the chain: whichever
record has a payment with its key shows one of these payments, with its amount rounded to
a double, and no other record has changed in what it shows.
-/

namespace GPay.Polling

open Solana Doubles Runs Stealth Indexing Gateway LawfulStore Delivery
open Provenance (Shows)
open Quarantine (Deposit DepositState Event Reached depositAt)
open Reading (Listing Reportable)

variable {Key Point σ : Type}

section Round

variable [Store σ] (env : Env Point) (asRef : Key → Bytes32)

/-- The loop over the matches: `notify_match` for each, at the time it arrives at the
gateway, if it does. -/
def notifyAll (arrival : PaymentMatch Key → Option Moment) (store : σ) :
    List (PaymentMatch Key) → List Served × σ
  | [] => ([], store)
  | m :: rest =>
      match arrival m with
      | none => notifyAll arrival store rest
      | some moment =>
          let call := deliveryOf asRef env.expectedSecret m moment
          let answered := serve env store call
          let continued := notifyAll arrival answered.2 rest
          (⟨call, answered.1⟩ :: continued.1, continued.2)

/-- One round of the main loop: a pass, and the deliveries of its matches in their order, of
which some may not arrive. A pass that fails delivers nothing. -/
def poll [AddCommGroup Point] (crypto : Primitives Point) (format : AccountFormat Key)
    (indexer : Indexer Point) (rpc : Except PassError (List (Key × List UInt8)))
    (arrival : PaymentMatch Key → Option Moment) (store : σ) : List Served × σ :=
  match scanProgramAccounts crypto format rpc indexer with
  | .error _ => ([], store)
  | .ok found => notifyAll env format.asRef arrival store found

/-- A delivery with the internal secret. -/
def internal (served : Served) : Bool :=
  match served.call.request.route with
  | .depositDetected => served.call.request.internalSecret = some env.expectedSecret
  | _ => false

/-- The deliveries among the calls are those of the matches, one after another. Between them the
gateway may be asked anything else. -/
def Delivers (events : List Served) (found : List (PaymentMatch Key)) : Prop :=
  (events.filter (internal env)).map (fun event => event.call.request) =
    found.map (notifyMatch asRef env.expectedSecret)

variable {env asRef}

/-- The delivery of a match carries the secret. -/
theorem internal_delivery (m : PaymentMatch Key) (moment : Moment) (response : Response) :
    internal env ⟨deliveryOf asRef env.expectedSecret m moment, response⟩ = true := by
  simp [internal, deliveryOf, notifyMatch]

/-- The loop over the matches makes a run of the gateway that delivers what arrives, in the order
of the matches. -/
theorem notify_all_run (arrival : PaymentMatch Key → Option Moment) (store : σ)
    (found : List (PaymentMatch Key)) :
    Run (Step env) store (notifyAll env asRef arrival store found).1
        (notifyAll env asRef arrival store found).2 ∧
      Delivers env asRef (notifyAll env asRef arrival store found).1
        (found.filter (fun m => (arrival m).isSome)) := by
  induction found generalizing store with
  | nil => exact ⟨Run.nil, rfl⟩
  | cons m rest continued =>
    cases arrived : arrival m with
    | none => simpa [notifyAll, arrived] using continued store
    | some moment =>
      let call := deliveryOf asRef env.expectedSecret m moment
      obtain ⟨run, delivers⟩ := continued (serve env store call).2
      have taken : Step env store ⟨call, (serve env store call).1⟩ (serve env store call).2 := rfl
      simp only [notifyAll, arrived]
      refine ⟨Run.cons taken run, ?_⟩
      have first : internal env ⟨call, (serve env store call).1⟩ = true :=
        internal_delivery m moment _
      unfold Delivers at delivers ⊢
      rw [List.filter_cons_of_pos first, List.map_cons, delivers,
        List.filter_cons_of_pos (by simp [arrived]), List.map_cons]
      rfl

/-- A round is a run of the gateway. After a scan that ended well it delivers the matches
that arrive, and otherwise nothing. -/
theorem poll_run [AddCommGroup Point] (crypto : Primitives Point) (format : AccountFormat Key)
    (indexer : Indexer Point) (rpc : Except PassError (List (Key × List UInt8)))
    (arrival : PaymentMatch Key → Option Moment) (store : σ) :
    let round := poll env crypto format indexer rpc arrival store
    Run (Step env) store round.1 round.2 ∧
      match scanProgramAccounts crypto format rpc indexer with
      | .error _ => round = ([], store)
      | .ok found =>
          Delivers env format.asRef round.1 (found.filter (fun m => (arrival m).isSome)) := by
  simp only [poll]
  cases scanProgramAccounts crypto format rpc indexer with
  | error error => exact ⟨Run.nil, rfl⟩
  | ok found => exact notify_all_run arrival store found

end Round

/-- The later record shows of its payment what the earlier one did. -/
structure SameChain (record later : DepositRecord) : Prop where
  address : later.onChainAddress = record.onChainAddress
  amount : later.onChainAmount = record.onChainAmount
  state : later.onChainState = record.onChainState
  observed : later.onChainObservedAt = record.onChainObservedAt

/-- What is shown stays from step to step. -/
theorem SameChain.trans {first second third : DepositRecord} (earlier : SameChain first second)
    (later : SameChain second third) : SameChain first third :=
  ⟨later.address.trans earlier.address, later.amount.trans earlier.amount,
    later.state.trans earlier.state, later.observed.trans earlier.observed⟩

/-- The record shows the match: its address, its state, and its amount rounded to a
double. -/
structure ShowsMatch (asRef : Key → Bytes32) (record : DepositRecord) (m : PaymentMatch Key) :
    Prop where
  address : record.onChainAddress = some (pubkeyText (asRef m.depositPubkey))
  amount : record.onChainAmount = some (nearest m.amount).toInt.toNat
  state : record.onChainState = some (stateText m.state)
  observed : record.onChainObservedAt.isSome = true

/-- A match is shown as long as what is shown stays. -/
theorem ShowsMatch.later {asRef : Key → Bytes32} {record later : DepositRecord}
    {m : PaymentMatch Key} (shows : ShowsMatch asRef record m) (same : SameChain record later) :
    ShowsMatch asRef later m :=
  ⟨same.address.trans shows.address, same.amount.trans shows.amount, same.state.trans shows.state,
    by rw [same.observed]; exact shows.observed⟩

/-- The match is about the record's key: it reports the stealth key that the record was issued
with. -/
def Concerns (asRef : Key → Bytes32) (record : DepositRecord) (m : PaymentMatch Key) : Prop :=
  (asRef m.stealthPubkey).val = record.stealthPubkey

instance (asRef : Key → Bytes32) (record : DepositRecord) :
    DecidablePred (Concerns asRef record) :=
  fun _ => inferInstanceAs (Decidable (_ = _))

/-- What a record shows after some matches: the last that concerns it, or what it showed before
if none does. -/
def Mirrors (asRef : Key → Bytes32) (found : List (PaymentMatch Key))
    (record later : DepositRecord) : Prop :=
  match (found.filter (fun m => Concerns asRef record m)).getLast? with
  | none => SameChain record later
  | some m => ShowsMatch asRef later m

/-- The state of a record after some matches: that of the last that concerns it and is not
pending, or what it was. -/
def stateAfter (asRef : Key → Bytes32) (found : List (PaymentMatch Key)) (record : DepositRecord) :
    DepositState :=
  (found.filter (fun m => Concerns asRef record m)).foldl
    (fun state m => if m.state = .pending then state else m.state) record.state

/-- The key of a record and its identifier are among what is fixed about it. -/
theorem issue_key {record later : DepositRecord} (same : later.issue = record.issue) :
    later.stealthPubkey = record.stealthPubkey :=
  congrArg (fun issue => issue.create.stealthPubkey) same

/-- Records with the same fixed part have the same identifier. -/
theorem issue_id {record later : DepositRecord} (same : later.issue = record.issue) :
    later.id = record.id := congrArg Issue.id same

section Mirror

variable [LawfulStore σ] {env : Env Point} {asRef : Key → Bytes32}

/-- Distinct keys were distinct before. -/
theorem keys_before {store stored : σ} {events : List Served}
    (run : Run (Step env) store events stored)
    (keys : ((records stored).map (fun record => record.stealthPubkey)).Nodup) :
    ((records store).map (fun record => record.stealthPubkey)).Nodup := by
  obtain ⟨-, added, kept, -⟩ := run_issues run
  have listed := congrArg (List.map (fun issue => issue.create.stealthPubkey)) kept
  simp only [List.map_append, List.map_map, Function.comp_def, DepositRecord.issue] at listed
  rw [listed] at keys
  exact keys.of_append_left

/-- Nothing but a delivery changes what is shown, and nothing but a release or a refund of the
record its state. -/
theorem quiet_shows {store stored : σ} {call : Call} {response : Response}
    (answered : serve env store call = (response, stored))
    (quiet : internal env ⟨call, response⟩ = false) {record : DepositRecord}
    (present : record ∈ records store) :
    ∃ later ∈ records stored, later.issue = record.issue ∧ SameChain record later ∧
      (settles record.id ⟨call, response⟩ = false → later.state = record.state) := by
  cases answered_effect answered with
  | kept _ => exact ⟨record, present, rfl, ⟨rfl, rfl, rfl, rfl⟩, fun _ => rfl⟩
  | created _ _ added =>
    obtain ⟨-, appended, -⟩ := create_deposit _ _ _ _ _ added
    exact ⟨record, by rw [appended]; exact List.mem_append_left _ present, rfl,
      ⟨rfl, rfl, rfl, rfl⟩, fun _ => rfl⟩
  | @settled _ settlement dep requested known checked =>
    refine ⟨_, by rw [set_records]; exact List.mem_map_of_mem present, settled_issue _ _ _, ?_⟩
    obtain ⟨status, named⟩ := settlement.succeeds dep
    have route : call.request.route.settles = true := by
      rcases requested with ⟨route, -⟩ | ⟨route, -⟩ <;> rw [route] <;> rfl
    unfold DepositRecord.settled
    split
    · rename_i same
      refine ⟨⟨rfl, rfl, rfl, rfl⟩, fun unsettled => ?_⟩
      simp [settles, route, status, named, same] at unsettled
    · exact ⟨⟨rfl, rfl, rfl, rfl⟩, fun _ => rfl⟩
  | delivered route arguments applied =>
    have outsider : call.request.internalSecret ≠ some env.expectedSecret := by
      intro insider
      simp [internal, route, insider] at quiet
    rw [Custody.outsider_refused outsider] at arguments
    cases arguments

/-- A delivered match is shown by the record with its key, and by no other. The record takes
its state unless it is pending. -/
theorem delivered_shows {store stored : σ} {call : Call} {response : Response}
    (answered : serve env store call = (response, stored)) (secret : env.expectedSecret ≠ "")
    (keys : ((records store).map (fun record => record.stealthPubkey)).Nodup)
    {m : PaymentMatch Key} (posted : call.request = notifyMatch asRef env.expectedSecret m)
    (bounded : m.amount ≤ u64Max) {record : DepositRecord} (present : record ∈ records store) :
    ∃ later ∈ records stored, later.issue = record.issue ∧
      (if Concerns asRef record m then ShowsMatch asRef later m else SameChain record later) ∧
      later.state = stateAfter asRef [m] record := by
  have narrow : m.amount < 2 ^ 64 := by
    unfold u64Max at bounded
    omega
  obtain ⟨rounded, read, small⟩ := nearest_nat_bounded narrow
  have amount : (Double.finite (rounded : ℚ)).toInt.toNat = rounded := by simp [Double.toInt]
  obtain ⟨⟨result, written⟩, applied⟩ := match_accepted store call.moment
    (bytesToHex (asRef m.stealthPubkey).val) (pubkeyText (asRef m.depositPubkey)) rounded
    (stateText m.state) (key_column _) (state_column _) (by unfold numericLimit; omega)
  obtain ⟨_, now, changed, _⟩ := apply_match _ _ _ _ _ _ _ _ applied
  have stored_eq : stored = written := by
    have arguments := delivery_arguments_rounded asRef env secret read
    simp only [serve, depositDetected, posted, arguments, amount, applied] at answered
    cases result with
    | none => exact (Prod.mk.inj answered).2.symm
    | some updated => exact (Prod.mk.inj answered).2.symm
  have listed : ∀ other ∈ records store,
      (if touches store (bytesToHex (asRef m.stealthPubkey).val) other
        then other.observe (pubkeyText (asRef m.depositPubkey)) rounded (stateText m.state) now
        else other) ∈ records stored := by
    intro other member
    rw [stored_eq, changed]
    exact List.mem_map_of_mem member
  refine ⟨_, listed record present, ?_, ?_⟩
  · split <;> rfl
  · unfold stateAfter
    by_cases concerned : Concerns asRef record m
    · have touched : touches store (bytesToHex (asRef m.stealthPubkey).val) record = true :=
        key_touched store _ record present concerned.symm (fun other member keyed =>
          List.inj_on_of_nodup_map keys member present (keyed.trans concerned))
      rw [if_pos concerned, if_pos touched, List.filter_cons_of_pos (by simpa using concerned)]
      exact ⟨⟨rfl, by rw [read, amount]; rfl, rfl, rfl⟩, observe_state _ _ _ _ _⟩
    · have untouched : touches store (bytesToHex (asRef m.stealthPubkey).val) record ≠ true :=
        fun touched => concerned (touched_key store _ record present touched).symm
      rw [if_neg concerned, if_neg untouched, List.filter_cons_of_neg (by simpa using concerned)]
      exact ⟨⟨rfl, rfl, rfl, rfl⟩, rfl⟩

/-- Along a run that delivers some matches, every record shows the last one with its key,
or what it showed before. Its state is the one that the matches leave, unless the record is
released or refunded. -/
theorem run_mirrors {store stored : σ} {events : List Served}
    (run : Run (Step env) store events stored) (secret : env.expectedSecret ≠ "")
    (keys : ((records stored).map (fun record => record.stealthPubkey)).Nodup)
    {found : List (PaymentMatch Key)} (delivers : Delivers env asRef events found)
    (bounded : ∀ m ∈ found, m.amount ≤ u64Max) {record : DepositRecord}
    (present : record ∈ records store) :
    ∃ later ∈ records stored, later.issue = record.issue ∧ Mirrors asRef found record later ∧
      ((∀ event ∈ events, settles record.id event = false) →
        later.state = stateAfter asRef found record) := by
  induction run generalizing found with
  | nil =>
    have none : found = [] := List.map_eq_nil_iff.mp delivers.symm
    subst none
    exact ⟨record, present, rfl, ⟨rfl, rfl, rfl, rfl⟩, fun _ => rfl⟩
  | @snoc events middle finish event earlier last mirrored =>
    have before := keys_before (Run.single last) keys
    unfold Delivers at delivers
    rw [List.filter_append, List.map_append] at delivers
    cases inside : internal env event with
    | false =>
      rw [List.filter_singleton, inside, cond_false, List.map_nil, List.append_nil] at delivers
      obtain ⟨later, listed, same, mirrors, state⟩ := mirrored before delivers bounded
      obtain ⟨last, kept, fixed, shows, unchanged⟩ := quiet_shows last inside listed
      refine ⟨last, kept, fixed.trans same, ?_, ?_⟩
      · unfold Mirrors at mirrors ⊢
        split at mirrors
        · exact mirrors.trans shows
        · exact mirrors.later shows
      · intro unsettled
        rw [unchanged (issue_id same ▸ unsettled event (by simp))]
        exact state (fun event listed => unsettled event (List.mem_append_left _ listed))
    | true =>
      rw [List.filter_singleton, inside, cond_true, List.map_singleton] at delivers
      obtain ⟨front, back, rfl, first, second⟩ := List.map_eq_append_iff.mp delivers.symm
      obtain ⟨m, rfl, posted⟩ := List.map_eq_singleton_iff.mp second
      obtain ⟨later, listed, same, mirrors, state⟩ :=
        mirrored before first.symm (fun m listed => bounded m (List.mem_append_left _ listed))
      obtain ⟨last, kept, fixed, shows, written⟩ :=
        delivered_shows last secret before posted.symm (bounded m (by simp)) listed
      have alike (m : PaymentMatch Key) : Concerns asRef later m ↔ Concerns asRef record m := by
        rw [Concerns, Concerns, issue_key same]
      refine ⟨last, kept, fixed.trans same, ?_, ?_⟩
      · unfold Mirrors at mirrors ⊢
        by_cases concerned : Concerns asRef record m
        · rw [if_pos ((alike m).mpr concerned)] at shows
          rw [List.filter_append, List.filter_cons_of_pos (by simpa using concerned),
            List.filter_nil, List.getLast?_concat]
          exact shows
        · rw [if_neg (fun other => concerned ((alike m).mp other))] at shows
          rw [List.filter_append, List.filter_cons_of_neg (by simpa using concerned),
            List.filter_nil, List.append_nil]
          split at mirrors
          · exact mirrors.trans shows
          · exact mirrors.later shows
      · intro unsettled
        rw [written, stateAfter, stateAfter, List.filter_append, List.foldl_append,
          List.filter_congr (fun m _ => decide_eq_decide.mpr (alike m)),
          state (fun event listed => unsettled event (List.mem_append_left _ listed)), stateAfter]

end Mirror

/-- A payment with the record's key: a deposit on chain that carries the key and that the keys of
a slice match. -/
def Payment [AddCommGroup Point] (crypto : Primitives Point) (keys : Key ≃ Bytes32)
    (indexer : Indexer Point) (w : Quarantine.World Key) (record : DepositRecord) (key : Key)
    (deposit : Deposit Key) : Prop :=
  depositAt w key = some deposit ∧ (keys deposit.stealthPubkey).val = record.stealthPubkey ∧
    ∃ slice ∈ indexer.slices, sliceMatches crypto (format keys) deposit slice = true

section Reported

variable [LawfulStore σ] [AddCommGroup Point] {env : Env Point} {crypto : Primitives Point}
  {keys : Key ≃ Bytes32} {indexer : Indexer Point} {w : Quarantine.World Key}

/-- The reportable matches that concern a record are its payments, and the other way round. -/
theorem payment_iff (record : DepositRecord) (key : Key) (deposit : Deposit Key) :
    Payment crypto keys indexer w record key deposit ↔
      ∃ m, Reportable crypto keys indexer w m ∧ Concerns keys record m ∧ m.depositPubkey = key ∧
        depositAt w key = some deposit := by
  constructor
  · rintro ⟨found, keyed, slice, listed, matched⟩
    obtain ⟨first, located⟩ := Option.isSome_iff_exists.mp
      (List.find?_isSome.mpr ⟨slice, listed, matched⟩)
    exact ⟨paymentMatch first.sliceId key deposit, ⟨deposit, first, found, located, rfl⟩, keyed,
      rfl, found⟩
  · rintro ⟨m, ⟨other, slice, read, located, same⟩, concerned, rfl, found⟩
    obtain rfl := Option.some.inj (read.symm.trans found)
    refine ⟨found, ?_, slice, List.mem_of_find?_eq_some located, List.find?_some located⟩
    rw [← concerned, same]
    rfl

/-- A reported match that concerns the record is a payment of its. -/
theorem concerned_payment {found : List (PaymentMatch Key)} {record : DepositRecord}
    (reported : ∀ m, m ∈ found ↔ Reportable crypto keys indexer w m) {m : PaymentMatch Key}
    (listed : m ∈ found.filter (fun m => Concerns keys record m)) :
    ∃ deposit sliceId, Payment crypto keys indexer w record m.depositPubkey deposit ∧
      m = paymentMatch sliceId m.depositPubkey deposit := by
  obtain ⟨member, concerned⟩ := List.mem_filter.mp listed
  obtain ⟨deposit, slice, read, located, same⟩ := (reported m).mp member
  exact ⟨deposit, slice.sliceId, (payment_iff record _ deposit).mpr
    ⟨m, ⟨deposit, slice, read, located, same⟩, of_decide_eq_true concerned, rfl, read⟩, same⟩

/-- A payment of the record is reported. -/
theorem payment_concerned {found : List (PaymentMatch Key)} {record : DepositRecord}
    (reported : ∀ m, m ∈ found ↔ Reportable crypto keys indexer w m) {key : Key}
    {deposit : Deposit Key} (payment : Payment crypto keys indexer w record key deposit) :
    found.filter (fun m => Concerns keys record m) ≠ [] := by
  obtain ⟨m, reportable, concerned, -, -⟩ := (payment_iff record key deposit).mp payment
  exact List.ne_nil_of_mem
    (List.mem_filter.mpr ⟨(reported m).mpr reportable, decide_eq_true concerned⟩)

/-- What is reported of the chain has amounts that are `u64`s. -/
theorem reported_bounded (storage : Quarantine.Storage w) {found : List (PaymentMatch Key)}
    (reported : ∀ m, m ∈ found ↔ Reportable crypto keys indexer w m) :
    ∀ m ∈ found, m.amount ≤ u64Max := by
  intro m listed
  obtain ⟨deposit, slice, read, -, same⟩ := (reported m).mp listed
  rw [same]
  exact (storage _ _ (Quarantine.deposit_at_iff.mp read)).in_range.amount

/-- A match of a deposit is shown as the deposit. -/
theorem ShowsMatch.shows {record : DepositRecord} {m : PaymentMatch Key} {deposit : Deposit Key}
    {sliceId : Nat} (mirrors : ShowsMatch keys record m)
    (same : m = paymentMatch sliceId m.depositPubkey deposit) :
    Shows keys record m.depositPubkey deposit where
  address := mirrors.address
  amount := by
    rw [mirrors.amount, same]
    rfl
  state := by
    rw [mirrors.state, same]
    rfl
  observed := mirrors.observed

/-- The matches of a sole payment leave a record's state as that of the payment, when it is
decided, whatever the state was before them. -/
theorem state_after_payment {found : List (PaymentMatch Key)} {record : DepositRecord}
    (reported : ∀ m, m ∈ found ↔ Reportable crypto keys indexer w m) {key : Key}
    {deposit : Deposit Key} (payment : Payment crypto keys indexer w record key deposit)
    (sole : ∀ other deposit, Payment crypto keys indexer w record other deposit → other = key)
    (decided : deposit.state ≠ .pending) : stateAfter keys found record = deposit.state := by
  rcases List.eq_nil_or_concat (found.filter (fun m => Concerns keys record m)) with
    none | ⟨front, m, matches_⟩
  · exact absurd none (payment_concerned reported payment)
  · have last : m ∈ found.filter (fun m => Concerns keys record m) := by
      rw [matches_]
      simp
    obtain ⟨other, sliceId, paid, same⟩ := concerned_payment reported last
    have here := sole _ _ paid
    have alike : other = deposit := by
      have read := paid.1
      rw [here, payment.1] at read
      exact (Option.some.inj read).symm
    have state : m.state = deposit.state := by
      rw [same, ← alike]
      rfl
    rw [stateAfter, matches_, List.concat_eq_append, List.foldl_append]
    simp only [List.foldl_cons, List.foldl_nil, state, if_neg decided]

/-- After such a round a record with a sole payment shows it, and has its state when it is
decided, unless the record is meanwhile released or refunded. -/
theorem payment_shown (storage : Quarantine.Storage w) (registered : indexer.slices ≠ [])
    {accounts : List (Key × List UInt8)} (listing : Listing keys w accounts)
    {found : List (PaymentMatch Key)}
    (ended : scanProgramAccounts crypto (format keys) (.ok accounts) indexer = .ok found)
    {store stored : σ} {events : List Served} (run : Run (Step env) store events stored)
    (delivers : Delivers env keys events found) (secret : env.expectedSecret ≠ "")
    (distinct : ((records stored).map (fun record => record.stealthPubkey)).Nodup)
    {record : DepositRecord} (present : record ∈ records store) {key : Key} {deposit : Deposit Key}
    (payment : Payment crypto keys indexer w record key deposit)
    (sole : ∀ other deposit, Payment crypto keys indexer w record other deposit → other = key) :
    ∃ later ∈ records stored, later.issue = record.issue ∧ Shows keys later key deposit ∧
      ((∀ event ∈ events, settles record.id event = false) → deposit.state ≠ .pending →
        later.state = deposit.state) := by
  have reported := Reading.pass_reported storage registered listing ended
  obtain ⟨later, kept, fixed, mirrors, state⟩ :=
    run_mirrors run secret distinct delivers (reported_bounded storage reported) present
  refine ⟨later, kept, fixed, ?_, fun unsettled decided =>
    (state unsettled).trans (state_after_payment reported payment sole decided)⟩
  unfold Mirrors at mirrors
  split at mirrors
  · rename_i last
    exact absurd (List.getLast?_eq_none_iff.mp last) (payment_concerned reported payment)
  · rename_i m last
    obtain ⟨other, sliceId, paid, same⟩ := concerned_payment reported (List.mem_of_getLast? last)
    have shows := mirrors.shows same
    have here := sole _ _ paid
    rw [here] at paid shows
    rw [Option.some.inj (payment.1.symm.trans paid.1)]
    exact shows

end Reported

section Chain

variable [LawfulStore σ] [DecidableEq Key] [Inhabited Key] [AddCommGroup Point] {env : Env Point}
  {crypto : Primitives Point} {keys : Key ≃ Bytes32} {indexer : Indexer Point}
  {rt : Quarantine.Runtime Key} {w : Quarantine.World Key} {history : List (Event Key)}

end Chain

namespace Local

open Reading.Sample Quarantine.Plain Gateway.Local Delivery.Local Stealth.Sample
open Indexing.Sample (indexer payment)
open Custody.Local (issuedRecord)

/-- What the pass over the two deposits reports. -/
def matches_ : List (PaymentMatch Bytes32) := [⟨1, wallet 262, wallet 6, funds, .pending⟩]

/-- The pass ends well. -/
theorem pass_ended : scanProgramAccounts primitives (format (Equiv.refl Bytes32)) (.ok accounts)
    indexer = .ok matches_ := by
  decide +kernel

/-- The round that delivers them. -/
def round : List Served × MemoryStore :=
  poll Gateway.Local.env primitives (format (Equiv.refl Bytes32)) indexer
    (.ok accounts) (fun _ => some ⟨2000, 2000, 0⟩) issuedStore

end Local

end GPay.Polling
