import GPay.Custody
import GPay.Quarantine.Layout

/-!
# From the chain to the matches

The indexer asks the node for the program's accounts of the size of a deposit, and reads
each of them as one. What the program stores is read back, so that a pass depends on the
deposits on chain only: neither on the order in which the node lists them nor on what
fills the rest of their accounts.

The program does not look at the ephemeral bytes of a deposit, and a pass that meets
bytes which encode no point reports nothing at all.
-/

namespace GPay.Reading

open Codec Solana Runs Stealth Indexing
open Quarantine (Content Deposit Event Holds Reached Storage depositAccount depositAt depositSpace
  deposit_at_iff content_space_iff content_read)

variable {Point Key : Type}

/-- The accounts of the program that the node lists: those whose data have the size of a
deposit account, each once, in any order. -/
structure Listing (keys : Key ≃ Bytes32) (w : Quarantine.World Key)
    (accounts : List (Key × List UInt8)) : Prop where
  once : (accounts.map Prod.fst).Nodup
  held : ∀ account ∈ accounts, account.2.length = depositSpace ∧
    ∃ content, w.data account.1 = .program content ∧ Holds keys content account.2
  complete : ∀ key content, w.data key = .program content → content.space = depositSpace →
    key ∈ accounts.map Prod.fst

section Accounts

variable {keys : Key ≃ Bytes32} {w : Quarantine.World Key} {accounts : List (Key × List UInt8)}

/-- A listed account is read as the deposit that is stored there. -/
theorem listed_read (storage : Storage w) (listing : Listing keys w accounts)
    {account : Key × List UInt8} (member : account ∈ accounts) (deposit : Deposit Key) :
    (format keys).tryDeserialize account.2 = some deposit ↔
      depositAt w account.1 = some deposit := by
  obtain ⟨-, content, found, held⟩ := listing.held account member
  have read := (content_read keys (storage _ _ found).in_range held.begins).1 deposit
  rw [deposit_at_iff, found, Data.program.injEq]
  exact read

/-- The deposits on chain are those of the listed accounts. -/
theorem deposit_listed (listing : Listing keys w accounts) {key : Key} {deposit : Deposit Key}
    (found : depositAt w key = some deposit) : ∃ account ∈ accounts, account.1 = key := by
  have listed := listing.complete key _ (deposit_at_iff.mp found)
    ((content_space_iff _).mpr ⟨deposit, rfl⟩)
  simpa using listed

variable (crypto : Primitives Point)

/-- Every deposit on chain carries an ephemeral point that decodes. Nothing on chain asks this of
a deposit. -/
def AllDecodable (w : Quarantine.World Key) : Prop :=
  ∀ key deposit, depositAt w key = some deposit →
    (crypto.decompress deposit.ephemeralR).isSome = true

/-- It is the listed accounts that have to carry one. -/
theorem all_decodable_iff (storage : Storage w) (listing : Listing keys w accounts) :
    AllDecodable crypto w ↔ ∀ account ∈ accounts, Decodable crypto (format keys) account := by
  constructor
  · intro decodable account member deposit read
    exact decodable account.1 deposit ((listed_read storage listing member deposit).mp read)
  · intro decodable key deposit found
    obtain ⟨account, member, rfl⟩ := deposit_listed listing found
    exact decodable account member deposit ((listed_read storage listing member deposit).mpr found)

variable [AddCommGroup Point]

/-- What a match should be: a deposit on chain, as it is stored, under the first slice whose keys
match it. -/
def Reportable (keys : Key ≃ Bytes32) (indexer : Indexer Point) (w : Quarantine.World Key)
    (m : PaymentMatch Key) : Prop :=
  ∃ deposit slice, depositAt w m.depositPubkey = some deposit ∧
    indexer.slices.find? (sliceMatches crypto (format keys) deposit) = some slice ∧
    m = paymentMatch slice.sliceId m.depositPubkey deposit

variable {crypto} {indexer : Indexer Point}

/-- A report of an account names the account. -/
theorem report_key {account : Key × List UInt8} {m : PaymentMatch Key}
    (reported : report crypto (format keys) indexer account = some m) :
    m.depositPubkey = account.1 := by
  obtain ⟨deposit, -, matched⟩ := Option.bind_eq_some_iff.mp reported
  obtain ⟨slice, -, rfl⟩ := Option.map_eq_some_iff.mp matched
  rfl

/-- The accounts are reported as their deposits are: a match is among the reports exactly when it
is what should be said of a deposit on chain. -/
theorem reported_iff (storage : Storage w) (listing : Listing keys w accounts)
    (m : PaymentMatch Key) :
    m ∈ accounts.filterMap (report crypto (format keys) indexer) ↔
      Reportable crypto keys indexer w m := by
  rw [List.mem_filterMap]
  constructor
  · rintro ⟨account, member, reported⟩
    have key := report_key reported
    obtain ⟨deposit, read, matched⟩ := Option.bind_eq_some_iff.mp reported
    obtain ⟨slice, first, rfl⟩ := Option.map_eq_some_iff.mp matched
    exact ⟨deposit, slice, (listed_read storage listing member deposit).mp read, first, rfl⟩
  · rintro ⟨deposit, slice, found, first, same⟩
    obtain ⟨account, member, key⟩ := deposit_listed listing found
    have read := (listed_read storage listing member deposit).mpr (key ▸ found)
    refine ⟨account, member, ?_⟩
    rw [report, read, Option.bind_some, first, Option.map_some, key, ← same]

/-- Every deposit is reported once, as every account is listed once and has one report at
most. -/
theorem reported_once (listing : Listing keys w accounts) :
    ((accounts.filterMap (report crypto (format keys) indexer)).map
      (fun m => m.depositPubkey)).Nodup := by
  have keyed : ∀ accounts : List (Key × List UInt8),
      List.Sublist ((accounts.filterMap (report crypto (format keys) indexer)).map
        (fun m => m.depositPubkey)) (accounts.map Prod.fst) := by
    intro accounts
    induction accounts with
    | nil => exact List.Sublist.slnil
    | cons account rest shorter =>
      cases reported : report crypto (format keys) indexer account with
      | none =>
        rw [List.filterMap_cons_none reported]
        exact shorter.cons _
      | some m =>
        rw [List.filterMap_cons_some reported, List.map_cons, List.map_cons, report_key reported]
        exact shorter.cons_cons _
  exact (keyed accounts).nodup listing.once

/-- A pass that ended well has met decodable deposits only, and has reported each account
as its deposit is to be reported. -/
theorem pass_matches (registered : indexer.slices ≠ []) {found : List (PaymentMatch Key)}
    (ended : scanProgramAccounts crypto (format keys) (.ok accounts) indexer = .ok found) :
    (∀ account ∈ accounts, Decodable crypto (format keys) account) ∧
      found = accounts.filterMap (report crypto (format keys) indexer) := by
  have decodable := scan_accounts_ok registered ended
  have all := (scan_accounts_decodable decodable []).symm.trans ended
  rw [List.nil_append] at all
  exact ⟨decodable, (Except.ok.inj all).symm⟩

/-- A pass that ended well has reported the deposits on chain that a slice matches. -/
theorem pass_reported (storage : Storage w) (registered : indexer.slices ≠ [])
    (listing : Listing keys w accounts) {found : List (PaymentMatch Key)}
    (ended : scanProgramAccounts crypto (format keys) (.ok accounts) indexer = .ok found)
    (m : PaymentMatch Key) : m ∈ found ↔ Reportable crypto keys indexer w m := by
  rw [(pass_matches registered ended).2]
  exact reported_iff storage listing m

end Accounts

section Passes

variable [DecidableEq Key] [Inhabited Key] [AddCommGroup Point] {crypto : Primitives Point}
  {keys : Key ≃ Bytes32} {indexer : Indexer Point} {rt : Quarantine.Runtime Key}
  {w : Quarantine.World Key} {events : List (Event Key)}

/-- In every run whose amounts are `u64`s, and with a slice registered: a pass over the
program's accounts ends well exactly when every deposit on chain carries an ephemeral
point that decodes. A pass that ends well reports every deposit that some slice matches,
once, under the first of these slices, and nothing else.

Proof: what the program stored is read back from each listed account, so that the scan
of the accounts is a scan of the deposits; it stops only at bytes that do not decode. -/
theorem chain_scanned_iff (lawful : Lawful rt) (reached : Reached rt events w)
    (typed : ∀ event ∈ events, event.Typed) (registered : indexer.slices ≠ [])
    {accounts : List (Key × List UInt8)} (listing : Listing keys w accounts) :
    ((∃ found, scanProgramAccounts crypto (format keys) (.ok accounts) indexer = .ok found) ↔
      AllDecodable crypto w) ∧
    ∀ found, scanProgramAccounts crypto (format keys) (.ok accounts) indexer = .ok found →
      (found.map (fun m => m.depositPubkey)).Nodup ∧
        ∀ m, m ∈ found ↔ Reportable crypto keys indexer w m := by
  have storage := reached.storage lawful typed
  constructor
  · rw [all_decodable_iff crypto storage listing]
    constructor
    · rintro ⟨found, ended⟩
      exact (pass_matches registered ended).1
    · intro decodable
      refine ⟨accounts.filterMap (report crypto (format keys) indexer), ?_⟩
      rw [scanProgramAccounts, scan_accounts_decodable decodable, List.nil_append]
  · intro found ended
    refine ⟨?_, pass_reported storage registered listing ended⟩
    rw [(pass_matches registered ended).2]
    exact reported_once listing

end Passes

namespace Sample

open Quarantine.Plain Stealth.Sample Indexing.Sample

/-- A payment on the issued address, and a deposit on another key. -/
def events : List (Event Bytes32) :=
  [openVault, depositFor 1001 6 issued.ephemeralR issued.viewTag, depositFor 1002 7 Bytes32.zeros 0]

/-- The deposit on the other key, and what the node lists. -/
def other : Deposit Bytes32 :=
  ⟨255, wallet 100, wallet 7, Bytes32.zeros, 0, wallet 0, funds, wallet 1, wallet 6, wallet 5,
    1002, 4602, .pending, [], 0, 0⟩

/-- What the node lists: both deposits. -/
def accounts : List (Bytes32 × List UInt8) := [accountOf (wallet 263) other, paymentAccount]

/-- The events succeed one after the other. -/
theorem reached : Reached (runtime derive) events (after events) :=
  after_reached (by decide +kernel)

/-- The payment is on chain. -/
theorem payment_found : depositAt (after events) (wallet 262) = some payment := by decide +kernel

/-- The other deposit is on chain. -/
theorem other_found : depositAt (after events) (wallet 263) = some other := by decide +kernel

/-- Both amounts are values of the type. -/
theorem typed : ∀ event ∈ events, event.Typed := by
  intro event listed opening opened
  simp only [events, List.mem_cons, List.not_mem_nil, or_false] at listed
  rcases listed with rfl | rfl | rfl
  · cases opened
  · obtain rfl := Option.some.inj opened
    show funds ≤ u64Max
    decide
  · obtain rfl := Option.some.inj opened
    show funds ≤ u64Max
    decide

/-- Only the two calls create deposits. -/
theorem listing : Listing (Equiv.refl Bytes32) (after events) accounts := by
  have storage := reached.storage (runtime_lawful derive) typed
  have paid := deposit_at_iff.mp payment_found
  have unpaid := deposit_at_iff.mp other_found
  refine ⟨by decide +kernel, ?_, ?_⟩
  · intro account member
    simp only [accounts, List.mem_cons, List.not_mem_nil, or_false] at member
    rcases member with rfl | rfl
    · have held := Quarantine.padded_holds (Equiv.refl Bytes32) (storage _ _ unpaid)
      exact ⟨held.sized, _, unpaid, held⟩
    · have held := Quarantine.padded_holds (Equiv.refl Bytes32) (storage _ _ paid)
      exact ⟨held.sized, _, paid, held⟩
  · intro key content found size
    obtain ⟨deposit, rfl⟩ := (content_space_iff content).mp size
    obtain ⟨before, since, ctx, instruction, opening, created⟩ :=
      reached.created (runtime_lawful derive) found
    have listed : Event.call ctx instruction ∈ events := by
      rw [created.listed]
      simp
    have opened := created.view
    simp only [events, List.mem_cons, List.not_mem_nil, or_false] at listed
    rcases listed with same | same | same
    · cases same
      cases opened
    · cases same
      obtain rfl := Option.some.inj opened
      rw [← created.here]
      simp [accounts, accountOf, paymentAccount]
    · cases same
      obtain rfl := Option.some.inj opened
      rw [← created.here]
      simp [accounts, accountOf, paymentAccount]

/-- Both ephemeral points can be decoded. -/
theorem decodable : AllDecodable primitives (after events) := by
  intro key deposit found
  obtain ⟨account, member, rfl⟩ := deposit_listed listing found
  simp only [accounts, List.mem_cons, List.not_mem_nil, or_false] at member
  rcases member with rfl | rfl
  · obtain rfl := Option.some.inj (other_found.symm.trans found)
    decide +kernel
  · obtain rfl := Option.some.inj (payment_found.symm.trans found)
    decide +kernel

/-- The pass over these accounts reports the payment. -/
theorem payment_scanned :
    ∃ found, scanProgramAccounts primitives (format (Equiv.refl Bytes32)) (.ok accounts)
      indexer = .ok found ∧ ⟨1, wallet 262, wallet 6, funds, .pending⟩ ∈ found := by
  have registered : indexer.slices ≠ [] := by simp [indexer, Indexer.new, Indexer.register]
  obtain ⟨ends, reports⟩ :=
    chain_scanned_iff (runtime_lawful derive) reached typed registered listing
  obtain ⟨found, ended⟩ := ends.mpr decodable
  refine ⟨found, ended, ((reports found ended).2 _).mpr
    ⟨payment, ⟨1, viewKey, spendKey.public primitives, 0⟩, payment_found, ?_, rfl⟩⟩
  have matched : sliceMatches primitives (format (Equiv.refl Bytes32)) payment
      ⟨1, viewKey, spendKey.public primitives, 0⟩ = true := by decide +kernel
  exact List.find?_cons_of_pos matched

end Sample

end GPay.Reading
