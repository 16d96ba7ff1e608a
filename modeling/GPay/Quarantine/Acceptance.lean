import GPay.Quarantine.Exit
import GPay.Quarantine.Verdict

/-!
# When votes and payouts of lamports are accepted

Most of what an instruction checks cannot fail in a reachable world: vaults are never
paused, stored bumps derive the addresses they are stored at, accounts have room for what
is written, and the supply fits the balances. What is left of the checks are the
signatures and the access, the vault that the deposit names, its state and the clock.
-/

namespace GPay.Quarantine

open Solana Runs

variable {Key : Type} [DecidableEq Key]

/-- What is left to check of a vote, once its deposit and its vault are found: the signature, the
leave to write, the vault of the deposit, and that the oracle may vote on it now. -/
structure Votable (ctx : Context Key) (accounts : Attest Key) (vault : Vault Key)
    (deposit : Deposit Key) : Prop where
  signed : accounts.oracle ∈ ctx.signers
  writable : accounts.deposit ∈ ctx.writable
  house : deposit.vault = accounts.vault
  pending : deposit.state = .pending
  listed : accounts.oracle ∈ vault.oracleSet
  fresh : ∀ attestation ∈ deposit.attestations, attestation.oracle ≠ accounts.oracle
  early : ctx.now < deposit.expireAt

/-- What is left to check of a payout of lamports. Only a deposit of tokens, whose account
holds lamports by accident, can fall short. -/
structure Payable [Inhabited Key] (ctx : Context Key) (payout : Payout Key) (deposit : Deposit Key)
    (lamports : Nat) : Prop where
  house : deposit.vault = payout.vault
  writable : payout.deposit ∈ ctx.writable ∧ payout.target ∈ ctx.writable
  due : Due ctx deposit payout.outcome
  covered : deposit.mint = default ∨ deposit.amount ≤ lamports

variable [Inhabited Key] {rt : Runtime Key} {w : World Key} {ctx : Context Key}
  {events : List (Event Key)}

/-- A vote is accepted by the program exactly on a pending deposit of the given vault before it
expires, signed by a listed oracle that has not voted yet, in a transaction that may write the
deposit. Neither the counters nor the space of the account is ever a reason to refuse.

Proof: what the handler checks is what is listed here. Conversely the tally of a reachable world
bounds the votes by the vault's oracles, so that one more still has room. -/
theorem vote_accepted_iff (lawful : Lawful rt) (injective : SeedsInjective rt)
    (reached : Reached rt events w) (accounts : Attest Key) (verdict : AmlVerdict)
    (evidenceHash : Bytes32) :
    (∃ w', exec rt ctx (.attest accounts verdict evidenceHash) w = .ok w') ↔
      ∃ vault deposit, vaultAt w accounts.vault = some vault ∧
        depositAt w accounts.deposit = some deposit ∧ Votable ctx accounts vault deposit := by
  have sound := reached.sound lawful
  constructor
  · rintro ⟨w', executed⟩
    obtain ⟨vault, deposit, after, spec⟩ := (attest_ok_iff rt ctx _ _ _ _ _).mp executed
    have house : accounts.vault = deposit.vault := attested_vault injective sound spec
    obtain ⟨pending, listed, fresh, early, _⟩ := (attest_handler_ok_iff ..).mp spec.handled
    exact ⟨vault, deposit, vault_at_iff.mpr spec.at_vault, deposit_at_iff.mpr spec.at_deposit,
      spec.signed, spec.writable, house.symm, pending, listed, fresh, early⟩
  · rintro ⟨vault, deposit, house, found, votable⟩
    obtain ⟨signed, writable, named, pending, listed, fresh, early⟩ := votable
    have at_vault := vault_at_iff.mp house
    have at_deposit := deposit_at_iff.mp found
    have vaultSound := sound.vaults _ _ at_vault
    have derived := (sound.deposits _ _ at_deposit).derived
    have tally : TallySound vault.minAttestations vault.oracleSet deposit :=
      reached.tallied lawful injective _ _ _ at_deposit (named ▸ at_vault)
    have unsaturated : deposit.attestations.length < 255 :=
      lt_of_le_of_lt (tally.capacity vaultSound.few) (by decide)
    -- The vote is one of the electorate's, so that the record still fits its account.
    let attestation : Attestation Key := ⟨accounts.oracle, verdict, ctx.now, evidenceHash⟩
    have voted : TallySound vault.minAttestations vault.oracleSet
        (deposit.voted vault.minAttestations attestation) :=
      tally.voted pending listed fresh early unsaturated
    have spec : Attested rt ctx accounts verdict evidenceHash vault deposit
        (deposit.voted vault.minAttestations attestation) w
        (w.setData accounts.deposit
          (.program (.deposit (deposit.voted vault.minAttestations attestation)))) := {
      signed
      at_vault
      at_deposit
      vault_derived := vaultSound.derived
      running := vaultSound.running
      derived := named ▸ derived
      writable
      handled := (attest_handler_ok_iff ..).mpr ⟨pending, listed, fresh, early, rfl⟩
      fits := deposit_fits (voted.capacity vaultSound.few)
      saved := rfl }
    exact ⟨_, (attest_ok_iff rt ctx _ _ _ _ _).mpr ⟨vault, deposit, _, spec⟩⟩


/-- A listed oracle may vote on the fresh deposit. -/
theorem vote_accepted_fresh :
    ∃ w', exec Local.runtime (Local.context 1002)
      (.attest ⟨.wallet 2, Local.vaultKey, Local.depositKey⟩ .clean Bytes32.zeros)
      (Local.after Local.freshDeposit) = .ok w' := by
  refine (vote_accepted_iff Local.runtime_lawful Local.runtime_injective Local.fresh_reached
    ⟨.wallet 2, Local.vaultKey, Local.depositKey⟩ .clean Bytes32.zeros).mpr
    ⟨_, _, fresh_house, fresh_found, ?_⟩
  exact {
    signed := by decide
    writable := by decide
    house := rfl
    pending := rfl
    listed := by decide
    fresh := by simp [Local.fresh]
    early := by decide }

omit [Inhabited Key] in
/-- The target of a payout has room for it, whichever account it is. -/
theorem payout_fits (fits : SupplyFits w) {source target : Key} {amount : Nat}
    (covered : amount ≤ w.lamports source) :
    (w.setLamports source (w.lamports source - amount)).lamports target + amount ≤ u64Max := by
  rw [World.lamports_set_lamports]
  split
  · have alone := fits {source}
    rw [Finset.sum_singleton] at alone
    omega
  · rename_i apart
    have pair := fits.pair apart
    omega

/-- A payout of lamports succeeds exactly when it is due on a deposit of the given vault
that is covered. -/
theorem lamport_payout_iff (lawful : Lawful rt) (injective : SeedsInjective rt)
    (reached : Reached rt events w) (fits : SupplyFits w) (ctx : Context Key) (payout : Payout Key)
    (lamports : payout.escrow = none) (deposit : Deposit Key) :
    (∃ vault w', LamportPayout rt ctx payout vault deposit w w') ↔
      depositAt w payout.deposit = some deposit ∧
        Payable ctx payout deposit (w.lamports payout.deposit) := by
  have sound := reached.sound lawful
  constructor
  · rintro ⟨vault, w', spec⟩
    have house := paid_vault injective sound spec.paid_out
    exact ⟨deposit_at_iff.mpr spec.at_deposit, house.symm, spec.writable, spec.due,
      .inr spec.covered⟩
  · rintro ⟨found, named, writable, due, covered⟩
    have at_deposit := deposit_at_iff.mp found
    obtain ⟨vault, house⟩ := (sound.deposits _ _ at_deposit).housed
    have vaultSound := sound.vaults _ _ house
    have tally := reached.tallied lawful injective _ _ _ at_deposit house
    have held : deposit.amount ≤ w.lamports payout.deposit := by
      rcases covered with recorded | enough
      · have rent := reached.lamports_held lawful _ _ at_deposit recorded (due_unpaid due)
        omega
      · exact enough
    exact ⟨vault, _, {
      lamports
      at_vault := named ▸ house
      at_deposit
      vault_derived := named ▸ vaultSound.derived
      derived := named ▸ (sound.deposits _ _ at_deposit).derived
      writable
      due
      covered := held
      fits := payout_fits fits held
      space := deposit_fits (tally.capacity vaultSound.few)
      saved := rfl }⟩

omit [DecidableEq Key] [Inhabited Key] in
/-- A release is due on an approved deposit whose release authority has signed. -/
theorem due_released_iff (deposit : Deposit Key) :
    Due ctx deposit .released ↔
      deposit.state = .approved ∧ deposit.releaseAuthority ∈ ctx.signers := by
  constructor
  · rintro (⟨approved, signed⟩ | _)
    exact ⟨approved, signed⟩
  · rintro ⟨approved, signed⟩
    exact .released approved signed

/-- A refund is due on a deposit of a reachable world when it is rejected, or pending at its
expiry: no deposit is ever stored as expired. -/
theorem due_refunded_iff (lawful : Lawful rt) (injective : SeedsInjective rt)
    (reached : Reached rt events w) {key : Key} {deposit : Deposit Key}
    (found : depositAt w key = some deposit) :
    Due ctx deposit .refunded ↔
      deposit.state = .rejected ∨ deposit.state = .pending ∧ deposit.expireAt ≤ ctx.now := by
  constructor
  · rintro (_ | allowed)
    rcases (refundable_iff deposit ctx.now).mp allowed with rejected | expired | pending
    · exact .inl rejected
    · exact absurd expired (unexpired lawful injective reached (deposit_at_iff.mp found))
    · exact .inr pending
  · intro state
    apply Due.refunded
    rw [refundable_iff]
    rcases state with rejected | pending
    · exact .inl rejected
    · exact .inr (.inr pending)

/-- A release of lamports is accepted when its payout is, and its signer is the release authority
and may be written. -/
theorem release_payable_iff (lawful : Lawful rt) (injective : SeedsInjective rt)
    (reached : Reached rt events w) (fits : SupplyFits w) (accounts : Release Key) :
    (∃ w', exec rt ctx (.release accounts) w = .ok w') ↔
      accounts.releaseAuthority ∈ ctx.writable ∧
        ∃ deposit, depositAt w accounts.deposit = some deposit ∧
          deposit.releaseAuthority = accounts.releaseAuthority ∧
          Payable ctx ⟨accounts.vault, accounts.deposit, none, accounts.target, .released⟩ deposit
            (w.lamports accounts.deposit) := by
  have payout := lamport_payout_iff lawful injective reached fits ctx
    ⟨accounts.vault, accounts.deposit, none, accounts.target, .released⟩ rfl
  constructor
  · rintro ⟨w', executed⟩
    obtain ⟨vault, deposit, authority, writable, spec⟩ := release_ok_iff.mp executed
    obtain ⟨found, payable⟩ := (payout deposit).mp ⟨vault, w', spec⟩
    exact ⟨writable, deposit, found, authority, payable⟩
  · rintro ⟨writable, deposit, found, authority, payable⟩
    obtain ⟨vault, w', spec⟩ := (payout deposit).mpr ⟨found, payable⟩
    exact ⟨w', release_ok_iff.mpr ⟨vault, deposit, authority, writable, spec⟩⟩

/-- A release is accepted by the program exactly on an approved deposit of the given vault,
signed by its release authority, to whichever account, in a transaction that may write the
accounts of the signer, the deposit and the target; a deposit of tokens must have its amount in
lamports besides, which `release` pays all the same. What the runtime then checks, the rent of
the accounts that have changed, is left out here: `release_transacted_iff` is about both, for
deposits of lamports.

Proof: the checks on the accounts hold of every deposit of a reachable world, a deposit of
lamports has its amount, and no balance overflows where the supply fits. What remains is
listed. -/
theorem release_accepted_iff (lawful : Lawful rt) (injective : SeedsInjective rt)
    (reached : Reached rt events w) (fits : SupplyFits w) (accounts : Release Key) :
    (∃ w', exec rt ctx (.release accounts) w = .ok w') ↔
      accounts.releaseAuthority ∈ ctx.signers ∧ accounts.releaseAuthority ∈ ctx.writable ∧
        accounts.deposit ∈ ctx.writable ∧ accounts.target ∈ ctx.writable ∧
        ∃ deposit, depositAt w accounts.deposit = some deposit ∧
          deposit.vault = accounts.vault ∧ deposit.state = .approved ∧
          deposit.releaseAuthority = accounts.releaseAuthority ∧
          (deposit.mint = default ∨ deposit.amount ≤ w.lamports accounts.deposit) := by
  rw [release_payable_iff lawful injective reached fits]
  constructor
  · rintro ⟨writable, deposit, found, authority, house, ⟨atDeposit, atTarget⟩, due, covered⟩
    obtain ⟨approved, signed⟩ := (due_released_iff deposit).mp due
    exact ⟨authority ▸ signed, writable, atDeposit, atTarget, deposit, found, house, approved,
      authority, covered⟩
  · rintro ⟨signed, writable, atDeposit, atTarget, deposit, found, house, approved, authority,
      covered⟩
    have due : Due ctx deposit .released := .released approved (authority ▸ signed)
    exact ⟨writable, deposit, found, authority, house, ⟨atDeposit, atTarget⟩, due, covered⟩

/-- The fresh deposit with the three votes that clear it. -/
def clearedRecord : Deposit Address :=
  (((Local.fresh 1001 default 500).voted 2 ⟨.wallet 2, .clean, 1002, Bytes32.zeros⟩).voted 2
    ⟨.wallet 3, .dirty, 1003, Bytes32.zeros⟩).voted 2 ⟨.wallet 4, .clean, 1004, Bytes32.zeros⟩

/-- The cleared deposit is on chain after its votes. -/
theorem cleared_found :
    depositAt (Local.after Local.clearedDeposit) Local.depositKey = some clearedRecord := by
  decide +kernel

set_option maxRecDepth 10000 in
/-- Votes write records only. -/
theorem cleared_fits : SupplyFits (Local.after Local.clearedDeposit) := by
  have world : ∃ first second third, Local.after Local.clearedDeposit =
      (((Local.after Local.freshDeposit).setData Local.depositKey first).setData
        Local.depositKey second).setData Local.depositKey third := ⟨_, _, _, rfl⟩
  obtain ⟨first, second, third, same⟩ := world
  rw [same]
  exact ((fresh_fits.setData _ _).setData _ _).setData _ _

/-- The cleared deposit may be released to anybody. -/
theorem release_accepted_cleared :
    ∃ w', exec Local.runtime (Local.context 1005) (Local.releaseTo (.wallet 12))
      (Local.after Local.clearedDeposit) = .ok w' := by
  refine (release_accepted_iff Local.runtime_lawful Local.runtime_injective Local.cleared_reached
    cleared_fits ⟨.wallet 5, Local.vaultKey, Local.depositKey, .wallet 12⟩).mpr
    ⟨by decide, by decide, by decide, by decide, clearedRecord, cleared_found, rfl, ?_, rfl,
      .inl rfl⟩
  decide

/-- A refund of lamports is accepted when its payout is, its caller signs and may be written, and
the target is the refund address. -/
theorem refund_payable_iff (lawful : Lawful rt) (injective : SeedsInjective rt)
    (reached : Reached rt events w) (fits : SupplyFits w) (accounts : Refund Key) :
    (∃ w', exec rt ctx (.refund accounts) w = .ok w') ↔
      accounts.caller ∈ ctx.signers ∧ accounts.caller ∈ ctx.writable ∧
        ∃ deposit, depositAt w accounts.deposit = some deposit ∧
          accounts.refundTarget = deposit.refundAddr ∧
          Payable ctx ⟨accounts.vault, accounts.deposit, none, accounts.refundTarget, .refunded⟩
            deposit (w.lamports accounts.deposit) := by
  have payout := lamport_payout_iff lawful injective reached fits ctx
    ⟨accounts.vault, accounts.deposit, none, accounts.refundTarget, .refunded⟩ rfl
  constructor
  · rintro ⟨w', executed⟩
    obtain ⟨vault, deposit, signed, writable, target, spec⟩ := refund_ok_iff.mp executed
    obtain ⟨found, payable⟩ := (payout deposit).mp ⟨vault, w', spec⟩
    exact ⟨signed, writable, deposit, found, target, payable⟩
  · rintro ⟨signed, writable, deposit, found, target, payable⟩
    obtain ⟨vault, w', spec⟩ := (payout deposit).mpr ⟨found, payable⟩
    exact ⟨w', refund_ok_iff.mpr ⟨vault, deposit, signed, writable, target, spec⟩⟩

/-- A refund is accepted by the program exactly on a rejected deposit of the given vault, or on a
pending one once it has expired, to its refund address, whoever signs, in a transaction that may
write the accounts of the signer, the deposit and the refund address; a deposit of tokens must
have its amount in lamports besides. The rent of the accounts is left out here as well:
`refund_transacted_iff` has it.

Proof: as for a release. That a refund is due means, of a deposit in a reachable world, that it
is rejected, or pending at or after its expiry, as none is stored as expired. -/
theorem refund_accepted_iff (lawful : Lawful rt) (injective : SeedsInjective rt)
    (reached : Reached rt events w) (fits : SupplyFits w) (accounts : Refund Key) :
    (∃ w', exec rt ctx (.refund accounts) w = .ok w') ↔
      accounts.caller ∈ ctx.signers ∧ accounts.caller ∈ ctx.writable ∧
        accounts.deposit ∈ ctx.writable ∧ accounts.refundTarget ∈ ctx.writable ∧
        ∃ deposit, depositAt w accounts.deposit = some deposit ∧
          deposit.vault = accounts.vault ∧ deposit.refundAddr = accounts.refundTarget ∧
          (deposit.state = .rejected ∨
            deposit.state = .pending ∧ deposit.expireAt ≤ ctx.now) ∧
          (deposit.mint = default ∨ deposit.amount ≤ w.lamports accounts.deposit) := by
  rw [refund_payable_iff lawful injective reached fits]
  constructor
  · rintro ⟨signed, writable, deposit, found, target, house, ⟨atDeposit, atTarget⟩, due, covered⟩
    have state := (due_refunded_iff lawful injective reached found).mp due
    exact ⟨signed, writable, atDeposit, atTarget, deposit, found, house, target.symm, state,
      covered⟩
  · rintro ⟨signed, writable, atDeposit, atTarget, deposit, found, house, target, state, covered⟩
    have due : Due ctx deposit .refunded :=
      (due_refunded_iff lawful injective reached found).mpr state
    exact ⟨signed, writable, deposit, found, target.symm, house, ⟨atDeposit, atTarget⟩, due,
      covered⟩

/-- The fresh deposit may be refunded once it has expired. -/
theorem refund_accepted_fresh :
    ∃ w', exec Local.runtime (Local.context 5000) (Local.refundBy (.wallet 2))
      (Local.after Local.freshDeposit) = .ok w' :=
  (refund_accepted_iff Local.runtime_lawful Local.runtime_injective Local.fresh_reached fresh_fits
    ⟨.wallet 2, Local.vaultKey, Local.depositKey, .wallet 6⟩).mpr
    ⟨by decide, by decide, by decide, by decide, Local.fresh 1001 default 500, fresh_found, rfl,
      rfl, .inr ⟨rfl, by decide⟩, .inl rfl⟩

end GPay.Quarantine
