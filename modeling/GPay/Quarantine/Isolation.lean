import GPay.Quarantine.History
import GPay.Quarantine.Local

/-!
# Isolation of vaults

A vote or a payout works on the vault its deposit was created under and, when it
pays tokens, on the escrow created with the deposit. It touches no other record of
the program and debits no other deposit and no token account under the authority
of another deposit. Hence calls that name other vaults cannot vote on a deposit,
change its state or reduce what it holds, in any number and any order.
-/

namespace GPay.Quarantine

open Solana Runs

variable {Key : Type}

/-- The vault account a call is given. -/
def Instruction.vault : Instruction Key → Key
  | .initializeVault accounts _ _ => accounts.vault
  | .deposit accounts _ => accounts.vault
  | .depositToken accounts _ => accounts.vault
  | .attest accounts _ _ => accounts.vault
  | .release accounts => accounts.vault
  | .releaseToken accounts => accounts.vault
  | .refund accounts => accounts.vault
  | .refundToken accounts => accounts.vault

/-- The event is not a call that is given the vault account. What others do on chain besides is
foreign to every vault. -/
def Event.Foreign (vaultKey : Key) : Event Key → Prop
  | .call _ instruction => instruction.vault ≠ vaultKey
  | _ => True

/-- A payout is made in the vault that its call names. -/
theorem payout_vault {instruction : Instruction Key} {payout : Payout Key}
    (view : instruction.payout = some payout) : payout.vault = instruction.vault := by
  cases instruction <;> simp_all [Instruction.payout, Instruction.vault] <;> simp [← view]

variable [DecidableEq Key] {rt : Runtime Key} {w w' : World Key}

variable [Inhabited Key] {event : Event Key}

/-- A call given another vault does not pay the deposit or vote on it, as its address is derived
from its own vault. -/
theorem foreign_spares (lawful : Lawful rt) (injective : SeedsInjective rt) (sound : Sound rt w)
    (step : Step rt w event w') {key : Key} {deposit : Deposit Key}
    (found : w.data key = .program (.deposit deposit)) (foreign : event.Foreign deposit.vault) :
    ¬ event.Pays key ∧ event.attestation key = none := by
  constructor
  · rintro ⟨payout, view, rfl⟩
    obtain ⟨ctx, instruction, vault, before, rfl, spec⟩ := pays_out lawful step view
    obtain rfl : before = deposit := by simpa [spec.at_deposit] using found
    exact foreign ((payout_vault view).symm.trans (paid_vault injective sound spec))
  · by_contra voted
    obtain ⟨attestation, vote⟩ := Option.ne_none_iff_exists'.mp voted
    obtain ⟨ctx, accounts, rfl, _, rfl, _⟩ := attestation_call vote
    cases step with
    | call executed =>
      obtain ⟨vault, before, after, spec⟩ := (attest_ok_iff ..).mp executed
      obtain rfl : before = deposit := by simpa [spec.at_deposit] using found
      exact foreign (attested_vault injective sound spec)

/-- A step that is not given the vault of a deposit leaves its record alone, if it
does not collect the account. -/
theorem foreign_step (lawful : Lawful rt) (injective : SeedsInjective rt) (sound : Sound rt w)
    (step : Step rt w event w') {key : Key} {deposit : Deposit Key}
    (found : w.data key = .program (.deposit deposit)) (foreign : event.Foreign deposit.vault)
    (kept : event ≠ .reap ∨ 0 < w.lamports key) : w'.data key = .program (.deposit deposit) := by
  have effect := step_effect lawful step
  obtain ⟨unpaid, unvoted⟩ := foreign_spares lawful injective sound step found foreign
  rcases deposit_stays effect found with ⟨after, stays⟩ | ⟨collected, empty, _⟩
  · cases deposit_change effect stays with
    | opened view here spec => simp [← here, spec.empty] at found
    | attested here spec => simp [Event.attestation, here] at unvoted
    | paid view here spec => exact absurd ⟨_, view, here⟩ unpaid
    | kept before spared => rwa [← before.symm.trans found]
  · rcases kept with other | funded
    · exact absurd collected other
    · omega

/-- No run of steps that are not given a deposit's vault changes the deposit, or
reduces its lamports or a token account under its authority. Empty accounts may
be collected, and are not spoken of. -/
theorem foreign_run (lawful : Lawful rt) (injective : SeedsInjective rt) (sound : Sound rt w)
    {events : List (Event Key)} (run : Run (Step rt) w events w') {key : Key}
    {deposit : Deposit Key} (found : w.data key = .program (.deposit deposit))
    (foreign : ∀ event ∈ events, event.Foreign deposit.vault)
    (kept : Event.reap ∉ events ∨ 0 < w.lamports key) :
    w'.data key = .program (.deposit deposit) ∧ w.lamports key ≤ w'.lamports key ∧
      ∀ escrow account, w.data escrow = .token account → account.owner = key →
        (Event.reap ∉ events ∨ 0 < w.lamports escrow) →
          w.lamports escrow ≤ w'.lamports escrow ∧
            ∃ amount, account.amount ≤ amount ∧
              w'.data escrow = .token { account with amount } := by
  induction run with
  | nil =>
    exact ⟨found, le_refl _,
      fun _ account token _ _ => ⟨le_refl _, account.amount, le_refl _, token⟩⟩
  | @snoc events middle finish event earlier last continued =>
    have shorter : ∀ {other : Key}, (Event.reap ∉ events ++ [event] ∨ 0 < w.lamports other) →
        Event.reap ∉ events ∨ 0 < w.lamports other :=
      fun kept => kept.imp_left (fun absent inside => absent (by simp [inside]))
    obtain ⟨stored, lamports, tokens⟩ :=
      continued (fun other member => foreign other (by simp [member])) (shorter kept)
    have soundMiddle := run_sound lawful sound earlier
    have foreignLast := foreign event (by simp)
    have keptLast : ∀ {other : Key}, (Event.reap ∉ events ++ [event] ∨ 0 < w.lamports other) →
        w.lamports other ≤ middle.lamports other → event ≠ .reap ∨ 0 < middle.lamports other := by
      rintro other (absent | funded) grown
      · exact .inl (fun same => absent (by simp [same]))
      · exact .inr (lt_of_lt_of_le funded grown)
    have effect := step_effect lawful last
    have unpaid := (foreign_spares lawful injective soundMiddle last stored foreignLast).1
    refine ⟨foreign_step lawful injective soundMiddle last stored foreignLast
      (keptLast kept lamports),
      lamports.trans (deposit_credited effect stored unpaid), ?_⟩
    intro escrow account token owner keptEscrow
    obtain ⟨grown, amount, atLeast, tokenMiddle⟩ :=
      tokens escrow account token owner (shorter keptEscrow)
    obtain ⟨grown', amount', atLeast', tokenLast⟩ := token_credited soundMiddle effect stored unpaid
      tokenMiddle owner (keptLast keptEscrow grown)
    exact ⟨grown.trans grown', amount', le_trans atLeast atLeast', tokenLast⟩

/-- The escrow a payout debits is the one its deposit was created with, both being derived from
the deposit's address. -/
theorem Created.escrow (lawful : Lawful rt) {start : World Key} (genesis : Genesis start)
    {events : List (Event Key)} (run : Run (Step rt) start events w) {key : Key}
    {deposit : Deposit Key}
    {before since : List (Event Key)} {creator : Context Key} {creation : Instruction Key}
    {opening : Opening Key}
    (created : Created events key deposit before since creator creation opening)
    {ctx : Context Key} {payout : Payout Key} {vault : Vault Key}
    (spec : PaidOut rt ctx payout vault deposit w w') (here : payout.deposit = key) {escrow : Key}
    (debited : payout.escrow = some escrow) : opening.escrow = some escrow := by
  obtain ⟨middle, next, _, _, _, opened, _⟩ := created.opened lawful run
  have escrowed := opened.escrowed
  have paid := spec.paid
  rw [Paid, debited] at paid
  obtain ⟨mint, bump, _, at_mint, found, _⟩ := paid
  cases named : opening.escrow with
  | none =>
    rw [Escrowed, named] at escrowed
    rw [created.fields.2.2.2, escrowed.1] at at_mint
    exact absurd at_mint ((run_sound lawful (genesis_sound genesis) run).no_default_mint mint)
  | some other =>
    rw [Escrowed, named] at escrowed
    obtain ⟨_, _, _, _, derived, _⟩ := escrowed
    rw [created.here, ← here, found] at derived
    obtain ⟨rfl, _⟩ := Prod.mk.inj (Option.some.inj derived)
    rfl

/-- What votes and payouts of a reachable world are given and leave alone, and what
calls given other vaults cannot do to a deposit. -/
structure VaultIsolation (rt : Runtime Key) : Prop where
  voted : ∀ events w w' ctx accounts verdict evidenceHash, Reached rt events w →
    exec rt ctx (.attest accounts verdict evidenceHash) w = .ok w' →
    ∃ deposit before since creator creation opening,
      depositAt w accounts.deposit = some deposit ∧
      Created events accounts.deposit deposit before since creator creation opening ∧
      accounts.vault = deposit.vault ∧ accounts.vault = opening.vault ∧
      Framed w w' accounts.deposit none
  paid : ∀ events w w' ctx instruction payout, Reached rt events w →
    exec rt ctx instruction w = .ok w' → instruction.payout = some payout →
    ∃ deposit before since creator creation opening,
      depositAt w payout.deposit = some deposit ∧
      Created events payout.deposit deposit before since creator creation opening ∧
      payout.vault = deposit.vault ∧ payout.vault = opening.vault ∧
      (∀ escrow, payout.escrow = some escrow → opening.escrow = some escrow) ∧
      Framed w w' payout.deposit payout.escrow
  foreign : ∀ events w more w' key deposit, Reached rt events w → Run (Step rt) w more w' →
    depositAt w key = some deposit → (∀ event ∈ more, event.Foreign deposit.vault) →
    (Event.reap ∉ more ∨ 0 < w.lamports key) →
    depositAt w' key = some deposit ∧ w.lamports key ≤ w'.lamports key ∧
      ∀ escrow account, tokenAt w escrow = some account → account.owner = key →
        (Event.reap ∉ more ∨ 0 < w.lamports escrow) →
          ∃ amount, account.amount ≤ amount ∧ tokenAt w' escrow = some { account with amount }
  apart : ∀ events w left right leftKey rightKey, Reached rt events w →
    vaultAt w leftKey = some left → vaultAt w rightKey = some right →
    left.authority ≠ right.authority → leftKey ≠ rightKey

/-- Vaults are isolated from each other. A vote or a payout is given the vault that the deposit
names, which is that of its creation, and changes no other program account and no escrow but the
deposit's own. Calls that are given other vaults leave a deposit and its escrow as they are, up
to what is paid in, over any run. Vaults of different authorities have different addresses.

Proof: the address of a deposit is derived from its vault, and the derivation is injective, so
that a call under another vault is refused. What remains is the frame of each call, by induction
on the run. -/
theorem vault_isolation (lawful : Lawful rt) (injective : SeedsInjective rt) :
    VaultIsolation rt where
  voted := by
    rintro events w w' ctx accounts verdict evidenceHash reached executed
    obtain ⟨vault, deposit, after, spec⟩ := (attest_ok_iff ..).mp executed
    obtain ⟨before, since, creator, creation, opening, created⟩ :=
      reached.created lawful spec.at_deposit
    have house := attested_vault injective (reached.sound lawful) spec
    exact ⟨deposit, before, since, creator, creation, opening, deposit_at_iff.mpr spec.at_deposit,
      created, house, house.trans created.fields.1, spec.framed⟩
  paid := by
    rintro events w w' ctx instruction payout reached executed view
    obtain ⟨vault, deposit, spec⟩ := paid_of_exec lawful executed view
    have house := paid_vault injective (reached.sound lawful) spec
    obtain ⟨start, genesis, run⟩ := reached
    obtain ⟨before, since, creator, creation, opening, created⟩ := run_created lawful genesis run
      spec.at_deposit
    exact ⟨deposit, before, since, creator, creation, opening, deposit_at_iff.mpr spec.at_deposit,
      created, house, house.trans created.fields.1,
      fun escrow debited => created.escrow lawful genesis run spec rfl debited, spec.framed⟩
  foreign := by
    intro events w more w' key deposit reached run found foreign kept
    obtain ⟨record, lamports, tokens⟩ := foreign_run lawful injective (reached.sound lawful) run
      (deposit_at_iff.mp found) foreign kept
    refine ⟨deposit_at_iff.mpr record, lamports, ?_⟩
    intro escrow account token owner keptEscrow
    obtain ⟨_, amount, atLeast, held⟩ :=
      tokens escrow account (token_at_iff.mp token) owner keptEscrow
    exact ⟨amount, atLeast, token_at_iff.mpr held⟩
  apart := by
    rintro events w left right leftKey rightKey _ atLeft atRight different rfl
    obtain rfl : left = right := by simpa [atLeft] using atRight
    exact different rfl

/-- The vaults of the local cluster are isolated. -/
theorem local_vault_isolation : VaultIsolation Local.runtime :=
  vault_isolation Local.runtime_lawful Local.runtime_injective

end GPay.Quarantine
