import GPay.Quarantine.Lifecycle

/-!
# Solvency of escrows

An unpaid deposit of lamports keeps them on its account above the account's rent,
whatever happens to it and to other deposits, so its release or its refund can
always be made. The pause flag and the attestations do not stand in the way.

A deposit of tokens records the amount it was asked for. Its escrow holds what
arrived, which is less when the mint withholds a fee. Without fees an unpaid
deposit's escrow covers it in every run; with a fee it does not from the start.
-/

namespace GPay.Quarantine

open Solana Runs

variable {Key : Type}

/-- The lamports of every unpaid deposit of lamports are on its account, above the rent that the
account needs. -/
def LamportsHeld [Inhabited Key] (rt : Runtime Key) (w : World Key) : Prop :=
  ∀ key deposit, w.data key = .program (.deposit deposit) → deposit.mint = default →
    ¬ deposit.state.Final → rt.minimumBalance depositSpace + deposit.amount ≤ w.lamports key

/-- The deposit's escrow, at the address derived for it, holds at least the recorded amount of
the recorded mint. -/
def Backed (rt : Runtime Key) (w : World Key) (key : Key) (deposit : Deposit Key) : Prop :=
  ∃ escrow bump account,
    rt.findProgramAddress (Seeds.escrow key).list = some (escrow, bump) ∧
    w.data escrow = .token account ∧ account.mint = deposit.mint ∧ account.owner = key ∧
    deposit.amount ≤ account.amount ∧ 0 < w.lamports escrow

/-- The tokens of every unpaid deposit of tokens are in its escrow. -/
def TokensHeld [Inhabited Key] (rt : Runtime Key) (w : World Key) : Prop :=
  ∀ key deposit, w.data key = .program (.deposit deposit) → deposit.mint ≠ default →
    ¬ deposit.state.Final → Backed rt w key deposit

/-- The mint of a token deposit withholds nothing from the deposited amount, at the time when it
is deposited. -/
def Feeless [Inhabited Key] (w : World Key) (event : Event Key) : Prop :=
  ∀ opening, event.opening = some opening → opening.escrow ≠ none →
    ∀ mint, mintAt w opening.mint = some mint → mint.fee opening.args.amount = 0

instance [Inhabited Key] (w : World Key) (event : Event Key) : Decidable (Feeless w event) :=
  let withheld (opening : Opening Key) : Nat :=
    match opening.escrow, mintAt w opening.mint with
    | some _, some mint => mint.fee opening.args.amount
    | _, _ => 0
  match opened : event.opening with
  | none => isTrue (fun _ same => by simp [opened] at same)
  | some opening => decidable_of_iff (withheld opening = 0) (by
      cases escrow : opening.escrow <;> cases stored : mintAt w opening.mint <;>
        simp [Feeless, opened, withheld, escrow, stored])

variable [Inhabited Key] {rt : Runtime Key} {w w' : World Key} {event : Event Key}

/-- A new deposit of tokens is covered exactly when the mint withholds nothing: what arrives is
the amount less the fee. -/
theorem Opened.backed_iff {ctx : Context Key} {opening : Opening Key} {vault : Vault Key}
    {record : Deposit Key} (spec : Opened rt ctx opening vault record w w')
    (tokens : opening.escrow ≠ none) :
    Backed rt w' opening.deposit record ↔
      ∀ mint, mintAt w opening.mint = some mint → mint.fee opening.args.amount = 0 := by
  obtain ⟨positive, _, _, filled⟩ := (new_deposit_ok_iff ..).mp spec.accepted
  obtain ⟨escrow, named⟩ := Option.ne_none_iff_exists'.mp tokens
  have escrowed := spec.escrowed
  rw [Escrowed, named] at escrowed
  obtain ⟨mint, bump, account, stored, derived, _, token, sameMint, owner, received, funded⟩ :=
    escrowed
  have amount : record.amount = opening.args.amount := by rw [filled]
  have minted : record.mint = opening.mint := by rw [filled]
  constructor
  · rintro ⟨other, _, held, derived', token', _, _, covered, _⟩ mint' stored'
    obtain ⟨rfl, _⟩ := Prod.mk.inj (Option.some.inj (derived.symm.trans derived'))
    obtain rfl : account = held := by simpa [token] using token'
    obtain rfl : mint = mint' := by simpa [stored] using mint_at_iff.mp stored'
    have bound := mint.fee_le opening.args.amount
    omega
  · intro feeless
    have fee := feeless mint (mint_at_iff.mpr stored)
    exact ⟨escrow, bump, account, derived, token, by rw [sameMint, minted], owner, by omega, funded⟩

variable [DecidableEq Key]

/-- A step keeps the lamports of unpaid deposits: they are debited by their own payout only,
which ends them. -/
theorem lamports_held_step (lawful : Lawful rt) (sound : Sound rt w) (held : LamportsHeld rt w)
    (step : Step rt w event w') : LamportsHeld rt w' := by
  intro key deposit found lamports unpaid
  have effect := step_effect lawful step
  cases deposit_change effect found with
  | @opened ctx instruction opening vault record view here spec =>
    obtain ⟨_, _, _, filled⟩ := (new_deposit_ok_iff ..).mp spec.accepted
    have amount : deposit.amount = opening.args.amount := by rw [filled]
    have escrowed := spec.escrowed
    rw [Escrowed, (spec.lamports_iff sound).mpr lamports] at escrowed
    rw [← here, amount]
    exact escrowed.2
  | attested here spec =>
    subst here
    obtain ⟨pending, _, _, _, rfl⟩ := (attest_handler_ok_iff ..).mp spec.handled
    have before := held _ _ spec.at_deposit lamports (by simp [DepositState.Final, pending])
    rw [spec.saved, World.lamports_set_data]
    exact before
  | paid view here spec => exact absurd (due_final spec.due) unpaid
  | kept before spared =>
    exact (held key deposit before lamports unpaid).trans
      (deposit_credited effect before spared.unpaid)

/-- An escrow that covers its deposit still does after a step that does not pay it. -/
theorem Backed.kept (sound : Sound rt w) (effect : Effect rt w event w') {key : Key}
    {before after : Deposit Key} (backed : Backed rt w key before)
    (found : w.data key = .program (.deposit before)) (unpaid : ¬ event.Pays key)
    (terms : before.SameTerms after) : Backed rt w' key after := by
  obtain ⟨escrow, bump, account, derived, token, mint, owner, covered, funded⟩ := backed
  obtain ⟨grown, amount, atLeast, token'⟩ :=
    token_credited sound effect found unpaid token owner (.inr funded)
  rw [terms]
  exact ⟨escrow, bump, _, derived, token', mint, owner, covered.trans atLeast,
    lt_of_lt_of_le funded grown⟩

/-- A step without a fee keeps the tokens of unpaid deposits: their escrows are debited by their
own payout only. -/
theorem tokens_held_step (lawful : Lawful rt) (sound : Sound rt w) (held : TokensHeld rt w)
    (step : Step rt w event w') (feeless : Feeless w event) : TokensHeld rt w' := by
  intro key deposit found tokens unpaid
  have effect := step_effect lawful step
  have change := deposit_change effect found
  cases change with
  | @opened ctx instruction opening vault record view here spec =>
    have escrowed : opening.escrow ≠ none :=
      fun unnamed => tokens ((spec.lamports_iff sound).mp unnamed)
    exact here ▸ (spec.backed_iff escrowed).mpr (feeless opening view escrowed)
  | attested here spec =>
    have at_key := here ▸ spec.at_deposit
    have terms := (DepositChange.attested here spec).same_terms at_key
    obtain ⟨pending, _⟩ := (attest_handler_ok_iff ..).mp spec.handled
    have before :=
      held _ _ at_key (by rwa [terms] at tokens) (by simp [DepositState.Final, pending])
    exact before.kept sound effect at_key (by simp [Event.Pays, Event.payout, Instruction.payout])
      terms
  | paid view here spec => exact absurd (due_final spec.due) unpaid
  | kept before spared =>
    exact (held key deposit before tokens unpaid).kept sound effect before spared.unpaid (.refl _)

/-- Every reachable world holds the lamports of its unpaid deposits. -/
theorem Reached.lamports_held (lawful : Lawful rt) {events : List (Event Key)}
    (reached : Reached rt events w) : LamportsHeld rt w := by
  obtain ⟨start, genesis, run⟩ := reached
  have initial : LamportsHeld rt start := fun key _ stored => absurd stored (genesis.vacant key _)
  have preserved : ∀ before event after, Sound rt before → LamportsHeld rt before →
      Step rt before event after → LamportsHeld rt after := fun _ _ _ => lamports_held_step lawful
  exact run_invariant lawful preserved (genesis_sound genesis) initial run

/-- A run without fees holds the tokens of the unpaid deposits. -/
theorem run_tokens_held (lawful : Lawful rt) {start : World Key} (genesis : Genesis start)
    {events : List (Event Key)} (run : Run (Guarded (Step rt) Feeless) start events w) :
    TokensHeld rt w := by
  have initial : TokensHeld rt start := fun key _ stored => absurd stored (genesis.vacant key _)
  have sound : ∀ before event after, Sound rt before →
      Guarded (Step rt) Feeless before event after → Sound rt after :=
    fun _ _ _ sound taken => sound_step lawful sound taken.1
  have preserved : ∀ before event after, Sound rt before → TokensHeld rt before →
      Guarded (Step rt) Feeless before event after → TokensHeld rt after :=
    fun _ _ _ sound held taken => tokens_held_step lawful sound held taken.1 taken.2
  exact run.invariant_within sound preserved (genesis_sound genesis) initial

omit [DecidableEq Key] [Inhabited Key] in
/-- The escrow that is found for a covered deposit holds the amount. -/
theorem Backed.held {key : Key} {deposit : Deposit Key} (backed : Backed rt w key deposit)
    {escrow : Key} {bump : UInt8}
    (found : rt.findProgramAddress (Seeds.escrow key).list = some (escrow, bump)) :
    ∃ account, w.data escrow = .token account ∧ deposit.amount ≤ account.amount := by
  obtain ⟨other, _, account, derived, token, _, _, covered, _⟩ := backed
  obtain ⟨rfl, _⟩ := Prod.mk.inj (Option.some.inj (derived.symm.trans found))
  exact ⟨account, token, covered⟩

/-- In every run whose token deposits are of mints that withhold nothing from them,
every unpaid deposit of tokens is covered by its escrow, and no payout of it fails for
want of tokens: what the token program refuses is a transfer of the amount from an
account that holds it. A deposit of tokens is covered right after its creation only if
the mint withholds nothing.

Proof: covering is an invariant of such runs. A payout that fails in the token program
has asked for the amount from the escrow that is found for the deposit. -/
theorem token_escrow_solvent (lawful : Lawful rt) :
    (∀ start events w, Genesis start → Run (Guarded (Step rt) Feeless) start events w →
      ∀ key deposit, depositAt w key = some deposit → deposit.mint ≠ default →
        (deposit.state = .pending ∨ deposit.state = .approved ∨ deposit.state = .rejected) →
          Backed rt w key deposit ∧
          ∀ ctx instruction payout, instruction.payout = some payout → payout.deposit = key →
            exec rt ctx instruction w = .error .cpi →
            ∃ accounts signers decimals account,
              rt.transferChecked w accounts signers deposit.amount decimals = none ∧
              w.data accounts.source = .token account ∧ deposit.amount ≤ account.amount) ∧
    (∀ events w w' ctx instruction opening, Reached rt events w →
      exec rt ctx instruction w = .ok w' →
      instruction.opening = some opening → opening.escrow ≠ none →
        ∃ deposit, depositAt w' opening.deposit = some deposit ∧ deposit.mint ≠ default ∧
          deposit.state = .pending ∧
          (Backed rt w' opening.deposit deposit ↔ Feeless w (.call ctx instruction))) := by
  constructor
  · intro start events w genesis run key deposit found tokens unpaid
    have backed : Backed rt w key deposit := by
      apply run_tokens_held lawful genesis run key deposit (deposit_at_iff.mp found) tokens
      rcases unpaid with state | state | state <;> simp [DepositState.Final, state]
    refine ⟨backed, ?_⟩
    intro ctx instruction payout view here failed
    obtain ⟨other, accounts, signers, decimals, bump, stored, searched, refused⟩ :=
      payout_refused view failed
    rw [here] at stored searched
    obtain rfl : deposit = other := by simpa [deposit_at_iff.mp found] using stored
    obtain ⟨account, token, covered⟩ := backed.held searched
    exact ⟨accounts, signers, decimals, account, refused, token, covered⟩
  · intro events w w' ctx instruction opening reached executed view tokens
    obtain ⟨vault, record, spec⟩ := opened_of_exec lawful executed view
    obtain ⟨_, _, _, filled⟩ := (new_deposit_ok_iff ..).mp spec.accepted
    have pending : record.state = .pending := by rw [filled]
    have minted : record.mint ≠ default :=
      fun lamports => tokens ((spec.lamports_iff (reached.sound lawful)).mpr lamports)
    refine ⟨record, deposit_at_iff.mpr spec.saved, minted, pending,
      (spec.backed_iff tokens).trans ?_⟩
    constructor
    · intro feeless other same _
      obtain rfl : opening = other := by simpa [Event.opening, view] using same
      exact feeless
    · intro feeless
      exact feeless opening view tokens

/-- A deposit of tokens whose mint withholds no fee is covered when it is cleared. -/
theorem cleared_tokens_solvent : ∃ deposit,
    depositAt (Local.afterGuarded Feeless (Local.clearedTokens 500)) Local.depositKey =
      some deposit ∧
    deposit.state = .approved ∧
    Backed Local.runtime (Local.afterGuarded Feeless (Local.clearedTokens 500))
      Local.depositKey deposit := by
  obtain ⟨deposit, found, tokens, approved⟩ : ∃ deposit,
      depositAt (Local.afterGuarded Feeless (Local.clearedTokens 500)) Local.depositKey =
        some deposit ∧
        deposit.mint ≠ default ∧ deposit.state = .approved :=
    ⟨_, rfl, by decide +kernel, by decide +kernel⟩
  exact ⟨deposit, found, approved,
    ((token_escrow_solvent Local.runtime_lawful).1 _ _ _ Local.start_genesis
      (Local.guarded_run (by decide +kernel)) _ _ found tokens (.inr (.inl approved))).1⟩

/-- A deposit of tokens whose mint withholds a tenth. -/
def shortTokens : List (Event Address) :=
  [Local.openVault Local.oracles 2, Local.depositWithFee 1001 1000]

/-- Its escrow holds 900 of the recorded 1000 tokens, and after its expiry the refund
fails. -/
theorem fee_leaves_escrow_short :
    Reached Local.runtime shortTokens (Local.after shortTokens) ∧
    depositAt (Local.after shortTokens) Local.depositKey =
      some (Local.fresh 1001 (.wallet 20) 1000) ∧
    (tokenAt (Local.after shortTokens) Local.escrowKey).map TokenAccount.amount = some 900 ∧
    ¬ Backed Local.runtime (Local.after shortTokens) Local.depositKey
      (Local.fresh 1001 (.wallet 20) 1000) ∧
    (exec Local.runtime (Local.context 5000) Local.refundWithFee
      (Local.after shortTokens)).isOk = false := by
  have held :
      (tokenAt (Local.after shortTokens) Local.escrowKey).map TokenAccount.amount = some 900 := by
    decide +kernel
  refine ⟨Local.after_reached (by decide +kernel), by decide +kernel, held, ?_, by decide +kernel⟩
  rintro ⟨escrow, bump, account, derived, token, _, _, covered, _⟩
  have found : Local.runtime.findProgramAddress (Seeds.escrow Local.depositKey).list =
      some (Local.escrowKey, 255) := by decide +kernel
  obtain ⟨rfl, _⟩ := Prod.mk.inj (Option.some.inj (found.symm.trans derived))
  have amount : account.amount = 900 := by simpa [token_at_iff.mpr token] using held
  have recorded : (Local.fresh 1001 (.wallet 20) 1000).amount = 1000 := rfl
  omega

end GPay.Quarantine
