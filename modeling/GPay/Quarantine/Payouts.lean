import GPay.Quarantine.Effects

/-!
# What each payout does, and the six effects

The four payouts share one description: the deposit account gives lamports or its
escrow gives tokens, and the deposit ends in the state the payout names. With the
effects of the other calls this describes every step of the program, and later
invariants are proved by these six cases without looking inside an instruction.

The description says what a payout debits. Whether that is what the deposit
recorded is a question for the results built on it.
-/

namespace GPay.Quarantine

open Solana Runs

variable {Key : Type} [DecidableEq Key]

/-- What a payout requires of the deposit's state, by the state it leaves: a release an approval
and the signature of the release authority, a refund that the deposit is refundable at the
time. -/
inductive Due (ctx : Context Key) (deposit : Deposit Key) : DepositState → Prop
  | released (approved : deposit.state = .approved)
      (signed : deposit.releaseAuthority ∈ ctx.signers) :
      Due ctx deposit .released
  | refunded (allowed : (refundable deposit ctx.now).2 = true) : Due ctx deposit .refunded

/-- What leaves the deposit: lamports of its own account, or tokens of its escrow, which may
withhold a fee from the target. -/
def Paid (rt : Runtime Key) (payout : Payout Key) (deposit : Deposit Key) (w w' : World Key) :
    Prop :=
  match payout.escrow with
  | none =>
      deposit.amount ≤ w.lamports payout.deposit ∧
      (∀ key, w'.lamports key = (w.move payout.deposit payout.target deposit.amount).lamports key) ∧
      (∀ key, key ≠ payout.deposit → w'.data key = w.data key)
  | some escrow =>
      ∃ mint bump source,
        w.data deposit.mint = .mint mint ∧
        rt.findProgramAddress (Seeds.escrow payout.deposit).list = some (escrow, bump) ∧
        w.data escrow = .token source ∧ source.mint = deposit.mint ∧ source.owner = payout.deposit ∧
        deposit.amount ≤ source.amount ∧
        w'.data escrow = .token { source with amount := source.amount - deposit.amount } ∧
        (0 < w.lamports escrow → 0 < w'.lamports escrow)

/-- One of the four payouts ended a deposit: what was checked, what is stored, how the amount was
paid, and what the call cannot have done to the accounts of others. -/
structure PaidOut (rt : Runtime Key) (ctx : Context Key) (payout : Payout Key) (vault : Vault Key)
    (deposit : Deposit Key) (w w' : World Key) : Prop where
  at_vault : w.data payout.vault = .program (.vault vault)
  at_deposit : w.data payout.deposit = .program (.deposit deposit)
  vault_derived : rt.createProgramAddress (Seeds.vault vault.authority).list vault.bump =
    some payout.vault
  derived : rt.createProgramAddress
    (Seeds.deposit payout.vault deposit.stealthPubkey deposit.ephemeralR).list deposit.bump =
      some payout.deposit
  due : Due ctx deposit payout.outcome
  saved : w'.data payout.deposit = .program (.deposit { deposit with state := payout.outcome })
  kept : ∀ key content, key ≠ payout.deposit →
    (w'.data key = .program content ↔ w.data key = .program content)
  lamports : ∀ key content, w.data key = .program content →
    (key ≠ payout.deposit ∨ payout.escrow ≠ none) → w.lamports key ≤ w'.lamports key
  custody : ∀ key account, w.data key = .token account → payout.escrow ≠ some key →
    w.lamports key ≤ w'.lamports key ∧
      ∃ amount, account.amount ≤ amount ∧ w'.data key = .token { account with amount }
  mints : ∀ key mint, w'.data key = .mint mint → w.data key = .mint mint
  paid : Paid rt payout deposit w w'

/-- The lamport payouts, checks and all: `release` and `refund` share these, and differ in who
signs and in whom they may pay. The converse holds as well: where all this is so, the payout
succeeds. -/
structure LamportPayout (rt : Runtime Key) (ctx : Context Key) (payout : Payout Key)
    (vault : Vault Key) (deposit : Deposit Key) (w w' : World Key) : Prop where
  lamports : payout.escrow = none
  at_vault : w.data payout.vault = .program (.vault vault)
  at_deposit : w.data payout.deposit = .program (.deposit deposit)
  vault_derived : rt.createProgramAddress (Seeds.vault vault.authority).list vault.bump =
    some payout.vault
  derived : rt.createProgramAddress
    (Seeds.deposit payout.vault deposit.stealthPubkey deposit.ephemeralR).list deposit.bump =
      some payout.deposit
  writable : payout.deposit ∈ ctx.writable ∧ payout.target ∈ ctx.writable
  due : Due ctx deposit payout.outcome
  covered : deposit.amount ≤ w.lamports payout.deposit
  fits : (w.setLamports payout.deposit (w.lamports payout.deposit - deposit.amount)).lamports
    payout.target + deposit.amount ≤ u64Max
  space : 8 + deposit.borshLen ≤ depositSpace
  saved : w' = (w.move payout.deposit payout.target deposit.amount).setData payout.deposit
    (.program (.deposit { deposit with state := payout.outcome }))

/-- A lamport payout is one of the payouts: it debits the deposit account and touches no token
account. -/
theorem LamportPayout.paid_out {rt : Runtime Key} {ctx : Context Key} {payout : Payout Key}
    {vault : Vault Key} {deposit : Deposit Key} {w w' : World Key}
    (spec : LamportPayout rt ctx payout vault deposit w w') :
    PaidOut rt ctx payout vault deposit w w' := by
  obtain ⟨lamportsPaid, atVault, atDeposit, vaultDerived, derived, _, due, covered, _, _, rfl⟩ :=
    spec
  refine {
    at_vault := atVault, at_deposit := atDeposit, vault_derived := vaultDerived, derived, due
    saved := by simp
    kept := by simp +contextual
    lamports := ?_
    custody := ?_
    mints := ?_
    paid := ?_ }
  · intro key content _ elsewhere
    have different : key ≠ payout.deposit :=
      elsewhere.resolve_right (fun escrow => escrow lamportsPaid)
    simpa using World.lamports_le_move w payout.deposit payout.target key deposit.amount different
  · intro key account token _
    have different : key ≠ payout.deposit := World.apart token atDeposit (by simp)
    refine ⟨?_, account.amount, le_refl _, by simpa [different] using token⟩
    simpa using World.lamports_le_move w payout.deposit payout.target key deposit.amount different
  · intro key mint held
    by_cases same : key = payout.deposit
    · simp [same] at held
    · simpa [same] using held
  · simp +contextual [Paid, lamportsPaid, covered]

/-- The token payouts, from the checks they share to the transfer they make, which the token
program has accepted. -/
structure TokenPayout (rt : Runtime Key) (ctx : Context Key) (payout : Payout Key)
    (vault : Vault Key) (deposit : Deposit Key) (escrow : Key) (w w' : World Key) : Prop where
  tokens : payout.escrow = some escrow
  distinct : escrow ≠ payout.target
  at_vault : w.data payout.vault = .program (.vault vault)
  at_deposit : w.data payout.deposit = .program (.deposit deposit)
  vault_derived : rt.createProgramAddress (Seeds.vault vault.authority).list vault.bump =
    some payout.vault
  derived : rt.createProgramAddress
    (Seeds.deposit payout.vault deposit.stealthPubkey deposit.ephemeralR).list deposit.bump =
      some payout.deposit
  found : ∃ bump, rt.findProgramAddress (Seeds.escrow payout.deposit).list = some (escrow, bump)
  due : Due ctx deposit payout.outcome
  transferred : ∃ program decimals signers paid, rt.transferChecked w
    ⟨program, escrow, deposit.mint, payout.target, payout.deposit⟩ signers deposit.amount decimals =
      some paid ∧
    w' = paid.setData payout.deposit (.program (.deposit { deposit with state := payout.outcome }))

/-- A token payout debits the escrow by exactly the amount, as the target is
another account. -/
theorem TokenPayout.paid_out {rt : Runtime Key} (lawful : Lawful rt) {ctx : Context Key}
    {payout : Payout Key} {vault : Vault Key} {deposit : Deposit Key} {escrow : Key}
    {w w' : World Key} (spec : TokenPayout rt ctx payout vault deposit escrow w w') :
    PaidOut rt ctx payout vault deposit w w' := by
  obtain ⟨tokensPaid, distinct, atVault, atDeposit, vaultDerived, derived, ⟨bump, found⟩, due,
    program, decimals, signers, paid, transferred, rfl⟩ := spec
  obtain ⟨mint, source, target, moved⟩ :=
    lawful.transfer_checked _ _ _ _ _ _ distinct transferred
  have atSource : w.data escrow = .token source := moved.at_source
  have atTarget : w.data payout.target = .token target := moved.at_target
  have escrowApart : escrow ≠ payout.deposit := World.apart atSource atDeposit (by simp)
  have targetApart : payout.target ≠ payout.deposit := World.apart atTarget atDeposit (by simp)
  refine {
    at_vault := atVault, at_deposit := atDeposit, vault_derived := vaultDerived, derived, due
    saved := by simp
    kept := ?_
    lamports := ?_
    custody := ?_
    mints := ?_
    paid := ?_ }
  · intro key content different
    simp only [World.data_set_data, different, if_false]
    exact moved.untouched (by simp)
  · intro key content owned _
    have notEscrow : key ≠ escrow := World.apart owned atSource (by simp)
    simpa using moved.lamports_kept key notEscrow
  · intro key account token other
    have notEscrow : key ≠ escrow := fun same => other (same ▸ tokensPaid)
    have different : key ≠ payout.deposit := World.apart token atDeposit (by simp)
    refine ⟨by simpa using moved.lamports_kept key notEscrow, ?_⟩
    by_cases same : key = payout.target
    · have sameAccount : account = target := by simpa [same, atTarget] using token.symm
      subst sameAccount same
      exact ⟨account.amount + (deposit.amount - mint.fee deposit.amount), Nat.le_add_right _ _,
        by simp [targetApart, moved.moved]⟩
    · exact ⟨account.amount, le_refl _,
        by simpa [different, moved.moved, same, notEscrow] using token⟩
  · intro key held stored
    by_cases same : key = payout.deposit
    · simp [same] at stored
    · simp only [World.data_set_data, same, if_false] at stored
      exact (moved.untouched (by simp)).mp stored
  · rw [Paid, tokensPaid]
    refine ⟨mint, bump, source, moved.at_mint, found, atSource, moved.source_mint, moved.authorized,
      moved.covered, ?_, ?_⟩
    · simp [escrowApart, moved.moved, distinct]
    · simpa using moved.rent_kept

section Frame

variable {rt : Runtime Key} {w w' : World Key}

/-- Apart from the record at the address and the escrow, the program's records are
as before and nothing it keeps is debited. -/
structure Framed (w w' : World Key) (key : Key) (escrow : Option Key) : Prop where
  records : ∀ other content, other ≠ key →
    (w'.data other = .program content ↔ w.data other = .program content)
  lamports : ∀ other content, other ≠ key → w.data other = .program content →
    w.lamports other ≤ w'.lamports other
  tokens : ∀ other account, escrow ≠ some other → w.data other = .token account →
    w.lamports other ≤ w'.lamports other ∧
      ∃ amount, account.amount ≤ amount ∧ w'.data other = .token { account with amount }

/-- A vote changes the deposit's record and nothing else. -/
theorem Attested.framed {ctx : Context Key} {accounts : Attest Key} {verdict : AmlVerdict}
    {evidenceHash : Bytes32} {vault : Vault Key} {before after : Deposit Key}
    (spec : Attested rt ctx accounts verdict evidenceHash vault before after w w') :
    Framed w w' accounts.deposit none where
  records := by
    intro other content different
    simp [spec.saved, different]
  lamports := by
    intro other content _ _
    simp [spec.saved]
  tokens := by
    intro other account _ token
    have different : other ≠ accounts.deposit := World.apart token spec.at_deposit (by simp)
    exact ⟨by simp [spec.saved], account.amount, le_refl _,
      by simpa [spec.saved, different] using token⟩

/-- A payout changes the deposit's record and debits the deposit or its escrow. -/
theorem PaidOut.framed {ctx : Context Key} {payout : Payout Key} {vault : Vault Key}
    {deposit : Deposit Key} (spec : PaidOut rt ctx payout vault deposit w w') :
    Framed w w' payout.deposit payout.escrow where
  records := fun other content different => spec.kept other content different
  lamports := fun other content different owned =>
    spec.lamports other content owned (.inl different)
  tokens := fun other account different token => spec.custody other account token different

/-- The tokens a payout debits are under the authority of its own deposit. -/
theorem PaidOut.owner {ctx : Context Key} {payout : Payout Key} {vault : Vault Key}
    {deposit : Deposit Key} (spec : PaidOut rt ctx payout vault deposit w w') {escrow : Key}
    {account : TokenAccount Key} (debited : payout.escrow = some escrow)
    (token : w.data escrow = .token account) : account.owner = payout.deposit := by
  have paid := spec.paid
  rw [Paid, debited] at paid
  obtain ⟨_, _, source, _, _, atSource, _, owner, _⟩ := paid
  obtain rfl : account = source := by simpa [token] using atSource
  exact owner

end Frame

section Calls

variable {rt : Runtime Key} {ctx : Context Key} {w w' : World Key}

/-- `release` succeeds exactly on an approved deposit, signed by its release
authority, whose account holds the amount. -/
theorem release_ok_iff {accounts : Release Key} :
    release rt ctx accounts w = .ok w' ↔
      ∃ vault deposit, deposit.releaseAuthority = accounts.releaseAuthority ∧
        accounts.releaseAuthority ∈ ctx.writable ∧
        LamportPayout rt ctx ⟨accounts.vault, accounts.deposit, none, accounts.target, .released⟩
          vault deposit w w' := by
  simp only [release, bind_ok_iff, signer_ok_iff, load_vault_ok_iff, load_deposit_ok_iff,
    writable_ok_iff, derived_ok_iff, require_ok_iff, pay_lamports_ok_iff, save_deposit_ok_iff,
    exists_const]
  constructor
  · rintro ⟨signed, vault, atVault, deposit, atDeposit, authorityWritable, vaultDerived, derived,
      writable, approved, authorized, targetWritable, _, ⟨covered, fits, rfl⟩, space, rfl⟩
    exact ⟨vault, deposit, authorized, authorityWritable, rfl, atVault, atDeposit, vaultDerived,
      derived, ⟨writable, targetWritable⟩, .released approved (authorized ▸ signed), covered, fits,
      space, rfl⟩
  · rintro ⟨vault, deposit, authorized, authorityWritable, spec⟩
    obtain ⟨_, atVault, atDeposit, vaultDerived, derived, ⟨writable, targetWritable⟩, due, covered,
      fits, space, rfl⟩ := spec
    cases due with
    | released approved signed =>
      exact ⟨authorized ▸ signed, vault, atVault, deposit, atDeposit, authorityWritable,
        vaultDerived, derived, writable, approved, authorized, targetWritable, _,
        ⟨covered, fits, rfl⟩, space, rfl⟩

/-- `refund` succeeds exactly on a rejected or expired deposit whose account holds
the amount, to its refund address. -/
theorem refund_ok_iff {accounts : Refund Key} :
    refund rt ctx accounts w = .ok w' ↔
      ∃ vault deposit, accounts.caller ∈ ctx.signers ∧ accounts.caller ∈ ctx.writable ∧
        accounts.refundTarget = deposit.refundAddr ∧
        LamportPayout rt ctx
          ⟨accounts.vault, accounts.deposit, none, accounts.refundTarget, .refunded⟩
          vault deposit w w' := by
  simp only [refund, bind_ok_iff, signer_ok_iff, load_vault_ok_iff, load_deposit_ok_iff,
    writable_ok_iff, derived_ok_iff, require_ok_iff, pay_lamports_ok_iff, save_deposit_ok_iff,
    exists_const]
  constructor
  · rintro ⟨signed, vault, atVault, deposit, atDeposit, callerWritable, vaultDerived, derived,
      writable, targetWritable, allowed, target, _, ⟨covered, fits, rfl⟩, space, rfl⟩
    obtain ⟨state, record⟩ := refundable_record deposit ctx.now
    rw [record] at target covered fits space ⊢
    exact ⟨vault, deposit, signed, callerWritable, target, rfl, atVault, atDeposit, vaultDerived,
      derived, ⟨writable, targetWritable⟩, .refunded allowed, covered, fits, space, rfl⟩
  · rintro ⟨vault, deposit, signed, callerWritable, target, spec⟩
    obtain ⟨_, atVault, atDeposit, vaultDerived, derived, ⟨writable, targetWritable⟩, due, covered,
      fits, space, rfl⟩ := spec
    cases due with
    | refunded allowed =>
      obtain ⟨state, record⟩ := refundable_record deposit ctx.now
      refine ⟨signed, vault, atVault, deposit, atDeposit, callerWritable, vaultDerived, derived,
        writable, targetWritable, allowed, ?_⟩
      rw [record]
      exact ⟨target, _, ⟨covered, fits, rfl⟩, space, rfl⟩

/-- A successful `release_token`. -/
theorem release_token_ok {accounts : ReleaseToken Key}
    (executed : releaseToken rt ctx accounts w = .ok w') :
    ∃ vault deposit, TokenPayout rt ctx
      ⟨accounts.vault, accounts.deposit, some accounts.escrowTokenAccount,
        accounts.targetTokenAccount, .released⟩ vault deposit accounts.escrowTokenAccount w w' := by
  simp only [releaseToken, bind_ok_iff, signer_ok_iff, load_vault_ok_iff, load_deposit_ok_iff,
    load_mint_ok_iff, load_token_ok_iff, check_ok_iff, canonical_ok_iff, writable_ok_iff,
    derived_ok_iff, require_ok_iff, save_deposit_ok_iff, payTokens, ok_or_ok_iff, exists_const]
    at executed
  obtain ⟨signed, vault, atVault, deposit, atDeposit, mint, atMint, escrow, atEscrow, target,
    atTarget, distinct, _, vaultDerived, derived, _, approved, authorized, sameMint, bump, found, _,
    _, _, _, _, _, paid, transferred, _, rfl⟩ := executed
  rw [← sameMint] at transferred
  exact ⟨vault, deposit, rfl, distinct, atVault, atDeposit, vaultDerived, derived, ⟨bump, found⟩,
    .released approved (authorized ▸ signed), _, _, _, paid, transferred, rfl⟩

/-- A successful `refund_token`. -/
theorem refund_token_ok {accounts : RefundToken Key}
    (executed : refundToken rt ctx accounts w = .ok w') :
    ∃ vault deposit, TokenPayout rt ctx
      ⟨accounts.vault, accounts.deposit, some accounts.escrowTokenAccount,
        accounts.refundTargetTokenAccount, .refunded⟩
      vault deposit accounts.escrowTokenAccount w w' := by
  simp only [refundToken, bind_ok_iff, signer_ok_iff, load_vault_ok_iff, load_deposit_ok_iff,
    load_mint_ok_iff, load_token_ok_iff, check_ok_iff, canonical_ok_iff, writable_ok_iff,
    derived_ok_iff, require_ok_iff, save_deposit_ok_iff, payTokens, ok_or_ok_iff, exists_const]
    at executed
  obtain ⟨_, vault, atVault, deposit, atDeposit, mint, atMint, escrow, atEscrow, target, atTarget,
    distinct, _, vaultDerived, derived, _, sameMint, bump, found, _, _, _, _, _, _, _, allowed,
    paid, transferred, _, rfl⟩ := executed
  obtain ⟨state, record⟩ := refundable_record deposit ctx.now
  rw [record, ← sameMint] at transferred
  rw [record]
  exact ⟨vault, deposit, rfl, distinct, atVault, atDeposit, vaultDerived, derived, ⟨bump, found⟩,
    .refunded allowed, _, _, _, paid, transferred, rfl⟩

/-- A payout that fails in a program it calls has asked the token program for the amount of
its deposit, from the escrow that is found for the deposit, and was refused. -/
theorem payout_refused [Inhabited Key] {instruction : Instruction Key} {payout : Payout Key}
    (view : instruction.payout = some payout)
    (failed : exec rt ctx instruction w = .error .cpi) :
    ∃ deposit accounts signers decimals bump,
      w.data payout.deposit = .program (.deposit deposit) ∧
      rt.findProgramAddress (Seeds.escrow payout.deposit).list = some (accounts.source, bump) ∧
      rt.transferChecked w accounts signers deposit.amount decimals = none := by
  cases instruction with
  | release accounts => simp [exec, release, pay_lamports_alone] at failed
  | releaseToken accounts =>
    simp [exec, releaseToken, canonical_alone, payTokens] at failed
    obtain ⟨_, _, _, deposit, atDeposit, mint, _, _, _, _, _, _, _, _, _, _, _, _, _,
      ⟨bump, found⟩, _, _, _, _, _, _, refused⟩ := failed
    cases view
    exact ⟨deposit, _, _, _, bump, atDeposit, found, refused⟩
  | refund accounts => simp [exec, refund, pay_lamports_alone] at failed
  | refundToken accounts =>
    simp [exec, refundToken, canonical_alone, payTokens] at failed
    obtain ⟨_, _, _, deposit, atDeposit, mint, _, _, _, _, _, _, _, _, _, _, _, ⟨bump, found⟩, _,
      _, _, _, _, _, _, _, refused⟩ := failed
    obtain ⟨state, record⟩ := refundable_record deposit ctx.now
    rw [record] at refused
    cases view
    exact ⟨deposit, _, _, _, bump, atDeposit, found, refused⟩
  | initializeVault accounts oracleSet minAttestations => cases view
  | deposit accounts args => cases view
  | depositToken accounts args => cases view
  | attest accounts verdict evidenceHash => cases view

end Calls

variable [Inhabited Key]

/-- The six things a step can do: a call initializes a vault, opens a deposit, casts a vote or
pays a deposit out, and besides the calls there is what others do, and the collection of accounts
without lamports. -/
inductive Effect (rt : Runtime Key) (w : World Key) : Event Key → World Key → Prop
  | initialized {ctx : Context Key} {accounts : InitializeVault Key} {oracleSet : List Key}
      {minAttestations : Nat} {vault : Vault Key} {w' : World Key}
      (spec : Initialized rt ctx accounts oracleSet minAttestations vault w w') :
      Effect rt w (.call ctx (.initializeVault accounts oracleSet minAttestations)) w'
  | opened {ctx : Context Key} {instruction : Instruction Key} {opening : Opening Key}
      {vault : Vault Key} {record : Deposit Key} {w' : World Key}
      (view : instruction.opening = some opening) (spec : Opened rt ctx opening vault record w w') :
      Effect rt w (.call ctx instruction) w'
  | attested {ctx : Context Key} {accounts : Attest Key} {verdict : AmlVerdict}
      {evidenceHash : Bytes32} {vault : Vault Key} {before after : Deposit Key} {w' : World Key}
      (spec : Attested rt ctx accounts verdict evidenceHash vault before after w w') :
      Effect rt w (.call ctx (.attest accounts verdict evidenceHash)) w'
  | paid {ctx : Context Key} {instruction : Instruction Key} {payout : Payout Key}
      {vault : Vault Key} {deposit : Deposit Key} {w' : World Key}
      (view : instruction.payout = some payout) (spec : PaidOut rt ctx payout vault deposit w w') :
      Effect rt w (.call ctx instruction) w'
  | outside {w' : World Key} (bounded : Outside rt w w') : Effect rt w .outside w'
  | reaped : Effect rt w .reap w.reap

/-- Every step does one of the six things. From here on the invariants are about these, and no
handler is unfolded again. -/
theorem step_effect {rt : Runtime Key} (lawful : Lawful rt) {w w' : World Key} {event : Event Key}
    (step : Step rt w event w') : Effect rt w event w' := by
  cases step with
  | outside bounded => exact .outside bounded
  | reap => exact .reaped
  | @call _ ctx instruction executed =>
    cases instruction with
    | initializeVault accounts oracleSet minAttestations =>
      obtain ⟨vault, spec⟩ := initialize_vault_ok lawful executed
      exact .initialized spec
    | deposit accounts args =>
      obtain ⟨vault, record, spec⟩ := deposit_ok lawful executed
      exact .opened rfl spec
    | depositToken accounts args =>
      obtain ⟨vault, record, spec⟩ := deposit_token_ok lawful executed
      exact .opened rfl spec
    | attest accounts verdict evidenceHash =>
      obtain ⟨vault, before, after, spec⟩ := (attest_ok_iff ..).mp executed
      exact .attested spec
    | release accounts =>
      obtain ⟨vault, deposit, _, _, spec⟩ := release_ok_iff.mp executed
      exact .paid rfl spec.paid_out
    | releaseToken accounts =>
      obtain ⟨vault, deposit, spec⟩ := release_token_ok executed
      exact .paid rfl (spec.paid_out lawful)
    | refund accounts =>
      obtain ⟨vault, deposit, _, _, _, spec⟩ := refund_ok_iff.mp executed
      exact .paid rfl spec.paid_out
    | refundToken accounts =>
      obtain ⟨vault, deposit, spec⟩ := refund_token_ok executed
      exact .paid rfl (spec.paid_out lawful)

end GPay.Quarantine
