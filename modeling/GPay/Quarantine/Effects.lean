import GPay.Quarantine.Machine

/-!
# What each call does

A successful call is read back into its checks and its effect on the world, here
for the calls that create accounts and for votes. The two deposit instructions
share one description.

Creation fills an empty address and debits its payer where lamports are missing,
which is an empty system account then; no account of the program and no token
account under the authority of another address loses anything.
-/

namespace GPay.Quarantine

open Solana Runs

variable {Key : Type}

section Success

variable {ε α β : Type}

/-- A sequence succeeds when its parts do. -/
@[simp] theorem bind_ok_iff (first : Except ε α) (rest : α → Except ε β) (result : β) :
    (first >>= rest) = .ok result ↔ ∃ value, first = .ok value ∧ rest value = .ok result := by
  cases first with
  | error error => simp [bind, Except.bind]
  | ok value => simp [bind, Except.bind]

/-- A computation that only returns a value succeeds with that value. -/
@[simp] theorem pure_ok_iff (value result : α) :
    (pure value : Except ε α) = .ok result ↔ value = result := by
  simp [pure, Except.pure]

/-- A check succeeds exactly when its condition holds; the rest of a handler then runs as if the
check were not there. -/
@[simp] theorem check_ok_iff (condition : Prop) [Decidable condition] (error : Error)
    (result : Unit) :
    check condition error = .ok result ↔ condition := by
  unfold check
  split <;> simp_all

/-- `require!` of the program's own errors is such a check. -/
@[simp] theorem require_ok_iff (condition : Prop) [Decidable condition] (error : VaultError)
    (result : Unit) : require condition error = .ok result ↔ condition :=
  check_ok_iff _ _ _

/-- `ok_or` succeeds with the value that is there. -/
@[simp] theorem ok_or_ok_iff (value : Option α) (error : Error) (result : α) :
    okOr value error = .ok result ↔ value = some result := by
  unfold okOr
  split <;> simp

/-- A vault can be loaded exactly where one is stored. -/
@[simp] theorem load_vault_ok_iff (w : World Key) (key : Key) (vault : Vault Key) :
    loadVault w key = .ok vault ↔ w.data key = .program (.vault vault) := by
  rw [loadVault, ok_or_ok_iff, vault_at_iff]

/-- A deposit can be loaded exactly where one is stored. -/
@[simp] theorem load_deposit_ok_iff (w : World Key) (key : Key) (deposit : Deposit Key) :
    loadDeposit w key = .ok deposit ↔ w.data key = .program (.deposit deposit) := by
  rw [loadDeposit, ok_or_ok_iff, deposit_at_iff]

/-- A mint can be loaded exactly where one is stored. -/
@[simp] theorem load_mint_ok_iff (w : World Key) (key : Key) (mint : Mint) :
    loadMint w key = .ok mint ↔ w.data key = .mint mint := by
  rw [loadMint, ok_or_ok_iff, mint_at_iff]

/-- A token account can be loaded exactly where one is stored. -/
@[simp] theorem load_token_ok_iff (w : World Key) (key : Key) (account : TokenAccount Key) :
    loadToken w key = .ok account ↔ w.data key = .token account := by
  rw [loadToken, ok_or_ok_iff, token_at_iff]

variable [DecidableEq Key]

/-- A `Signer` account is one that has signed the transaction. -/
@[simp] theorem signer_ok_iff (ctx : Context Key) (key : Key) (result : Unit) :
    signer ctx key = .ok result ↔ key ∈ ctx.signers :=
  check_ok_iff _ _ _

/-- A `mut` account is one that the transaction may write. -/
@[simp] theorem writable_ok_iff (ctx : Context Key) (key : Key) (result : Unit) :
    writable ctx key = .ok result ↔ key ∈ ctx.writable :=
  check_ok_iff _ _ _

/-- The constraint on seeds with a stored bump holds exactly when these derive the address. -/
@[simp] theorem derived_ok_iff (rt : Runtime Key) (key : Key) (seeds : Seeds Key) (bump : UInt8)
    (result : Unit) : derived rt key seeds bump = .ok result ↔
      rt.createProgramAddress seeds.list bump = some key :=
  check_ok_iff _ _ _

/-- The constraint on seeds without a bump holds exactly of the address that the search finds,
and yields the bump it was found with. -/
@[simp] theorem canonical_ok_iff (rt : Runtime Key) (key : Key) (seeds : Seeds Key) (bump : UInt8) :
    canonical rt key seeds = .ok bump ↔ rt.findProgramAddress seeds.list = some (key, bump) := by
  simp only [canonical, bind_ok_iff, ok_or_ok_iff, check_ok_iff, pure_ok_iff]
  constructor
  · rintro ⟨⟨found, search⟩, searched, _, rfl, rfl⟩
    exact searched
  · intro searched
    exact ⟨(key, bump), searched, (), rfl, rfl⟩

/-- A vault is written back exactly when its record fits the account; the account keeps its
balance. -/
@[simp] theorem save_vault_ok_iff (w w' : World Key) (key : Key) (vault : Vault Key) :
    saveVault w key vault = .ok w' ↔
      8 + vault.borshLen ≤ vaultSpace ∧ w.setData key (.program (.vault vault)) = w' := by
  simp only [saveVault, bind_ok_iff, check_ok_iff, pure_ok_iff, exists_const]

/-- A deposit is written back exactly when its record fits the account; the account keeps its
balance. -/
@[simp] theorem save_deposit_ok_iff (w w' : World Key) (key : Key) (deposit : Deposit Key) :
    saveDeposit w key deposit = .ok w' ↔
      8 + deposit.borshLen ≤ depositSpace ∧ w.setData key (.program (.deposit deposit)) = w' := by
  simp only [saveDeposit, bind_ok_iff, check_ok_iff, pure_ok_iff, exists_const]

/-- The checked lamport payout is a move that the source covers and the target
can hold, the target's balance being the one left by the debit. -/
@[simp] theorem pay_lamports_ok_iff (w w' : World Key) (source target : Key) (amount : Nat) :
    payLamports w source target amount = .ok w' ↔
      amount ≤ w.lamports source ∧
        (w.setLamports source (w.lamports source - amount)).lamports target + amount ≤ u64Max ∧
        w.move source target amount = w' := by
  simp only [payLamports, bind_ok_iff, ok_or_ok_iff, pure_ok_iff, checkedSub, checkedAdd,
    Option.ite_none_right_eq_some, Option.some.injEq]
  constructor
  · rintro ⟨_, ⟨covered, rfl⟩, _, ⟨fits, rfl⟩, rfl⟩
    exact ⟨covered, fits, rfl⟩
  · rintro ⟨covered, fits, rfl⟩
    exact ⟨_, ⟨covered, rfl⟩, _, ⟨fits, rfl⟩, rfl⟩

end Success

section Failure

variable {ε α β : Type}

/-- A sequence fails in its first part or in the rest. -/
@[simp] theorem bind_error_iff (first : Except ε α) (rest : α → Except ε β) (error : ε) :
    (first >>= rest) = .error error ↔
      first = .error error ∨ ∃ value, first = .ok value ∧ rest value = .error error := by
  cases first with
  | error raised => simp [bind, Except.bind]
  | ok value => simp [bind, Except.bind]

/-- What is done behind a computation does not change its error. -/
@[simp] theorem map_error_iff (first : Except ε α) (after : α → β) (error : ε) :
    after <$> first = .error error ↔ first = .error error := by
  cases first <;> simp [Functor.map, Except.map]

/-- A check fails exactly when its condition does, with the error that it names. -/
@[simp] theorem check_error_iff (condition : Prop) [Decidable condition] (raised error : Error) :
    check condition raised = .error error ↔ ¬ condition ∧ raised = error := by
  by_cases holds : condition <;> simp [check, holds]

/-- `require!` fails with the program's own error, wrapped as Anchor returns it. -/
@[simp] theorem require_error_iff (condition : Prop) [Decidable condition] (raised : VaultError)
    (error : Error) :
    require condition raised = .error error ↔ ¬ condition ∧ .vault raised = error :=
  check_error_iff _ _ _

/-- `ok_or` fails exactly when there is no value. -/
@[simp] theorem ok_or_error_iff (value : Option α) (raised error : Error) :
    okOr value raised = .error error ↔ value = none ∧ raised = error := by
  cases value <;> simp [okOr]

variable {w : World Key} {key : Key} {error : Error}

/-- Where no vault is stored Anchor finds the account not initialized. Other contents are not
told apart from no account. -/
@[simp] theorem load_vault_error_iff :
    loadVault w key = .error error ↔ vaultAt w key = none ∧ .accountNotInitialized = error :=
  ok_or_error_iff _ _ _

/-- Where no deposit is stored Anchor finds the account not initialized. -/
@[simp] theorem load_deposit_error_iff :
    loadDeposit w key = .error error ↔ depositAt w key = none ∧ .accountNotInitialized = error :=
  ok_or_error_iff _ _ _

/-- Where no mint is stored Anchor finds the account not initialized. -/
@[simp] theorem load_mint_error_iff :
    loadMint w key = .error error ↔ mintAt w key = none ∧ .accountNotInitialized = error :=
  ok_or_error_iff _ _ _

/-- Where no token account is stored Anchor finds the account not initialized. -/
@[simp] theorem load_token_error_iff :
    loadToken w key = .error error ↔ tokenAt w key = none ∧ .accountNotInitialized = error :=
  ok_or_error_iff _ _ _

variable [DecidableEq Key] {rt : Runtime Key} {ctx : Context Key}

/-- A `Signer` that has not signed is refused with its own error. -/
@[simp] theorem signer_error_iff :
    signer ctx key = .error error ↔ key ∉ ctx.signers ∧ .accountNotSigner = error :=
  check_error_iff _ _ _

/-- A `mut` account that the transaction may not write is refused with its own error. -/
@[simp] theorem writable_error_iff :
    writable ctx key = .error error ↔ key ∉ ctx.writable ∧ .constraintMut = error :=
  check_error_iff _ _ _

/-- Seeds that do not derive the address break their constraint. -/
@[simp] theorem derived_error_iff {seeds : Seeds Key} {bump : UInt8} :
    derived rt key seeds bump = .error error ↔
      rt.createProgramAddress seeds.list bump ≠ some key ∧ .constraintSeeds = error :=
  check_error_iff _ _ _

/-- A record that outgrows its account cannot be serialized into it. -/
@[simp] theorem save_vault_error_iff {vault : Vault Key} :
    saveVault w key vault = .error error ↔
      ¬ 8 + vault.borshLen ≤ vaultSpace ∧ .accountDidNotSerialize = error := by
  simp [saveVault]

/-- A record that outgrows its account cannot be serialized into it. -/
@[simp] theorem save_deposit_error_iff {deposit : Deposit Key} :
    saveDeposit w key deposit = .error error ↔
      ¬ 8 + deposit.borshLen ≤ depositSpace ∧ .accountDidNotSerialize = error := by
  simp [saveDeposit]

/-- Neither a payment of lamports nor a bump search calls another program. -/
theorem pay_lamports_alone {source target : Key} {amount : Nat} :
    payLamports w source target amount ≠ .error .cpi := by
  simp [payLamports]

/-- The search for a bump calls no other program, and so never fails as such a call does. -/
theorem canonical_alone {seeds : Seeds Key} : canonical rt key seeds ≠ .error .cpi := by
  simp [canonical]

end Failure

/-- A vault accepts an oracle list of at most sixteen entries and a threshold
between one and its length. -/
theorem initialize_handler_ok_iff (bump : UInt8) (authority : Key) (oracleSet : List Key)
    (minAttestations : Nat) (vault : Vault Key) :
    InitializeVault.handler bump authority oracleSet minAttestations = .ok vault ↔
      oracleSet.length ≤ maxOracles ∧ 1 ≤ minAttestations ∧ minAttestations ≤ oracleSet.length ∧
        vault = ⟨bump, authority, oracleSet, minAttestations, false, 0⟩ := by
  simp only [InitializeVault.handler, bind_ok_iff, require_ok_iff, pure_ok_iff, exists_const,
    and_assoc, @eq_comm _ vault]

/-- The record of an accepted deposit. -/
theorem new_deposit_ok_iff (args : DepositArgs Key) (bump : UInt8) (vault mint depositor : Key)
    (now : Int) (deposit : Deposit Key) :
    newDeposit args bump vault mint depositor now = .ok deposit ↔
      0 < args.amount ∧ minExpireSeconds ≤ args.expireSeconds ∧
        args.expireSeconds ≤ maxExpireSeconds ∧
        deposit = ⟨bump, vault, args.stealthPubkey, args.ephemeralR, args.viewTag, mint,
          args.amount, depositor, args.refundAddr, args.releaseAuthority, now,
          saturatingAddI64 now args.expireSeconds, .pending, [], 0, 0⟩ := by
  simp only [newDeposit, bind_ok_iff, require_ok_iff, pure_ok_iff, exists_const, and_assoc,
    @eq_comm _ deposit]

/-- The states and times at which the refunds' `match` allows a refund. -/
theorem refundable_iff (deposit : Deposit Key) (now : Int) :
    (refundable deposit now).2 = true ↔
      deposit.state = .rejected ∨ deposit.state = .expired ∨
        (deposit.state = .pending ∧ deposit.expireAt ≤ now) := by
  unfold refundable
  split
  · simp_all
  · split <;> simp_all
  · simp_all
  · simp_all

/-- The `match` changes no field but the state, which is overwritten later. -/
theorem refundable_record (deposit : Deposit Key) (now : Int) :
    ∃ state, (refundable deposit now).1 = { deposit with state } := by
  unfold refundable
  split
  · exact ⟨deposit.state, rfl⟩
  · split
    · exact ⟨.expired, rfl⟩
    · exact ⟨deposit.state, rfl⟩
  · exact ⟨deposit.state, rfl⟩
  · exact ⟨deposit.state, rfl⟩

variable [DecidableEq Key]

/-- What a successful creation leaves: the new account with its rent, less lamports of
the payer at most if that is an empty account, and everything else as it was. -/
theorem create_effect {rt : Runtime Key} (lawful : Lawful rt) {w w' : World Key} {payer key : Key}
    {space : Nat} {data : Data Key (Content Key)}
    (created : rt.create w payer key space data = some w') :
    (∀ content, w.data payer ≠ .program content) ∧ w.data key = .system ∧
      (∀ other, w'.data other = if other = key then data else w.data other) ∧
      (∀ other, w.data other ≠ .system ∨ other ≠ payer → w.lamports other ≤ w'.lamports other) ∧
      rt.minimumBalance space ≤ w'.lamports key := by
  obtain ⟨distinct, funds, unowned, empty, rfl⟩ := lawful.create_allocates _ _ _ _ _ _ created
  refine ⟨unowned, empty, by simp, ?_, ?_⟩
  · intro other kept
    rw [World.lamports_set_data]
    by_cases missing : w.lamports key < rt.minimumBalance space
    · have different : other ≠ payer :=
        kept.elim (fun stored same => stored (same ▸ funds missing)) id
      exact World.lamports_le_move w payer key other _ different
    · -- Nothing is missing, and a move of nothing changes no balance.
      rw [Nat.sub_eq_zero_of_le (Nat.le_of_not_lt missing), World.lamports_move w distinct]
      split
      · simp_all
      · split <;> simp_all
  · rw [World.lamports_set_data, World.lamports_move w distinct, if_pos rfl]
    omega

/-- A deposit with one more vote: the vote is recorded and counted, and the state follows the
counters. The dirty threshold is tested first. -/
def Deposit.voted (deposit : Deposit Key) (threshold : Nat) (attestation : Attestation Key) :
    Deposit Key :=
  let cleanCount := if attestation.verdict = .clean then saturatingAdd 255 deposit.cleanCount 1
    else deposit.cleanCount
  let dirtyCount := if attestation.verdict = .dirty then saturatingAdd 255 deposit.dirtyCount 1
    else deposit.dirtyCount
  { deposit with
    attestations := deposit.attestations ++ [attestation]
    cleanCount, dirtyCount
    state := if threshold ≤ dirtyCount then .rejected
      else if threshold ≤ cleanCount then .approved else deposit.state }

/-- A vote is taken on a pending deposit before it expires, from a listed oracle
that has not voted yet. -/
theorem attest_handler_ok_iff (vault : Vault Key) (deposit after : Deposit Key) (oracleKey : Key)
    (now : Int) (verdict : AmlVerdict) (evidenceHash : Bytes32) :
    Attest.handler vault deposit oracleKey now verdict evidenceHash = .ok after ↔
      deposit.state = .pending ∧ oracleKey ∈ vault.oracleSet ∧
        (∀ attestation ∈ deposit.attestations, attestation.oracle ≠ oracleKey) ∧
        now < deposit.expireAt ∧
        after = deposit.voted vault.minAttestations ⟨oracleKey, verdict, now, evidenceHash⟩ := by
  simp only [Attest.handler, bind_ok_iff, require_ok_iff, exists_const, List.any_eq_true,
    List.all_eq_true, decide_eq_true_eq, exists_eq_right, @eq_comm _ after]
  cases verdict with
  | clean =>
    by_cases defeated : vault.minAttestations ≤ deposit.dirtyCount
    · simp [Deposit.voted, defeated]
    · by_cases carried : vault.minAttestations ≤ saturatingAdd 255 deposit.cleanCount 1
      · simp [Deposit.voted, defeated, carried]
      · simp [Deposit.voted, defeated, carried]
  | dirty =>
    by_cases defeated : vault.minAttestations ≤ saturatingAdd 255 deposit.dirtyCount 1
    · simp [Deposit.voted, defeated]
    · by_cases carried : vault.minAttestations ≤ deposit.cleanCount
      · simp [Deposit.voted, defeated, carried]
      · simp [Deposit.voted, defeated, carried]

/-- `initialize_vault` turned an empty address, the one that is derived from the signing
authority, into a vault with the oracles and the threshold that were given and accepted. -/
structure Initialized (rt : Runtime Key) (ctx : Context Key) (accounts : InitializeVault Key)
    (oracleSet : List Key) (minAttestations : Nat) (vault : Vault Key) (w w' : World Key) :
    Prop where
  signed : accounts.authority ∈ ctx.signers
  found : rt.findProgramAddress (Seeds.vault accounts.authority).list =
    some (accounts.vault, vault.bump)
  empty : w.data accounts.vault = .system
  payer : ∀ content, w.data accounts.authority ≠ .program content
  accepted : oracleSet.length ≤ maxOracles ∧ 1 ≤ minAttestations ∧
    minAttestations ≤ oracleSet.length
  filled : vault = ⟨vault.bump, accounts.authority, oracleSet, minAttestations, false, 0⟩
  data : ∀ key, w'.data key =
    if key = accounts.vault then .program (.vault vault) else w.data key
  lamports : ∀ key, w.data key ≠ .system → w.lamports key ≤ w'.lamports key
  rent : rt.minimumBalance vaultSpace ≤ w'.lamports accounts.vault

/-- `attest` recorded a vote on a pending deposit: all checks on its accounts were passed, the
handler accepted the vote, the record still fits its account, and nothing else has changed. -/
structure Attested (rt : Runtime Key) (ctx : Context Key) (accounts : Attest Key)
    (verdict : AmlVerdict) (evidenceHash : Bytes32) (vault : Vault Key) (before after : Deposit Key)
    (w w' : World Key) : Prop where
  signed : accounts.oracle ∈ ctx.signers
  at_vault : w.data accounts.vault = .program (.vault vault)
  at_deposit : w.data accounts.deposit = .program (.deposit before)
  vault_derived : rt.createProgramAddress (Seeds.vault vault.authority).list vault.bump =
    some accounts.vault
  running : vault.paused = false
  derived : rt.createProgramAddress
    (Seeds.deposit accounts.vault before.stealthPubkey before.ephemeralR).list before.bump =
      some accounts.deposit
  writable : accounts.deposit ∈ ctx.writable
  handled : Attest.handler vault before accounts.oracle ctx.now verdict evidenceHash = .ok after
  fits : 8 + after.borshLen ≤ depositSpace
  saved : w' = w.setData accounts.deposit (.program (.deposit after))

/-- A call of `attest` succeeds exactly when its accounts pass their checks, its handler accepts
the vote, and the record fits. -/
theorem attest_ok_iff (rt : Runtime Key) (ctx : Context Key) (accounts : Attest Key)
    (verdict : AmlVerdict) (evidenceHash : Bytes32) (w w' : World Key) :
    attest rt ctx accounts verdict evidenceHash w = .ok w' ↔
      ∃ vault before after,
        Attested rt ctx accounts verdict evidenceHash vault before after w w' := by
  simp only [attest, bind_ok_iff, signer_ok_iff, load_vault_ok_iff, load_deposit_ok_iff,
    derived_ok_iff, require_ok_iff, writable_ok_iff, save_deposit_ok_iff, exists_const]
  constructor
  · rintro ⟨signed, vault, atVault, before, atDeposit, vaultDerived, running, depositDerived,
      writable, after, handled, fits, rfl⟩
    exact ⟨vault, before, after, signed, atVault, atDeposit, vaultDerived, running, depositDerived,
      writable, handled, fits, rfl⟩
  · rintro ⟨vault, before, after, spec⟩
    exact ⟨spec.signed, vault, spec.at_vault, before, spec.at_deposit, spec.vault_derived,
      spec.running, spec.derived, spec.writable, after, spec.handled, spec.fits, spec.saved.symm⟩

variable [Inhabited Key]

/-- What a successful `initialize_vault` has checked and done. -/
theorem initialize_vault_ok {rt : Runtime Key} (lawful : Lawful rt) {ctx : Context Key}
    {accounts : InitializeVault Key} {oracleSet : List Key} {minAttestations : Nat}
    {w w' : World Key}
    (executed : initializeVault rt ctx accounts oracleSet minAttestations w = .ok w') :
    ∃ vault, Initialized rt ctx accounts oracleSet minAttestations vault w w' := by
  simp only [initializeVault, bind_ok_iff, signer_ok_iff, canonical_ok_iff, ok_or_ok_iff,
    writable_ok_iff, save_vault_ok_iff, initialize_handler_ok_iff, exists_const] at executed
  obtain ⟨signed, bump, found, allocated, created, _, _, vault, ⟨few, positive, reachable, rfl⟩, _,
    rfl⟩ := executed
  obtain ⟨payer, empty, data, lamports, rent⟩ := create_effect lawful created
  refine ⟨⟨bump, accounts.authority, oracleSet, minAttestations, false, 0⟩, signed, found, empty,
    payer, ⟨few, positive, reachable⟩, rfl, ?_, ?_, ?_⟩
  · intro key
    rw [World.data_set_data, data]
    split <;> rfl
  · intro key owned
    simpa using lamports key (.inl owned)
  · simpa using rent

/-- Where a new deposit's funds are: on the deposit account above its rent, or on
a new token account under the deposit's authority, less what the mint withheld. -/
def Escrowed (rt : Runtime Key) (opening : Opening Key) (w w' : World Key) : Prop :=
  match opening.escrow with
  | none =>
      opening.mint = default ∧
        rt.minimumBalance depositSpace + opening.args.amount ≤ w'.lamports opening.deposit
  | some escrow =>
      ∃ mint bump account,
        w.data opening.mint = .mint mint ∧
        rt.findProgramAddress (Seeds.escrow opening.deposit).list = some (escrow, bump) ∧
        w.data escrow = .system ∧ w'.data escrow = .token account ∧
        account.mint = opening.mint ∧ account.owner = opening.deposit ∧
        account.amount = opening.args.amount - mint.fee opening.args.amount ∧
        0 < w'.lamports escrow

/-- `deposit` or `deposit_token` turned an empty address into a deposit: what was checked, what
is stored, and what the call cannot have done to the accounts of others. -/
structure Opened (rt : Runtime Key) (ctx : Context Key) (opening : Opening Key) (vault : Vault Key)
    (record : Deposit Key) (w w' : World Key) : Prop where
  signed : opening.depositor ∈ ctx.signers
  writable : opening.deposit ∈ ctx.writable ∧ opening.depositor ∈ ctx.writable
  at_vault : w.data opening.vault = .program (.vault vault)
  vault_derived : rt.createProgramAddress (Seeds.vault vault.authority).list vault.bump =
    some opening.vault
  running : vault.paused = false
  found : rt.findProgramAddress
    (Seeds.deposit opening.vault opening.args.stealthPubkey opening.args.ephemeralR).list =
      some (opening.deposit, record.bump)
  empty : w.data opening.deposit = .system
  payer : ∀ content, w.data opening.depositor ≠ .program content
  accepted :
    newDeposit opening.args record.bump opening.vault opening.mint opening.depositor ctx.now =
      .ok record
  saved : w'.data opening.deposit = .program (.deposit record)
  counted : w'.data opening.vault = .program (.vault vault.counted)
  kept : ∀ key content, key ≠ opening.deposit → key ≠ opening.vault →
    (w'.data key = .program content ↔ w.data key = .program content)
  lamports : ∀ key content, w.data key = .program content → w.lamports key ≤ w'.lamports key
  rent : rt.minimumBalance depositSpace ≤ w'.lamports opening.deposit
  custody : ∀ key account, w.data key = .token account → account.owner ≠ opening.depositor →
    w'.data key = .token account ∧ w.lamports key ≤ w'.lamports key
  mints : ∀ key mint, w'.data key = .mint mint → w.data key = .mint mint
  escrowed : Escrowed rt opening w w'

/-- A successful `deposit`. The depositor is an empty account and so is not the
deposit it pays for. -/
theorem deposit_ok {rt : Runtime Key} (lawful : Lawful rt) {ctx : Context Key}
    {accounts : MakeDeposit Key} {args : DepositArgs Key} {w w' : World Key}
    (executed : deposit rt ctx accounts args w = .ok w') :
    ∃ vault record, Opened rt ctx
      ⟨accounts.depositor, accounts.vault, accounts.deposit, default, none, args⟩
      vault record w w' := by
  simp only [deposit, bind_ok_iff, signer_ok_iff, load_vault_ok_iff, canonical_ok_iff, ok_or_ok_iff,
    writable_ok_iff, derived_ok_iff, require_ok_iff, save_vault_ok_iff, save_deposit_ok_iff,
    exists_const, MakeDeposit.handler] at executed
  obtain ⟨signed, vault, atVault, bump, found, allocated, created, writes, debits, vaultDerived, _,
    running, record, accepted, funded, transferred, counted, ⟨_, rfl⟩, _, rfl⟩ := executed
  obtain ⟨payer, empty, data, lamports, rent⟩ := create_effect lawful created
  obtain ⟨payerAfter, _, rfl⟩ := lawful.transfer_moves _ _ _ _ _ transferred
  have distinct : accounts.depositor ≠ accounts.deposit := by
    intro same
    simp [data, same] at payerAfter
  have payerEmpty : w.data accounts.depositor = .system := by
    simpa [data, distinct] using payerAfter
  have apart : accounts.vault ≠ accounts.deposit := World.apart atVault empty (by simp)
  have sameBump : record.bump = bump := by
    obtain ⟨_, _, _, rfl⟩ := (new_deposit_ok_iff ..).mp accepted
    rfl
  subst sameBump
  have credited : ∀ key, w.data key ≠ .system →
      w.lamports key ≤
        (allocated.move accounts.depositor accounts.deposit args.amount).lamports key := by
    intro key stored
    have different : key ≠ accounts.depositor := fun same => stored (same ▸ payerEmpty)
    exact (lamports key (.inl stored)).trans (World.lamports_le_move _ _ _ _ _ different)
  have escrowed : rt.minimumBalance depositSpace + args.amount ≤
      (allocated.move accounts.depositor accounts.deposit args.amount).lamports
        accounts.deposit := by
    rw [World.lamports_move _ distinct, if_pos rfl]
    omega
  refine ⟨vault, record, {
    signed, writable := ⟨writes, debits⟩, at_vault := atVault, vault_derived := vaultDerived
    running, found, empty, payer, accepted
    saved := by simp
    counted := by simp [apart]
    kept := by simp +contextual [data]
    lamports := ?_
    rent := by simpa using le_trans (Nat.le_add_right _ _) escrowed
    custody := ?_
    mints := ?_
    escrowed := by simpa [Escrowed] using escrowed }⟩
  · intro key content owned
    simpa using credited key (by simp [owned])
  · intro key account token _
    have notDeposit : key ≠ accounts.deposit := World.apart token empty (by simp)
    have notVault : key ≠ accounts.vault := World.apart token atVault (by simp)
    exact ⟨by simpa [data, notDeposit, notVault] using token,
      by simpa using credited key (by simp [token])⟩
  · intro key mint stored
    by_cases atDeposit : key = accounts.deposit
    · simp [atDeposit] at stored
    · by_cases atVaultKey : key = accounts.vault
      · simp [atVaultKey, apart] at stored
      · simpa [data, atDeposit, atVaultKey] using stored

/-- What a token deposit leaves before its record is stored. The record's account and
the escrow were empty and have their rent, the tokens are in the escrow, and accounts
other than these two and the source keep their data. -/
structure Funded (rt : Runtime Key) (accounts : DepositToken Key) (amount : Nat) (mint : Mint)
    (w funded : World Key) : Prop where
  payer : ∀ content, w.data accounts.depositor ≠ .program content
  empty : w.data accounts.deposit = .system
  escrow_empty : w.data accounts.escrowTokenAccount = .system
  escrow_apart : accounts.escrowTokenAccount ≠ accounts.deposit
  escrow : funded.data accounts.escrowTokenAccount =
    .token ⟨accounts.tokenProgram, accounts.mint, accounts.deposit, amount - mint.fee amount⟩
  escrow_rent : 0 < funded.lamports accounts.escrowTokenAccount
  source : ∃ remaining, funded.data accounts.depositorTokenAccount = .token remaining
  elsewhere : ∀ key, key ≠ accounts.deposit → key ≠ accounts.escrowTokenAccount →
    key ≠ accounts.depositorTokenAccount → funded.data key = w.data key
  lamports : ∀ key, w.data key ≠ .system ∨ key ≠ accounts.depositor →
    key ≠ accounts.depositorTokenAccount → w.lamports key ≤ funded.lamports key
  rent : rt.minimumBalance depositSpace ≤ funded.lamports accounts.deposit

omit [Inhabited Key] in
/-- The two creations and the transfer do this. The escrow was empty and the source is
a token account, so the transfer is between distinct accounts. -/
theorem deposit_funded {rt : Runtime Key} (lawful : Lawful rt) {accounts : DepositToken Key}
    {amount : Nat} {signers : List Key} {mint : Mint} {source : TokenAccount Key}
    {record : Data Key (Content Key)} {w allocated opened funded : World Key}
    (atMint : w.data accounts.mint = .mint mint)
    (atSource : w.data accounts.depositorTokenAccount = .token source)
    (created : rt.create w accounts.depositor accounts.deposit depositSpace record = some allocated)
    (escrowCreated : rt.create allocated accounts.depositor accounts.escrowTokenAccount
      mint.accountLen
      (.token ⟨accounts.tokenProgram, accounts.mint, accounts.deposit, 0⟩) = some opened)
    (transferred : rt.transferChecked opened ⟨accounts.tokenProgram, accounts.depositorTokenAccount,
      accounts.mint, accounts.escrowTokenAccount, accounts.depositor⟩ signers amount mint.decimals =
        some funded) (fresh : record ≠ .system) : Funded rt accounts amount mint w funded := by
  obtain ⟨payer, empty, data, lamports, rent⟩ := create_effect lawful created
  obtain ⟨_, escrowEmptied, escrowData, escrowLamports, escrowRent⟩ :=
    create_effect lawful escrowCreated
  have escrowApart : accounts.escrowTokenAccount ≠ accounts.deposit := by
    intro same
    rw [data, if_pos same] at escrowEmptied
    exact fresh escrowEmptied
  have escrowEmpty : w.data accounts.escrowTokenAccount = .system := by
    simpa [data, escrowApart] using escrowEmptied
  have sourceApart : accounts.depositorTokenAccount ≠ accounts.escrowTokenAccount :=
    World.apart atSource escrowEmpty (by simp)
  have sourceNotDeposit : accounts.depositorTokenAccount ≠ accounts.deposit :=
    World.apart atSource empty (by simp)
  obtain ⟨moved, before, target, spec⟩ :=
    lawful.transfer_checked _ _ _ _ _ _ sourceApart transferred
  have sameMint : moved = mint := by
    have stored := spec.at_mint
    have notDeposit : accounts.mint ≠ accounts.deposit := World.apart atMint empty (by simp)
    have notEscrow : accounts.mint ≠ accounts.escrowTokenAccount :=
      World.apart atMint escrowEmpty (by simp)
    simpa [escrowData, data, notDeposit, notEscrow, atMint] using stored.symm
  have sameTarget : target = ⟨accounts.tokenProgram, accounts.mint, accounts.deposit, 0⟩ := by
    simpa [escrowData] using spec.at_target.symm
  subst sameMint sameTarget
  have topped := escrowLamports accounts.deposit (.inl (by simpa [data] using fresh))
  have rentKept := spec.lamports_kept accounts.deposit sourceNotDeposit.symm
  have escrowKept := spec.lamports_kept accounts.escrowTokenAccount sourceApart.symm
  have positive := lawful.rent_positive moved.accountLen
  exact {
    payer, empty
    escrow_empty := escrowEmpty
    escrow_apart := escrowApart
    escrow := by simp [spec.moved]
    escrow_rent := by omega
    source := ⟨_, by rw [spec.moved, if_neg sourceApart, if_pos rfl]⟩
    elsewhere := by
      intro key notDeposit notEscrow notSource
      rw [spec.moved]
      simp [notEscrow, notSource, escrowData, data, notDeposit]
    lamports := by
      intro key kept notSource
      have still : allocated.data key ≠ .system ∨ key ≠ accounts.depositor := by
        refine kept.imp_left fun stored => ?_
        have notDeposit : key ≠ accounts.deposit := fun same => stored (same ▸ empty)
        simpa [data, notDeposit] using stored
      exact (lamports key kept).trans
        ((escrowLamports key still).trans (spec.lamports_kept key notSource))
    rent := by omega }

omit [DecidableEq Key] [Inhabited Key] in
/-- What is neither empty nor a token account, and is not the record, is untouched. -/
theorem Funded.untouched {rt : Runtime Key} {accounts : DepositToken Key} {amount : Nat}
    {mint : Mint} {source : TokenAccount Key} {w funded : World Key}
    (spec : Funded rt accounts amount mint w funded)
    (atSource : w.data accounts.depositorTokenAccount = .token source) {key : Key}
    (notDeposit : key ≠ accounts.deposit) {data : Data Key (Content Key)} (present : data ≠ .system)
    (noToken : ∀ account, data ≠ .token account) :
    funded.data key = data ↔ w.data key = data := by
  by_cases atEscrow : key = accounts.escrowTokenAccount
  · rw [atEscrow, spec.escrow, spec.escrow_empty]
    exact iff_of_false (noToken _).symm present.symm
  · by_cases atSourceKey : key = accounts.depositorTokenAccount
    · obtain ⟨remaining, spent⟩ := spec.source
      rw [atSourceKey, spent, atSource]
      exact iff_of_false (noToken _).symm (noToken _).symm
    · rw [spec.elsewhere key notDeposit atEscrow atSourceKey]

/-- A successful `deposit_token` opens a deposit as `deposit` does: the record is stored and
counted, whatever the transfer of the tokens has come to. -/
theorem deposit_token_ok {rt : Runtime Key} (lawful : Lawful rt) {ctx : Context Key}
    {accounts : DepositToken Key} {args : DepositArgs Key} {w w' : World Key}
    (executed : depositToken rt ctx accounts args w = .ok w') :
    ∃ vault record, Opened rt ctx
      ⟨accounts.depositor, accounts.vault, accounts.deposit, accounts.mint,
        some accounts.escrowTokenAccount, args⟩ vault record w w' := by
  simp only [depositToken, bind_ok_iff, signer_ok_iff, load_vault_ok_iff, load_mint_ok_iff,
    load_token_ok_iff, canonical_ok_iff, ok_or_ok_iff, writable_ok_iff, derived_ok_iff,
    require_ok_iff, check_ok_iff, save_vault_ok_iff, save_deposit_ok_iff, exists_const,
    DepositToken.handler] at executed
  obtain ⟨signed, vault, atVault, mint, atMint, source, atSource, bump, found, allocated, created,
    writes, escrowBump, escrowFound, opened, escrowCreated, _, debits, vaultDerived, _, running, _,
    sourceMint, sourceOwner, record, accepted, funded, transferred, counted, ⟨_, rfl⟩, _,
    rfl⟩ := executed
  have spec : Funded rt accounts args.amount mint w funded :=
    deposit_funded lawful atMint atSource created escrowCreated transferred (by simp)
  have apart : accounts.vault ≠ accounts.deposit := World.apart atVault spec.empty (by simp)
  have vaultNotEscrow : accounts.vault ≠ accounts.escrowTokenAccount :=
    World.apart atVault spec.escrow_empty (by simp)
  have sameBump : record.bump = bump := by
    obtain ⟨_, _, _, rfl⟩ := (new_deposit_ok_iff ..).mp accepted
    rfl
  subst sameBump
  refine ⟨vault, record, {
    signed, writable := ⟨writes, debits⟩, at_vault := atVault, vault_derived := vaultDerived
    running, found, empty := spec.empty, payer := spec.payer, accepted
    saved := by simp
    counted := by simp [apart]
    kept := ?_
    lamports := ?_
    rent := by simpa using spec.rent
    custody := ?_
    mints := ?_
    escrowed := ?_ }⟩
  · intro key content notDeposit notVault
    simp only [World.data_set_data, notDeposit, notVault, if_false]
    exact spec.untouched atSource notDeposit (by simp) (by simp)
  · intro key content owned
    have notSource : key ≠ accounts.depositorTokenAccount := World.apart owned atSource (by simp)
    simpa using spec.lamports key (.inl (by simp [owned])) notSource
  · intro key account token owner
    have notDeposit : key ≠ accounts.deposit := World.apart token spec.empty (by simp)
    have notVault : key ≠ accounts.vault := World.apart token atVault (by simp)
    have notEscrow : key ≠ accounts.escrowTokenAccount :=
      World.apart token spec.escrow_empty (by simp)
    have notSource : key ≠ accounts.depositorTokenAccount := by
      intro same
      rw [same, atSource] at token
      have sameAccount : source = account := by simpa using token
      exact owner (sameAccount ▸ sourceOwner)
    refine ⟨?_, by simpa using spec.lamports key (.inl (by simp [token])) notSource⟩
    simpa [notDeposit, notVault, spec.elsewhere key notDeposit notEscrow notSource] using token
  · intro key stored held
    by_cases atDeposit : key = accounts.deposit
    · simp [atDeposit] at held
    · by_cases atVaultKey : key = accounts.vault
      · simp [atVaultKey, apart] at held
      · simp only [World.data_set_data, atDeposit, atVaultKey, if_false] at held
        exact (spec.untouched atSource atDeposit (by simp) (by simp)).mp held
  · refine ⟨mint, escrowBump,
      ⟨accounts.tokenProgram, accounts.mint, accounts.deposit, args.amount - mint.fee args.amount⟩,
      atMint, escrowFound, spec.escrow_empty, ?_, rfl, rfl, rfl, ?_⟩
    · simpa [spec.escrow_apart, vaultNotEscrow.symm] using spec.escrow
    · simpa using spec.escrow_rent

end GPay.Quarantine
