import GPay.Quarantine.State

/-!
# Instructions of the quarantine vault

Each instruction loads the accounts it names, runs the constraints of its account
structure, then its handler, and writes the accounts it changed back. Constraints
run in the order Anchor gives them: every account is loaded, `init` accounts are
created, and the others are checked field by field. An error anywhere rolls the
whole instruction back.

A transaction fixes the clock and says which addresses sign it and which it may
write, whereby the runtime never grants it to write a reserved address. The fixed
system program account is left out of the account structures.
-/

namespace GPay.Quarantine

open Solana

/-- What the transaction supplies besides the accounts of an instruction: the time, the keys that
have signed, and those that it asks to write. What the runtime lets it write may be less. -/
structure Context (Key : Type) where
  clock : Clock
  signers : List Key
  writable : List Key

/-- `Clock::get()?.unix_timestamp`. -/
def Context.now {Key : Type} (ctx : Context Key) : Int := ctx.clock.unixTimestamp

/-- What the program is shown of a transaction: reserved addresses are never marked as
writable, whatever its message asks for. -/
def Context.demoted {Key : Type} (rt : Runtime Key) (ctx : Context Key) : Context Key :=
  { ctx with writable := ctx.writable.filter (fun key => !rt.reserved key) }

/-- The context is one that the runtime shows to the program: what it may write contains no
reserved key. -/
def Context.Permitted {Key : Type} (rt : Runtime Key) (ctx : Context Key) : Prop :=
  ∀ key ∈ ctx.writable, rt.reserved key = false

section Demotion

variable {Key : Type} (rt : Runtime Key) (ctx : Context Key)

/-- Withholding leave to write leaves the clock as it is. -/
@[simp] theorem demoted_now : (ctx.demoted rt).now = ctx.now := rfl

/-- Withholding leave to write takes nobody's signature away. -/
@[simp] theorem demoted_signers : (ctx.demoted rt).signers = ctx.signers := rfl

/-- What is left to write is what was asked for and is not reserved. -/
@[simp] theorem mem_demoted (key : Key) :
    key ∈ (ctx.demoted rt).writable ↔ key ∈ ctx.writable ∧ rt.reserved key = false := by
  simp [Context.demoted]

/-- What is shown is permitted. -/
theorem demoted_permitted : (ctx.demoted rt).Permitted rt :=
  fun key listed => ((mem_demoted rt ctx key).mp listed).2

end Demotion

section Checks

variable {Key : Type} [DecidableEq Key]

/-- Fail with the error unless the condition holds. -/
def check (condition : Prop) [Decidable condition] (error : Error) : Except Error Unit :=
  if condition then .ok () else .error error

/-- `require!`, and constraints with an error of the program. -/
def require (condition : Prop) [Decidable condition] (error : VaultError) : Except Error Unit :=
  check condition (.vault error)

/-- `ok_or`. -/
def okOr {α : Type} (value : Option α) (error : Error) : Except Error α :=
  match value with
  | some value => .ok value
  | none => .error error

/-- `Signer<'info>`: the account has signed the transaction. -/
def signer (ctx : Context Key) (key : Key) : Except Error Unit :=
  check (key ∈ ctx.signers) .accountNotSigner

/-- `#[account(mut)]`: the transaction may write the account. -/
def writable (ctx : Context Key) (key : Key) : Except Error Unit :=
  check (key ∈ ctx.writable) .constraintMut

/-- `seeds = [..], bump = bump`: the stored bump must derive the given address. -/
def derived (rt : Runtime Key) (key : Key) (seeds : Seeds Key) (bump : UInt8) : Except Error Unit :=
  check (rt.createProgramAddress seeds.list bump = some key) .constraintSeeds

/-- `seeds = [..], bump`: the address must be the one found by the bump search. -/
def canonical (rt : Runtime Key) (key : Key) (seeds : Seeds Key) : Except Error UInt8 := do
  let found ← okOr (rt.findProgramAddress seeds.list) .constraintSeeds
  check (found.1 = key) .constraintSeeds
  return found.2

/-- `Account<'info, Vault>`: owned by the program, with the vault discriminator. -/
def loadVault (w : World Key) (key : Key) : Except Error (Vault Key) :=
  okOr (vaultAt w key) .accountNotInitialized

/-- `Account<'info, Deposit>`: owned by the program, with the deposit discriminator. -/
def loadDeposit (w : World Key) (key : Key) : Except Error (Deposit Key) :=
  okOr (depositAt w key) .accountNotInitialized

/-- `InterfaceAccount<'info, Mint>`: owned by one of the two token programs. -/
def loadMint (w : World Key) (key : Key) : Except Error Mint :=
  okOr (mintAt w key) .accountNotInitialized

/-- `InterfaceAccount<'info, TokenAccount>`: owned by one of the two token programs. -/
def loadToken (w : World Key) (key : Key) : Except Error (TokenAccount Key) :=
  okOr (tokenAt w key) .accountNotInitialized

/-- Write a vault back at the end of the instruction; it must fit in the space allotted to it. -/
def saveVault (w : World Key) (key : Key) (vault : Vault Key) : Except Error (World Key) := do
  check (8 + vault.borshLen ≤ vaultSpace) .accountDidNotSerialize
  return w.setData key (.program (.vault vault))

/-- Write a deposit back at the end of the instruction; it must fit in the space allotted to it,
or the whole call fails. -/
def saveDeposit (w : World Key) (key : Key) (deposit : Deposit Key) : Except Error (World Key) := do
  check (8 + deposit.borshLen ≤ depositSpace) .accountDidNotSerialize
  return w.setData key (.program (.deposit deposit))

end Checks

/-- The arguments of both deposit instructions: the announcement of the stealth address, the
amount, where a refund goes, who may release, and the seconds until the deposit expires. -/
structure DepositArgs (Key : Type) where
  stealthPubkey : Key
  ephemeralR : Bytes32
  viewTag : UInt8
  amount : Nat
  refundAddr : Key
  releaseAuthority : Key
  expireSeconds : Int

/-- The accounts of `initialize_vault`. The authority signs and pays for the vault's account. -/
structure InitializeVault (Key : Type) where
  authority : Key
  vault : Key

/-- The accounts of `deposit`. The depositor signs, pays for the deposit's account and funds
it. -/
structure MakeDeposit (Key : Type) where
  depositor : Key
  vault : Key
  deposit : Key

/-- The accounts of `deposit_token`. The escrow is created for the deposit, and the tokens move
there from the depositor's account through the token program. -/
structure DepositToken (Key : Type) where
  depositor : Key
  vault : Key
  deposit : Key
  mint : Key
  depositorTokenAccount : Key
  escrowTokenAccount : Key
  tokenProgram : TokenProgram

/-- The accounts of `attest`. Only the deposit is written. -/
structure Attest (Key : Type) where
  oracle : Key
  vault : Key
  deposit : Key

/-- The accounts of `release`. The target is any account that the transaction may write. -/
structure Release (Key : Type) where
  releaseAuthority : Key
  vault : Key
  deposit : Key
  target : Key

/-- The accounts of `release_token`. The tokens move from the escrow, which the deposit signs
for. -/
structure ReleaseToken (Key : Type) where
  releaseAuthority : Key
  vault : Key
  deposit : Key
  mint : Key
  escrowTokenAccount : Key
  targetTokenAccount : Key
  tokenProgram : TokenProgram

/-- The accounts of `refund`. Whoever signs, the target is checked against the deposit's refund
address. -/
structure Refund (Key : Type) where
  caller : Key
  vault : Key
  deposit : Key
  refundTarget : Key

/-- The accounts of `refund_token`. The target is a token account of the deposit's refund
address. -/
structure RefundToken (Key : Type) where
  caller : Key
  vault : Key
  deposit : Key
  mint : Key
  escrowTokenAccount : Key
  refundTargetTokenAccount : Key
  tokenProgram : TokenProgram

section Handlers

variable {Key : Type} [DecidableEq Key] [Inhabited Key]

/-- `initialize_vault::handler`: the account it fills in, once the number of oracles and the
threshold are found valid. -/
def InitializeVault.handler (bump : UInt8) (authority : Key) (oracleSet : List Key)
    (minAttestations : Nat) : Except Error (Vault Key) := do
  require (oracleSet.length ≤ maxOracles) .tooManyOracles
  require (1 ≤ minAttestations ∧ minAttestations ≤ oracleSet.length) .invalidThreshold
  return { bump, authority, oracleSet, minAttestations, paused := false, depositCount := 0 }

/-- The record both deposit handlers fill in, for the mint they store. The amount and the time to
the expiry are checked first, and the sum of the times saturates. -/
def newDeposit (args : DepositArgs Key) (bump : UInt8) (vault mint depositor : Key) (now : Int) :
    Except Error (Deposit Key) := do
  require (0 < args.amount) .invalidAmount
  require (minExpireSeconds ≤ args.expireSeconds ∧ args.expireSeconds ≤ maxExpireSeconds)
    .invalidExpiry
  return {
    bump, vault, mint, depositor
    stealthPubkey := args.stealthPubkey
    ephemeralR := args.ephemeralR
    viewTag := args.viewTag
    amount := args.amount
    refundAddr := args.refundAddr
    releaseAuthority := args.releaseAuthority
    createdAt := now
    expireAt := saturatingAddI64 now args.expireSeconds
    state := .pending
    attestations := []
    cleanCount := 0
    dirtyCount := 0 }

/-- `deposit::handler` up to its transfer. -/
def MakeDeposit.handler (accounts : MakeDeposit Key) (args : DepositArgs Key) (bump : UInt8)
    (now : Int) : Except Error (Deposit Key) :=
  newDeposit args bump accounts.vault default accounts.depositor now

/-- `deposit_token::handler` up to its transfer. -/
def DepositToken.handler (accounts : DepositToken Key) (args : DepositArgs Key) (bump : UInt8)
    (now : Int) : Except Error (Deposit Key) :=
  newDeposit args bump accounts.vault accounts.mint accounts.depositor now

/-- `vault.deposit_count = vault.deposit_count.saturating_add(1)`. -/
def Vault.counted (vault : Vault Key) : Vault Key :=
  { vault with depositCount := saturatingAdd u64Max vault.depositCount 1 }

/-- `attest::handler`: the vote is checked, recorded and counted. The dirty threshold is tested
first. -/
def Attest.handler (vault : Vault Key) (deposit : Deposit Key) (oracleKey : Key) (now : Int)
    (verdict : AmlVerdict) (evidenceHash : Bytes32) : Except Error (Deposit Key) := do
  require (deposit.state = .pending) .invalidState
  require (vault.oracleSet.any (· = oracleKey)) .unauthorizedOracle
  require (deposit.attestations.all (·.oracle ≠ oracleKey)) .duplicateAttestation
  require (now < deposit.expireAt) .alreadyExpired
  let attestation : Attestation Key :=
    { oracle := oracleKey, verdict, timestamp := now, evidenceHash }
  let deposit := { deposit with attestations := deposit.attestations ++ [attestation] }
  let deposit := match verdict with
    | .clean => { deposit with cleanCount := saturatingAdd 255 deposit.cleanCount 1 }
    | .dirty => { deposit with dirtyCount := saturatingAdd 255 deposit.dirtyCount 1 }
  let threshold := vault.minAttestations
  if threshold ≤ deposit.dirtyCount then
    return { deposit with state := .rejected }
  else if threshold ≤ deposit.cleanCount then
    return { deposit with state := .approved }
  else
    return deposit

/-- The lamport payout of `release` and `refund`: debit the deposit account, then
read the target's balance and credit it. -/
def payLamports (w : World Key) (deposit target : Key) (amount : Nat) :
    Except Error (World Key) := do
  let newBalance ← okOr (checkedSub (w.lamports deposit) amount) .insufficientFunds
  let debited := w.setLamports deposit newBalance
  let credited ← okOr (checkedAdd (debited.lamports target) amount) .arithmeticOverflow
  return debited.setLamports target credited

/-- The token payout of `release_token` and `refund_token`: the deposit account
signs for its escrow by the seeds and bump it stores. -/
def payTokens (rt : Runtime Key) (ctx : Context Key) (w : World Key) (vaultKey : Key)
    (deposit : Deposit Key) (accounts : TransferChecked Key) (decimals : Nat) :
    Except Error (World Key) :=
  let seeds := Seeds.deposit vaultKey deposit.stealthPubkey deposit.ephemeralR
  let signer := rt.createProgramAddress seeds.list deposit.bump
  okOr (rt.transferChecked w accounts (ctx.signers ++ signer.toList) deposit.amount decimals) .cpi

/-- The `match` on the state both refunds begin with: the state it leaves in
memory, and whether a refund is allowed. -/
def refundable (deposit : Deposit Key) (now : Int) : Deposit Key × Bool :=
  match deposit.state with
  | .rejected => (deposit, true)
  | .pending =>
      if deposit.expireAt ≤ now then ({ deposit with state := .expired }, true)
      else (deposit, false)
  | .expired => (deposit, true)
  | _ => (deposit, false)

end Handlers

section Instructions

variable {Key : Type} [DecidableEq Key] [Inhabited Key]

/-- `initialize_vault`: the checks on its accounts in their order, the creation of the vault's
account, and the handler. -/
def initializeVault (rt : Runtime Key) (ctx : Context Key) (accounts : InitializeVault Key)
    (oracleSet : List Key) (minAttestations : Nat) (w : World Key) : Except Error (World Key) := do
  signer ctx accounts.authority
  let bump ← canonical rt accounts.vault (.vault accounts.authority)
  let w ← okOr (rt.create w accounts.authority accounts.vault vaultSpace
    (.program (.vault Vault.zeroed))) .cpi
  writable ctx accounts.vault
  writable ctx accounts.authority
  let vault ← InitializeVault.handler bump accounts.authority oracleSet minAttestations
  saveVault w accounts.vault vault

/-- `deposit`: lamports are escrowed on the deposit account itself. -/
def deposit (rt : Runtime Key) (ctx : Context Key) (accounts : MakeDeposit Key)
    (args : DepositArgs Key) (w : World Key) : Except Error (World Key) := do
  signer ctx accounts.depositor
  let vault ← loadVault w accounts.vault
  let bump ← canonical rt accounts.deposit
    (.deposit accounts.vault args.stealthPubkey args.ephemeralR)
  let w ← okOr (rt.create w accounts.depositor accounts.deposit depositSpace
    (.program (.deposit Deposit.zeroed))) .cpi
  writable ctx accounts.deposit
  writable ctx accounts.depositor
  derived rt accounts.vault (.vault vault.authority) vault.bump
  writable ctx accounts.vault
  require (vault.paused = false) .paused
  let record ← MakeDeposit.handler accounts args bump ctx.now
  let w ← okOr (rt.transfer w accounts.depositor accounts.deposit args.amount) .cpi
  let w ← saveVault w accounts.vault vault.counted
  saveDeposit w accounts.deposit record

/-- `deposit_token`: tokens are escrowed on a token account under the deposit's
authority. The recorded amount is the argument. -/
def depositToken (rt : Runtime Key) (ctx : Context Key) (accounts : DepositToken Key)
    (args : DepositArgs Key) (w : World Key) : Except Error (World Key) := do
  signer ctx accounts.depositor
  let vault ← loadVault w accounts.vault
  let mint ← loadMint w accounts.mint
  let source ← loadToken w accounts.depositorTokenAccount
  let bump ← canonical rt accounts.deposit
    (.deposit accounts.vault args.stealthPubkey args.ephemeralR)
  let w ← okOr (rt.create w accounts.depositor accounts.deposit depositSpace
    (.program (.deposit Deposit.zeroed))) .cpi
  writable ctx accounts.deposit
  let _ ← canonical rt accounts.escrowTokenAccount (.escrow accounts.deposit)
  let w ← okOr (rt.create w accounts.depositor accounts.escrowTokenAccount mint.accountLen
    (.token { program := accounts.tokenProgram, mint := accounts.mint, owner := accounts.deposit,
              amount := 0 })) .cpi
  writable ctx accounts.escrowTokenAccount
  writable ctx accounts.depositor
  derived rt accounts.vault (.vault vault.authority) vault.bump
  writable ctx accounts.vault
  require (vault.paused = false) .paused
  writable ctx accounts.depositorTokenAccount
  check (source.mint = accounts.mint) .constraintRaw
  check (source.owner = accounts.depositor) .constraintRaw
  let record ← DepositToken.handler accounts args bump ctx.now
  let w ← okOr (rt.transferChecked w
    { program := accounts.tokenProgram, source := accounts.depositorTokenAccount,
      mint := accounts.mint, target := accounts.escrowTokenAccount,
      authority := accounts.depositor }
    ctx.signers args.amount mint.decimals) .cpi
  let w ← saveVault w accounts.vault vault.counted
  saveDeposit w accounts.deposit record

/-- `attest`: the checks on its accounts in their order, and the handler. It moves no
lamports. -/
def attest (rt : Runtime Key) (ctx : Context Key) (accounts : Attest Key) (verdict : AmlVerdict)
    (evidenceHash : Bytes32) (w : World Key) : Except Error (World Key) := do
  signer ctx accounts.oracle
  let vault ← loadVault w accounts.vault
  let deposit ← loadDeposit w accounts.deposit
  derived rt accounts.vault (.vault vault.authority) vault.bump
  require (vault.paused = false) .paused
  derived rt accounts.deposit
    (.deposit accounts.vault deposit.stealthPubkey deposit.ephemeralR) deposit.bump
  writable ctx accounts.deposit
  let deposit ← Attest.handler vault deposit accounts.oracle ctx.now verdict evidenceHash
  saveDeposit w accounts.deposit deposit

/-- `release`: lamports of an approved deposit, to any account. The mint is not
looked at. -/
def release (rt : Runtime Key) (ctx : Context Key) (accounts : Release Key) (w : World Key) :
    Except Error (World Key) := do
  signer ctx accounts.releaseAuthority
  let vault ← loadVault w accounts.vault
  let deposit ← loadDeposit w accounts.deposit
  writable ctx accounts.releaseAuthority
  derived rt accounts.vault (.vault vault.authority) vault.bump
  derived rt accounts.deposit
    (.deposit accounts.vault deposit.stealthPubkey deposit.ephemeralR) deposit.bump
  writable ctx accounts.deposit
  require (deposit.state = .approved) .invalidState
  require (deposit.releaseAuthority = accounts.releaseAuthority) .invalidReleaseAuthority
  writable ctx accounts.target
  let w ← payLamports w accounts.deposit accounts.target deposit.amount
  saveDeposit w accounts.deposit { deposit with state := .released }

/-- `release_token`: tokens of an approved deposit, to any account of the mint.
Anchor refuses one account for both mutable token accounts. -/
def releaseToken (rt : Runtime Key) (ctx : Context Key) (accounts : ReleaseToken Key)
    (w : World Key) : Except Error (World Key) := do
  signer ctx accounts.releaseAuthority
  let vault ← loadVault w accounts.vault
  let deposit ← loadDeposit w accounts.deposit
  let mint ← loadMint w accounts.mint
  let escrow ← loadToken w accounts.escrowTokenAccount
  let target ← loadToken w accounts.targetTokenAccount
  check (accounts.escrowTokenAccount ≠ accounts.targetTokenAccount)
    .constraintDuplicateMutableAccount
  writable ctx accounts.releaseAuthority
  derived rt accounts.vault (.vault vault.authority) vault.bump
  derived rt accounts.deposit
    (.deposit accounts.vault deposit.stealthPubkey deposit.ephemeralR) deposit.bump
  writable ctx accounts.deposit
  require (deposit.state = .approved) .invalidState
  require (deposit.releaseAuthority = accounts.releaseAuthority) .invalidReleaseAuthority
  check (deposit.mint = accounts.mint) .constraintRaw
  let _ ← canonical rt accounts.escrowTokenAccount (.escrow accounts.deposit)
  writable ctx accounts.escrowTokenAccount
  check (escrow.mint = accounts.mint) .constraintTokenMint
  check (escrow.owner = accounts.deposit) .constraintTokenOwner
  check (escrow.program = accounts.tokenProgram) .constraintTokenTokenProgram
  writable ctx accounts.targetTokenAccount
  check (target.mint = accounts.mint) .constraintRaw
  let w ← payTokens rt ctx w accounts.vault deposit
    { program := accounts.tokenProgram, source := accounts.escrowTokenAccount,
      mint := accounts.mint, target := accounts.targetTokenAccount, authority := accounts.deposit }
    mint.decimals
  saveDeposit w accounts.deposit { deposit with state := .released }

/-- `refund`: lamports of a rejected or expired deposit, to its refund address.
The mint is not looked at. -/
def refund (rt : Runtime Key) (ctx : Context Key) (accounts : Refund Key) (w : World Key) :
    Except Error (World Key) := do
  signer ctx accounts.caller
  let vault ← loadVault w accounts.vault
  let deposit ← loadDeposit w accounts.deposit
  writable ctx accounts.caller
  derived rt accounts.vault (.vault vault.authority) vault.bump
  derived rt accounts.deposit
    (.deposit accounts.vault deposit.stealthPubkey deposit.ephemeralR) deposit.bump
  writable ctx accounts.deposit
  writable ctx accounts.refundTarget
  let allowed := refundable deposit ctx.now
  require (allowed.2 = true) .invalidState
  require (accounts.refundTarget = allowed.1.refundAddr) .invalidRefundAuthority
  let w ← payLamports w accounts.deposit accounts.refundTarget allowed.1.amount
  saveDeposit w accounts.deposit { allowed.1 with state := .refunded }

/-- `refund_token`: tokens of a rejected or expired deposit, to an account of the
mint that the refund address owns. -/
def refundToken (rt : Runtime Key) (ctx : Context Key) (accounts : RefundToken Key)
    (w : World Key) : Except Error (World Key) := do
  signer ctx accounts.caller
  let vault ← loadVault w accounts.vault
  let deposit ← loadDeposit w accounts.deposit
  let mint ← loadMint w accounts.mint
  let escrow ← loadToken w accounts.escrowTokenAccount
  let target ← loadToken w accounts.refundTargetTokenAccount
  check (accounts.escrowTokenAccount ≠ accounts.refundTargetTokenAccount)
    .constraintDuplicateMutableAccount
  writable ctx accounts.caller
  derived rt accounts.vault (.vault vault.authority) vault.bump
  derived rt accounts.deposit
    (.deposit accounts.vault deposit.stealthPubkey deposit.ephemeralR) deposit.bump
  writable ctx accounts.deposit
  check (deposit.mint = accounts.mint) .constraintRaw
  let _ ← canonical rt accounts.escrowTokenAccount (.escrow accounts.deposit)
  writable ctx accounts.escrowTokenAccount
  check (escrow.mint = accounts.mint) .constraintTokenMint
  check (escrow.owner = accounts.deposit) .constraintTokenOwner
  check (escrow.program = accounts.tokenProgram) .constraintTokenTokenProgram
  writable ctx accounts.refundTargetTokenAccount
  check (target.mint = accounts.mint) .constraintRaw
  check (target.owner = deposit.refundAddr) .constraintRaw
  let allowed := refundable deposit ctx.now
  require (allowed.2 = true) .invalidState
  let w ← payTokens rt ctx w accounts.vault allowed.1
    { program := accounts.tokenProgram, source := accounts.escrowTokenAccount,
      mint := accounts.mint, target := accounts.refundTargetTokenAccount,
      authority := accounts.deposit }
    mint.decimals
  saveDeposit w accounts.deposit { allowed.1 with state := .refunded }

end Instructions

/-- A call of the program, with the accounts and arguments of its instruction, one constructor
for each of the eight handlers. -/
inductive Instruction (Key : Type) where
  | initializeVault (accounts : InitializeVault Key) (oracleSet : List Key) (minAttestations : Nat)
  | deposit (accounts : MakeDeposit Key) (args : DepositArgs Key)
  | depositToken (accounts : DepositToken Key) (args : DepositArgs Key)
  | attest (accounts : Attest Key) (verdict : AmlVerdict) (evidenceHash : Bytes32)
  | release (accounts : Release Key)
  | releaseToken (accounts : ReleaseToken Key)
  | refund (accounts : Refund Key)
  | refundToken (accounts : RefundToken Key)

/-- Execute one call: the checks on its accounts, its handler, and the writing back of what it
has changed. An error leaves the world as it was. -/
def exec {Key : Type} [DecidableEq Key] [Inhabited Key] (rt : Runtime Key) (ctx : Context Key) :
    Instruction Key → World Key → Except Error (World Key)
  | .initializeVault accounts oracleSet minAttestations =>
      initializeVault rt ctx accounts oracleSet minAttestations
  | .deposit accounts args => deposit rt ctx accounts args
  | .depositToken accounts args => depositToken rt ctx accounts args
  | .attest accounts verdict evidenceHash => attest rt ctx accounts verdict evidenceHash
  | .release accounts => release rt ctx accounts
  | .releaseToken accounts => releaseToken rt ctx accounts
  | .refund accounts => refund rt ctx accounts
  | .refundToken accounts => refundToken rt ctx accounts

end GPay.Quarantine
