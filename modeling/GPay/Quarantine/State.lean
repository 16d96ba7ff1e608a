import GPay.Solana

/-!
# Accounts, constants and errors of the quarantine vault

The two account types of the program, with the sizes Anchor allots to them, the
seed lists their addresses derive from, and the errors its checks raise. Keys are
abstract; `default` is `Pubkey::default()`.
-/

namespace GPay.Quarantine

open Solana

/-- The tag of the seeds of a vault's address. -/
def vaultSeed : String := "vault"

/-- The tag of the seeds of a deposit's address. -/
def depositSeed : String := "deposit"

/-- The tag of the seeds of an escrow's address. -/
def escrowTokenSeed : String := "escrow_token"

/-- The most oracles that a vault may list. -/
def maxOracles : Nat := 16

/-- The most attestations that the account of a deposit has room for, as many as a vault may have
oracles. -/
def maxAttestations : Nat := 16

/-- The shortest time in which a deposit may expire. -/
def minExpireSeconds : Int := 60

/-- The longest time in which a deposit may expire, thirty days. -/
def maxExpireSeconds : Int := 60 * 60 * 24 * 30

/-- The states of a deposit. The program never stores the last one: whether a pending deposit has
expired is a matter of the clock. -/
inductive DepositState where
  | pending
  | approved
  | rejected
  | released
  | refunded
  | expired
  deriving DecidableEq, Repr

/-- What an oracle says of a deposit. -/
inductive AmlVerdict where
  | clean
  | dirty
  deriving DecidableEq, Repr

/-- One oracle's verdict on a deposit, with the time of the vote and the hash of the evidence for
it. -/
structure Attestation (Key : Type) where
  oracle : Key
  verdict : AmlVerdict
  timestamp : Int
  evidenceHash : Bytes32
  deriving DecidableEq

/-- The record of a vault: its bump and its authority, who may vote and how many clean votes
clear a deposit, the pause flag, and how many deposits have been made. -/
structure Vault (Key : Type) where
  bump : UInt8
  authority : Key
  oracleSet : List Key
  minAttestations : Nat
  paused : Bool
  depositCount : Nat
  deriving DecidableEq

/-- The record of a deposit: its place and its announcement, what was deposited and by whom, who
may be paid, when it was made and expires, and the votes with their two counts. -/
structure Deposit (Key : Type) where
  bump : UInt8
  vault : Key
  stealthPubkey : Key
  ephemeralR : Bytes32
  viewTag : UInt8
  mint : Key
  amount : Nat
  depositor : Key
  refundAddr : Key
  releaseAuthority : Key
  createdAt : Int
  expireAt : Int
  state : DepositState
  attestations : List (Attestation Key)
  cleanCount : Nat
  dirtyCount : Nat
  deriving DecidableEq

/-- What an account owned by the program holds, a vault or a deposit, which it tells apart by the
discriminator. -/
inductive Content (Key : Type) where
  | vault (vault : Vault Key)
  | deposit (deposit : Deposit Key)
  deriving DecidableEq

/-- The runtime as this program sees it, and its worlds. -/
abbrev Runtime (Key : Type) := Solana.Runtime Key (Content Key)

/-- The accounts of the cluster, where those of the program hold its vaults and deposits. -/
abbrev World (Key : Type) := Solana.World Key (Content Key)

variable {Key : Type}

/-- Serialised size of an attestation: key, verdict, timestamp, hash. -/
def attestationLen : Nat := 32 + 1 + 8 + 32

/-- Serialised size of a vault with its oracle list. -/
def Vault.borshLen (vault : Vault Key) : Nat :=
  1 + 32 + (4 + vault.oracleSet.length * 32) + 1 + 1 + 8

/-- Serialised size of a deposit with its attestations. -/
def Deposit.borshLen (deposit : Deposit Key) : Nat :=
  1 + 32 + 32 + 32 + 1 + 32 + 8 + 32 + 32 + 32 + 8 + 8 + 1 +
    (4 + deposit.attestations.length * attestationLen) + 1 + 1

/-- `Vault::INIT_SPACE`, with the list at its `max_len`. -/
def vaultInitSpace : Nat := 1 + 32 + (4 + maxOracles * 32) + 1 + 1 + 8

/-- `Deposit::INIT_SPACE`, with the list at its `max_len`. -/
def depositInitSpace : Nat :=
  1 + 32 + 32 + 32 + 1 + 32 + 8 + 32 + 32 + 32 + 8 + 8 + 1 +
    (4 + maxAttestations * attestationLen) + 1 + 1

/-- The size of a vault's account: the eight bytes of the discriminator, and the largest
record. -/
def vaultSpace : Nat := 8 + vaultInitSpace

/-- The size of a deposit's account: the discriminator, and the largest record. -/
def depositSpace : Nat := 8 + depositInitSpace

/-- The size of an account, mark included. -/
def Content.space : Content Key → Nat
  | .vault _ => vaultSpace
  | .deposit _ => depositSpace

/-- A vault account as `init` leaves it, all bytes zero. -/
def Vault.zeroed [Inhabited Key] : Vault Key := ⟨0, default, [], 0, false, 0⟩

/-- A deposit account as `init` leaves it, all bytes zero. -/
def Deposit.zeroed [Inhabited Key] : Deposit Key :=
  ⟨0, default, default, Bytes32.zeros, 0, default, 0, default, default, default, 0, 0,
    .pending, [], 0, 0⟩

/-- The seed lists of the program, one for each kind of derived address. -/
inductive Seeds (Key : Type) where
  | vault (authority : Key)
  | deposit (vault stealthPubkey : Key) (ephemeralR : Bytes32)
  | escrow (deposit : Key)
  deriving DecidableEq

/-- The seeds as they are passed to the derivation. -/
def Seeds.list : Seeds Key → List (Seed Key)
  | .vault authority => [.tag vaultSeed, .key authority]
  | .deposit vaultKey stealthPubkey ephemeralR =>
      [.tag depositSeed, .key vaultKey, .key stealthPubkey, .bytes ephemeralR]
  | .escrow depositKey => [.tag escrowTokenSeed, .key depositKey]

/-- Seeds and bump can be read back from an address derived for this program: no two derivations
meet in one address, which would need a collision of the hash. -/
def SeedsInjective (rt : Runtime Key) : Prop :=
  ∀ (left right : Seeds Key) (leftBump rightBump : UInt8) (key : Key),
    rt.createProgramAddress left.list leftBump = some key →
    rt.createProgramAddress right.list rightBump = some key →
    left = right ∧ leftBump = rightBump

/-- The program's own errors, in the order of their codes. Two of them no handler returns. -/
inductive VaultError where
  | paused
  | unauthorizedOracle
  | duplicateAttestation
  | tooManyOracles
  | invalidThreshold
  | invalidState
  | notYetExpired
  | alreadyExpired
  | invalidExpiry
  | invalidAmount
  | conflictingVerdict
  | invalidRefundAuthority
  | invalidReleaseAuthority
  deriving DecidableEq, Repr

/-- An instruction fails with an error of the program, of the framework's account
checks, of the runtime, or of a program it calls. -/
inductive Error where
  | vault (error : VaultError)
  | accountNotSigner
  | accountNotInitialized
  | accountDidNotSerialize
  | constraintMut
  | constraintRaw
  | constraintSeeds
  | constraintTokenMint
  | constraintTokenOwner
  | constraintTokenTokenProgram
  | constraintDuplicateMutableAccount
  | insufficientFunds
  | arithmeticOverflow
  | cpi
  deriving DecidableEq, Repr

/-- The vault stored at an address, if that is what is stored there. -/
def vaultAt (w : World Key) (key : Key) : Option (Vault Key) :=
  match w.data key with
  | .program (.vault vault) => some vault
  | _ => none

/-- The deposit stored at an address, if that is what is stored there. -/
def depositAt (w : World Key) (key : Key) : Option (Deposit Key) :=
  match w.data key with
  | .program (.deposit deposit) => some deposit
  | _ => none

/-- The token account stored at an address. -/
def tokenAt (w : World Key) (key : Key) : Option (TokenAccount Key) :=
  match w.data key with
  | .token account => some account
  | _ => none

/-- The mint stored at an address. -/
def mintAt (w : World Key) (key : Key) : Option Mint :=
  match w.data key with
  | .mint mint => some mint
  | _ => none

/-- A vault is read exactly where one is stored. -/
theorem vault_at_iff {w : World Key} {key : Key} {vault : Vault Key} :
    vaultAt w key = some vault ↔ w.data key = .program (.vault vault) := by
  unfold vaultAt
  split <;> simp_all

/-- A deposit is read exactly where one is stored. -/
theorem deposit_at_iff {w : World Key} {key : Key} {deposit : Deposit Key} :
    depositAt w key = some deposit ↔ w.data key = .program (.deposit deposit) := by
  unfold depositAt
  split <;> simp_all

/-- A token account is read exactly where one is stored. -/
theorem token_at_iff {w : World Key} {key : Key} {account : TokenAccount Key} :
    tokenAt w key = some account ↔ w.data key = .token account := by
  unfold tokenAt
  split <;> simp_all

/-- A mint is read exactly where one is stored. -/
theorem mint_at_iff {w : World Key} {key : Key} {mint : Mint} :
    mintAt w key = some mint ↔ w.data key = .mint mint := by
  unfold mintAt
  split <;> simp_all

end GPay.Quarantine
