import GPay.Quarantine.Machine

/-!
# A lawful runtime

The assumptions on the runtime are met by one that can be evaluated. Its derived
addresses remember the seeds and bump they come from, so that no two collide; its
rent is linear in the account size; its system and token programs move what they
are asked to when they are allowed to. Runs of the program on it are the concrete
cases of the results about every runtime.
-/

namespace GPay.Quarantine

open Solana Runs

/-- Wallets, and the addresses derived for the program. -/
inductive Address where
  | wallet (number : Nat)
  | vault (authority : Address) (bump : UInt8)
  | deposit (vault stealthPubkey : Address) (ephemeralR : Bytes32) (bump : UInt8)
  | escrow (deposit : Address) (bump : UInt8)
  deriving DecidableEq

namespace Local

instance : Inhabited Address := ⟨.wallet 0⟩

/-- Addresses are the seeds and the bump themselves, so that different ones derive different
addresses. -/
def createProgramAddress : List (Seed Address) → UInt8 → Option Address
  | [.tag tag, .key key], bump =>
      if tag = vaultSeed then some (.vault key bump)
      else if tag = escrowTokenSeed then some (.escrow key bump)
      else none
  | [.tag tag, .key vault, .key stealthPubkey, .bytes ephemeralR], bump =>
      if tag = depositSeed then some (.deposit vault stealthPubkey ephemeralR bump) else none
  | _, _ => none

/-- The first bump tried always derives an address. -/
def findProgramAddress (seeds : List (Seed Address)) : Option (Address × UInt8) :=
  (createProgramAddress seeds 255).map (·, 255)

section Lamports

variable {Key : Type} [DecidableEq Key] {w w' : World Key} {source target payer key : Key}
  {amount space : Nat} {data : Data Key (Content Key)}

/-- The rent-exempt minimum at the cluster's rates. -/
def minimumBalance (space : Nat) : Nat := (128 + space) * 6960

omit [DecidableEq Key] in
/-- The account is empty and belongs to the system program. -/
def vacant (w : World Key) (key : Key) : Bool :=
  match w.data key with
  | .system => true
  | _ => false

/-- A transfer of the system program, out of an empty account that has the amount. -/
def transfer (w : World Key) (source target : Key) (amount : Nat) : Option (World Key) :=
  if vacant w source ∧ amount ≤ w.lamports source then some (w.move source target amount) else none

/-- An `init` paid by an empty account. The address must be empty and keeps what it holds. -/
def create (w : World Key) (payer key : Key) (space : Nat) (data : Data Key (Content Key)) :
    Option (World Key) :=
  let missing := minimumBalance space - w.lamports key
  if payer ≠ key ∧ vacant w payer ∧ vacant w key ∧ missing ≤ w.lamports payer then
    some ((w.move payer key missing).setData key data)
  else none

/-- The size of an account's data; other programs' accounts are not told apart here. -/
def dataLen : Data Key (Content Key) → Nat
  | .program content => content.space
  | .mint _ => 82
  | .token _ => 165
  | _ => 0

/-- An account ends empty or with its rent, unless it had less before and got no more. -/
def rentKept (before after : Account Key (Content Key)) : Bool :=
  after.lamports = 0 ∨ minimumBalance (dataLen after.data) ≤ after.lamports ∨
    (dataLen after.data = dataLen before.data ∧ after.lamports ≤ before.lamports ∧
      before.lamports < minimumBalance (dataLen before.data))

omit [DecidableEq Key] in
/-- Vacancy is tested by the data. -/
theorem vacant_iff (w : World Key) (key : Key) : vacant w key = true ↔ w.data key = .system := by
  unfold vacant
  split <;> simp_all

/-- Every account needs some lamports. -/
theorem rent_positive (space : Nat) : 0 < minimumBalance space := by
  simp only [minimumBalance]
  omega

/-- A transfer that succeeds moves lamports of an empty account. -/
theorem transfer_moves (transferred : transfer w source target amount = some w') :
    w.data source = .system ∧ amount ≤ w.lamports source ∧ w' = w.move source target amount := by
  simp only [transfer, Option.ite_none_right_eq_some, Option.some.injEq, vacant_iff] at transferred
  obtain ⟨⟨empty, covered⟩, moved⟩ := transferred
  exact ⟨empty, covered, moved.symm⟩

/-- A creation that succeeds fills an empty account that its payer tops up. -/
theorem create_allocates (created : create w payer key space data = some w') :
    payer ≠ key ∧ (w.lamports key < minimumBalance space → w.data payer = .system) ∧
      (∀ content, w.data payer ≠ .program content) ∧ w.data key = .system ∧
      w' = (w.move payer key (minimumBalance space - w.lamports key)).setData key data := by
  simp only [create, Option.ite_none_right_eq_some, Option.some.injEq, vacant_iff] at created
  obtain ⟨⟨distinct, payer, empty, _⟩, allocated⟩ := created
  exact ⟨distinct, fun _ => payer, by simp [payer], empty, allocated.symm⟩

omit [DecidableEq Key] in
/-- The check lets through what it should in a runtime with these balances. -/
theorem rent_checked {rt : Runtime Key} (balances : rt.minimumBalance = minimumBalance)
    (checks : rt.rentKept = fun _ => rentKept) : RentChecked rt Content.space where
  kept := by
    intro key account
    simp only [checks, rentKept, decide_eq_true_eq, le_refl, true_and]
    omega
  stored := by
    intro key before after content written held
    rw [balances] at held
    simp [checks, rentKept, written, dataLen, held]
  funded := by
    intro key before after empty held
    rw [balances] at held
    simp only [checks, rentKept, empty, dataLen, decide_eq_true_eq]
    omega

end Lamports

/-- What the token programs check of a transfer. -/
def transferable (accounts : TransferChecked Address) (signers : List Address)
    (amount decimals : Nat) (mint : Mint) (source target : TokenAccount Address) : Prop :=
  (mint.program = accounts.program ∧ source.program = accounts.program ∧
    target.program = accounts.program) ∧
  source.mint = accounts.mint ∧ target.mint = accounts.mint ∧ source.owner = accounts.authority ∧
  accounts.authority ∈ signers ∧ amount ≤ source.amount ∧ mint.decimals = decimals ∧
  target.amount + amount ≤ u64Max

instance (accounts : TransferChecked Address) (signers : List Address) (amount decimals : Nat)
    (mint : Mint) (source target : TokenAccount Address) :
    Decidable (transferable accounts signers amount decimals mint source target) :=
  inferInstanceAs (Decidable (_ ∧ _))

/-- A transfer of tokens with what the programs check. To itself an account moves nothing. -/
def transferChecked (w : World Address) (accounts : TransferChecked Address)
    (signers : List Address) (amount decimals : Nat) : Option (World Address) :=
  match w.data accounts.mint, w.data accounts.source, w.data accounts.target with
  | .mint mint, .token source, .token target =>
      if transferable accounts signers amount decimals mint source target then
        if accounts.source = accounts.target then some w
        else some
          ((w.setData accounts.source
              (.token { source with amount := source.amount - amount })).setData accounts.target
            (.token { target with amount := target.amount + (amount - mint.fee amount) }))
      else none
  | _, _, _ => none

/-- The runtime of the local cluster. The first wallet stands for a reserved address. -/
def runtime : Runtime Address where
  createProgramAddress
  findProgramAddress
  minimumBalance
  transfer
  create
  transferChecked
  reserved key := key = .wallet 0
  rentKept _ := rentKept

/-- The runtime's successful calls do what they are documented to. -/
theorem runtime_lawful : Lawful runtime where
  find_derived := by
    intro seeds key bump found
    obtain ⟨derived, created, same⟩ := Option.map_eq_some_iff.mp found
    obtain ⟨rfl, rfl⟩ := Prod.mk.inj same
    exact created
  rent_positive := rent_positive
  transfer_moves _ _ _ _ _ := transfer_moves
  create_allocates _ _ _ _ _ _ := create_allocates
  transfer_checked := by
    intro w accounts signers amount decimals w' distinct transferred
    simp only [runtime, transferChecked] at transferred
    split at transferred
    · rename_i mint source target atMint atSource atTarget
      simp only [distinct, if_false, Option.ite_none_right_eq_some,
        Option.some.injEq] at transferred
      obtain ⟨⟨programs, sourceMint, targetMint, owner, signed, covered, _⟩, rfl⟩ := transferred
      exact ⟨mint, source, target, atMint, atSource, atTarget, programs, sourceMint, targetMint,
        owner, signed, covered, by simp, by simp, by simp⟩
    · cases transferred

/-- Its addresses give back the seeds they were derived from. -/
theorem runtime_injective : SeedsInjective runtime := by
  intro left right leftBump rightBump key first second
  cases left <;> cases right <;>
    simp_all [runtime, createProgramAddress, Seeds.list, vaultSeed, depositSeed, escrowTokenSeed,
      ← second]

/-- The second a call is made at. -/
def second (now : Nat) : Clock where
  unixTimestamp := min now 4000000000
  low := by simp only [i64Min]; omega
  high := by simp only [i64Max]; omega

/-- A mint without fees, and one that withholds a tenth of every transfer. -/
def plainMint : Mint := ⟨.token, 6, 165, fun _ => 0, fun _ => Nat.zero_le _, fun _ _ => rfl⟩

/-- A mint that withholds a tenth of every transfer. -/
def feeMint : Mint :=
  ⟨.token2022, 6, 182, fun amount => amount / 10, fun _ => Nat.div_le_self _ _,
    fun plain => nomatch plain⟩

/-- A payer with lamports and two token accounts, the mints of these, and empty
token accounts of the recipients. -/
def start : World Address :=
  ⟨fun
    | .wallet 1 => ⟨10 ^ 12, .system⟩
    | .wallet 10 => ⟨10 ^ 7, .mint plainMint⟩
    | .wallet 11 => ⟨10 ^ 7, .token ⟨.token, .wallet 10, .wallet 1, 10 ^ 9⟩⟩
    | .wallet 12 => ⟨10 ^ 7, .token ⟨.token, .wallet 10, .wallet 6, 0⟩⟩
    | .wallet 20 => ⟨10 ^ 7, .mint feeMint⟩
    | .wallet 21 => ⟨10 ^ 7, .token ⟨.token2022, .wallet 20, .wallet 1, 10 ^ 9⟩⟩
    | .wallet 22 => ⟨10 ^ 7, .token ⟨.token2022, .wallet 20, .wallet 6, 0⟩⟩
    | _ => ⟨0, .system⟩⟩

/-- Nothing of the program's is stored at the beginning. -/
theorem start_genesis : Genesis start where
  vacant := by
    intro key content
    simp only [World.data, start]
    split <;> simp
  no_default_mint := by
    intro mint
    simp [World.data, start, default]

/-- The accounts that hold lamports. -/
def funded : Finset Address :=
  {.wallet 1, .wallet 10, .wallet 11, .wallet 12, .wallet 20, .wallet 21, .wallet 22}

/-- The balances at the beginning fit in 64 bits. -/
theorem start_fits : SupplyFits start := by
  intro keys
  have rest : ∀ key ∈ keys ∪ funded, key ∉ funded → start.lamports key = 0 := by
    intro key _ outside
    simp only [World.lamports, start]
    split <;> simp_all [funded]
  calc ∑ key ∈ keys, start.lamports key
      ≤ ∑ key ∈ keys ∪ funded, start.lamports key :=
        Finset.sum_le_sum_of_subset Finset.subset_union_left
    _ = ∑ key ∈ funded, start.lamports key :=
      (Finset.sum_subset Finset.subset_union_right rest).symm
    _ ≤ u64Max := by decide +kernel

/-- The vault of the samples. -/
def vaultKey : Address := .vault (.wallet 1) 255

/-- The deposit of the samples, in that vault. -/
def depositKey : Address := .deposit vaultKey (.wallet 8) Bytes32.zeros 255

/-- Its escrow. -/
def escrowKey : Address := .escrow depositKey 255

/-- All that occur but the reserved one. -/
def wallets : List Address := (List.range' 1 22).map .wallet

/-- A transaction of that second that everybody signs. -/
def context (now : Nat) : Context Address :=
  ⟨second now, wallets, wallets ++ [vaultKey, depositKey, escrowKey]⟩

/-- The runtime lets it through. -/
theorem context_permitted (now : Nat) : (context now).Permitted runtime := by
  intro key listed
  have free : ∀ key ∈ wallets ++ [vaultKey, depositKey, escrowKey], runtime.reserved key = false :=
    by decide
  exact free key listed

/-- Who may vote in that vault. -/
def oracles : List Address := [.wallet 2, .wallet 3, .wallet 4]

/-- The payer opens a vault under the oracles. -/
def openVault (oracleSet : List Address) (minAttestations : Nat) : Event Address :=
  .call (context 1000) (.initializeVault ⟨.wallet 1, vaultKey⟩ oracleSet minAttestations)

/-- That vault after some deposits. -/
def openedVault (oracleSet : List Address) (minAttestations depositCount : Nat) : Vault Address :=
  ⟨255, .wallet 1, oracleSet, minAttestations, false, depositCount⟩

/-- Release by 5, refund to 6, an hour to expiry. -/
def terms (amount : Nat) : DepositArgs Address :=
  ⟨.wallet 8, Bytes32.zeros, 0, amount, .wallet 6, .wallet 5, 3600⟩

/-- A deposit under these terms before its first vote. -/
def fresh (now : Int) (mint : Address) (amount : Nat) : Deposit Address :=
  ⟨255, vaultKey, .wallet 8, Bytes32.zeros, 0, mint, amount, .wallet 1, .wallet 6, .wallet 5, now,
    now + 3600, .pending, [], 0, 0⟩

/-- A deposit of lamports at that second. -/
def depositLamports (now amount : Nat) : Event Address :=
  .call (context now) (.deposit ⟨.wallet 1, vaultKey, depositKey⟩ (terms amount))

/-- A deposit of tokens without a fee. -/
def depositPlain (now amount : Nat) : Event Address :=
  .call (context now) (.depositToken
    ⟨.wallet 1, vaultKey, depositKey, .wallet 10, .wallet 11, escrowKey, .token⟩ (terms amount))

/-- A deposit of tokens whose mint withholds a fee. -/
def depositWithFee (now amount : Nat) : Event Address :=
  .call (context now) (.depositToken
    ⟨.wallet 1, vaultKey, depositKey, .wallet 20, .wallet 21, escrowKey, .token2022⟩ (terms amount))

/-- The vote of an oracle on the deposit. -/
def vote (now : Nat) (oracle : Address) (verdict : AmlVerdict) : Event Address :=
  .call (context now) (.attest ⟨oracle, vaultKey, depositKey⟩ verdict Bytes32.zeros)

/-- The release of the lamports to a target. -/
def releaseTo (target : Address) : Instruction Address :=
  .release ⟨.wallet 5, vaultKey, depositKey, target⟩

/-- The release of the tokens to a target. -/
def releaseTokensTo (target : Address) : Instruction Address :=
  .releaseToken ⟨.wallet 5, vaultKey, depositKey, .wallet 10, escrowKey, target, .token⟩

/-- The refund of the lamports, signed by a caller. -/
def refundBy (caller : Address) : Instruction Address :=
  .refund ⟨caller, vaultKey, depositKey, .wallet 6⟩

/-- The refund of the tokens whose mint withholds a fee. -/
def refundWithFee : Instruction Address :=
  .refundToken ⟨.wallet 1, vaultKey, depositKey, .wallet 20, escrowKey, .wallet 22, .token2022⟩

/-- The world a call leads to. -/
def called (ctx : Context Address) (instruction : Instruction Address) (w : World Address) :
    World Address :=
  (exec runtime ctx instruction w).toOption.getD w

/-- A call that is accepted leads there. -/
theorem called_ok {ctx : Context Address} {instruction : Instruction Address} {w : World Address}
    (succeeds : (exec runtime ctx instruction w).isOk = true) :
    exec runtime ctx instruction w = .ok (called ctx instruction w) := by
  cases result : exec runtime ctx instruction w with
  | error error => simp [result, Except.isOk, Except.toBool] at succeeds
  | ok w' => simp [called, result, Except.toOption]

/-- The world the events lead to. -/
def afterFrom (w : World Address) (events : List (Event Address)) : World Address :=
  (play (next runtime) w events).getD w

/-- The world after events that all succeed. -/
def after (events : List (Event Address)) : World Address := afterFrom start events

/-- Events that are all accepted are a run. -/
theorem after_run {w : World Address} {events : List (Event Address)}
    (succeeds : (play (next runtime) w events).isSome = true) :
    Run (Step runtime) w events (afterFrom w events) := by
  obtain ⟨finish, played⟩ := Option.isSome_iff_exists.mp succeeds
  apply play_run (next_step runtime)
  rw [afterFrom, played]
  rfl

/-- The world the events lead to when none is forbidden. -/
def afterGuarded (allowed : World Address → Event Address → Prop)
    [∀ w event, Decidable (allowed w event)] (events : List (Event Address)) : World Address :=
  (play (sift (next runtime) allowed) start events).getD start

/-- Events that succeed one after the other, each allowed where it happens, are a guarded run. -/
theorem guarded_run {allowed : World Address → Event Address → Prop}
    [∀ w event, Decidable (allowed w event)] {events : List (Event Address)}
    (succeeds : (play (sift (next runtime) allowed) start events).isSome = true) :
    Run (Guarded (Step runtime) allowed) start events (afterGuarded allowed events) := by
  obtain ⟨finish, played⟩ := Option.isSome_iff_exists.mp succeeds
  apply play_run (sift_guarded (next_step runtime))
  rw [afterGuarded, played]
  rfl

/-- Events that are all accepted lead to a reachable world. -/
theorem after_reached {events : List (Event Address)}
    (succeeds : (play (next runtime) start events).isSome = true) :
    Reached runtime events (after events) :=
  ⟨start, start_genesis, after_run succeeds⟩

/-- A fresh deposit of lamports. -/
def freshDeposit : List (Event Address) := [openVault oracles 2, depositLamports 1001 500]

/-- Two of three oracles clear it; the third votes against it. -/
def clearedDeposit : List (Event Address) :=
  freshDeposit ++ [vote 1002 (.wallet 2) .clean, vote 1003 (.wallet 3) .dirty,
    vote 1004 (.wallet 4) .clean]

/-- A deposit of tokens that two oracles clear. -/
def clearedTokens (amount : Nat) : List (Event Address) :=
  [openVault oracles 2, depositPlain 1001 amount, vote 1002 (.wallet 2) .clean,
    vote 1003 (.wallet 3) .clean]

/-- The deposit is made. -/
theorem fresh_reached : Reached runtime freshDeposit (after freshDeposit) :=
  after_reached (by decide +kernel)

/-- The deposit is made and cleared. -/
theorem cleared_reached : Reached runtime clearedDeposit (after clearedDeposit) :=
  after_reached (by decide +kernel)

end Local

end GPay.Quarantine
