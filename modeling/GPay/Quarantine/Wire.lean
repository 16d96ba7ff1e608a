import GPay.Quarantine.Layout

/-!
# Calls as they are sent

The data of a call are the mark of its handler and the handler's arguments. Its accounts
are listed in the order of its account structure, each with what it asks of the
transaction: to sign it, or to let the account be written. The programs among them ask
for nothing and are left out.

A transaction that grants what the accounts ask for is never refused for want of it, one
that does not is never executed, and a call leaves alone what it has not asked to write.
-/

namespace GPay.Quarantine

open Codec Digits Solana Runs

/-- The handlers of the program, in the order of its module. Each has its discriminator and the
format of its arguments. -/
inductive Handler where
  | initializeVault
  | deposit
  | depositToken
  | attest
  | release
  | releaseToken
  | refund
  | refundToken
  deriving DecidableEq

namespace Handler

/-- Every handler, in the order of the program's module. -/
def all : List Handler :=
  [.initializeVault, .deposit, .depositToken, .attest, .release, .releaseToken, .refund,
    .refundToken]

/-- What the data of its calls begin with, the eight bytes that the interface description gives
for the handler. -/
def mark : Handler → Bytes 8
  | .initializeVault => ⟨[48, 191, 163, 44, 71, 129, 63, 164], rfl⟩
  | .deposit => ⟨[242, 35, 198, 137, 82, 225, 242, 182], rfl⟩
  | .depositToken => ⟨[11, 156, 96, 218, 39, 163, 180, 19], rfl⟩
  | .attest => ⟨[83, 148, 120, 119, 144, 139, 117, 160], rfl⟩
  | .release => ⟨[253, 249, 15, 206, 28, 127, 193, 241], rfl⟩
  | .releaseToken => ⟨[192, 176, 15, 44, 67, 107, 96, 143], rfl⟩
  | .refund => ⟨[2, 96, 183, 251, 63, 208, 46, 46], rfl⟩
  | .refundToken => ⟨[198, 194, 93, 209, 12, 211, 46, 174], rfl⟩

/-- The arguments that a call of the handler takes besides its accounts, as its signature lists
them. Those of the payouts are none. -/
def Arguments (Key : Type) : Handler → Type
  | .initializeVault => List Key × Nat
  | .deposit | .depositToken => DepositArgs Key
  | .attest => AmlVerdict × Bytes32
  | .release | .releaseToken | .refund | .refundToken => Unit

/-- No handler is missing from the list, so that a call of each can be read back. -/
theorem listed (handler : Handler) : handler ∈ all := by
  cases handler <;> decide

/-- No two handlers have the same discriminator, so that the first eight bytes of the data tell
which one is called. -/
theorem marks_distinct : ∀ left ∈ all, ∀ right ∈ all, left.mark = right.mark → left = right := by
  decide

end Handler

variable {Key : Type}

/-- The handler of a call, with its arguments. -/
def Instruction.arguments : Instruction Key → (handler : Handler) × handler.Arguments Key
  | .initializeVault _ oracleSet minAttestations => ⟨.initializeVault, oracleSet, minAttestations⟩
  | .deposit _ args => ⟨.deposit, args⟩
  | .depositToken _ args => ⟨.depositToken, args⟩
  | .attest _ verdict evidenceHash => ⟨.attest, verdict, evidenceHash⟩
  | .release _ => ⟨.release, ()⟩
  | .releaseToken _ => ⟨.releaseToken, ()⟩
  | .refund _ => ⟨.refund, ()⟩
  | .refundToken _ => ⟨.refundToken, ()⟩

section Data

variable (keys : Key ≃ Bytes32)

/-- The arguments of a deposit as they stand one behind the other in the data of a call, in the
order of their structure. -/
def depositArgsFields : Key × Bytes32 × UInt8 × Nat × Key × Key × Int ≃ DepositArgs Key where
  toFun := fun (stealthPubkey, ephemeralR, viewTag, amount, refundAddr, releaseAuthority,
      expireSeconds) =>
    ⟨stealthPubkey, ephemeralR, viewTag, amount, refundAddr, releaseAuthority, expireSeconds⟩
  invFun args := (args.stealthPubkey, args.ephemeralR, args.viewTag, args.amount, args.refundAddr,
    args.releaseAuthority, args.expireSeconds)
  left_inv _ := rfl
  right_inv _ := rfl

/-- How they are written: keys and the ephemeral point as they are, then the tag, the amount, the
refund address, the release authority and the seconds. -/
def depositArgsFormat : Format (DepositArgs Key) :=
  let key := keyFormat keys
  (key.pair ((Format.bytes 32).pair (Format.byte.pair ((Format.natural 8).pair
    (key.pair (key.pair i64Format)))))).via depositArgsFields

/-- How the arguments of each handler are written. Those of the payouts have none. -/
def Handler.format : (handler : Handler) → Format (handler.Arguments Key)
  | .initializeVault => (Format.list 4 (keyFormat keys)).pair (.natural 1)
  | .deposit | .depositToken => depositArgsFormat keys
  | .attest => verdictFormat.pair (.bytes 32)
  | .release | .releaseToken | .refund | .refundToken => .nothing

/-- The data of calls. The handler is found by its mark. -/
def callFormat : Format ((handler : Handler) × handler.Arguments Key) :=
  .tagged Handler.all Handler.mark Handler.marks_distinct (Handler.format keys)

/-- The data that the call is sent with: the discriminator of its handler, and its arguments
behind it. -/
def Instruction.data (instruction : Instruction Key) : List UInt8 :=
  (callFormat keys).write instruction.arguments

/-- The numbers among the arguments are of their types, which the program takes for granted as it
reads them from bytes. -/
def Instruction.InRange : Instruction Key → Prop
  | .initializeVault _ oracleSet minAttestations => Countable oracleSet ∧ InU8 minAttestations
  | .deposit _ args | .depositToken _ args => InU64 args.amount ∧ InI64 args.expireSeconds
  | _ => True

/-- The arguments of a deposit can be written when the amount and the seconds are values of their
types; everything else is by its own type. -/
theorem deposit_args_valid_iff (args : DepositArgs Key) :
    (depositArgsFormat keys).Valid args ↔ InU64 args.amount ∧ InI64 args.expireSeconds := by
  have valid : (depositArgsFormat keys).Valid args ↔
      True ∧ True ∧ True ∧ args.amount < 256 ^ 8 ∧ True ∧ True ∧
        i64Format.Valid args.expireSeconds := Iff.rfl
  simp only [valid, integer_valid_iff, true_and]
  refine and_congr_left (fun _ => ?_)
  exact ⟨Nat.le_of_lt_succ, Nat.lt_succ_of_le⟩

/-- The arguments of a call are of their types when the format can write them. -/
theorem arguments_valid_iff (instruction : Instruction Key) :
    (callFormat keys).Valid instruction.arguments ↔ instruction.InRange := by
  have valid : (callFormat keys).Valid instruction.arguments ↔
      ((instruction.arguments.1).format keys).Valid instruction.arguments.2 :=
    and_iff_right (Handler.listed _)
  rw [valid]
  cases instruction with
  | initializeVault accounts oracleSet minAttestations =>
    have parts : ((Handler.format keys .initializeVault).Valid (oracleSet, minAttestations)) ↔
        (oracleSet.length < 256 ^ 4 ∧ ∀ oracle ∈ oracleSet, True) ∧ minAttestations < 256 ^ 1 :=
      Iff.rfl
    refine parts.trans (and_congr ?_ ⟨Nat.le_of_lt_succ, Nat.lt_succ_of_le⟩)
    exact and_iff_left (fun _ _ => trivial)
  | deposit accounts args => exact deposit_args_valid_iff keys args
  | depositToken accounts args => exact deposit_args_valid_iff keys args
  | attest accounts verdict evidenceHash =>
    have parts : (Handler.format keys .attest).Valid (verdict, evidenceHash) ↔
        verdict ∈ [AmlVerdict.clean, .dirty] ∧ True := Iff.rfl
    cases verdict <;> simp [parts, Instruction.arguments, Instruction.InRange]
  | release accounts => exact Iff.rfl
  | releaseToken accounts => exact Iff.rfl
  | refund accounts => exact Iff.rfl
  | refundToken accounts => exact Iff.rfl

/-- Some data are read as a call's handler and arguments exactly when the arguments are in
range and the call's data come first; what follows them is not looked at. -/
theorem call_read_iff (instruction : Instruction Key) (data : List UInt8) :
    (callFormat keys).value data = some instruction.arguments ↔
      instruction.InRange ∧ instruction.data keys <+: data := by
  rw [Format.value_iff, arguments_valid_iff, Instruction.data]

end Data

section Accounts

/-- An account of a call, with what it asks of the transaction: a signature of its key, the leave
to write it, both or neither. -/
structure AccountMeta (Key : Type) where
  pubkey : Key
  isSigner : Bool
  isWritable : Bool

namespace AccountMeta

/-- A `#[account(mut)] Signer`. -/
@[simp] def payer (pubkey : Key) : AccountMeta Key := ⟨pubkey, true, true⟩

/-- A `Signer` that is not written. -/
@[simp] def signer (pubkey : Key) : AccountMeta Key := ⟨pubkey, true, false⟩

/-- A `#[account(mut)]` that does not sign. -/
@[simp] def mutable (pubkey : Key) : AccountMeta Key := ⟨pubkey, false, true⟩

/-- An account that neither signs nor is written. -/
@[simp] def readonly (pubkey : Key) : AccountMeta Key := ⟨pubkey, false, false⟩

end AccountMeta

/-- The accounts of a call, in the order of its account structure. The programs and the sysvars,
which are fixed, are left out. -/
@[simp] def Instruction.accountMetas : Instruction Key → List (AccountMeta Key)
  | .initializeVault accounts _ _ => [.payer accounts.authority, .mutable accounts.vault]
  | .deposit accounts _ =>
      [.payer accounts.depositor, .mutable accounts.vault, .mutable accounts.deposit]
  | .depositToken accounts _ =>
      [.payer accounts.depositor, .mutable accounts.vault, .mutable accounts.deposit,
        .readonly accounts.mint, .mutable accounts.depositorTokenAccount,
        .mutable accounts.escrowTokenAccount]
  | .attest accounts _ _ =>
      [.signer accounts.oracle, .readonly accounts.vault, .mutable accounts.deposit]
  | .release accounts =>
      [.payer accounts.releaseAuthority, .readonly accounts.vault, .mutable accounts.deposit,
        .mutable accounts.target]
  | .releaseToken accounts =>
      [.payer accounts.releaseAuthority, .readonly accounts.vault, .mutable accounts.deposit,
        .readonly accounts.mint, .mutable accounts.escrowTokenAccount,
        .mutable accounts.targetTokenAccount]
  | .refund accounts =>
      [.payer accounts.caller, .readonly accounts.vault, .mutable accounts.deposit,
        .mutable accounts.refundTarget]
  | .refundToken accounts =>
      [.payer accounts.caller, .readonly accounts.vault, .mutable accounts.deposit,
        .readonly accounts.mint, .mutable accounts.escrowTokenAccount,
        .mutable accounts.refundTargetTokenAccount]

/-- The addresses that a call asks to sign, which a client marks as signers in its
transaction. -/
@[simp] def Instruction.signers (instruction : Instruction Key) : List Key :=
  (instruction.accountMetas.filter (·.isSigner)).map (·.pubkey)

/-- The addresses that a call asks to write, which a client marks as writable in its
transaction. -/
@[simp] def Instruction.writables (instruction : Instruction Key) : List Key :=
  (instruction.accountMetas.filter (·.isWritable)).map (·.pubkey)

/-- The transaction grants what the call's accounts ask for: it is signed by those who have to
sign, and may write what has to be written. -/
def Context.Grants (ctx : Context Key) (instruction : Instruction Key) : Prop :=
  ∀ account ∈ instruction.accountMetas, (account.isSigner → account.pubkey ∈ ctx.signers) ∧
    (account.isWritable → account.pubkey ∈ ctx.writable)

section Refusals

variable {w : World Key} {key : Key} {error : Error}

/-- The error is raised for want of a signature or of leave to write. The first is what `Signer`
raises, the second what `mut` does. -/
def Error.Ungranted (error : Error) : Prop := error = .accountNotSigner ∨ error = .constraintMut

/-- Behind its accounts the handler that opens a vault asks for neither signature nor leave to
write. -/
theorem initialize_handler_granted (ungranted : error.Ungranted) (bump : UInt8) (authority : Key)
    (oracleSet : List Key) (minAttestations : Nat) :
    InitializeVault.handler bump authority oracleSet minAttestations ≠ .error error := by
  rcases ungranted with rfl | rfl <;> simp [InitializeVault.handler]

/-- Filling in the record of a deposit asks for neither signature nor leave to write. -/
theorem new_deposit_granted (ungranted : error.Ungranted) (args : DepositArgs Key) (bump : UInt8)
    (vault mint depositor : Key) (now : Int) :
    newDeposit args bump vault mint depositor now ≠ .error error := by
  rcases ungranted with rfl | rfl <;> simp [newDeposit]

variable [DecidableEq Key] {rt : Runtime Key} {ctx : Context Key}

/-- The search for a bump asks for neither: it fails for the seeds only. -/
theorem canonical_granted (ungranted : error.Ungranted) (rt : Runtime Key) (key : Key)
    (seeds : Seeds Key) : canonical rt key seeds ≠ .error error := by
  rcases ungranted with rfl | rfl <;> simp [canonical]

/-- The transfer of lamports between accounts asks for neither: it fails for what the accounts
hold only. -/
theorem pay_lamports_granted (ungranted : error.Ungranted) (w : World Key) (deposit target : Key)
    (amount : Nat) : payLamports w deposit target amount ≠ .error error := by
  rcases ungranted with rfl | rfl <;> simp [payLamports]

/-- Behind its checks the handler always returns a record. -/
theorem attest_handler_granted (ungranted : error.Ungranted) (vault : Vault Key)
    (deposit : Deposit Key) (oracleKey : Key) (now : Int) (verdict : AmlVerdict)
    (evidenceHash : Bytes32) :
    Attest.handler vault deposit oracleKey now verdict evidenceHash ≠ .error error := by
  have returns : ∀ (first second : Prop) [Decidable first] [Decidable second]
      (left middle right : Deposit Key),
      (if first then pure left else if second then pure middle else pure right :
        Except Error (Deposit Key)) ≠ .error error := by
    rintro first second _ _ left middle right failed
    split at failed
    · cases failed
    · split at failed <;> cases failed
  rcases ungranted with rfl | rfl <;> simp [Attest.handler, returns]

end Refusals

variable [DecidableEq Key] [Inhabited Key] {rt : Runtime Key} {ctx : Context Key} {w w' : World Key}

/-- What is executed has been granted: every signature and every leave to write that the accounts
of the call ask for. One handler after the other is gone through. -/
theorem executed_grants {instruction : Instruction Key}
    (executed : exec rt ctx instruction w = .ok w') : ctx.Grants instruction := by
  cases instruction with
  | initializeVault accounts oracleSet minAttestations =>
    simp only [exec, initializeVault, bind_ok_iff, signer_ok_iff, writable_ok_iff,
      exists_const] at executed
    obtain ⟨signed, _, _, _, _, vault, authority, _⟩ := executed
    simpa [Context.Grants] using ⟨⟨signed, authority⟩, vault⟩
  | deposit accounts args =>
    simp only [exec, deposit, bind_ok_iff, signer_ok_iff, writable_ok_iff,
      exists_const] at executed
    obtain ⟨signed, _, _, _, _, _, _, deposit, depositor, _, _, vault, _⟩ := executed
    simpa [Context.Grants] using ⟨⟨signed, depositor⟩, vault, deposit⟩
  | depositToken accounts args =>
    simp only [exec, depositToken, bind_ok_iff, signer_ok_iff, writable_ok_iff,
      exists_const] at executed
    obtain ⟨signed, _, _, _, _, _, _, _, _, _, _, deposit, _, _, _, _, escrow, depositor, _, _,
      vault, _, _, source, _⟩ := executed
    simpa [Context.Grants] using
      ⟨⟨signed, depositor⟩, vault, deposit, source, escrow⟩
  | attest accounts verdict evidenceHash =>
    simp only [exec, attest, bind_ok_iff, signer_ok_iff, writable_ok_iff,
      exists_const] at executed
    obtain ⟨signed, _, _, _, _, _, _, _, _, _, _, deposit, _⟩ := executed
    simpa [Context.Grants] using ⟨signed, deposit⟩
  | release accounts =>
    simp only [exec, release, bind_ok_iff, signer_ok_iff, writable_ok_iff,
      exists_const] at executed
    obtain ⟨signed, _, _, _, _, authority, _, _, _, _, deposit, _, _, _, _, target, _⟩ := executed
    simpa [Context.Grants] using ⟨⟨signed, authority⟩, deposit, target⟩
  | releaseToken accounts =>
    simp only [exec, releaseToken, bind_ok_iff, signer_ok_iff, writable_ok_iff,
      exists_const] at executed
    obtain ⟨signed, _, _, _, _, _, _, _, _, _, _, _, _, authority, _, _, _, _, deposit, _, _, _, _,
      _, _, _, _, escrow, _, _, _, _, _, _, target, _⟩ := executed
    simpa [Context.Grants] using
      ⟨⟨signed, authority⟩, deposit, escrow, target⟩
  | refund accounts =>
    simp only [exec, refund, bind_ok_iff, signer_ok_iff, writable_ok_iff,
      exists_const] at executed
    obtain ⟨signed, _, _, _, _, caller, _, _, _, _, deposit, target, _⟩ := executed
    simpa [Context.Grants] using ⟨⟨signed, caller⟩, deposit, target⟩
  | refundToken accounts =>
    simp only [exec, refundToken, bind_ok_iff, signer_ok_iff, writable_ok_iff,
      exists_const] at executed
    obtain ⟨signed, _, _, _, _, _, _, _, _, _, _, _, _, caller, _, _, _, _, deposit, _, _, _, _,
      escrow, _, _, _, _, _, _, target, _⟩ := executed
    simpa [Context.Grants] using
      ⟨⟨signed, caller⟩, deposit, escrow, target⟩

/-- The transaction grants what the error is raised for want of: the error is about signatures
and they are all there, or it is about writing and all may be written. -/
def Context.Spares (ctx : Context Key) (instruction : Instruction Key) (error : Error) : Prop :=
  error = .accountNotSigner ∧ (∀ key ∈ instruction.signers, key ∈ ctx.signers) ∨
    error = .constraintMut ∧ ∀ key ∈ instruction.writables, key ∈ ctx.writable

/-- What has been granted is not refused for want of it. Each handler raises these two errors
in the checks of its accounts only. -/
theorem granted_not_refused {instruction : Instruction Key} {error : Error}
    (granted : ctx.Spares instruction error) : exec rt ctx instruction w ≠ .error error := by
  have ungranted : error.Ungranted := granted.imp And.left And.left
  have search := canonical_granted ungranted rt
  have opens (args : DepositArgs Key) := new_deposit_granted ungranted args
  have pays := pay_lamports_granted ungranted w
  unfold Context.Spares at granted
  cases instruction with
  | initializeVault accounts oracleSet minAttestations =>
    have initializes (bump : UInt8) (authority : Key) :=
      initialize_handler_granted ungranted bump authority
    simp at granted
    rcases granted with ⟨rfl, granted⟩ | ⟨rfl, granted⟩ <;>
      simp [exec, initializeVault, granted, search, initializes]
  | deposit accounts args =>
    simp at granted
    rcases granted with ⟨rfl, granted⟩ | ⟨rfl, granted⟩ <;>
      simp [exec, deposit, granted, search, MakeDeposit.handler, opens]
  | depositToken accounts args =>
    simp at granted
    rcases granted with ⟨rfl, granted⟩ | ⟨rfl, granted⟩ <;>
      simp [exec, depositToken, granted, search, DepositToken.handler, opens]
  | attest accounts verdict evidenceHash =>
    have votes (house : Vault Key) := attest_handler_granted ungranted house
    simp at granted
    rcases granted with ⟨rfl, granted⟩ | ⟨rfl, granted⟩ <;> simp [exec, attest, granted, votes]
  | release accounts =>
    simp at granted
    rcases granted with ⟨rfl, granted⟩ | ⟨rfl, granted⟩ <;> simp [exec, release, granted, pays]
  | releaseToken accounts =>
    simp at granted
    rcases granted with ⟨rfl, granted⟩ | ⟨rfl, granted⟩ <;>
      simp [exec, releaseToken, granted, search, payTokens]
  | refund accounts =>
    simp at granted
    rcases granted with ⟨rfl, granted⟩ | ⟨rfl, granted⟩ <;> simp [exec, refund, granted, pays]
  | refundToken accounts =>
    simp at granted
    rcases granted with ⟨rfl, granted⟩ | ⟨rfl, granted⟩ <;>
      simp [exec, refundToken, granted, search, payTokens]

omit [DecidableEq Key] [Inhabited Key] in
/-- In a transaction that grants what is asked for, every address that the call asks to sign has
signed. -/
theorem Context.Grants.signers {instruction : Instruction Key} (grants : ctx.Grants instruction) :
    ∀ key ∈ instruction.signers, key ∈ ctx.signers := by
  simp only [Instruction.signers, List.mem_map, List.mem_filter]
  rintro key ⟨account, ⟨listed, signs⟩, rfl⟩
  exact (grants account listed).1 signs

omit [DecidableEq Key] [Inhabited Key] in
/-- In a transaction that grants what is asked for, every address that the call asks to write may
be written. -/
theorem Context.Grants.writables {instruction : Instruction Key} (grants : ctx.Grants instruction) :
    ∀ key ∈ instruction.writables, key ∈ ctx.writable := by
  simp only [Instruction.writables, List.mem_map, List.mem_filter]
  rintro key ⟨account, ⟨listed, writes⟩, rfl⟩
  exact (grants account listed).2 writes

/-- A call is executed only if the transaction grants what its accounts ask for; one that is
granted that is never refused for want of a signature or of leave to write.

Proof: a handler that ends well has passed the checks of all its accounts. Conversely the two
errors come from these checks alone, each for an account that the instruction asks about. -/
theorem grants_exact (rt : Runtime Key) (ctx : Context Key) (instruction : Instruction Key)
    (w : World Key) :
    (∀ w', exec rt ctx instruction w = .ok w' → ctx.Grants instruction) ∧
      (ctx.Grants instruction → ∀ error, exec rt ctx instruction w = .error error →
        error ≠ .accountNotSigner ∧ error ≠ .constraintMut) := by
  refine ⟨fun w' executed => executed_grants executed, ?_⟩
  intro grants error failed
  constructor
  · intro unsigned
    exact granted_not_refused (.inl ⟨unsigned, grants.signers⟩) failed
  · intro unwritable
    exact granted_not_refused (.inr ⟨unwritable, grants.writables⟩) failed

end Accounts

section Untouched

/-- Apart from these addresses nothing has changed in what the accounts hold, and no balance has
become smaller. Balances may have grown, as anybody may be paid. -/
def Spared (keys : List Key) (w w' : World Key) : Prop :=
  ∀ key, key ∉ keys → w'.data key = w.data key ∧ w.lamports key ≤ w'.lamports key

variable {keys : List Key} {w middle w' : World Key}

/-- What is spared by a change of some addresses is spared by one of more addresses. -/
theorem Spared.mono {more : List Key} (spared : Spared keys w w')
    (within : ∀ key ∈ keys, key ∈ more) : Spared more w w' :=
  fun key outside => spared key (fun listed => outside (within key listed))

/-- Two changes that spare the same addresses one after the other spare them. -/
theorem Spared.trans (first : Spared keys w middle) (second : Spared keys middle w') :
    Spared keys w w' := by
  intro key outside
  obtain ⟨same, grown⟩ := first key outside
  obtain ⟨sameAfter, grownAfter⟩ := second key outside
  exact ⟨sameAfter.trans same, grown.trans grownAfter⟩

variable [DecidableEq Key] {rt : Runtime Key} {ctx : Context Key}

/-- Writing an account that is asked for spares the others. -/
theorem spared_set_data {key : Key} (asked : key ∈ keys) (data : Data Key (Content Key)) :
    Spared keys w (w.setData key data) := by
  intro other outside
  have different : other ≠ key := fun same => outside (same ▸ asked)
  exact ⟨by simp [different], (World.lamports_set_data ..).ge⟩

/-- A move of lamports debits its source only, so that it spares everybody else. -/
theorem spared_move {source : Key} (asked : source ∈ keys) (target : Key) (amount : Nat) :
    Spared keys w (w.move source target amount) := by
  intro other outside
  have different : other ≠ source := fun same => outside (same ▸ asked)
  exact ⟨World.data_move .., World.lamports_le_move _ _ _ _ _ different⟩

/-- Creating an account spares the others, if it and its payer are asked for. -/
theorem spared_create (lawful : Lawful rt) {payer key : Key} {space : Nat}
    {data : Data Key (Content Key)} (created : rt.create w payer key space data = some w')
    (payerAsked : payer ∈ keys) (asked : key ∈ keys) : Spared keys w w' := by
  obtain ⟨-, -, -, -, rfl⟩ := lawful.create_allocates _ _ _ _ _ _ created
  exact (spared_move payerAsked _ _).trans (spared_set_data asked _)

/-- So does a transfer of tokens: others than its source and its target keep their contents, and
only the source may lose lamports with its tokens. -/
theorem spared_tokens (lawful : Lawful rt) {accounts : TransferChecked Key} {signers : List Key}
    {amount decimals : Nat} (distinct : accounts.source ≠ accounts.target)
    (transferred : rt.transferChecked w accounts signers amount decimals = some w')
    (sourceAsked : accounts.source ∈ keys) (targetAsked : accounts.target ∈ keys) :
    Spared keys w w' := by
  obtain ⟨mint, source, target, spec⟩ := lawful.transfer_checked _ _ _ _ _ _ distinct transferred
  intro key outside
  have notSource : key ≠ accounts.source := fun same => outside (same ▸ sourceAsked)
  have notTarget : key ≠ accounts.target := fun same => outside (same ▸ targetAsked)
  refine ⟨?_, spec.lamports_kept key notSource⟩
  rw [spec.moved, if_neg notTarget, if_neg notSource]

/-- A payout of lamports takes from the deposit's account only, and writes only its record. -/
theorem LamportPayout.spared {payout : Payout Key} {vault : Vault Key} {deposit : Deposit Key}
    (spec : LamportPayout rt ctx payout vault deposit w w') (asked : payout.deposit ∈ keys) :
    Spared keys w w' := by
  rw [spec.saved]
  exact (spared_move asked _ _).trans (spared_set_data asked _)

/-- A payout of tokens takes from the escrow, gives to the target and writes the deposit's
record. -/
theorem TokenPayout.spared (lawful : Lawful rt) {payout : Payout Key} {vault : Vault Key}
    {deposit : Deposit Key} {escrow : Key}
    (spec : TokenPayout rt ctx payout vault deposit escrow w w') (asked : payout.deposit ∈ keys)
    (escrowAsked : escrow ∈ keys) (targetAsked : payout.target ∈ keys) : Spared keys w w' := by
  obtain ⟨program, decimals, signers, paid, transferred, rfl⟩ := spec.transferred
  exact (spared_tokens lawful spec.distinct transferred escrowAsked targetAsked).trans
    (spared_set_data asked _)

variable [Inhabited Key]

/-- A call leaves alone what it has not asked to write. One handler after the other is gone
through, by what each is known to do. -/
theorem executed_spares (lawful : Lawful rt) {instruction : Instruction Key}
    (executed : exec rt ctx instruction w = .ok w') : Spared instruction.writables w w' := by
  cases instruction with
  | initializeVault accounts oracleSet minAttestations =>
    simp only [exec, initializeVault, bind_ok_iff, ok_or_ok_iff, save_vault_ok_iff] at executed
    obtain ⟨_, _, _, _, allocated, created, _, _, _, _, vault, _, _, rfl⟩ := executed
    have opened : Spared (Instruction.initializeVault accounts oracleSet minAttestations).writables
        w allocated := spared_create lawful created (by simp) (by simp)
    exact opened.trans (spared_set_data (by simp) _)
  | deposit accounts args =>
    simp only [exec, deposit, bind_ok_iff, ok_or_ok_iff, save_vault_ok_iff,
      save_deposit_ok_iff] at executed
    obtain ⟨_, _, vault, _, _, _, allocated, created, _, _, _, _, _, _, _, _, _, _, record, _,
      funded, transferred, _, ⟨_, rfl⟩, _, rfl⟩ := executed
    obtain ⟨-, -, rfl⟩ := lawful.transfer_moves _ _ _ _ _ transferred
    have opened : Spared (Instruction.deposit accounts args).writables w allocated :=
      spared_create lawful created (by simp) (by simp)
    have payer : accounts.depositor ∈ (Instruction.deposit accounts args).writables := by simp
    have escrowed := opened.trans (spared_move payer accounts.deposit args.amount)
    exact (escrowed.trans (spared_set_data (by simp) _)).trans (spared_set_data (by simp) _)
  | depositToken accounts args =>
    simp only [exec, depositToken, bind_ok_iff, ok_or_ok_iff, save_vault_ok_iff, load_mint_ok_iff,
      load_token_ok_iff, save_deposit_ok_iff] at executed
    obtain ⟨_, _, vault, _, mint, atMint, source, atSource, _, _, allocated, created, _, _, _, _,
      opened, escrowCreated, _, _, _, _, _, _, _, _, _, _, _, _, _, _, _, _, record, _, funded,
      transferred, _, ⟨_, rfl⟩, _, rfl⟩ := executed
    have spec : Funded rt accounts args.amount mint w funded :=
      deposit_funded lawful atMint atSource created escrowCreated transferred (by simp)
    have escrowed : Spared (Instruction.depositToken accounts args).writables w funded := by
      intro key outside
      simp only [Instruction.writables, Instruction.accountMetas] at outside
      simp at outside
      obtain ⟨notPayer, -, notDeposit, notSource, notEscrow⟩ := outside
      exact ⟨spec.elsewhere key notDeposit notEscrow notSource,
        spec.lamports key (.inr notPayer) notSource⟩
    exact (escrowed.trans (spared_set_data (by simp) _)).trans (spared_set_data (by simp) _)
  | attest accounts verdict evidenceHash =>
    obtain ⟨vault, before, after, spec⟩ := (attest_ok_iff ..).mp executed
    rw [spec.saved]
    exact spared_set_data (by simp) _
  | release accounts =>
    obtain ⟨vault, deposit, -, -, spec⟩ := release_ok_iff.mp executed
    exact spec.spared (by simp)
  | releaseToken accounts =>
    obtain ⟨vault, deposit, spec⟩ := release_token_ok executed
    apply spec.spared lawful <;> simp
  | refund accounts =>
    obtain ⟨vault, deposit, -, -, -, spec⟩ := refund_ok_iff.mp executed
    exact spec.spared (by simp)
  | refundToken accounts =>
    obtain ⟨vault, deposit, spec⟩ := refund_token_ok executed
    apply spec.spared lawful <;> simp

/-- The event is a call that asks to write the address. What others do outside the program may
concern any address, and the collection of empty accounts asks for none. -/
def Event.Asks (key : Key) : Event Key → Prop
  | .call _ instruction => key ∈ instruction.writables
  | .outside => True
  | .reap => False

instance (key : Key) (event : Event Key) : Decidable (event.Asks key) :=
  match event with
  | .call _ instruction => inferInstanceAs (Decidable (key ∈ instruction.writables))
  | .outside => isTrue trivial
  | .reap => isFalse id

/-- One step of the program spares a funded account that it does not ask to write: a call changes
what it has asked for only, and a funded account is not collected. -/
theorem unasked_step (lawful : Lawful rt) {event : Event Key} {key : Key}
    (unasked : ¬ event.Asks key) (funded : 0 < w.lamports key) (step : Step rt w event w') :
    w'.data key = w.data key ∧ w.lamports key ≤ w'.lamports key := by
  cases step with
  | call executed => exact executed_spares lawful executed key unasked
  | outside bounded => exact absurd trivial unasked
  | reap => exact ⟨World.data_reap_funded w key funded, (World.lamports_reap w key).ge⟩

/-- In every run of the program by itself: a funded account that no call asks to write keeps what
it stores, and loses no lamports.

Proof: by induction on the run. What one call changes is among the accounts that it asks to
write, and an account with lamports is not collected. -/
theorem unasked_untouched (lawful : Lawful rt) {events : List (Event Key)}
    (run : Run (Step rt) w events w') {key : Key} (unasked : ∀ event ∈ events, ¬ event.Asks key)
    (funded : 0 < w.lamports key) :
    w'.data key = w.data key ∧ w.lamports key ≤ w'.lamports key := by
  induction run with
  | nil => exact ⟨rfl, le_rfl⟩
  | @snoc events middle after event earlier last kept =>
    have before : ∀ event ∈ events, ¬ event.Asks key :=
      fun event listed => unasked event (List.mem_append_left _ listed)
    obtain ⟨same, grown⟩ := kept before
    obtain ⟨sameAfter, grownAfter⟩ :=
      unasked_step lawful (unasked _ (by simp)) (funded.trans_le grown) last
    exact ⟨sameAfter.trans same, grown.trans grownAfter⟩

end Untouched

namespace Local

/-- The payer's tokens are as they were, after a deposit of lamports and its votes. -/
theorem cleared_untouched :
    (after clearedDeposit).data (.wallet 11) = start.data (.wallet 11) ∧
      start.lamports (.wallet 11) ≤ (after clearedDeposit).lamports (.wallet 11) := by
  have run : Run (Step runtime) start clearedDeposit (after clearedDeposit) :=
    after_run (by decide +kernel)
  exact unasked_untouched runtime_lawful run (by decide +kernel) (by decide)

end Local

end GPay.Quarantine
