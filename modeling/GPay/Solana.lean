import Mathlib.Algebra.Order.BigOperators.Group.Finset

/-!
# Accounts and programs of the runtime

A world gives every address a lamport balance and what is stored there. Contents
name their owner: the system program for an empty account, the modelled program
with a content type of its choice, a token program for mints and token accounts,
or some other program. An account is modified by its owner only.

Address derivation, rent, and the system and token programs are parameters: a
`Runtime` supplies their functions and `Lawful` what a successful call is
documented to do. Nothing is said about when they fail. Addresses are abstract
because a derivation that never collides cannot have finitely many of them.

Steps of the world outside the modelled program are bounded by what the runtime
grants other programs: credits and creations anywhere, but no write, no debit
and no signature on behalf of the program or of an address derived for it.
-/

namespace GPay.Solana

/-- Largest `u64`. -/
def u64Max : Nat := 2 ^ 64 - 1

/-- Smallest `i64`. -/
def i64Min : Int := -2 ^ 63

/-- Largest `i64`. -/
def i64Max : Int := 2 ^ 63 - 1

/-- `u64::checked_add`. -/
def checkedAdd (left right : Nat) : Option Nat :=
  if left + right ≤ u64Max then some (left + right) else none

/-- `u64::checked_sub`. -/
def checkedSub (left right : Nat) : Option Nat :=
  if right ≤ left then some (left - right) else none

/-- `saturating_add` of an unsigned type with the given largest value, at which the sum stops. -/
def saturatingAdd (largest left right : Nat) : Nat := min largest (left + right)

/-- `i64::saturating_add`. -/
def saturatingAddI64 (left right : Int) : Int := max i64Min (min i64Max (left + right))

/-- A `[u8; 32]`. -/
abbrev Bytes32 := { bytes : List UInt8 // bytes.length = 32 }

/-- `[0; 32]`. -/
def Bytes32.zeros : Bytes32 := ⟨List.replicate 32 0, rfl⟩

/-- The `Clock` sysvar's `unix_timestamp`, an `i64`. -/
structure Clock where
  unixTimestamp : Int
  low : i64Min ≤ unixTimestamp
  high : unixTimestamp ≤ i64Max

/-- One component of a seed list: a literal, an address or 32 bytes of data. -/
inductive Seed (Key : Type) where
  | tag (text : String)
  | key (address : Key)
  | bytes (value : Bytes32)
  deriving DecidableEq

/-- The two programs an `Interface<TokenInterface>` accepts. -/
inductive TokenProgram where
  | token
  | token2022
  deriving DecidableEq

/-- A mint account. `fee` is what the mint withholds from a transfer; only
Token-2022 mints may withhold anything. `accountLen` is the size of its token
accounts. -/
structure Mint where
  program : TokenProgram
  decimals : Nat
  accountLen : Nat
  fee : Nat → Nat
  fee_le : ∀ amount, fee amount ≤ amount
  fee_token : program = .token → ∀ amount, fee amount = 0

/-- A token account: the token program that it belongs to, its mint, and the tokens that it
holds. `owner` is the authority that signs for its debits. -/
structure TokenAccount (Key : Type) where
  program : TokenProgram
  mint : Key
  owner : Key
  amount : Nat

/-- What an address stores, by owner. `P` is the content type of the modelled
program; an address that does not exist is an empty system account. -/
inductive Data (Key P : Type) where
  | system
  | program (content : P)
  | mint (mint : Mint)
  | token (account : TokenAccount Key)
  | foreign

/-- The balance of an address and what it stores. -/
structure Account (Key P : Type) where
  lamports : Nat
  data : Data Key P

/-- Every address and its account. Where there is none, the account has no lamports and is the
system program's. -/
structure World (Key P : Type) where
  account : Key → Account Key P

variable {Key P : Type}

namespace World

/-- The balance of an address. -/
def lamports (w : World Key P) (key : Key) : Nat := (w.account key).lamports

/-- What an address stores. -/
def data (w : World Key P) (key : Key) : Data Key P := (w.account key).data

/-- Accounts that hold different data are different accounts. -/
theorem apart {w : World Key P} {left right : Key} {first second : Data Key P}
    (atLeft : w.data left = first) (atRight : w.data right = second) (differ : first ≠ second) :
    left ≠ right := by
  rintro rfl
  exact differ (atLeft.symm.trans atRight)

/-- An account whose balance is zero at the end of a transaction is gone: its address is empty
again, with all that it stored. -/
def reap (w : World Key P) : World Key P :=
  ⟨fun key => if w.lamports key = 0 then ⟨0, .system⟩ else w.account key⟩

section Update

variable [DecidableEq Key]

/-- The world with another balance at an address. -/
def setLamports (w : World Key P) (key : Key) (lamports : Nat) : World Key P :=
  ⟨fun other => if other = key then ⟨lamports, w.data key⟩ else w.account other⟩

/-- The world with other contents at an address. -/
def setData (w : World Key P) (key : Key) (data : Data Key P) : World Key P :=
  ⟨fun other => if other = key then ⟨w.lamports key, data⟩ else w.account other⟩

/-- Debit, then credit the balance read after the debit, so that a move from an account to itself
leaves its balance. -/
def move (w : World Key P) (source target : Key) (amount : Nat) : World Key P :=
  let debited := w.setLamports source (w.lamports source - amount)
  debited.setLamports target (debited.lamports target + amount)

/-- The balance is another at that address only. -/
@[simp] theorem lamports_set_lamports (w : World Key P) (key other : Key) (amount : Nat) :
    (w.setLamports key amount).lamports other =
      if other = key then amount else w.lamports other := by
  simp only [lamports, setLamports]
  split <;> rfl

/-- No contents change with a balance. -/
@[simp] theorem data_set_lamports (w : World Key P) (key other : Key) (amount : Nat) :
    (w.setLamports key amount).data other = w.data other := by
  simp only [data, setLamports]
  split <;> simp_all

/-- No balance changes with contents. -/
@[simp] theorem lamports_set_data (w : World Key P) (key other : Key) (data : Data Key P) :
    (w.setData key data).lamports other = w.lamports other := by
  simp only [lamports, setData]
  split <;> simp_all

/-- The contents are others at that address only. -/
@[simp] theorem data_set_data (w : World Key P) (key other : Key) (content : Data Key P) :
    (w.setData key content).data other = if other = key then content else w.data other := by
  simp only [data, setData]
  split <;> rfl

/-- No contents change when lamports move. -/
@[simp] theorem data_move (w : World Key P) (source target other : Key) (amount : Nat) :
    (w.move source target amount).data other = w.data other := by
  simp [move]

/-- Between distinct accounts a move debits one and credits the other. -/
theorem lamports_move (w : World Key P) {source target : Key} (distinct : source ≠ target)
    (amount : Nat) (other : Key) :
    (w.move source target amount).lamports other =
      if other = target then w.lamports target + amount
      else if other = source then w.lamports source - amount else w.lamports other := by
  simp [move, Ne.symm distinct]

/-- A move within one balance leaves it alone. -/
theorem lamports_move_self (w : World Key P) (key other : Key) (amount : Nat)
    (covered : amount ≤ w.lamports key) :
    (w.move key key amount).lamports other = w.lamports other := by
  simp only [move, lamports_set_lamports]
  split <;> simp_all

/-- Nobody but the source of a move loses lamports. -/
theorem lamports_le_move (w : World Key P) (source target other : Key) (amount : Nat)
    (kept : other ≠ source) : w.lamports other ≤ (w.move source target amount).lamports other := by
  simp only [move, lamports_set_lamports]
  split <;> simp_all

end Update

/-- Removing empty accounts takes no lamports. -/
@[simp] theorem lamports_reap (w : World Key P) (key : Key) :
    w.reap.lamports key = w.lamports key := by
  by_cases gone : (w.account key).lamports = 0
  · simp [lamports, reap, gone]
  · simp [lamports, reap, gone]

/-- What is removed is what has no lamports. -/
theorem data_reap (w : World Key P) (key : Key) :
    w.reap.data key = if w.lamports key = 0 then .system else w.data key := by
  simp only [data, reap]
  split <;> rfl

/-- What an address stores after the end of a transaction it stored before. -/
theorem data_of_reap {w : World Key P} {key : Key} {data : Data Key P}
    (found : w.reap.data key = data) (stored : data ≠ .system) : w.data key = data := by
  rw [data_reap] at found
  split at found
  · exact absurd found.symm stored
  · exact found

/-- A funded account survives the end of a transaction. -/
theorem data_reap_funded (w : World Key P) (key : Key) (funded : 0 < w.lamports key) :
    w.reap.data key = w.data key := by
  rw [data_reap, if_neg (by omega)]

end World

/-- The total supply of lamports fits in a `u64`, over any finite set of addresses. -/
def SupplyFits (w : World Key P) : Prop :=
  ∀ keys : Finset Key, ∑ key ∈ keys, w.lamports key ≤ u64Max

/-- Two balances together never overflow. -/
theorem SupplyFits.pair [DecidableEq Key] {w : World Key P} (fits : SupplyFits w) {left right : Key}
    (distinct : left ≠ right) : w.lamports left + w.lamports right ≤ u64Max := by
  have bound := fits {left, right}
  rwa [Finset.sum_pair distinct] at bound

/-- A move changes no total that includes both of its accounts, the source having what is
moved. -/
theorem World.sum_move [DecidableEq Key] (w : World Key P) {source target : Key}
    (distinct : source ≠ target) {amount : Nat} (covered : amount ≤ w.lamports source)
    {keys : Finset Key} (hasSource : source ∈ keys) (hasTarget : target ∈ keys) :
    ∑ key ∈ keys, (w.move source target amount).lamports key = ∑ key ∈ keys, w.lamports key := by
  have inside : target ∈ keys.erase source := Finset.mem_erase.mpr ⟨distinct.symm, hasTarget⟩
  have parts : ∀ balance : Key → Nat, ∑ key ∈ keys, balance key =
      balance source +
        (balance target + ∑ key ∈ (keys.erase source).erase target, balance key) := by
    intro balance
    rw [Finset.add_sum_erase _ _ inside, Finset.add_sum_erase _ _ hasSource]
  have others :
      ∑ key ∈ (keys.erase source).erase target, (w.move source target amount).lamports key =
      ∑ key ∈ (keys.erase source).erase target, w.lamports key := by
    apply Finset.sum_congr rfl
    intro key member
    obtain ⟨notTarget, member⟩ := Finset.mem_erase.mp member
    rw [World.lamports_move w distinct, if_neg notTarget, if_neg (Finset.ne_of_mem_erase member)]
  rw [parts, parts w.lamports, others, World.lamports_move w distinct,
    World.lamports_move w distinct, if_neg distinct, if_pos rfl, if_pos rfl]
  omega

/-- Moves keep the supply. -/
theorem SupplyFits.move [DecidableEq Key] {w : World Key P} (fits : SupplyFits w)
    {source target : Key} (distinct : source ≠ target) {amount : Nat}
    (covered : amount ≤ w.lamports source) :
    SupplyFits (w.move source target amount) := by
  intro keys
  let all := insert source (insert target keys)
  calc ∑ key ∈ keys, (w.move source target amount).lamports key
      ≤ ∑ key ∈ all, (w.move source target amount).lamports key :=
        Finset.sum_le_sum_of_subset (fun key member => by simp [all, member])
    _ = ∑ key ∈ all, w.lamports key := w.sum_move distinct covered (by simp [all]) (by simp [all])
    _ ≤ u64Max := fits all

/-- Writing data moves nothing. -/
theorem SupplyFits.setData [DecidableEq Key] {w : World Key P} (fits : SupplyFits w) (key : Key)
    (data : Data Key P) : SupplyFits (w.setData key data) := by
  intro keys
  simpa using fits keys

/-- The accounts of a `transfer_checked` instruction, by the roles that they play in it, and the
token program that is called. -/
structure TransferChecked (Key : Type) where
  program : TokenProgram
  source : Key
  mint : Key
  target : Key
  authority : Key

/-- What the modelled program calls or relies on. `transfer` is the system
program's; `create` is an Anchor `init` paid by the first address, for an account
of the given size and contents; the list given to `transferChecked` holds the
addresses that sign it. `reserved` are the addresses that no transaction may
write, such as those of the built-in programs, and `rentKept` is the check on an
account that a transaction may write, between its start and its end. -/
structure Runtime (Key P : Type) where
  createProgramAddress : List (Seed Key) → UInt8 → Option Key
  findProgramAddress : List (Seed Key) → Option (Key × UInt8)
  minimumBalance : Nat → Nat
  transfer : World Key P → (source target : Key) → (amount : Nat) → Option (World Key P)
  create : World Key P → (payer key : Key) → (space : Nat) → Data Key P → Option (World Key P)
  transferChecked : World Key P → TransferChecked Key → (signers : List Key) →
    (amount decimals : Nat) → Option (World Key P)
  reserved : Key → Bool
  rentKept : Key → (before after : Account Key P) → Bool

/-- A transfer of tokens between two accounts of one mint, signed by the source's
owner: the source loses the amount, the target gains it less the mint's fee. No
other contents change. Only the source may lose lamports with its tokens, as the
accounts of wrapped lamports do, and it keeps its rent. -/
structure TokensMoved [DecidableEq Key] (w w' : World Key P) (accounts : TransferChecked Key)
    (signers : List Key) (amount : Nat) (mint : Mint) (source target : TokenAccount Key) :
    Prop where
  at_mint : w.data accounts.mint = .mint mint
  at_source : w.data accounts.source = .token source
  at_target : w.data accounts.target = .token target
  programs : mint.program = accounts.program ∧ source.program = accounts.program ∧
    target.program = accounts.program
  source_mint : source.mint = accounts.mint
  target_mint : target.mint = accounts.mint
  authorized : source.owner = accounts.authority
  signed : accounts.authority ∈ signers
  covered : amount ≤ source.amount
  moved : ∀ key, w'.data key =
    if key = accounts.target then
      .token { target with amount := target.amount + (amount - mint.fee amount) }
    else if key = accounts.source then .token { source with amount := source.amount - amount }
    else w.data key
  lamports_kept : ∀ key, key ≠ accounts.source → w.lamports key ≤ w'.lamports key
  rent_kept : 0 < w.lamports accounts.source → 0 < w'.lamports accounts.source

/-- A transfer of tokens leaves what is no token account alone, its balance in lamports
included. -/
theorem TokensMoved.untouched [DecidableEq Key] {w w' : World Key P}
    {accounts : TransferChecked Key} {signers : List Key} {amount : Nat} {mint : Mint}
    {source target : TokenAccount Key}
    (spec : TokensMoved w w' accounts signers amount mint source target) {key : Key}
    {data : Data Key P} (noToken : ∀ account, data ≠ .token account) :
    w'.data key = data ↔ w.data key = data := by
  rw [spec.moved]
  split
  · rename_i same
    rw [same, spec.at_target]
    exact iff_of_false (noToken _).symm (noToken _).symm
  · split
    · rename_i same
      rw [same, spec.at_source]
      exact iff_of_false (noToken _).symm (noToken _).symm
    · rfl

/-- What successful calls do. A search for a bump returns a derivable address;
every account size has a positive rent-exempt minimum; the system program debits
empty system accounts only; `init` allocates an empty system account and tops its
balance up to the minimum, by such a transfer when lamports are missing; its payer
signs, which no account of the program does, as they all have derived addresses; a
token transfer between distinct accounts moves tokens. -/
structure Lawful [DecidableEq Key] (rt : Runtime Key P) : Prop where
  find_derived : ∀ seeds key bump, rt.findProgramAddress seeds = some (key, bump) →
    rt.createProgramAddress seeds bump = some key
  rent_positive : ∀ space, 0 < rt.minimumBalance space
  transfer_moves : ∀ w source target amount w', rt.transfer w source target amount = some w' →
    w.data source = .system ∧ amount ≤ w.lamports source ∧ w' = w.move source target amount
  create_allocates : ∀ w payer key space data w', rt.create w payer key space data = some w' →
    payer ≠ key ∧ (w.lamports key < rt.minimumBalance space → w.data payer = .system) ∧
      (∀ content, w.data payer ≠ .program content) ∧ w.data key = .system ∧
      w' = (w.move payer key (rt.minimumBalance space - w.lamports key)).setData key data
  transfer_checked : ∀ w accounts signers amount decimals w', accounts.source ≠ accounts.target →
    rt.transferChecked w accounts signers amount decimals = some w' →
      ∃ mint source target, TokensMoved w w' accounts signers amount mint source target

/-- What the rent check lets through: an account that is as it was, one of the program
with its rent, and an empty account that ends with nothing or with its rent. The
contents of the program have the given sizes. -/
structure RentChecked (rt : Runtime Key P) (space : P → Nat) : Prop where
  kept : ∀ key account, rt.rentKept key account account = true
  stored : ∀ key before after content, after.data = .program content →
    rt.minimumBalance (space content) ≤ after.lamports → rt.rentKept key before after = true
  funded : ∀ key before after, after.data = .system →
    after.lamports = 0 ∨ rt.minimumBalance 0 ≤ after.lamports → rt.rentKept key before after = true

/-- The accounts that fail the rent check at the end of a transaction that may write them. -/
def Runtime.unkept (rt : Runtime Key P) (written : List Key) (w w' : World Key P) : List Key :=
  written.filter (fun key => !rt.rentKept key (w.account key) (w'.account key))

/-- The check lets a transaction through when every account passes it. -/
theorem unkept_nil_iff (rt : Runtime Key P) (written : List Key) (w w' : World Key P) :
    rt.unkept written w w' = [] ↔
      ∀ key ∈ written, rt.rentKept key (w.account key) (w'.account key) = true := by
  simp [Runtime.unkept, List.filter_eq_nil_iff]

/-- Some seeds and bump derive the address: only the modelled program signs for it, as no key
pair has such an address. -/
def Runtime.Derived (rt : Runtime Key P) (key : Key) : Prop :=
  ∃ seeds bump, rt.createProgramAddress seeds bump = some key

/-- What other programs and users may do between two calls of the modelled
program: its accounts keep their data and are at most credited, no account
becomes its own, token accounts under the authority of a derived address are at
most credited, and the default address does not become a mint. -/
structure Outside [Inhabited Key] (rt : Runtime Key P) (w w' : World Key P) : Prop where
  kept : ∀ key content, w.data key = .program content →
    w'.data key = .program content ∧ w.lamports key ≤ w'.lamports key
  created : ∀ key content, w'.data key = .program content → w.data key = .program content
  custody : ∀ key account, w.data key = .token account → rt.Derived account.owner →
    w.lamports key ≤ w'.lamports key ∧
      ∃ amount, account.amount ≤ amount ∧ w'.data key = .token { account with amount }
  no_default_mint : ∀ mint, w'.data default ≠ .mint mint

/-- Before the first call the modelled program owns nothing, and the default
address is not a mint. -/
structure Genesis [Inhabited Key] (w : World Key P) : Prop where
  vacant : ∀ key content, w.data key ≠ .program content
  no_default_mint : ∀ mint, w.data default ≠ .mint mint

end GPay.Solana
