import GPay.Quarantine.Solvency

/-!
# The guaranteed exit of a deposit of lamports

Every unpaid deposit of lamports can be ended where the runtime lets the transaction
write what the payout needs: an approved one is released to any other account by its
release authority, a rejected or expired one is refunded to its refund address by
anybody. The checked subtraction and addition of the payout succeed because the
lamports are there and the supply fits in 64 bits. The deposit's account keeps its
rent.

The refund address is stored as it is given, and a refund goes nowhere else. When it is
one that no transaction may write, nothing ever pays out the rejected deposit.

A paused vault makes no difference. As the program never pauses one, the results
are stated for worlds that differ from a reachable one in pause flags.
-/

namespace GPay.Quarantine

open Solana Runs

variable {Key : Type}

/-- The worlds differ in the pause flags of vaults only. No instruction sets the flag, but a
vault has it and deposits and votes ask for it. -/
structure SameButPaused (w world : World Key) : Prop where
  lamports : ∀ key, world.lamports key = w.lamports key
  data : ∀ key, world.data key = w.data key ∨ ∃ vault paused,
    w.data key = .program (.vault vault) ∧ world.data key = .program (.vault { vault with paused })

/-- A deposit is the same whatever is paused. -/
theorem SameButPaused.deposit {w world : World Key} (same : SameButPaused w world) {key : Key}
    {deposit : Deposit Key} (found : w.data key = .program (.deposit deposit)) :
    world.data key = .program (.deposit deposit) := by
  rcases same.data key with stored | ⟨vault, paused, stored, _⟩
  · rw [stored, found]
  · simp [stored] at found

/-- A vault has the same terms whatever is paused. -/
theorem SameButPaused.vault {w world : World Key} (same : SameButPaused w world) {key : Key}
    {vault : Vault Key} (found : w.data key = .program (.vault vault)) :
    ∃ paused, world.data key = .program (.vault { vault with paused }) := by
  rcases same.data key with stored | ⟨other, paused, stored, changed⟩
  · exact ⟨vault.paused, by rw [stored, found]⟩
  · obtain rfl : vault = other := by simpa [found] using stored
    exact ⟨paused, changed⟩

/-- Every clock value the program stores can be shown by the clock. -/
theorem saturated_clock (left right : Int) :
    ∃ clock : Clock, clock.unixTimestamp = saturatingAddI64 left right := by
  have ordered : i64Min ≤ i64Max := by decide
  exact ⟨⟨saturatingAddI64 left right, le_max_left _ _, max_le ordered (min_le_left _ _)⟩, rfl⟩

/-- The amount left the deposit for the target, and the rest covers the rent of the account, in
which the deposit stays with its new state. -/
structure Exited (rt : Runtime Key) (key target : Key) (deposit : Deposit Key)
    (state : DepositState) (w w' : World Key) : Prop where
  debited : w'.lamports key + deposit.amount = w.lamports key
  credited : w'.lamports target = w.lamports target + deposit.amount
  rent : rt.minimumBalance depositSpace ≤ w'.lamports key
  stored : depositAt w' key = some { deposit with state }

variable [DecidableEq Key] [Inhabited Key] {rt : Runtime Key} {w : World Key}

/-- A due payout of lamports succeeds in every world that differs in pause flags, and pays the
amount, once its accounts may be written.

Proof: all that is checked holds of a deposit of a reachable world. The balance covers the amount
above the rent, and the sum at the target is bounded by the supply. -/
theorem lamport_payout_succeeds (lawful : Lawful rt) (injective : SeedsInjective rt)
    {events : List (Event Key)} (reached : Reached rt events w) (fits : SupplyFits w)
    {key target : Key} {deposit : Deposit Key} (found : w.data key = .program (.deposit deposit))
    (recorded : deposit.mint = default) (unpaid : ¬ deposit.state.Final) (leaves : target ≠ key)
    {world : World Key} (same : SameButPaused w world) {ctx : Context Key}
    (writable : key ∈ ctx.writable ∧ target ∈ ctx.writable) {state : DepositState}
    (due : Due ctx deposit state) :
    ∃ w' vault,
      LamportPayout rt ctx ⟨deposit.vault, key, none, target, state⟩ vault deposit world w' ∧
      Exited rt key target deposit state world w' := by
  have sound := reached.sound lawful
  have depositSound := sound.deposits _ _ found
  obtain ⟨vault, house⟩ := depositSound.housed
  obtain ⟨paused, house'⟩ := same.vault house
  have vaultSound := sound.vaults _ _ house
  have held := reached.lamports_held lawful key deposit found recorded unpaid
  have capacity := (reached.tallied lawful injective _ _ _ found house).capacity vaultSound.few
  have pair := fits.pair leaves
  have covered : deposit.amount ≤ world.lamports key := by
    rw [same.lamports]
    omega
  have room : world.lamports target + deposit.amount ≤ u64Max := by
    rw [same.lamports]
    omega
  refine ⟨_, { vault with paused }, {
    lamports := rfl
    at_vault := house'
    at_deposit := same.deposit found
    vault_derived := vaultSound.derived
    derived := depositSound.derived
    writable
    due
    covered
    fits := by simpa [leaves] using room
    space := deposit_fits capacity
    saved := rfl }, ?_, ?_, ?_, ?_⟩
  · rw [World.lamports_set_data, World.lamports_move _ leaves.symm, if_neg leaves.symm, if_pos rfl]
    omega
  · rw [World.lamports_set_data, World.lamports_move _ leaves.symm, if_pos rfl]
  · rw [World.lamports_set_data, World.lamports_move _ leaves.symm, if_neg leaves.symm, if_pos rfl,
      same.lamports]
    omega
  · exact deposit_at_iff.mpr (by simp)

/-- The transaction is signed by the signer, and asks to write its account, the deposit
and the target. -/
structure SentBy (ctx : Context Key) (signer key target : Key) : Prop where
  signed : signer ∈ ctx.signers
  signer : signer ∈ ctx.writable
  deposit : key ∈ ctx.writable
  target : target ∈ ctx.writable

/-- Every unpaid deposit of lamports is covered above its rent and can be ended as far as
the runtime lets a transaction write the accounts of the signer and of the target: by a
release to any other account once it is approved, by a refund once it is rejected or its
expiry, which the clock can reach, has come.

Proof: the balance is the invariant of the reachable world. The payout then succeeds once
its accounts are writable, and a payout that succeeds has found them so. -/
theorem lamport_exit (lawful : Lawful rt) (injective : SeedsInjective rt)
    {events : List (Event Key)} (reached : Reached rt events w)
    (permitted : ∀ event ∈ events, event.Permitted rt) (fits : SupplyFits w) {key : Key}
    {deposit : Deposit Key}
    (found : depositAt w key = some deposit) (recorded : deposit.mint = default)
    (unpaid : deposit.state = .pending ∨ deposit.state = .approved ∨ deposit.state = .rejected) :
    rt.minimumBalance depositSpace + deposit.amount ≤ w.lamports key ∧
    (∃ clock : Clock, clock.unixTimestamp = deposit.expireAt) ∧
    ∀ world, SameButPaused w world →
      (deposit.state = .approved → ∀ ctx target, target ≠ key →
        SentBy ctx deposit.releaseAuthority key target →
        ((∃ w',
          exec rt (ctx.demoted rt) (.release ⟨deposit.releaseAuthority, deposit.vault, key, target⟩)
              world = .ok w' ∧
            Exited rt key target deposit .released world w') ↔
          rt.reserved deposit.releaseAuthority = false ∧ rt.reserved target = false)) ∧
      (deposit.state = .rejected ∨ deposit.state = .pending →
        ∀ ctx caller, deposit.refundAddr ≠ key →
        (deposit.state = .pending → deposit.expireAt ≤ ctx.now) →
        SentBy ctx caller key deposit.refundAddr →
        ((∃ w',
          exec rt (ctx.demoted rt) (.refund ⟨caller, deposit.vault, key, deposit.refundAddr⟩)
              world = .ok w' ∧
            Exited rt key deposit.refundAddr deposit .refunded world w') ↔
          rt.reserved caller = false ∧ rt.reserved deposit.refundAddr = false)) := by
  have at_key := deposit_at_iff.mp found
  have open_ : ¬ deposit.state.Final := by
    rcases unpaid with state | state | state <;> simp [DepositState.Final, state]
  have sound := (reached.sound lawful).deposits _ _ at_key
  have writable := reached.deposit_writable lawful permitted at_key
  refine ⟨reached.lamports_held lawful key deposit at_key recorded open_, ?_, ?_⟩
  · obtain ⟨seconds, _, _, expiry⟩ := sound.expiry
    rw [expiry]
    exact saturated_clock _ _
  · intro world same
    constructor
    · intro approved ctx target leaves asks
      constructor
      · rintro ⟨w', executed, -⟩
        obtain ⟨vault, other, authorized, authority, payout⟩ := release_ok_iff.mp executed
        exact ⟨((mem_demoted rt ctx _).mp authority).2,
          ((mem_demoted rt ctx _).mp payout.writable.2).2⟩
      · rintro ⟨authority, free⟩
        obtain ⟨w', vault, payout, exited⟩ :=
          lamport_payout_succeeds lawful injective reached fits at_key recorded open_ leaves same
            ⟨(mem_demoted rt ctx _).mpr ⟨asks.deposit, writable⟩,
              (mem_demoted rt ctx _).mpr ⟨asks.target, free⟩⟩
            (.released approved asks.signed)
        exact ⟨w', release_ok_iff.mpr ⟨vault, deposit, rfl,
          (mem_demoted rt ctx _).mpr ⟨asks.signer, authority⟩, payout⟩, exited⟩
    · intro state ctx caller leaves expired asks
      constructor
      · rintro ⟨w', executed, -⟩
        obtain ⟨vault, other, -, signer, -, payout⟩ := refund_ok_iff.mp executed
        exact ⟨((mem_demoted rt ctx _).mp signer).2,
          ((mem_demoted rt ctx _).mp payout.writable.2).2⟩
      · rintro ⟨signer, free⟩
        have allowed : (refundable deposit ctx.now).2 = true := by
          rw [refundable_iff]
          rcases state with rejected | pending
          · exact .inl rejected
          · exact .inr (.inr ⟨pending, expired pending⟩)
        obtain ⟨w', vault, payout, exited⟩ :=
          lamport_payout_succeeds lawful injective reached fits at_key recorded open_ leaves same
            ⟨(mem_demoted rt ctx _).mpr ⟨asks.deposit, writable⟩,
              (mem_demoted rt ctx _).mpr ⟨asks.target, free⟩⟩
            (.refunded allowed)
        exact ⟨w', refund_ok_iff.mpr ⟨vault, deposit, asks.signed,
          (mem_demoted rt ctx _).mpr ⟨asks.signer, signer⟩, rfl, payout⟩, exited⟩

/-- A deposit of lamports that is to be refunded to a reserved address is never paid out by
a transaction that the runtime lets through. -/
theorem reserved_refund_locked (lawful : Lawful rt) {events : List (Event Key)}
    (reached : Reached rt events w) {key : Key} {deposit : Deposit Key}
    (found : depositAt w key = some deposit) (recorded : deposit.mint = default)
    (state : deposit.state ≠ .approved) (locked : rt.reserved deposit.refundAddr = true)
    {ctx : Context Key} (allowed : ctx.Permitted rt) {instruction : Instruction Key}
    {payout : Payout Key} (view : instruction.payout = some payout) (pays : payout.deposit = key)
    (w' : World Key) : exec rt ctx instruction w ≠ .ok w' := by
  intro executed
  obtain ⟨vault, other, spec⟩ := paid_of_exec lawful executed view
  obtain rfl : other = deposit := by
    have stored := pays ▸ spec.at_deposit
    rw [deposit_at_iff.mp found] at stored
    simpa using stored.symm
  have approved (released : payout.outcome = .released) : False := by
    have due := spec.due
    rw [released] at due
    cases due with
    | released approved signed => exact state approved
  have tokens (escrow : Key) (moved : payout.escrow = some escrow) : False := by
    have paid := spec.paid
    rw [Paid, moved] at paid
    obtain ⟨mint, -, -, minted, -⟩ := paid
    exact (reached.sound lawful).no_default_mint mint (recorded ▸ minted)
  cases instruction with
  | release accounts => exact approved (by rw [← Option.some.inj view])
  | releaseToken accounts => exact tokens _ (by rw [← Option.some.inj view])
  | refundToken accounts => exact tokens _ (by rw [← Option.some.inj view])
  | refund accounts =>
    obtain ⟨house, record, -, -, target, lamports⟩ := refund_ok_iff.mp executed
    have same : record = other := by
      have stored := spec.at_deposit
      rw [← Option.some.inj view, lamports.at_deposit] at stored
      simpa using stored
    have free := allowed _ lamports.writable.2
    rw [target, same, locked] at free
    cases free
  | initializeVault accounts oracleSet minAttestations => cases view
  | deposit accounts args => cases view
  | depositToken accounts args => cases view
  | attest accounts verdict evidenceHash => cases view

/-- The world of the fresh deposit, written out. -/
def freshWorld : World Address :=
  (((((((Local.start.move (.wallet 1) Local.vaultKey (Local.minimumBalance vaultSpace)).setData
    Local.vaultKey (.program (.vault Vault.zeroed))).setData
    Local.vaultKey (.program (.vault (Local.openedVault Local.oracles 2 0)))).move
    (.wallet 1) Local.depositKey (Local.minimumBalance depositSpace)).setData
    Local.depositKey (.program (.deposit Deposit.zeroed))).move
    (.wallet 1) Local.depositKey 500).setData
    Local.vaultKey (.program (.vault (Local.openedVault Local.oracles 2 1)))).setData
    Local.depositKey (.program (.deposit (Local.fresh 1001 default 500)))

set_option maxRecDepth 10000 in
/-- The deposit's world, account by account. -/
theorem fresh_world : Local.after Local.freshDeposit = freshWorld := by rfl

/-- Its balances fit in 64 bits, as lamports have only moved. -/
theorem fresh_fits : SupplyFits (Local.after Local.freshDeposit) := by
  have opened := ((Local.start_fits.move (by decide : Address.wallet 1 ≠ Local.vaultKey)
    (by decide +kernel :
      Local.minimumBalance vaultSpace ≤ Local.start.lamports (.wallet 1))).setData
      Local.vaultKey (.program (.vault Vault.zeroed))).setData Local.vaultKey
        (.program (.vault (Local.openedVault Local.oracles 2 0)))
  rw [fresh_world]
  exact ((((opened.move (by decide) (by decide +kernel)).setData _ _).move (by decide)
    (by decide +kernel)).setData _ _).setData _ _

/-- The same world with the vault paused. -/
def pausedWorld : World Address :=
  (Local.after Local.freshDeposit).setData Local.vaultKey
    (.program (.vault { Local.openedVault Local.oracles 2 1 with paused := true }))

/-- After its expiry anybody can refund the fresh deposit, paused or not. -/
theorem lamport_exit_paused :
    ∃ w',
      exec Local.runtime ((Local.context 5000).demoted Local.runtime)
        (Local.refundBy (.wallet 2)) pausedWorld = .ok w' ∧
      Exited Local.runtime Local.depositKey (.wallet 6) (Local.fresh 1001 default 500) .refunded
        pausedWorld w' := by
  have found : depositAt (Local.after Local.freshDeposit) Local.depositKey =
      some (Local.fresh 1001 default 500) := by decide +kernel
  have same : SameButPaused (Local.after Local.freshDeposit) pausedWorld := by
    refine ⟨fun key => by simp [pausedWorld], fun key => ?_⟩
    by_cases here : key = Local.vaultKey
    · refine .inr ⟨Local.openedVault Local.oracles 2 1, true, ?_, by simp [pausedWorld, here]⟩
      exact vault_at_iff.mp (by rw [here]; decide +kernel)
    · exact .inl (by simp [pausedWorld, here])
  have permitted : ∀ event ∈ Local.freshDeposit, event.Permitted Local.runtime := by
    intro event listed
    simp only [Local.freshDeposit, List.mem_cons, List.not_mem_nil, or_false] at listed
    rcases listed with rfl | rfl <;> exact Local.context_permitted _
  have asks : SentBy (Local.context 5000) (.wallet 2) Local.depositKey (.wallet 6) :=
    ⟨by decide, by decide, by decide, by decide⟩
  obtain ⟨_, _, exits⟩ :=
    lamport_exit Local.runtime_lawful Local.runtime_injective Local.fresh_reached permitted
    fresh_fits found rfl (.inl rfl)
  exact ((exits pausedWorld same).2 (.inr rfl) (Local.context 5000) (.wallet 2) (by decide)
    (fun _ => by decide +kernel) asks).mpr ⟨by decide, by decide⟩

namespace Local

/-- A deposit that is to be refunded to the reserved address, and that two oracles reject. -/
def lockedDeposit : List (Event Address) :=
  [openVault oracles 2,
    .call (context 1001)
      (.deposit ⟨.wallet 1, vaultKey, depositKey⟩ { terms 500 with refundAddr := .wallet 0 }),
    vote 1002 (.wallet 2) .dirty, vote 1003 (.wallet 3) .dirty]

/-- What is stored for it. -/
def lockedRecord : Deposit Address :=
  { fresh 1001 default 500 with
    refundAddr := .wallet 0
    state := .rejected
    attestations := [⟨.wallet 2, .dirty, 1002, Bytes32.zeros⟩,
      ⟨.wallet 3, .dirty, 1003, Bytes32.zeros⟩]
    dirtyCount := 2 }

end Local

/-- In a run that the runtime lets through a deposit of lamports is rejected, and no
transaction that it lets through ever pays it out. -/
theorem rejected_deposit_locked :
    ∃ events w deposit, Reached Local.runtime events w ∧
      (∀ event ∈ events, event.Permitted Local.runtime) ∧
      depositAt w Local.depositKey = some deposit ∧ deposit.mint = default ∧
      deposit.state = .rejected ∧ deposit.refundAddr ≠ Local.depositKey ∧
      ∀ ctx instruction payout, Context.Permitted Local.runtime ctx →
        instruction.payout = some payout → payout.deposit = Local.depositKey →
        ∀ w', exec Local.runtime ctx instruction w ≠ .ok w' := by
  have reached : Reached Local.runtime Local.lockedDeposit (Local.after Local.lockedDeposit) :=
    Local.after_reached (by decide +kernel)
  have found : depositAt (Local.after Local.lockedDeposit) Local.depositKey =
      some Local.lockedRecord := by decide +kernel
  refine ⟨_, _, _, reached, ?_, found, rfl, rfl, by decide, ?_⟩
  · intro event listed
    simp only [Local.lockedDeposit, List.mem_cons, List.not_mem_nil, or_false] at listed
    rcases listed with rfl | rfl | rfl | rfl <;> exact Local.context_permitted _
  · intro ctx instruction payout allowed view pays w'
    exact reserved_refund_locked Local.runtime_lawful reached found rfl (by decide) (by decide)
      allowed view pays w'

end GPay.Quarantine
