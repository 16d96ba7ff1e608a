import GPay.Quarantine.Changes

/-!
# Records and the addresses that hold them

In every reachable world a vault lies at the address derived from its authority,
and a deposit at the one derived from the vault and the data it stores. No call
compares a deposit's vault with the vault it is given; as seeds can be read back
from a derived address, the seeds constraint makes them equal.

A vault is never debited, paused or rewritten except for its counter, and so
outlives every run with the terms it was created with.
-/

namespace GPay.Quarantine

open Solana Runs

variable {Key : Type}

/-- A vault at its derived address, with an accepted oracle list and threshold,
and with lamports that keep it from being collected. -/
structure VaultSound (rt : Runtime Key) (w : World Key) (key : Key) (vault : Vault Key) : Prop where
  derived : rt.createProgramAddress (Seeds.vault vault.authority).list vault.bump = some key
  few : vault.oracleSet.length ≤ maxOracles
  positive : 1 ≤ vault.minAttestations
  listed : vault.minAttestations ≤ vault.oracleSet.length
  running : vault.paused = false
  funded : 0 < w.lamports key

/-- A deposit at its derived address, under an existing vault, with the amount and
the expiry its creation accepted. -/
structure DepositSound (rt : Runtime Key) (w : World Key) (key : Key) (deposit : Deposit Key) :
    Prop where
  derived : rt.createProgramAddress
    (Seeds.deposit deposit.vault deposit.stealthPubkey deposit.ephemeralR).list deposit.bump =
      some key
  housed : ∃ vault, w.data deposit.vault = .program (.vault vault)
  positive : 0 < deposit.amount
  created : i64Min ≤ deposit.createdAt ∧ deposit.createdAt ≤ i64Max
  expiry : ∃ seconds, minExpireSeconds ≤ seconds ∧ seconds ≤ maxExpireSeconds ∧
    deposit.expireAt = saturatingAddI64 deposit.createdAt seconds

/-- What holds of every stored record: vaults and deposits lie at the addresses that are derived
from what they say, and their settings are those that the handlers accept. There is no mint at
the default address. -/
structure Sound [Inhabited Key] (rt : Runtime Key) (w : World Key) : Prop where
  vaults : ∀ key vault, w.data key = .program (.vault vault) → VaultSound rt w key vault
  deposits : ∀ key deposit, w.data key = .program (.deposit deposit) → DepositSound rt w key deposit
  no_default_mint : ∀ mint, w.data default ≠ .mint mint

variable {rt : Runtime Key} {w w' : World Key} {event : Event Key}

/-- A sound vault stays sound when its balance does not fall. -/
theorem VaultSound.credited {key : Key} {vault : Vault Key} (sound : VaultSound rt w key vault)
    (credited : w.lamports key ≤ w'.lamports key) (count : Nat) :
    VaultSound rt w' key { vault with depositCount := count } :=
  { sound with funded := lt_of_lt_of_le sound.funded credited }

/-- A sound deposit stays sound while its terms and its vault stay. -/
theorem DepositSound.same_terms {key : Key} {before after : Deposit Key}
    (sound : DepositSound rt w key before) (terms : before.SameTerms after)
    (housed : ∃ vault, w'.data before.vault = .program (.vault vault)) :
    DepositSound rt w' key after := by
  rw [terms]
  exact { sound with housed }

/-- Before the first call there is nothing to be unsound. -/
theorem genesis_sound [Inhabited Key] (genesis : Genesis w) : Sound rt w :=
  ⟨fun key _ stored => absurd stored (genesis.vacant key _),
    fun key _ stored => absurd stored (genesis.vacant key _), genesis.no_default_mint⟩

/-- A new deposit has no escrow account exactly when it records the default address
as its mint. -/
theorem Opened.lamports_iff [Inhabited Key] (sound : Sound rt w) {ctx : Context Key}
    {opening : Opening Key} {vault : Vault Key} {record : Deposit Key}
    (spec : Opened rt ctx opening vault record w w') :
    opening.escrow = none ↔ record.mint = default := by
  obtain ⟨_, _, _, filled⟩ := (new_deposit_ok_iff ..).mp spec.accepted
  have minted : record.mint = opening.mint := by rw [filled]
  have escrowed := spec.escrowed
  rw [minted]
  cases named : opening.escrow with
  | none =>
    rw [Escrowed, named] at escrowed
    simp [escrowed.1]
  | some escrow =>
    rw [Escrowed, named] at escrowed
    obtain ⟨mint, _, _, stored, _⟩ := escrowed
    have different : opening.mint ≠ default :=
      fun same => sound.no_default_mint mint (same ▸ stored)
    simp [different]

/-- An address determines the vault of the deposits it ever holds. -/
theorem same_vault [Inhabited Key] (injective : SeedsInjective rt) (sound : Sound rt w)
    (later : Sound rt w') {key : Key} {deposit other : Deposit Key}
    (found : w.data key = .program (.deposit deposit))
    (found' : w'.data key = .program (.deposit other)) : other.vault = deposit.vault := by
  have seeds := (injective _ _ _ _ _ (later.deposits _ _ found').derived
    (sound.deposits _ _ found).derived).1
  injection seeds

variable [DecidableEq Key]

/-- A created vault is sound at the address found for it. -/
theorem Initialized.sound (lawful : Lawful rt) {ctx : Context Key} {accounts : InitializeVault Key}
    {oracleSet : List Key} {minAttestations : Nat} {vault : Vault Key}
    (spec : Initialized rt ctx accounts oracleSet minAttestations vault w w') :
    VaultSound rt w' accounts.vault vault := by
  have derived := lawful.find_derived _ _ _ spec.found
  have funded := lt_of_lt_of_le (lawful.rent_positive vaultSpace) spec.rent
  obtain ⟨few, positive, listed⟩ := spec.accepted
  rw [spec.filled]
  exact ⟨derived, few, positive, listed, rfl, funded⟩

variable [Inhabited Key]

/-- The seeds constraint of a payout fixes the vault it is given. -/
theorem paid_vault (injective : SeedsInjective rt) (sound : Sound rt w) {ctx : Context Key}
    {payout : Payout Key} {vault : Vault Key} {deposit : Deposit Key}
    (spec : PaidOut rt ctx payout vault deposit w w') : payout.vault = deposit.vault := by
  have stored := (sound.deposits _ _ spec.at_deposit).derived
  have seeds := (injective _ _ _ _ _ spec.derived stored).1
  injection seeds

/-- The seeds constraint of a vote fixes the vault it is given. -/
theorem attested_vault (injective : SeedsInjective rt) (sound : Sound rt w) {ctx : Context Key}
    {accounts : Attest Key} {verdict : AmlVerdict} {evidenceHash : Bytes32} {vault : Vault Key}
    {before after : Deposit Key}
    (spec : Attested rt ctx accounts verdict evidenceHash vault before after w w') :
    accounts.vault = before.vault := by
  have stored := (sound.deposits _ _ spec.at_deposit).derived
  have seeds := (injective _ _ _ _ _ spec.derived stored).1
  injection seeds

/-- No step debits a vault. -/
theorem vault_credited (effect : Effect rt w event w') {key : Key} {vault : Vault Key}
    (before : w.data key = .program (.vault vault)) : w.lamports key ≤ w'.lamports key := by
  cases effect with
  | initialized spec => exact spec.lamports key (by simp [before])
  | opened view spec => exact spec.lamports key _ before
  | attested spec => simp [spec.saved]
  | paid view spec =>
    refine spec.lamports key _ before (.inl ?_)
    intro same
    simp [same, spec.at_deposit] at before
  | outside bounded => exact (bounded.kept key _ before).2
  | reaped => simp

/-- A deposit is debited by its own payout only. -/
theorem deposit_credited (effect : Effect rt w event w') {key : Key} {deposit : Deposit Key}
    (before : w.data key = .program (.deposit deposit)) (unpaid : ¬ event.Pays key) :
    w.lamports key ≤ w'.lamports key := by
  cases effect with
  | initialized spec => exact spec.lamports key (by simp [before])
  | opened view spec => exact spec.lamports key _ before
  | attested spec => simp [spec.saved]
  | paid view spec =>
    exact spec.lamports key _ before (.inl (fun same => unpaid ⟨_, view, same.symm⟩))
  | outside bounded => exact (bounded.kept key _ before).2
  | reaped => simp

/-- A step that does not pay the deposit out leaves a token account under the deposit's authority
with at least the tokens and the lamports it had, unless it is collected. -/
theorem token_credited (sound : Sound rt w) (effect : Effect rt w event w') {key : Key}
    {deposit : Deposit Key} (before : w.data key = .program (.deposit deposit))
    (unpaid : ¬ event.Pays key) {escrow : Key} {account : TokenAccount Key}
    (token : w.data escrow = .token account) (owner : account.owner = key)
    (kept : event ≠ .reap ∨ 0 < w.lamports escrow) :
    w.lamports escrow ≤ w'.lamports escrow ∧
      ∃ amount, account.amount ≤ amount ∧ w'.data escrow = .token { account with amount } := by
  cases effect with
  | initialized spec =>
    refine ⟨spec.lamports escrow (by simp [token]), account.amount, le_refl _, ?_⟩
    rw [spec.data, if_neg]
    · exact token
    · rintro rfl
      simp [spec.empty] at token
  | @opened ctx instruction opening vault record _ view spec =>
    have different : account.owner ≠ opening.depositor := by
      intro same
      exact spec.payer _ (same ▸ owner ▸ before)
    obtain ⟨same, lamports⟩ := spec.custody escrow account token different
    exact ⟨lamports, account.amount, le_refl _, same⟩
  | attested spec => exact spec.framed.tokens escrow account (by simp) token
  | paid view spec =>
    apply spec.custody escrow account token
    intro debited
    exact unpaid ⟨_, view, owner ▸ (spec.owner debited token).symm⟩
  | outside bounded =>
    have derived : rt.Derived account.owner := owner ▸ ⟨_, _, (sound.deposits _ _ before).derived⟩
    exact bounded.custody escrow account token derived
  | reaped =>
    have funded : 0 < w.lamports escrow := kept.resolve_left (fun other => other rfl)
    refine ⟨by simp, account.amount, le_refl _, ?_⟩
    rw [World.data_reap_funded w escrow funded, token]

/-- No step removes a funded vault or changes more of it than its counter: its authority, its
oracles and its threshold are for good. -/
theorem vault_stays (effect : Effect rt w event w') {key : Key} {vault : Vault Key}
    (before : w.data key = .program (.vault vault)) (funded : 0 < w.lamports key) :
    ∃ count, w'.data key = .program (.vault { vault with depositCount := count }) := by
  cases effect with
  | initialized spec =>
    refine ⟨vault.depositCount, ?_⟩
    rw [spec.data, if_neg]
    · exact before
    · intro same
      simp [same, spec.empty] at before
  | @opened ctx instruction opening counted record _ view spec =>
    have notDeposit : key ≠ opening.deposit := World.apart before spec.empty (by simp)
    by_cases here : key = opening.vault
    · obtain rfl : counted = vault := by simpa [here, spec.at_vault] using before
      exact ⟨_, here ▸ spec.counted⟩
    · exact ⟨vault.depositCount, (spec.kept key _ notDeposit here).mpr before⟩
  | @attested ctx accounts verdict evidenceHash voted earlier after _ spec =>
    refine ⟨vault.depositCount, ?_⟩
    have different : key ≠ accounts.deposit := World.apart before spec.at_deposit (by simp)
    simpa [spec.saved, different] using before
  | @paid ctx instruction payout payer earlier _ view spec =>
    have different : key ≠ payout.deposit := World.apart before spec.at_deposit (by simp)
    exact ⟨vault.depositCount, (spec.kept key _ different).mpr before⟩
  | outside bounded => exact ⟨vault.depositCount, (bounded.kept key _ before).1⟩
  | reaped => exact ⟨vault.depositCount, by rw [World.data_reap_funded w key funded, before]⟩

/-- An accepted deposit is sound at the address found for it. -/
theorem Opened.sound (lawful : Lawful rt) {ctx : Context Key} {opening : Opening Key}
    {vault : Vault Key} {record : Deposit Key} (spec : Opened rt ctx opening vault record w w') :
    DepositSound rt w' opening.deposit record := by
  have derived := lawful.find_derived _ _ _ spec.found
  have counted := spec.counted
  obtain ⟨positive, atLeast, atMost, same⟩ := (new_deposit_ok_iff ..).mp spec.accepted
  rw [same]
  exact ⟨derived, ⟨_, counted⟩, positive, ⟨ctx.clock.low, ctx.clock.high⟩,
    opening.args.expireSeconds, atLeast, atMost, rfl⟩

/-- Every vault found after a step is sound. -/
theorem sound_vault (lawful : Lawful rt) (sound : Sound rt w) (effect : Effect rt w event w')
    {key : Key} {vault : Vault Key} (found : w'.data key = .program (.vault vault)) :
    VaultSound rt w' key vault := by
  cases vault_change effect found with
  | initialized here spec => exact here ▸ spec.sound lawful
  | counted view here spec =>
    have before := here ▸ spec.at_vault
    exact (sound.vaults key _ before).credited (vault_credited effect before) _
  | kept before uncounted =>
    exact (sound.vaults key _ before).credited (vault_credited effect before) _

/-- Every deposit found after a step is sound, whichever of the origins it has. -/
theorem sound_deposit (lawful : Lawful rt) (sound : Sound rt w) (effect : Effect rt w event w')
    {key : Key} {deposit : Deposit Key} (found : w'.data key = .program (.deposit deposit)) :
    DepositSound rt w' key deposit := by
  have kept : ∀ before, w.data key = .program (.deposit before) → before.SameTerms deposit →
      DepositSound rt w' key deposit := by
    intro before at_key terms
    have earlier := sound.deposits key before at_key
    obtain ⟨vault, atVault⟩ := earlier.housed
    obtain ⟨count, stays⟩ := vault_stays effect atVault (sound.vaults _ _ atVault).funded
    exact earlier.same_terms terms ⟨_, stays⟩
  have change := deposit_change effect found
  cases change with
  | opened view here spec => exact here ▸ spec.sound lawful
  | attested here spec =>
    have before := here ▸ spec.at_deposit
    exact kept _ before ((DepositChange.attested here spec).same_terms before)
  | paid view here spec =>
    have before := here ▸ spec.at_deposit
    exact kept _ before ((DepositChange.paid view here spec).same_terms before)
  | kept before spared => exact kept _ before (.refl _)

/-- The default address does not become a mint, which `Pubkey::default` as the mark of lamports
relies on. -/
theorem sound_default (sound : Sound rt w) (effect : Effect rt w event w') (mint : Mint) :
    w'.data default ≠ .mint mint := by
  intro stored
  cases effect with
  | initialized spec =>
    rw [spec.data] at stored
    split at stored
    · cases stored
    · exact sound.no_default_mint mint stored
  | opened view spec => exact sound.no_default_mint mint (spec.mints _ _ stored)
  | @attested ctx accounts _ _ _ _ _ _ spec =>
    by_cases here : default = accounts.deposit
    · simp [spec.saved, here] at stored
    · exact sound.no_default_mint mint (by simpa [spec.saved, here] using stored)
  | paid view spec => exact sound.no_default_mint mint (spec.mints _ _ stored)
  | outside bounded => exact bounded.no_default_mint mint stored
  | reaped => exact sound.no_default_mint mint (World.data_of_reap stored (by simp))

/-- Every step keeps the records sound. -/
theorem sound_step (lawful : Lawful rt) (sound : Sound rt w) (step : Step rt w event w') :
    Sound rt w' :=
  have effect := step_effect lawful step
  ⟨fun _ _ => sound_vault lawful sound effect, fun _ _ => sound_deposit lawful sound effect,
    sound_default sound effect⟩

/-- Every run keeps sound records sound. -/
theorem run_sound (lawful : Lawful rt) (sound : Sound rt w) {events : List (Event Key)}
    (run : Run (Step rt) w events w') : Sound rt w' := by
  have preserved : ∀ before event after, Sound rt before →
      Step rt before event after → Sound rt after :=
    fun _ _ _ => sound_step lawful
  have kept := run.invariant preserved sound
  exact kept

/-- What every step from sound records preserves holds at the end of every run. -/
theorem run_invariant (lawful : Lawful rt) {holds : World Key → Prop}
    (preserved : ∀ before event after, Sound rt before → holds before → Step rt before event after →
      holds after)
    (sound : Sound rt w) (initial : holds w) {events : List (Event Key)}
    (run : Run (Step rt) w events w') : holds w' := by
  have established : ∀ before event after, Sound rt before → Step rt before event after →
      Sound rt after := fun _ _ _ => sound_step lawful
  exact run.invariant_within established preserved sound initial

/-- Every reachable world is sound. -/
theorem Reached.sound (lawful : Lawful rt) {events : List (Event Key)}
    (reached : Reached rt events w) : Sound rt w := by
  obtain ⟨start, genesis, run⟩ := reached
  exact run_sound lawful (genesis_sound genesis) run

/-- Anybody may credit any account. -/
theorem donation (sound : Sound rt w) (key : Key) (amount : Nat) :
    Outside rt w (w.setLamports key (w.lamports key + amount)) where
  kept := by
    intro other content stored
    refine ⟨by simpa using stored, ?_⟩
    rw [World.lamports_set_lamports]
    split <;> simp_all
  created := by simp
  custody := by
    intro other account token _
    refine ⟨?_, account.amount, le_refl _, by simpa using token⟩
    rw [World.lamports_set_lamports]
    split <;> simp_all
  no_default_mint := by simpa using sound.no_default_mint

/-- A vault outlives every run, with all its fields but the counter. -/
theorem run_vault_stays (lawful : Lawful rt) (sound : Sound rt w) {events : List (Event Key)}
    (run : Run (Step rt) w events w') {key : Key} {vault : Vault Key}
    (before : w.data key = .program (.vault vault)) :
    ∃ count, w'.data key = .program (.vault { vault with depositCount := count }) := by
  have stays : ∀ first event second, Sound rt first →
      (∃ count, first.data key = .program (.vault { vault with depositCount := count })) →
      Step rt first event second →
      ∃ count, second.data key = .program (.vault { vault with depositCount := count }) := by
    rintro first event second sound ⟨count, stored⟩ step
    obtain ⟨after, found⟩ :=
      vault_stays (step_effect lawful step) stored (sound.vaults _ _ stored).funded
    exact ⟨after, found⟩
  exact run_invariant lawful stays sound ⟨vault.depositCount, before⟩ run

/-- A run may be continued by a step. -/
theorem Reached.step {events : List (Event Key)} (reached : Reached rt events w)
    (step : Step rt w event w') : Reached rt (events ++ [event]) w' := by
  obtain ⟨start, genesis, run⟩ := reached
  exact ⟨start, genesis, run.snoc step⟩

/-- A run may be continued by a run. -/
theorem Reached.append {events more : List (Event Key)} (reached : Reached rt events w)
    (run : Run (Step rt) w more w') : Reached rt (events ++ more) w' := by
  obtain ⟨start, genesis, earlier⟩ := reached
  exact ⟨start, genesis, earlier.append run⟩

end GPay.Quarantine
