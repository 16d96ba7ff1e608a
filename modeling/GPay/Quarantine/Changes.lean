import GPay.Quarantine.Payouts

/-!
# A step seen from one address

Where the record found at an address after a step comes from, and what becomes
of the record found there before. A deposit changes by its creation, a vote or
its payout; a vault by its creation or by a deposit counted under it. Every other
step leaves the record alone, except that the end of a transaction removes an
account whose balance is zero.

A deposit found before and after a step keeps its terms, which are all its fields
but the state and the tally.
-/

namespace GPay.Quarantine

open Solana Runs

variable {Key : Type}

/-- Two stages of one deposit: only the state and the tally may differ. -/
def Deposit.SameTerms (before after : Deposit Key) : Prop :=
  after = { before with
    state := after.state
    attestations := after.attestations
    cleanCount := after.cleanCount
    dirtyCount := after.dirtyCount }

/-- A deposit has its own terms. -/
theorem Deposit.SameTerms.refl (deposit : Deposit Key) : deposit.SameTerms deposit := rfl

/-- Terms that are kept twice are kept. -/
theorem Deposit.SameTerms.trans {first second third : Deposit Key}
    (earlier : first.SameTerms second) (later : second.SameTerms third) :
    first.SameTerms third := by
  rw [Deposit.SameTerms] at *
  rw [later, earlier]

variable [Inhabited Key]

/-- A call that creates a deposit pays none and records no vote. -/
theorem opening_alone {instruction : Instruction Key} {opening : Opening Key}
    (view : instruction.opening = some opening) (ctx : Context Key) [DecidableEq Key] (key : Key) :
    instruction.payout = none ∧ (Event.call ctx instruction).attestation key = none := by
  cases instruction <;> simp_all [Instruction.opening, Instruction.payout, Event.attestation]

/-- A call that pays a deposit creates none and records no vote. -/
theorem payout_alone {instruction : Instruction Key} {payout : Payout Key}
    (view : instruction.payout = some payout) (ctx : Context Key) [DecidableEq Key] (key : Key) :
    instruction.opening = none ∧ (Event.call ctx instruction).attestation key = none := by
  cases instruction <;> simp_all [Instruction.opening, Instruction.payout, Event.attestation]

variable [DecidableEq Key]

/-- What a successful payout did. -/
theorem paid_of_exec {rt : Runtime Key} (lawful : Lawful rt) {ctx : Context Key}
    {instruction : Instruction Key} {payout : Payout Key} {w w' : World Key}
    (executed : exec rt ctx instruction w = .ok w') (view : instruction.payout = some payout) :
    ∃ vault deposit, PaidOut rt ctx payout vault deposit w w' := by
  cases step_effect lawful (.call executed) with
  | initialized spec => simp [Instruction.payout] at view
  | opened opened spec => simp [(opening_alone opened ctx payout.deposit).1] at view
  | attested spec => simp [Instruction.payout] at view
  | paid paid spec =>
    obtain rfl : _ = payout := by simpa [paid] using view
    exact ⟨_, _, spec⟩

/-- A step that pays out the deposit at an address is one of the four payouts. -/
theorem pays_out {rt : Runtime Key} (lawful : Lawful rt) {w w' : World Key} {event : Event Key}
    (step : Step rt w event w') {payout : Payout Key} (view : event.payout = some payout) :
    ∃ ctx instruction vault deposit, event = .call ctx instruction ∧
      PaidOut rt ctx payout vault deposit w w' := by
  cases step with
  | @call _ ctx instruction executed =>
    obtain ⟨vault, deposit, spec⟩ := paid_of_exec lawful executed view
    exact ⟨ctx, instruction, vault, deposit, rfl, spec⟩
  | outside bounded => cases view
  | reap => cases view

/-- What a successful creation of a deposit did. -/
theorem opened_of_exec {rt : Runtime Key} (lawful : Lawful rt) {ctx : Context Key}
    {instruction : Instruction Key} {opening : Opening Key} {w w' : World Key}
    (executed : exec rt ctx instruction w = .ok w') (view : instruction.opening = some opening) :
    ∃ vault record, Opened rt ctx opening vault record w w' := by
  cases step_effect lawful (.call executed) with
  | initialized spec => simp [Instruction.opening] at view
  | opened opened spec =>
    obtain rfl : _ = opening := by simpa [opened] using view
    exact ⟨_, _, spec⟩
  | attested spec => simp [Instruction.opening] at view
  | paid paid spec => simp [(payout_alone paid ctx opening.deposit).1] at view

/-- A step that creates a deposit is one of the two deposit instructions. -/
theorem opens_out {rt : Runtime Key} (lawful : Lawful rt) {w w' : World Key} {event : Event Key}
    (step : Step rt w event w') {opening : Opening Key} (view : event.opening = some opening) :
    ∃ ctx vault record, Opened rt ctx opening vault record w w' := by
  cases step with
  | @call _ ctx instruction executed =>
    obtain ⟨vault, record, spec⟩ := opened_of_exec lawful executed view
    exact ⟨ctx, vault, record, spec⟩
  | outside bounded => cases view
  | reap => cases view

/-- The event leaves the deposit at the address alone: it neither opens it nor pays it out, and
it is no vote on it. -/
structure Event.Spares (key : Key) (event : Event Key) : Prop where
  unopened : ¬ event.Opens key
  unpaid : ¬ event.Pays key
  unattested : event.attestation key = none

/-- Where the deposit found at an address after a step comes from: it was opened in the step, or
it was there before and took a vote, was paid out, or was left alone. -/
inductive DepositChange (rt : Runtime Key) (key : Key) (w w' : World Key) :
    Event Key → Deposit Key → Prop
  | opened {ctx : Context Key} {instruction : Instruction Key} {opening : Opening Key}
      {vault : Vault Key} {record : Deposit Key} (view : instruction.opening = some opening)
      (here : opening.deposit = key) (spec : Opened rt ctx opening vault record w w') :
      DepositChange rt key w w' (.call ctx instruction) record
  | attested {ctx : Context Key} {accounts : Attest Key} {verdict : AmlVerdict}
      {evidenceHash : Bytes32} {vault : Vault Key} {before after : Deposit Key}
      (here : accounts.deposit = key)
      (spec : Attested rt ctx accounts verdict evidenceHash vault before after w w') :
      DepositChange rt key w w' (.call ctx (.attest accounts verdict evidenceHash)) after
  | paid {ctx : Context Key} {instruction : Instruction Key} {payout : Payout Key}
      {vault : Vault Key} {before : Deposit Key} (view : instruction.payout = some payout)
      (here : payout.deposit = key) (spec : PaidOut rt ctx payout vault before w w') :
      DepositChange rt key w w' (.call ctx instruction) { before with state := payout.outcome }
  | kept {event : Event Key} {deposit : Deposit Key}
      (before : w.data key = .program (.deposit deposit)) (spared : event.Spares key) :
      DepositChange rt key w w' event deposit

/-- Every deposit found after a step has one of these origins, by what each kind of step does. -/
theorem deposit_change {rt : Runtime Key} {w w' : World Key} {event : Event Key}
    (effect : Effect rt w event w') {key : Key} {deposit : Deposit Key}
    (found : w'.data key = .program (.deposit deposit)) :
    DepositChange rt key w w' event deposit := by
  cases effect with
  | initialized spec =>
    have before : w.data key = .program (.deposit deposit) := by
      rw [spec.data] at found
      split at found
      · cases found
      · exact found
    exact .kept before ⟨by simp [Event.Opens, Event.opening, Instruction.opening],
      by simp [Event.Pays, Event.payout, Instruction.payout], rfl⟩
  | @opened ctx instruction opening vault record _ view spec =>
    by_cases here : opening.deposit = key
    · subst here
      have same : record = deposit := by simpa [spec.saved] using found
      exact same ▸ .opened view rfl spec
    · have apart : key ≠ opening.vault := World.apart found spec.counted (by simp)
      obtain ⟨unpaid, unattested⟩ := opening_alone view ctx key
      refine .kept ((spec.kept key _ (Ne.symm here) apart).mp found) ⟨?_, ?_, unattested⟩
      · simp [Event.Opens, Event.opening, view, here]
      · simp [Event.Pays, Event.payout, unpaid]
  | @attested ctx accounts verdict evidenceHash vault before after _ spec =>
    by_cases here : accounts.deposit = key
    · have same : after = deposit := by simpa [spec.saved, here] using found
      exact same ▸ .attested here spec
    · refine .kept (by simpa [spec.saved, Ne.symm here] using found) ⟨?_, ?_, ?_⟩
      · simp [Event.Opens, Event.opening, Instruction.opening]
      · simp [Event.Pays, Event.payout, Instruction.payout]
      · simp [Event.attestation, here]
  | @paid ctx instruction payout vault before _ view spec =>
    by_cases here : payout.deposit = key
    · subst here
      have same : { before with state := payout.outcome } = deposit := by
        simpa [spec.saved] using found
      exact same ▸ .paid view rfl spec
    · obtain ⟨unopened, unattested⟩ := payout_alone view ctx key
      refine .kept ((spec.kept key _ (Ne.symm here)).mp found) ⟨?_, ?_, unattested⟩
      · simp [Event.Opens, Event.opening, unopened]
      · simp [Event.Pays, Event.payout, view, here]
  | outside bounded =>
    exact .kept (bounded.created key _ found) ⟨by simp [Event.Opens, Event.opening],
      by simp [Event.Pays, Event.payout], rfl⟩
  | reaped =>
    have before := World.data_of_reap found (by simp)
    exact .kept before ⟨by simp [Event.Opens, Event.opening], by simp [Event.Pays, Event.payout],
      rfl⟩

/-- A deposit stays a deposit, possibly another one, unless the end of a transaction finds its
account empty. -/
theorem deposit_stays {rt : Runtime Key} {w w' : World Key} {event : Event Key}
    (effect : Effect rt w event w') {key : Key} {deposit : Deposit Key}
    (before : w.data key = .program (.deposit deposit)) :
    (∃ after, w'.data key = .program (.deposit after)) ∨
      (event = .reap ∧ w.lamports key = 0 ∧ w'.data key = .system) := by
  cases effect with
  | initialized spec =>
    refine .inl ⟨deposit, ?_⟩
    rw [spec.data, if_neg]
    · exact before
    · intro same
      simp [same, spec.empty] at before
  | @opened ctx instruction opening vault record _ view spec =>
    have notDeposit : key ≠ opening.deposit := World.apart before spec.empty (by simp)
    have notVault : key ≠ opening.vault := World.apart before spec.at_vault (by simp)
    exact .inl ⟨deposit, (spec.kept key _ notDeposit notVault).mpr before⟩
  | @attested ctx accounts verdict evidenceHash vault earlier after _ spec =>
    by_cases here : key = accounts.deposit
    · exact .inl ⟨after, by simp [spec.saved, here]⟩
    · exact .inl ⟨deposit, by simpa [spec.saved, here] using before⟩
  | @paid ctx instruction payout vault earlier _ view spec =>
    by_cases here : key = payout.deposit
    · exact .inl ⟨_, here ▸ spec.saved⟩
    · exact .inl ⟨deposit, (spec.kept key _ here).mpr before⟩
  | outside bounded => exact .inl ⟨deposit, (bounded.kept key _ before).1⟩
  | reaped =>
    by_cases gone : w.lamports key = 0
    · exact .inr ⟨rfl, gone, by rw [World.data_reap, if_pos gone]⟩
    · exact .inl ⟨deposit, by rw [World.data_reap, if_neg gone, before]⟩

/-- A step that finds a deposit and leaves a deposit has not created it: the terms
are the same. -/
theorem DepositChange.same_terms {rt : Runtime Key} {key : Key} {w w' : World Key}
    {event : Event Key} {before after : Deposit Key}
    (change : DepositChange rt key w w' event after)
    (found : w.data key = .program (.deposit before)) : before.SameTerms after := by
  cases change with
  | opened view here spec =>
    subst here
    simp [spec.empty] at found
  | attested here spec =>
    subst here
    obtain ⟨_, _, _, _, rfl⟩ := (attest_handler_ok_iff ..).mp spec.handled
    obtain rfl : _ = before := by simpa [spec.at_deposit] using found
    rfl
  | paid view here spec =>
    subst here
    obtain rfl : _ = before := by simpa [spec.at_deposit] using found
    rfl
  | kept earlier spared =>
    obtain rfl : _ = before := by simpa [earlier] using found
    rfl

/-- Where the vault found at an address after a step comes from: it was initialized in the step,
or it was there before and has counted a deposit, or was left alone. -/
inductive VaultChange (rt : Runtime Key) (key : Key) (w w' : World Key) :
    Event Key → Vault Key → Prop
  | initialized {ctx : Context Key} {accounts : InitializeVault Key} {oracleSet : List Key}
      {minAttestations : Nat} {vault : Vault Key} (here : accounts.vault = key)
      (spec : Initialized rt ctx accounts oracleSet minAttestations vault w w') :
      VaultChange rt key w w' (.call ctx (.initializeVault accounts oracleSet minAttestations))
        vault
  | counted {ctx : Context Key} {instruction : Instruction Key} {opening : Opening Key}
      {vault : Vault Key} {record : Deposit Key} (view : instruction.opening = some opening)
      (here : opening.vault = key) (spec : Opened rt ctx opening vault record w w') :
      VaultChange rt key w w' (.call ctx instruction) vault.counted
  | kept {event : Event Key} {vault : Vault Key} (before : w.data key = .program (.vault vault))
      (uncounted : ∀ opening, event.opening = some opening → opening.vault ≠ key) :
      VaultChange rt key w w' event vault

/-- Every vault found after a step has one of these origins, by what each kind of step does. -/
theorem vault_change {rt : Runtime Key} {w w' : World Key} {event : Event Key}
    (effect : Effect rt w event w') {key : Key} {vault : Vault Key}
    (found : w'.data key = .program (.vault vault)) : VaultChange rt key w w' event vault := by
  cases effect with
  | @initialized ctx accounts oracleSet minAttestations filled _ spec =>
    by_cases here : accounts.vault = key
    · have same : filled = vault := by simpa [spec.data, here] using found
      exact same ▸ .initialized here spec
    · refine .kept (by simpa [spec.data, Ne.symm here] using found) ?_
      simp [Event.opening, Instruction.opening]
  | @opened ctx instruction opening counted record _ view spec =>
    have notDeposit : key ≠ opening.deposit := World.apart found spec.saved (by simp)
    by_cases here : opening.vault = key
    · subst here
      have same : counted.counted = vault := by simpa [spec.counted] using found
      exact same ▸ .counted view rfl spec
    · refine .kept ((spec.kept key _ notDeposit (Ne.symm here)).mp found) ?_
      simpa [Event.opening, view] using here
  | @attested ctx accounts verdict evidenceHash voted before after _ spec =>
    have different : key ≠ accounts.deposit := by
      intro same
      simp [same, spec.saved] at found
    refine .kept (by simpa [spec.saved, different] using found) ?_
    simp [Event.opening, Instruction.opening]
  | @paid ctx instruction payout payer before _ view spec =>
    have different : key ≠ payout.deposit := World.apart found spec.saved (by simp)
    refine .kept ((spec.kept key _ different).mp found) ?_
    simp [Event.opening, (payout_alone view ctx key).1]
  | outside bounded => exact .kept (bounded.created key _ found) (by simp [Event.opening])
  | reaped =>
    have before := World.data_of_reap found (by simp)
    exact .kept before (by simp [Event.opening])

end GPay.Quarantine
