import GPay.Quarantine.Binding
import GPay.Quarantine.Local

/-!
# Which asset a payout pays

A deposit records the mint it was made in, the default address standing for
lamports. The token payouts compare the recorded mint with the one they move; the
lamport payouts do not look at it. So a deposit of tokens can be ended by a payment
of lamports from its account, if that holds enough, and its tokens stay where they
are.
-/

namespace GPay.Quarantine

open Solana Runs

variable {Key : Type} [DecidableEq Key]

/-- No token account under the address's authority is debited, but for the given
one. -/
def TokensKept (w w' : World Key) (key : Key) (except : Option Key) : Prop :=
  ∀ other account, except ≠ some other → w.data other = .token account → account.owner = key →
    ∃ amount, account.amount ≤ amount ∧ w'.data other = .token { account with amount }

variable [Inhabited Key]

/-- The deposit's escrow lost exactly the amount in the recorded asset, and nothing
in any other. -/
def AssetPaid (rt : Runtime Key) (key : Key) (deposit : Deposit Key) (w w' : World Key) : Prop :=
  if deposit.mint = default then
    w'.lamports key + deposit.amount = w.lamports key ∧ TokensKept w w' key none
  else
    ∃ escrow bump account,
      rt.findProgramAddress (Seeds.escrow key).list = some (escrow, bump) ∧
      w.data escrow = .token account ∧
      account.mint = deposit.mint ∧ deposit.amount ≤ account.amount ∧
      w'.data escrow = .token { account with amount := account.amount - deposit.amount } ∧
      w.lamports key ≤ w'.lamports key ∧ TokensKept w w' key (some escrow)

/-- The payout is in tokens, or the deposit is of lamports and they leave it, the target being
another account. -/
def OwnAsset (payout : Payout Key) (deposit : Deposit Key) : Prop :=
  payout.escrow ≠ none ∨ (deposit.mint = default ∧ payout.target ≠ payout.deposit)

variable {rt : Runtime Key} {w w' : World Key} {ctx : Context Key} {payout : Payout Key}
  {vault : Vault Key} {deposit : Deposit Key}

/-- A payout of tokens pays the recorded mint. -/
theorem PaidOut.tokens_paid (sound : Sound rt w) (spec : PaidOut rt ctx payout vault deposit w w')
    {escrow : Key} (tokens : payout.escrow = some escrow) :
    AssetPaid rt payout.deposit deposit w w' := by
  have paid := spec.paid
  rw [Paid, tokens] at paid
  obtain ⟨mint, bump, source, at_mint, found, atSource, sameMint, _, covered, debited, _⟩ := paid
  have minted : deposit.mint ≠ default := by
    intro same
    exact sound.no_default_mint mint (same ▸ at_mint)
  rw [AssetPaid, if_neg minted]
  refine ⟨escrow, bump, source, found, atSource, sameMint, covered, debited,
    spec.lamports _ _ spec.at_deposit (.inr (by simp [tokens])), ?_⟩
  intro other account different token _
  exact (spec.custody other account token (tokens ▸ different)).2

/-- A payout of lamports to another account pays a deposit of lamports. -/
theorem PaidOut.lamports_paid (spec : PaidOut rt ctx payout vault deposit w w')
    (lamports : payout.escrow = none) (recorded : deposit.mint = default)
    (leaves : payout.target ≠ payout.deposit) : AssetPaid rt payout.deposit deposit w w' := by
  have paid := spec.paid
  rw [Paid, lamports] at paid
  obtain ⟨covered, moved, _⟩ := paid
  rw [AssetPaid, if_pos recorded]
  refine ⟨?_, fun other account _ token _ =>
    (spec.custody other account token (by simp [lamports])).2⟩
  rw [moved, World.lamports_move w leaves.symm, if_neg leaves.symm, if_pos rfl]
  omega

/-- Lamports paid for a deposit of tokens leave the tokens in escrow, and lamports
paid to the deposit itself do not leave it. -/
theorem PaidOut.asset_unpaid (sound : Sound rt w) (spec : PaidOut rt ctx payout vault deposit w w')
    (lamports : payout.escrow = none) (paid : AssetPaid rt payout.deposit deposit w w') :
    deposit.mint = default ∧ payout.target ≠ payout.deposit := by
  have positive := (sound.deposits _ _ spec.at_deposit).positive
  have moves := spec.paid
  rw [Paid, lamports] at moves
  obtain ⟨covered, moved, elsewhere⟩ := moves
  rw [AssetPaid] at paid
  split at paid
  · rename_i recorded
    refine ⟨recorded, ?_⟩
    intro same
    have stays := moved payout.deposit
    rw [same, World.lamports_move_self w payout.deposit payout.deposit _ covered] at stays
    omega
  · obtain ⟨escrow, _, account, _, token, _, enough, debited, _⟩ := paid
    have different : escrow ≠ payout.deposit := World.apart token spec.at_deposit (by simp)
    rw [elsewhere escrow different, token] at debited
    have unchanged : account.amount = account.amount - deposit.amount :=
      congrArg TokenAccount.amount (Data.token.inj debited)
    omega

/-- A payout from a reachable world marks the deposit as paid, and it pays the recorded asset and
nothing else exactly when it is in tokens or pays a deposit of lamports to another account. What
asset is recorded plays no part in a payout of lamports, which never reads the mint.

Proof: in tokens the escrow found for the deposit is of its mint, as in every reachable world,
and the transfer moves the amount. In lamports the amount moves, which is the asset only of a
deposit that records no mint, and is nothing if the target is the deposit. -/
theorem payout_pays_asset_iff (lawful : Lawful rt) {events : List (Event Key)}
    (reached : Reached rt events w) {instruction : Instruction Key}
    (executed : exec rt ctx instruction w = .ok w') (view : instruction.payout = some payout) :
    ∃ deposit, depositAt w payout.deposit = some deposit ∧
      depositAt w' payout.deposit = some { deposit with state := payout.outcome } ∧
      (AssetPaid rt payout.deposit deposit w w' ↔ OwnAsset payout deposit) := by
  obtain ⟨vault, deposit, spec⟩ := paid_of_exec lawful executed view
  have sound := reached.sound lawful
  refine ⟨deposit, deposit_at_iff.mpr spec.at_deposit, deposit_at_iff.mpr spec.saved, ?_⟩
  constructor
  · intro paid
    by_cases lamports : payout.escrow = none
    · exact .inr (spec.asset_unpaid sound lamports paid)
    · exact .inl lamports
  · rintro (tokens | ⟨recorded, leaves⟩)
    · obtain ⟨escrow, tokens⟩ := Option.ne_none_iff_exists'.mp tokens
      exact spec.tokens_paid sound tokens
    · by_cases lamports : payout.escrow = none
      · exact spec.lamports_paid lamports recorded leaves
      · obtain ⟨escrow, tokens⟩ := Option.ne_none_iff_exists'.mp lamports
        exact spec.tokens_paid sound tokens

/-- A deposit of tokens is made and cleared. -/
theorem cleared_tokens_reached :
    Reached Local.runtime (Local.clearedTokens 500) (Local.after (Local.clearedTokens 500)) :=
  Local.after_reached (by decide +kernel)

/-- Its release pays the tokens that were recorded. -/
theorem payout_pays_asset_tokens : ∃ deposit,
    depositAt (Local.after (Local.clearedTokens 500)) Local.depositKey = some deposit ∧
    AssetPaid Local.runtime Local.depositKey deposit (Local.after (Local.clearedTokens 500))
      (Local.called (Local.context 1004) (Local.releaseTokensTo (.wallet 12))
        (Local.after (Local.clearedTokens 500))) := by
  have executed : (exec Local.runtime (Local.context 1004) (Local.releaseTokensTo (.wallet 12))
      (Local.after (Local.clearedTokens 500))).isOk = true := by
    decide +kernel
  obtain ⟨deposit, found, _, paid⟩ := payout_pays_asset_iff Local.runtime_lawful
    cleared_tokens_reached (Local.called_ok executed) rfl
  exact ⟨deposit, found, paid.mpr (.inl (by simp))⟩

/-- The same deposit after somebody sends its account 500 lamports. -/
def donatedTokens : World Address :=
  (Local.after (Local.clearedTokens 500)).setLamports Local.depositKey
    ((Local.after (Local.clearedTokens 500)).lamports Local.depositKey + 500)

/-- It is released in lamports, and the tokens stay in escrow. -/
theorem tokens_left_in_escrow :
    Reached Local.runtime (Local.clearedTokens 500 ++ [.outside]) donatedTokens ∧
    exec Local.runtime (Local.context 1004) (Local.releaseTo (.wallet 1)) donatedTokens =
      .ok (Local.called (Local.context 1004) (Local.releaseTo (.wallet 1)) donatedTokens) ∧
    (depositAt (Local.called (Local.context 1004) (Local.releaseTo (.wallet 1)) donatedTokens)
      Local.depositKey).map (fun deposit => (deposit.state, deposit.mint)) =
        some (.released, .wallet 10) ∧
    (tokenAt (Local.called (Local.context 1004) (Local.releaseTo (.wallet 1)) donatedTokens)
      Local.escrowKey).map TokenAccount.amount = some 500 ∧
    ∃ deposit, depositAt donatedTokens Local.depositKey = some deposit ∧
      ¬ AssetPaid Local.runtime Local.depositKey deposit donatedTokens
        (Local.called (Local.context 1004) (Local.releaseTo (.wallet 1)) donatedTokens) := by
  have reached : Reached Local.runtime (Local.clearedTokens 500 ++ [.outside]) donatedTokens :=
    cleared_tokens_reached.step
      (.outside (donation (cleared_tokens_reached.sound Local.runtime_lawful) _ _))
  have executed :
      exec Local.runtime (Local.context 1004) (Local.releaseTo (.wallet 1)) donatedTokens =
        .ok (Local.called (Local.context 1004) (Local.releaseTo (.wallet 1)) donatedTokens) :=
    Local.called_ok (by decide +kernel)
  refine ⟨reached, executed, by decide +kernel, by decide +kernel, ?_⟩
  obtain ⟨vault, deposit, spec⟩ := paid_of_exec Local.runtime_lawful executed rfl
  refine ⟨deposit, deposit_at_iff.mpr spec.at_deposit, ?_⟩
  intro paid
  have lamports := (spec.asset_unpaid (reached.sound Local.runtime_lawful) rfl paid).1
  have tokens :
      (depositAt donatedTokens Local.depositKey).map Deposit.mint = some (.wallet 10) := by
    decide +kernel
  rw [deposit_at_iff.mpr spec.at_deposit, Option.map_some, lamports] at tokens
  revert tokens
  decide

end GPay.Quarantine
