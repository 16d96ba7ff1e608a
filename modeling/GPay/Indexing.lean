import GPay.Quarantine.Layout
import GPay.Stealth.Recovery
import GPay.Text

/-!
# The indexer

One pass asks the RPC node for the accounts of the program, tries every registered
slice on every deposit among them, and reports the matches to the gateway. The
bytes of a deposit are its depositor's choice.

A deposit whose ephemeral bytes encode no point fails the pass it is read in,
although an account that does not deserialise is only skipped. On accounts without
such a deposit, each account is reported on its own merits.
-/

namespace GPay.Indexing

open Digits Solana Stealth Quarantine

/-- The bytes of a key, and the reading of a deposit from the data of an account, which fails on
anything else. -/
structure AccountFormat (Key : Type) where
  asRef : Key → Bytes32
  tryDeserialize : List UInt8 → Option (Deposit Key)

/-- What the indexer scans for: the keys of an institution that find its payments, the nonce, and
the slice's own number. -/
structure SliceCredentials (Point : Type) where
  sliceId : Nat
  viewKey : ViewKey
  spendPub : SpendPublicKey Point
  nonce : UInt64

/-- What is reported of a deposit that matches: the slice that it matches, its address and its
stealth key, its amount and its state as they were read. -/
structure PaymentMatch (Key : Type) where
  sliceId : Nat
  depositPubkey : Key
  stealthPubkey : Key
  amount : Nat
  state : DepositState
  deriving DecidableEq

/-- Why scanning a deposit fails. -/
inductive IndexerError where
  | scan (error : StealthError)
  deriving DecidableEq

/-- What ends a pass without a report: the RPC node's failure to list the accounts, or the
failure of a scan. -/
inductive PassError where
  | rpc (message : String)
  | indexer (error : IndexerError)
  deriving DecidableEq

/-- The slices that are scanned for, in the order of their registration. Of several that match a
deposit the first one counts. -/
structure Indexer (Point : Type) where
  slices : List (SliceCredentials Point)

variable {Point Key : Type}

namespace Indexer

/-- An indexer without slices. -/
def new : Indexer Point := ⟨[]⟩

/-- One more slice, behind the others. The same keys may be registered twice. -/
def register (indexer : Indexer Point) (slice : SliceCredentials Point) : Indexer Point :=
  ⟨indexer.slices ++ [slice]⟩

end Indexer

/-- What a match reports of a deposit, all of it read from its account but the slice and the
address. -/
def paymentMatch (sliceId : Nat) (depositPubkey : Key) (deposit : Deposit Key) : PaymentMatch Key :=
  ⟨sliceId, depositPubkey, deposit.stealthPubkey, deposit.amount, deposit.state⟩

section Scan

variable [AddCommGroup Point] (crypto : Primitives Point) (format : AccountFormat Key)

/-- One slice on one deposit: whether its keys match, or an error if the ephemeral bytes encode
no point. -/
def scanSlice (deposit : Deposit Key) (slice : SliceCredentials Point) :
    Except StealthError ScanResult :=
  scanDeposit crypto slice.viewKey slice.spendPub (format.asRef deposit.stealthPubkey)
    deposit.ephemeralR deposit.viewTag slice.nonce

/-- The loop over the slices; the first match ends it, and so does an error, whichever slice is
asked about it. -/
def scanSlices (depositPubkey : Key) (deposit : Deposit Key) :
    List (SliceCredentials Point) → Except IndexerError (Option (PaymentMatch Key))
  | [] => .ok none
  | slice :: rest =>
      match scanSlice crypto format deposit slice with
      | .error error => .error (.scan error)
      | .ok result =>
          if result.matched then .ok (some (paymentMatch slice.sliceId depositPubkey deposit))
          else scanSlices depositPubkey deposit rest

/-- The first slice that a deposit matches decides what is reported of it. Without a slice
nothing is, and nothing fails. -/
def Indexer.scan (indexer : Indexer Point) (depositPubkey : Key) (deposit : Deposit Key) :
    Except IndexerError (Option (PaymentMatch Key)) :=
  scanSlices crypto format depositPubkey deposit indexer.slices

/-- The loop over the accounts, behind the matches found so far. Data that are no deposit are
passed over, while an error of a scan ends the loop. -/
def scanAccounts (indexer : Indexer Point) (matches_ : List (PaymentMatch Key)) :
    List (Key × List UInt8) → Except PassError (List (PaymentMatch Key))
  | [] => .ok matches_
  | (pubkey, data) :: rest =>
      match format.tryDeserialize data with
      | none => scanAccounts indexer matches_ rest
      | some deposit =>
          match indexer.scan crypto format pubkey deposit with
          | .error error => .error (.indexer error)
          | .ok none => scanAccounts indexer matches_ rest
          | .ok (some found) => scanAccounts indexer (matches_ ++ [found]) rest

/-- One pass over what the RPC node answers. Its matches are told when the whole pass has ended
well. -/
def scanProgramAccounts (rpc : Except PassError (List (Key × List UInt8)))
    (indexer : Indexer Point) : Except PassError (List (PaymentMatch Key)) :=
  match rpc with
  | .error error => .error error
  | .ok accounts => scanAccounts crypto format indexer [] accounts

/-- The slice's keys match the deposit: the view tag is theirs, and the derived key is the one
that the deposit carries. -/
def sliceMatches (deposit : Deposit Key) (slice : SliceCredentials Point) : Bool :=
  match scanSlice crypto format deposit slice with
  | .ok result => result.matched
  | .error _ => false

/-- What an account is reported as when nothing goes wrong: the first slice that
matches its deposit, if any. -/
def report (indexer : Indexer Point) (account : Key × List UInt8) : Option (PaymentMatch Key) :=
  (format.tryDeserialize account.2).bind (fun deposit =>
    (indexer.slices.find? (sliceMatches crypto format deposit)).map (fun slice =>
      paymentMatch slice.sliceId account.1 deposit))

/-- If the account holds a deposit, its ephemeral bytes encode a point. Anything may be in the
other accounts. -/
def Decodable (account : Key × List UInt8) : Prop :=
  ∀ deposit, format.tryDeserialize account.2 = some deposit →
    (crypto.decompress deposit.ephemeralR).isSome = true

end Scan

section Pass

variable [AddCommGroup Point] {crypto : Primitives Point} {format : AccountFormat Key}
  {indexer : Indexer Point}

variable (format) in
/-- A scan of a deposit with a proper ephemeral point does not fail. -/
theorem scan_slice_decodable (slice : SliceCredentials Point) {deposit : Deposit Key}
    {point : Point} (decoded : crypto.decompress deposit.ephemeralR = some point) :
    ∃ result, scanSlice crypto format deposit slice = .ok result ∧
      sliceMatches crypto format deposit slice = result.matched := by
  have scanned : ∃ result, scanSlice crypto format deposit slice = .ok result := by
    rw [scanSlice, scan_eq, shared_secret_some decoded]
    exact ⟨_, rfl⟩
  obtain ⟨result, scanned⟩ := scanned
  exact ⟨result, scanned, by rw [sliceMatches, scanned]⟩

/-- A scan without a proper ephemeral point always fails. -/
theorem scan_slice_undecodable {deposit : Deposit Key} {slice : SliceCredentials Point}
    (undecodable : crypto.decompress deposit.ephemeralR = none) :
    scanSlice crypto format deposit slice = .error .invalidPoint := by
  rw [scanSlice, scan_eq, shared_secret_none undecodable]
  rfl

variable (format) in
/-- The loop over the slices finds the first that matches, if the ephemeral bytes decode, as then
no slice fails. -/
theorem scan_slices_decodable {deposit : Deposit Key} {point : Point}
    (decoded : crypto.decompress deposit.ephemeralR = some point) (pubkey : Key)
    (slices : List (SliceCredentials Point)) :
    scanSlices crypto format pubkey deposit slices =
      .ok ((slices.find? (sliceMatches crypto format deposit)).map
        (fun slice => paymentMatch slice.sliceId pubkey deposit)) := by
  induction slices with
  | nil => rfl
  | cons slice rest continued =>
    obtain ⟨result, scanned, same⟩ := scan_slice_decodable format slice decoded
    cases matched : result.matched with
    | false =>
      have skipped : sliceMatches crypto format deposit slice = false := same.trans matched
      rw [List.find?_cons_of_neg (by simp [skipped]), ← continued]
      simp [scanSlices, scanned, matched]
    | true =>
      have taken : sliceMatches crypto format deposit slice = true := same.trans matched
      rw [List.find?_cons_of_pos taken]
      simp [scanSlices, scanned, matched]

/-- An account is reported when its deposit decodes, and skipped when it is none. -/
theorem scan_accounts_cons {account : Key × List UInt8}
    (decodable : Decodable crypto format account) (found : List (PaymentMatch Key))
    (rest : List (Key × List UInt8)) :
    scanAccounts crypto format indexer found (account :: rest) =
      scanAccounts crypto format indexer (found ++ (report crypto format indexer account).toList)
        rest := by
  obtain ⟨pubkey, data⟩ := account
  cases read : format.tryDeserialize data with
  | none => simp [scanAccounts, report, read]
  | some deposit =>
    obtain ⟨point, decoded⟩ := Option.isSome_iff_exists.mp (decodable deposit read)
    have scanned := scan_slices_decodable format decoded pubkey indexer.slices
    cases first : indexer.slices.find? (sliceMatches crypto format deposit) with
    | none => simp [scanAccounts, report, read, Indexer.scan, scanned, first]
    | some slice => simp [scanAccounts, report, read, Indexer.scan, scanned, first]

/-- Accounts whose deposits all decode are reported one by one. -/
theorem scan_accounts_decodable {accounts : List (Key × List UInt8)}
    (decodable : ∀ account ∈ accounts, Decodable crypto format account)
    (found : List (PaymentMatch Key)) :
    scanAccounts crypto format indexer found accounts =
      .ok (found ++ accounts.filterMap (report crypto format indexer)) := by
  induction accounts generalizing found with
  | nil => simp [scanAccounts]
  | cons account rest continued =>
    rw [scan_accounts_cons (decodable account (by simp)),
      continued (fun other member => decodable other (by simp [member]))]
    cases reported : report crypto format indexer account <;> simp [reported]

/-- With a slice registered, a pass that ends well has read no deposit but such as decode: the
first slice would have failed on any other. -/
theorem scan_accounts_ok (registered : indexer.slices ≠ []) {accounts : List (Key × List UInt8)}
    {found all : List (PaymentMatch Key)}
    (ended : scanAccounts crypto format indexer found accounts = .ok all) :
    ∀ account ∈ accounts, Decodable crypto format account := by
  induction accounts generalizing found with
  | nil => simp
  | cons account rest continued =>
    have first : Decodable crypto format account := by
      intro deposit read
      by_contra undecodable
      have none := Option.not_isSome_iff_eq_none.mp undecodable
      obtain ⟨slice, slices, listed⟩ := List.exists_cons_of_ne_nil registered
      have failed : indexer.scan crypto format account.1 deposit =
          .error (.scan .invalidPoint) := by
        rw [Indexer.scan, listed, scanSlices, scan_slice_undecodable none]
      rw [scanAccounts, read] at ended
      simp [failed] at ended
    intro other member
    rcases List.mem_cons.mp member with rfl | inside
    · exact first
    · rw [scan_accounts_cons first] at ended
      exact continued ended other inside

/-- A match repeats what a slice was tried on. -/
theorem scan_slices_match {pubkey : Key} {deposit : Deposit Key}
    {slices : List (SliceCredentials Point)} {found : PaymentMatch Key}
    (scanned : scanSlices crypto format pubkey deposit slices = .ok (some found)) :
    ∃ sliceId, found = paymentMatch sliceId pubkey deposit := by
  induction slices with
  | nil => cases scanned
  | cons slice rest continued =>
    rw [scanSlices] at scanned
    split at scanned
    · cases scanned
    · split at scanned
      · exact ⟨slice.sliceId, (Option.some.inj (Except.ok.inj scanned)).symm⟩
      · exact continued scanned

/-- What a pass adds to the matches was read from its accounts: each match reports a deposit that
one of them holds, at its address, under some slice. -/
theorem scan_accounts_match {accounts : List (Key × List UInt8)}
    {found all : List (PaymentMatch Key)}
    (ended : scanAccounts crypto format indexer found accounts = .ok all) {m : PaymentMatch Key}
    (listed : m ∈ all) : m ∈ found ∨ ∃ account ∈ accounts, ∃ deposit sliceId,
      format.tryDeserialize account.2 = some deposit ∧
        m = paymentMatch sliceId account.1 deposit := by
  induction accounts generalizing found with
  | nil =>
    obtain rfl : found = all := Except.ok.inj ended
    exact .inl listed
  | cons account rest continued =>
    obtain ⟨pubkey, data⟩ := account
    have later : ∀ {others}, scanAccounts crypto format indexer others rest = .ok all →
        m ∈ others ∨ ∃ account ∈ (pubkey, data) :: rest, ∃ deposit sliceId,
          format.tryDeserialize account.2 = some deposit ∧
            m = paymentMatch sliceId account.1 deposit := by
      intro others scanned
      rcases continued scanned with earlier | ⟨account, member, read⟩
      · exact .inl earlier
      · exact .inr ⟨account, List.mem_cons_of_mem _ member, read⟩
    rw [scanAccounts] at ended
    split at ended
    · exact later ended
    · rename_i deposit read
      split at ended
      · cases ended
      · exact later ended
      · rename_i one scanned
        rcases later ended with added | other
        · rcases List.mem_append.mp added with earlier | last
          · exact .inl earlier
          · obtain ⟨sliceId, same⟩ := scan_slices_match scanned
            obtain rfl := List.mem_singleton.mp last
            exact .inr ⟨(pubkey, data), by simp, deposit, sliceId, read, same⟩
        · exact .inr other

/-- With a slice registered, a pass reports every account on its own, by the first slice that
matches it, exactly when every deposit among the accounts carries an ephemeral point that
decodes. A single deposit whose point does not decode ends the pass with an error, and nothing is
reported.

Proof: the first slice is asked about every deposit, and whether it fails depends on the
ephemeral point alone. Where none fails, the scan of the list is the list of the reports. -/
theorem scan_program_accounts_iff (registered : indexer.slices ≠ [])
    (accounts : List (Key × List UInt8)) :
    scanProgramAccounts crypto format (.ok accounts) indexer =
        .ok (accounts.filterMap (report crypto format indexer)) ↔
      ∀ account ∈ accounts, Decodable crypto format account := by
  constructor
  · exact scan_accounts_ok registered
  · intro decodable
    rw [scanProgramAccounts, scan_accounts_decodable decodable]
    rfl

end Pass

/-- What is posted about a match, the keys as texts in base 58 and the state as a word in lower
case. -/
structure WebhookBody where
  sliceId : Nat
  depositPubkey : String
  stealthPubkey : String
  amount : Nat
  state : String

/-- `Pubkey::to_string`. -/
def pubkeyText (key : Bytes32) : String := Text.base58Text key.val

/-- The word for a state in a delivery, its name in lower case, as the indexer writes it out. -/
def webhookState : DepositState → String
  | .pending => "pending"
  | .approved => "approved"
  | .rejected => "rejected"
  | .released => "released"
  | .refunded => "refunded"
  | .expired => "expired"

/-- The body of the delivery of a match, as it is posted to the gateway. -/
def webhookBody (asRef : Key → Bytes32) (m : PaymentMatch Key) : WebhookBody where
  sliceId := m.sliceId
  depositPubkey := pubkeyText (asRef m.depositPubkey)
  stealthPubkey := pubkeyText (asRef m.stealthPubkey)
  amount := m.amount
  state := webhookState m.state

/-- Keys as their bytes, and accounts as `Deposit::try_deserialize` reads them. -/
def format (keys : Key ≃ Bytes32) : AccountFormat Key := ⟨keys, (depositAccount keys).value⟩

namespace Sample

open Stealth.Sample Quarantine.Plain

/-- A deposit on the issued address, and one whose ephemeral bytes encode no point. -/
def payment : Deposit Bytes32 :=
  ⟨255, wallet 100, wallet 6, issued.ephemeralR, issued.viewTag, wallet 0, funds, wallet 1,
    wallet 6, wallet 5, 1001, 4601, .pending, [], 0, 0⟩

/-- The same deposit with ephemeral bytes that encode no point, which the program accepts. -/
def nuisance : Deposit Bytes32 := { payment with ephemeralR := undecodable }

/-- The layout of the accounts, with keys that are their own bytes. -/
def sampleFormat : AccountFormat Bytes32 := format (Equiv.refl Bytes32)

/-- An indexer for the sample's keys. -/
def indexer : Indexer Scalar := Indexer.new.register ⟨1, viewKey, spendKey.public primitives, 0⟩

/-- The account of a deposit, with zeros behind it. -/
def accountOf (key : Bytes32) (deposit : Deposit Bytes32) : Bytes32 × List UInt8 :=
  (key, (Content.deposit deposit).padded (Equiv.refl Bytes32))

/-- The account of the payment. -/
def paymentAccount : Bytes32 × List UInt8 := accountOf (wallet 262) payment

/-- The account of the other deposit. -/
def nuisanceAccount : Bytes32 × List UInt8 := accountOf (wallet 99) nuisance

/-- The account of the payment is read as the payment. -/
theorem payment_read : sampleFormat.tryDeserialize paymentAccount.2 = some payment := by
  decide +kernel

/-- Its ephemeral bytes encode a point. -/
theorem payment_decodable : Decodable primitives sampleFormat paymentAccount := by
  intro deposit read
  rw [payment_read] at read
  rw [← Option.some.inj read]
  decide +kernel

/-- Alone the payment is reported. -/
theorem payment_reported :
    scanProgramAccounts primitives sampleFormat (.ok [paymentAccount]) indexer =
      .ok ([paymentAccount].filterMap (report primitives sampleFormat indexer)) :=
  (scan_program_accounts_iff (by simp [indexer, Indexer.new, Indexer.register])
    [paymentAccount]).mpr (by simpa using payment_decodable)

/-- Next to the other account it is not: the pass fails. -/
theorem payment_hidden :
    indexer.slices ≠ [] ∧
    [paymentAccount, nuisanceAccount].filterMap (report primitives sampleFormat indexer) =
      [⟨1, wallet 262, wallet 6, funds, .pending⟩] ∧
    scanProgramAccounts primitives sampleFormat (.ok [paymentAccount]) indexer =
      .ok [⟨1, wallet 262, wallet 6, funds, .pending⟩] ∧
    scanProgramAccounts primitives sampleFormat (.ok [paymentAccount, nuisanceAccount]) indexer =
      .error (.indexer (.scan .invalidPoint)) := by
  refine ⟨by simp [indexer, Indexer.new, Indexer.register], ?_, ?_, ?_⟩
  · decide +kernel
  · decide +kernel
  · decide +kernel

end Sample

end GPay.Indexing
