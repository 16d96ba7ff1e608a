import Mathlib.Data.Finset.Card
import Mathlib.Data.List.Perm.Basic
import Mathlib.Data.List.Induction

/-!
# Eager two-sided threshold votes

Voters of a listed electorate vote for or against. The vote is decided as soon
as one side reaches the threshold: a defeat when both would, and no vote is
taken afterwards. Nobody votes twice. The electorate is a list that may repeat
a voter, so its length is not its number of voters.

Boxes built by accepted votes carry exact counts at the moment of decision. When
the offered votes do not reach the threshold on both sides, the outcome does not
depend on the order of the offers. A threshold can be reached exactly when the
electorate has that many distinct voters.

A canvass offers votes in order and gives up at the first that is lost or refused.
Repeating it does not help once its first voter has voted: the first canvass that
records a vote is the last one that does.
-/

namespace GPay.Quorum

universe u
variable {ν : Type u}

/-- One vote: who casts it, and on which side. -/
structure Vote (ν : Type u) where
  voter : ν
  against : Bool
  deriving DecidableEq

/-- What a threshold has made of the votes so far: one of the two sides has reached it, or
neither has. -/
inductive Outcome where
  | undecided
  | carried
  | defeated
  deriving DecidableEq

/-- Number of votes on one side. -/
def tally (against : Bool) (votes : List (Vote ν)) : Nat :=
  votes.countP (fun vote => vote.against == against)

/-- What the votes have decided by then. Defeat is tested before success, as both tests could
hold at once. -/
def outcome (threshold : Nat) (votes : List (Vote ν)) : Outcome :=
  if threshold ≤ tally true votes then .defeated
  else if threshold ≤ tally false votes then .carried
  else .undecided

/-- A vote is taken while the matter is open, from a voter of the electorate who
has not voted yet. -/
structure Accepts (threshold : Nat) (electorate : List ν) (votes : List (Vote ν))
    (vote : Vote ν) : Prop where
  pending : outcome threshold votes = .undecided
  eligible : vote.voter ∈ electorate
  fresh : ∀ earlier ∈ votes, earlier.voter ≠ vote.voter

/-- The boxes that accepted votes build from the empty one, each vote being accepted on what the
box holds before it. -/
inductive Box (threshold : Nat) (electorate : List ν) : List (Vote ν) → Prop
  | empty : Box threshold electorate []
  | taken {votes : List (Vote ν)} {vote : Vote ν} (earlier : Box threshold electorate votes)
      (accepted : Accepts threshold electorate votes vote) :
      Box threshold electorate (votes ++ [vote])

/-- Nobody has voted. -/
@[simp] theorem tally_nil (against : Bool) : tally against ([] : List (Vote ν)) = 0 := rfl

/-- Votes are counted part by part. -/
@[simp] theorem tally_append (against : Bool) (before after : List (Vote ν)) :
    tally against (before ++ after) = tally against before + tally against after := by
  simp [tally, List.countP_append]

/-- Votes are counted one by one. -/
@[simp] theorem tally_cons (against : Bool) (vote : Vote ν) (rest : List (Vote ν)) :
    tally against (vote :: rest) =
      tally against rest + if vote.against = against then 1 else 0 := by
  simp [tally, List.countP_cons]

/-- Both sides together are all the votes. -/
theorem tally_total (votes : List (Vote ν)) :
    tally true votes + tally false votes = votes.length := by
  induction votes with
  | nil => rfl
  | cons vote rest counted =>
    cases side : vote.against <;> simp [side] <;> omega

/-- Counting does not see the order of the votes. -/
theorem tally_perm (against : Bool) {left right : List (Vote ν)} (same : left.Perm right) :
    tally against left = tally against right :=
  same.countP_eq _

/-- Neither does the outcome. -/
theorem outcome_perm (threshold : Nat) {left right : List (Vote ν)} (same : left.Perm right) :
    outcome threshold left = outcome threshold right := by
  simp only [outcome, tally_perm _ same]

/-- An open matter has both counts below the threshold. -/
theorem outcome_undecided_iff (threshold : Nat) (votes : List (Vote ν)) :
    outcome threshold votes = .undecided ↔
      tally true votes < threshold ∧ tally false votes < threshold := by
  unfold outcome
  split
  · simp; omega
  · split
    · simp; omega
    · simp; omega

/-- A defeat is exactly a threshold of votes against. -/
theorem outcome_defeated_iff (threshold : Nat) (votes : List (Vote ν)) :
    outcome threshold votes = .defeated ↔ threshold ≤ tally true votes := by
  unfold outcome
  split
  · simp_all
  · split <;> simp <;> omega

/-- A success is a threshold of votes in favour without a defeat. -/
theorem outcome_carried_iff (threshold : Nat) (votes : List (Vote ν)) :
    outcome threshold votes = .carried ↔
      tally true votes < threshold ∧ threshold ≤ tally false votes := by
  unfold outcome
  split
  · simp; omega
  · split
    · simp; omega
    · simp; omega

/-- A decision on a prefix is the decision on the whole unless the whole reaches
the threshold on both sides. -/
theorem outcome_extends {threshold : Nat} {votes more : List (Vote ν)}
    (decided : outcome threshold votes ≠ .undecided)
    (uncontested : ¬ (threshold ≤ tally true (votes ++ more) ∧
      threshold ≤ tally false (votes ++ more))) :
    outcome threshold (votes ++ more) = outcome threshold votes := by
  simp only [tally_append] at uncontested
  cases result : outcome threshold votes with
  | undecided => exact absurd result decided
  | carried =>
    have reached := (outcome_carried_iff threshold votes).mp result
    rw [outcome_carried_iff, tally_append, tally_append]
    omega
  | defeated =>
    have reached := (outcome_defeated_iff threshold votes).mp result
    rw [outcome_defeated_iff, tally_append]
    omega

namespace Box

variable {threshold : Nat} {electorate : List ν} {votes : List (Vote ν)}

/-- Nobody has voted twice. -/
theorem distinct (box : Box threshold electorate votes) :
    (votes.map Vote.voter).Nodup := by
  induction box with
  | empty => simp
  | taken earlier accepted nodup =>
    rw [List.map_append, List.nodup_append]
    refine ⟨nodup, by simp, ?_⟩
    intro voter member other last same
    obtain ⟨vote, inside, rfl⟩ := List.mem_map.mp member
    rw [List.map_singleton, List.mem_singleton] at last
    exact accepted.fresh vote inside (same.trans last)

/-- Every vote is of a voter of the electorate. -/
theorem eligible (box : Box threshold electorate votes) :
    ∀ vote ∈ votes, vote.voter ∈ electorate := by
  induction box with
  | empty => simp
  | taken earlier accepted known =>
    intro vote member
    rcases List.mem_append.mp member with inside | last
    · exact known vote inside
    · rw [List.mem_singleton.mp last]
      exact accepted.eligible

/-- There are at most as many votes as distinct voters in the electorate. -/
theorem size [DecidableEq ν] (box : Box threshold electorate votes) :
    votes.length ≤ electorate.toFinset.card := by
  have listed : (votes.map Vote.voter).toFinset ⊆ electorate.toFinset := by
    intro voter member
    obtain ⟨vote, inside, rfl⟩ := List.mem_map.mp (List.mem_toFinset.mp member)
    exact List.mem_toFinset.mpr (box.eligible vote inside)
  calc votes.length = (votes.map Vote.voter).toFinset.card := by
        rw [List.toFinset_card_of_nodup box.distinct, List.length_map]
    _ ≤ electorate.toFinset.card := Finset.card_le_card listed

/-- One vote more moves one count by one, from a state with both counts below
the threshold; hence neither side ever exceeds it and they do not both reach it. -/
theorem exact (box : Box threshold electorate votes) (positive : 0 < threshold) :
    tally true votes ≤ threshold ∧ tally false votes ≤ threshold ∧
      (tally true votes < threshold ∨ tally false votes < threshold) := by
  induction box with
  | empty => simp; omega
  | @taken votes vote earlier accepted counts =>
    obtain ⟨against, favour⟩ := (outcome_undecided_iff threshold votes).mp accepted.pending
    cases side : vote.against <;> simp [side] <;> omega

/-- A carried box holds exactly a threshold of votes in favour. -/
theorem carried (box : Box threshold electorate votes) (positive : 0 < threshold)
    (decided : outcome threshold votes = .carried) :
    tally false votes = threshold ∧ tally true votes < threshold := by
  have counts := box.exact positive
  have reached := (outcome_carried_iff threshold votes).mp decided
  omega

/-- A defeated box holds exactly a threshold of votes against. -/
theorem defeated (box : Box threshold electorate votes) (positive : 0 < threshold)
    (decided : outcome threshold votes = .defeated) :
    tally true votes = threshold ∧ tally false votes < threshold := by
  have counts := box.exact positive
  have reached := (outcome_defeated_iff threshold votes).mp decided
  omega

end Box

/-- Take a vote when it is accepted and leave the box alone otherwise, as a refused transaction
does. -/
def offer [DecidableEq ν] (threshold : Nat) (electorate : List ν) (votes : List (Vote ν))
    (vote : Vote ν) : List (Vote ν) :=
  if outcome threshold votes = .undecided ∧ vote.voter ∈ electorate ∧
      ∀ earlier ∈ votes, earlier.voter ≠ vote.voter
  then votes ++ [vote] else votes

/-- Offer votes in order. -/
def poll [DecidableEq ν] (threshold : Nat) (electorate : List ν) (votes : List (Vote ν))
    (offers : List (Vote ν)) : List (Vote ν) :=
  offers.foldl (offer threshold electorate) votes

section Order

variable [DecidableEq ν] {threshold : Nat} {electorate : List ν}

/-- An accepted vote is recorded. -/
theorem offer_accepted {votes : List (Vote ν)} {vote : Vote ν}
    (accepted : Accepts threshold electorate votes vote) :
    offer threshold electorate votes vote = votes ++ [vote] :=
  if_pos ⟨accepted.pending, accepted.eligible, accepted.fresh⟩

/-- A refused vote changes nothing. -/
theorem offer_refused {votes : List (Vote ν)} {vote : Vote ν}
    (refused : ¬ Accepts threshold electorate votes vote) :
    offer threshold electorate votes vote = votes :=
  if_neg (fun conditions => refused ⟨conditions.1, conditions.2.1, conditions.2.2⟩)

/-- Once decided, later offers are refused. -/
theorem poll_decided {votes : List (Vote ν)}
    (decided : outcome threshold votes ≠ .undecided) (offers : List (Vote ν)) :
    poll threshold electorate votes offers = votes := by
  induction offers with
  | nil => rfl
  | cons vote rest unchanged =>
    have refused : ¬ Accepts threshold electorate votes vote :=
      fun accepted => decided accepted.pending
    rw [poll, List.foldl_cons, offer_refused refused]
    exact unchanged

/-- Deciding eagerly on a prefix gives the outcome of all the votes counted
together. Either the matter is still open and the next vote is recorded, or it
is decided and the remaining votes cannot overturn it. -/
theorem poll_outcome (votes offers : List (Vote ν))
    (distinct : ((votes ++ offers).map Vote.voter).Nodup)
    (eligible : ∀ vote ∈ offers, vote.voter ∈ electorate)
    (uncontested : ¬ (threshold ≤ tally true (votes ++ offers) ∧
      threshold ≤ tally false (votes ++ offers))) :
    outcome threshold (poll threshold electorate votes offers) =
      outcome threshold (votes ++ offers) := by
  induction offers generalizing votes with
  | nil => simp [poll]
  | cons vote rest continued =>
    by_cases pending : outcome threshold votes = .undecided
    · have fresh : ∀ earlier ∈ votes, earlier.voter ≠ vote.voter := by
        intro earlier member
        rw [List.map_append, List.nodup_append] at distinct
        exact distinct.2.2 _ (List.mem_map_of_mem member) _ (by simp)
      have accepted : Accepts threshold electorate votes vote :=
        ⟨pending, eligible vote (by simp), fresh⟩
      have joined : votes ++ vote :: rest = votes ++ [vote] ++ rest := by simp
      rw [joined] at distinct uncontested ⊢
      rw [poll, List.foldl_cons, offer_accepted accepted]
      exact continued _ distinct (fun other member => eligible other (by simp [member])) uncontested
    · rw [poll_decided pending]
      exact (outcome_extends pending uncontested).symm

/-- Both sides can reach the threshold only when twice the threshold fits in the
electorate. -/
theorem uncontested_of_majority (offers : List (Vote ν))
    (distinct : (offers.map Vote.voter).Nodup)
    (eligible : ∀ vote ∈ offers, vote.voter ∈ electorate)
    (majority : electorate.toFinset.card < 2 * threshold) :
    ¬ (threshold ≤ tally true offers ∧ threshold ≤ tally false offers) := by
  have listed : (offers.map Vote.voter).toFinset ⊆ electorate.toFinset := by
    intro voter member
    obtain ⟨vote, inside, rfl⟩ := List.mem_map.mp (List.mem_toFinset.mp member)
    exact List.mem_toFinset.mpr (eligible vote inside)
  have bound := Finset.card_le_card listed
  rw [List.toFinset_card_of_nodup distinct, List.length_map, ← tally_total] at bound
  omega

end Order

/-- The votes of the listed voters, all on one side. -/
def unanimous (against : Bool) (voters : List ν) : List (Vote ν) :=
  voters.map (fun voter => ⟨voter, against⟩)

/-- All of a unanimous vote counts for its side and none of it for the other. -/
theorem unanimous_tally (side against : Bool) (voters : List ν) :
    tally side (unanimous against voters) = if against = side then voters.length else 0 := by
  induction voters with
  | nil => simp [unanimous]
  | cons voter rest counted =>
    have expanded : unanimous against (voter :: rest) =
        ⟨voter, against⟩ :: unanimous against rest :=
      rfl
    rw [expanded, tally_cons, counted]
    split <;> simp

/-- What a side's threshold of votes makes of the matter. -/
def decision (against : Bool) : Outcome := if against then .defeated else .carried

/-- A unanimous threshold decides for its side. -/
theorem unanimous_outcome {threshold : Nat} (positive : 0 < threshold) (against : Bool)
    (voters : List ν) (reached : threshold ≤ voters.length) :
    outcome threshold (unanimous against voters) = decision against := by
  cases against
  · rw [decision, if_neg Bool.false_ne_true, outcome_carried_iff, unanimous_tally, unanimous_tally]
    simp
    omega
  · rw [decision, if_pos rfl, outcome_defeated_iff, unanimous_tally]
    simpa using reached

/-- Below the threshold a unanimous box takes the next distinct voter. -/
theorem unanimous_accepts {threshold : Nat} {electorate : List ν} (against : Bool)
    {voters : List ν} {voter : ν} (below : voters.length < threshold)
    (eligible : voter ∈ electorate) (fresh : voter ∉ voters) :
    Accepts threshold electorate (unanimous against voters) ⟨voter, against⟩ := by
  refine ⟨?_, eligible, ?_⟩
  · rw [outcome_undecided_iff, unanimous_tally, unanimous_tally]
    constructor <;> split <;> omega
  · intro earlier member same
    obtain ⟨other, inside, rfl⟩ := List.mem_map.mp member
    have repeated : other = voter := same
    exact fresh (repeated ▸ inside)

section Canvass

variable [DecidableEq ν] {threshold : Nat} {electorate : List ν}

instance (votes : List (Vote ν)) (vote : Vote ν) :
    Decidable (Accepts threshold electorate votes vote) :=
  decidable_of_iff
    (outcome threshold votes = .undecided ∧ vote.voter ∈ electorate ∧
      ∀ earlier ∈ votes, earlier.voter ≠ vote.voter)
    ⟨fun ⟨pending, eligible, fresh⟩ => ⟨pending, eligible, fresh⟩,
      fun accepts => ⟨accepts.pending, accepts.eligible, accepts.fresh⟩⟩

variable (threshold electorate) in
/-- Offer votes in order and give up at the first that is lost or refused: what comes after it is
not offered. -/
def canvass (votes : List (Vote ν)) : List (Option (Vote ν)) → List (Vote ν)
  | some vote :: rest =>
      if Accepts threshold electorate votes vote then canvass (votes ++ [vote]) rest else votes
  | none :: _ | [] => votes

/-- Nothing more is offered. -/
@[simp] theorem canvass_nil (votes : List (Vote ν)) :
    canvass threshold electorate votes [] = votes := rfl

/-- A ballot that is lost ends the canvass. -/
@[simp] theorem canvass_lost (votes : List (Vote ν)) (rest : List (Option (Vote ν))) :
    canvass threshold electorate votes (none :: rest) = votes := rfl

/-- An accepted vote is recorded, and the next one offered. -/
theorem canvass_accepted {votes : List (Vote ν)} {vote : Vote ν}
    (accepted : Accepts threshold electorate votes vote) (rest : List (Option (Vote ν))) :
    canvass threshold electorate votes (some vote :: rest) =
      canvass threshold electorate (votes ++ [vote]) rest :=
  if_pos accepted

/-- A refused vote ends the canvass. -/
theorem canvass_refused {votes : List (Vote ν)} {vote : Vote ν}
    (refused : ¬ Accepts threshold electorate votes vote) (rest : List (Option (Vote ν))) :
    canvass threshold electorate votes (some vote :: rest) = votes :=
  if_neg refused

/-- Once decided, a canvass records nothing. -/
theorem canvass_decided {votes : List (Vote ν)} (decided : outcome threshold votes ≠ .undecided)
    (offers : List (Option (Vote ν))) : canvass threshold electorate votes offers = votes := by
  rcases offers with _ | ⟨_ | vote, rest⟩
  · rfl
  · rfl
  · exact canvass_refused (fun accepted => decided accepted.pending) rest

/-- Recorded votes stay recorded. -/
theorem canvass_keeps {vote : Vote ν} (offers : List (Option (Vote ν))) {votes : List (Vote ν)}
    (recorded : vote ∈ votes) : vote ∈ canvass threshold electorate votes offers := by
  induction offers generalizing votes with
  | nil => exact recorded
  | cons offer rest kept =>
    cases offer with
    | none => exact recorded
    | some next =>
      by_cases accepted : Accepts threshold electorate votes next
      · rw [canvass_accepted accepted]
        exact kept (List.mem_append_left _ recorded)
      · rwa [canvass_refused accepted]

/-- A canvass that starts with a vote already cast records nothing. -/
theorem canvass_again {votes : List (Vote ν)} {vote : Vote ν} (recorded : vote ∈ votes)
    (rest : List (Option (Vote ν))) :
    canvass threshold electorate votes (some vote :: rest) = votes :=
  canvass_refused (fun accepted => accepted.fresh vote recorded rfl) rest

/-- After a canvass by the same first voter that recorded a vote, no other one does: the first
voter is refused, and the rest is not offered. -/
theorem canvass_stuck {first : Vote ν} (canvasses : List (List (Option (Vote ν))))
    (opened : ∀ offers ∈ canvasses, offers.head? = some none ∨ offers.head? = some (some first))
    {votes : List (Vote ν)} (recorded : first ∈ votes) :
    canvasses.foldl (canvass threshold electorate) votes = votes := by
  induction canvasses with
  | nil => rfl
  | cons offers later stuck =>
    have same : canvass threshold electorate votes offers = votes := by
      rcases offers with _ | ⟨offer, rest⟩
      · rfl
      · rcases opened _ List.mem_cons_self with lost | voted
        · obtain rfl : offer = none := by simpa using lost
          rfl
        · obtain rfl : offer = some first := by simpa using voted
          exact canvass_again recorded rest
    rw [List.foldl_cons, same]
    exact stuck (fun other member => opened other (List.mem_cons_of_mem _ member))

/-- Canvasses by the same first voter come to what the first of them records whose
first vote is not lost. -/
theorem canvasses_first {first : Vote ν} (positive : 0 < threshold)
    (eligible : first.voter ∈ electorate) (canvasses : List (List (Option (Vote ν))))
    (opened : ∀ offers ∈ canvasses, offers.head? = some none ∨ offers.head? = some (some first)) :
    canvasses.foldl (canvass threshold electorate) [] =
      ((canvasses.find? (fun offers => offers.head? = some (some first))).map
        (canvass threshold electorate [])).getD [] := by
  induction canvasses with
  | nil => rfl
  | cons offers later continued =>
    have others := fun other member => opened other (List.mem_cons_of_mem offers member)
    rcases offers with _ | ⟨offer, rest⟩
    · rcases opened _ List.mem_cons_self with lost | voted
      · cases lost
      · cases voted
    · rcases opened _ List.mem_cons_self with lost | voted
      · obtain rfl : offer = none := by simpa using lost
        simpa using continued others
      · obtain rfl : offer = some first := by simpa using voted
        have accepted : Accepts threshold electorate [] first :=
          ⟨(outcome_undecided_iff _ _).mpr ⟨positive, positive⟩, eligible, by simp⟩
        have recorded : first ∈ canvass threshold electorate [] (some first :: rest) := by
          rw [canvass_accepted accepted]
          exact canvass_keeps rest (by simp)
        rw [List.foldl_cons, canvass_stuck later others recorded]
        simp

/-- Two voters who agree decide a threshold of one, and one of two when they are
distinct and the second vote is not lost. -/
theorem canvass_pair_decides_iff {first second : ν} (against arrives : Bool)
    (positive : 0 < threshold) (small : threshold ≤ 2) (listed : first ∈ electorate)
    (also : second ∈ electorate) :
    outcome threshold (canvass threshold electorate []
        [some ⟨first, against⟩, if arrives then some ⟨second, against⟩ else none]) =
        decision against ↔
      threshold = 1 ∨ (first ≠ second ∧ arrives = true) := by
  have opened : Accepts threshold electorate (unanimous against []) ⟨first, against⟩ :=
    unanimous_accepts against positive listed (by simp)
  have once : ∀ offers, canvass threshold electorate [] (some ⟨first, against⟩ :: offers) =
      canvass threshold electorate (unanimous against [first]) offers :=
    canvass_accepted opened
  have settled : decision against ≠ .undecided := by cases against <;> decide
  rw [once]
  rcases Nat.lt_or_ge 1 threshold with two | one
  · have different : threshold ≠ 1 := by omega
    have unsettled : outcome threshold (unanimous against [first]) = .undecided := by
      rw [outcome_undecided_iff, unanimous_tally, unanimous_tally, List.length_singleton]
      constructor <;> split <;> omega
    cases arrives with
    | false =>
      rw [if_neg Bool.false_ne_true, canvass_lost, unsettled]
      simp [different, settled.symm]
    | true =>
      rw [if_pos rfl]
      by_cases same : first = second
      · have repeated : ¬ Accepts threshold electorate (unanimous against [first])
            ⟨second, against⟩ :=
          fun accepted => accepted.fresh ⟨first, against⟩ (by simp [unanimous]) same
        rw [canvass_refused repeated, unsettled]
        simp [different, same, settled.symm]
      · have accepted : Accepts threshold electorate (unanimous against [first])
            ⟨second, against⟩ :=
          unanimous_accepts against two also (by simpa using Ne.symm same)
        have both : canvass threshold electorate (unanimous against [first])
            [some ⟨second, against⟩] = unanimous against [first, second] :=
          canvass_accepted accepted []
        rw [both, unanimous_outcome positive against [first, second] small]
        simp [same]
  · have decided : outcome threshold (unanimous against [first]) = decision against :=
      unanimous_outcome positive against _ one
    rw [canvass_decided (decided ▸ settled), decided]
    have exactly : threshold = 1 := by omega
    simp [exactly]

end Canvass

/-- A decided box shows that the electorate has a threshold of distinct voters. -/
theorem threshold_le_of_decided [DecidableEq ν] {threshold : Nat} {electorate : List ν}
    {votes : List (Vote ν)} (box : Box threshold electorate votes)
    (decided : outcome threshold votes ≠ .undecided) :
    threshold ≤ electorate.toFinset.card := by
  have counted := tally_total votes
  have size := box.size
  have reached : ¬ (tally true votes < threshold ∧ tally false votes < threshold) :=
    fun open_ => decided ((outcome_undecided_iff threshold votes).mpr open_)
  omega

end GPay.Quorum
