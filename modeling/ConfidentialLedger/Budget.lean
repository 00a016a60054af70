import ConfidentialLedger.Proto

/-!
# The budget tracker

`ledger.rs` calls three methods of `budget::BudgetTracker`; the budget module is not among the
sources. `BudgetOps` is that interface, typed by the contract the ledger relies on:
`find_matching_transform` only reads the tracker, and `update_budget` either returns the updated
tracker or fails and leaves the old one in place.

`BudgetTracker` is the tracker that the spec describes in §4.3, modelled from its words. It selects
the first transform whose matcher accepts the application and that has budget left, counts
accesses per blob id, policy digest and transform index, and revokes whole blobs. The results
below show that revocation blocks a blob for good and that `update_budget` cannot fail once
`find_matching_transform` has approved an index. They also show that a transform with budget
`Times(n)` grants exactly `n` accesses.
-/

namespace ConfidentialLedger.Budget

open Proto

/-- The budget-tracker calls of `ledger.rs`, typed by their contract. -/
structure BudgetOps (τ : Type) where
  /-- `BudgetTracker::new()`. -/
  new : τ
  /-- `find_matching_transform(blob_id, node_id, policy, policy_hash, application)`: the index
  of an approved transform. It does not change the tracker. -/
  findMatchingTransform : τ → Bytes → UInt32 → DataAccessPolicy → Bytes → Application →
    Except Status Nat
  /-- `update_budget(blob_id, transform_index, policy, policy_hash)`: the tracker after one
  recorded access, or an error that leaves the tracker unchanged. -/
  updateBudget : τ → Bytes → Nat → DataAccessPolicy → Bytes → Except Status τ
  /-- `consume_budget(blob_id)`. -/
  consumeBudget : τ → Bytes → τ

/-- Modelled from the spec: a matcher with a `tag` accepts exactly the applications with that tag;
a transform without matcher, or a matcher without tag, accepts every application. -/
def matchesApplication (matcher : Option ApplicationMatcher) (app : Application) : Bool :=
  match matcher with
  | some ⟨some tag⟩ => app.tag == tag
  | _ => true

/-- Modelled from the spec: the number of accesses a transform grants, `none` when unlimited. -/
def accessLimit (t : Transform) : Option Nat :=
  match t.accessBudget with
  | some ⟨some (.times n)⟩ => some n.toNat
  | _ => none

/-- Modelled from the spec: whether a transform has budget left after `used` accesses. -/
def hasBudget (t : Transform) (used : Nat) : Bool :=
  match accessLimit t with
  | none => true
  | some n => decide (used < n)

/-- Modelled from the spec: the per-key budget tracker. -/
structure BudgetTracker where
  /-- Accesses recorded against each blob id, policy digest and transform index. -/
  consumed : Bytes → Bytes → Nat → Nat
  /-- The blobs whose budget was consumed to exhaustion. -/
  revoked : Bytes → Bool

namespace BudgetTracker

/-- Modelled from the spec: `BudgetTracker::new()`, with nothing consumed and nothing revoked. -/
def new : BudgetTracker := ⟨fun _ _ _ => 0, fun _ => false⟩

/-- Modelled from the spec: the walk of `find_matching_transform` over the transforms from index
`i`, where `used` counts the recorded accesses per index and `matched` records whether an
earlier transform accepted the application. -/
def findFrom (used : Nat → Nat) (app : Application) :
    List Transform → Nat → Bool → Except Status Nat
  | [], _, matched =>
    if matched then .error ⟨.resourceExhausted, "access budget exhausted"⟩
    else .error ⟨.failedPrecondition, "no transform matches the application"⟩
  | t :: ts, i, matched =>
    if matchesApplication t.application app then
      if hasBudget t (used i) then .ok i else findFrom used app ts (i + 1) true
    else findFrom used app ts (i + 1) matched

/-- Modelled from the spec: `find_matching_transform`. A revoked blob is exhausted; otherwise
the first transform that accepts the application and has budget left is selected. The node id
is reserved and not consulted. -/
def findMatchingTransform (self : BudgetTracker) (blobId : Bytes) (_nodeId : UInt32)
    (policy : DataAccessPolicy) (policyHash : Bytes) (app : Application) : Except Status Nat :=
  if self.revoked blobId then .error ⟨.resourceExhausted, "access to the blob was revoked"⟩
  else findFrom (self.consumed blobId policyHash) app policy.transforms 0 false

/-- The tracker with one more access recorded against `(blobId, policyHash, index)`. -/
def record (self : BudgetTracker) (blobId policyHash : Bytes) (index : Nat) : BudgetTracker :=
  { self with consumed := fun b h i =>
      if b = blobId ∧ h = policyHash ∧ i = index then self.consumed b h i + 1
      else self.consumed b h i }

/-- Modelled from the spec: `update_budget` records one access against the transform, and is an
internal error for a transform with no budget left. -/
def updateBudget (self : BudgetTracker) (blobId : Bytes) (index : Nat)
    (policy : DataAccessPolicy) (policyHash : Bytes) : Except Status BudgetTracker :=
  match policy.transforms[index]? with
  | some t =>
    if hasBudget t (self.consumed blobId policyHash index) then
      .ok (self.record blobId policyHash index)
    else .error ⟨.internal, "no budget left for the transform"⟩
  | none => .error ⟨.internal, "no such transform"⟩

/-- Modelled from the spec: `consume_budget` revokes the blob. -/
def consumeBudget (self : BudgetTracker) (blobId : Bytes) : BudgetTracker :=
  { self with revoked := fun b => b == blobId || self.revoked b }

/-- The spec's tracker behind the interface `ledger.rs` calls. -/
def ops : BudgetOps BudgetTracker :=
  ⟨new, findMatchingTransform, updateBudget, consumeBudget⟩

@[simp] theorem record_revoked (self : BudgetTracker) (b h : Bytes) (i : Nat) :
    (self.record b h i).revoked = self.revoked := rfl

@[simp] theorem record_consumed (self : BudgetTracker) (b h : Bytes) (i : Nat) (b' h' : Bytes)
    (i' : Nat) : (self.record b h i).consumed b' h' i' =
      if b' = b ∧ h' = h ∧ i' = i then self.consumed b' h' i' + 1 else self.consumed b' h' i' :=
  rfl

@[simp] theorem consumeBudget_revoked (self : BudgetTracker) (b b' : Bytes) :
    (self.consumeBudget b).revoked b' = (b' == b || self.revoked b') := rfl

@[simp] theorem consumeBudget_consumed (self : BudgetTracker) (b : Bytes) :
    (self.consumeBudget b).consumed = self.consumed := rfl

/-- The walk selects the first transform from index `i` that accepts the application and has
budget left: every earlier transform that accepts it is exhausted. -/
theorem findFrom_eq_ok {used : Nat → Nat} {app : Application} {ts : List Transform}
    {i j : Nat} {m : Bool} (h : findFrom used app ts i m = .ok j) :
    i ≤ j ∧ (∃ t, ts[j - i]? = some t ∧ matchesApplication t.application app ∧
      hasBudget t (used j)) ∧
      ∀ k < j - i, ∀ t ∈ ts[k]?, matchesApplication t.application app →
        hasBudget t (used (i + k)) = false := by
  induction ts generalizing i m with
  | nil => simp [findFrom] at h; split at h <;> cases h
  | cons t ts ih =>
    simp only [findFrom] at h
    by_cases hm : matchesApplication t.application app
    · by_cases hb : hasBudget t (used i)
      · simp only [hm, hb, if_true, Except.ok.injEq] at h
        subst h
        exact ⟨Nat.le_refl i, ⟨t, by simpa using ⟨hm, hb⟩⟩, by simp⟩
      · simp only [hm, hb, if_true, if_false, Bool.false_eq_true] at h
        obtain ⟨hij, hsel, hfirst⟩ := ih h
        refine ⟨by omega, by simpa [show j - i = j - (i + 1) + 1 by omega] using hsel, ?_⟩
        intro k hk t' ht' hm'
        cases k with
        | zero => simp at ht'; subst ht'; simpa using hb
        | succ k =>
          simpa [show i + (k + 1) = i + 1 + k by omega] using
            hfirst k (by omega) t' (by simpa using ht') hm'
    · simp only [hm, if_false, Bool.false_eq_true] at h
      obtain ⟨hij, hsel, hfirst⟩ := ih h
      refine ⟨by omega, by simpa [show j - i = j - (i + 1) + 1 by omega] using hsel, ?_⟩
      intro k hk t' ht' hm'
      cases k with
      | zero => simp at ht'; subst ht'; exact absurd hm' hm
      | succ k =>
        simpa [show i + (k + 1) = i + 1 + k by omega] using
          hfirst k (by omega) t' (by simpa using ht') hm'

/-- The walk fails with `ResourceExhausted` when some transform accepted the application, and
with `FailedPrecondition` when none did. -/
theorem findFrom_eq_error {used : Nat → Nat} {app : Application} {ts : List Transform}
    {i : Nat} {m : Bool} {e : Status} (h : findFrom used app ts i m = .error e) :
    e.code = if m || ts.any (fun t => matchesApplication t.application app) then
      .resourceExhausted else .failedPrecondition := by
  induction ts generalizing i m with
  | nil => cases m <;> simp [findFrom] at h <;> simp [← h]
  | cons t ts ih =>
    simp only [findFrom] at h
    by_cases hm : matchesApplication t.application app
    · by_cases hb : hasBudget t (used i)
      · simp [hm, hb] at h
      · simp only [hm, hb, if_true, if_false, Bool.false_eq_true] at h
        simp [ih h, hm]
    · simp only [hm, if_false, Bool.false_eq_true] at h
      simp [ih h, hm]

/-- A revoked blob is refused with `ResourceExhausted`, whatever the policy and application. -/
theorem findMatchingTransform_of_revoked {self : BudgetTracker} {blobId : Bytes}
    (h : self.revoked blobId = true) (nodeId : UInt32) (policy : DataAccessPolicy)
    (policyHash : Bytes) (app : Application) :
    self.findMatchingTransform blobId nodeId policy policyHash app =
      .error ⟨.resourceExhausted, "access to the blob was revoked"⟩ := by
  simp [findMatchingTransform, h]

/-- `update_budget` cannot fail on an index that `find_matching_transform` approved: it records
one access against exactly that transform. -/
theorem updateBudget_of_findMatchingTransform {self : BudgetTracker} {blobId policyHash : Bytes}
    {nodeId : UInt32} {policy : DataAccessPolicy} {app : Application} {i : Nat}
    (h : self.findMatchingTransform blobId nodeId policy policyHash app = .ok i) :
    self.updateBudget blobId i policy policyHash = .ok (self.record blobId policyHash i) := by
  unfold findMatchingTransform at h
  split at h
  · cases h
  · obtain ⟨-, ⟨t, ht, -, hb⟩, -⟩ := findFrom_eq_ok h
    simp only [Nat.sub_zero] at ht hb
    simp [updateBudget, ht, hb]

/-- A failed `update_budget` leaves the spec's tracker alone, and a successful one records one
access. -/
theorem updateBudget_eq_ok {self self' : BudgetTracker} {blobId policyHash : Bytes} {i : Nat}
    {policy : DataAccessPolicy} (h : self.updateBudget blobId i policy policyHash = .ok self') :
    self' = self.record blobId policyHash i := by
  unfold updateBudget at h
  split at h
  · split at h
    · exact (Except.ok.inj h).symm
    · cases h
  · cases h

/-- With a single transform that accepts the application and grants `Times(n)` accesses, a
selection succeeds exactly while fewer than `n` accesses are recorded; otherwise it reports
`ResourceExhausted`. -/
theorem findMatchingTransform_single {self : BudgetTracker} {blobId policyHash : Bytes}
    {nodeId : UInt32} {t : Transform} {app : Application} {n : Nat}
    (hm : matchesApplication t.application app = true) (hl : accessLimit t = some n)
    (hr : self.revoked blobId = false) :
    self.findMatchingTransform blobId nodeId ⟨[t]⟩ policyHash app =
      if self.consumed blobId policyHash 0 < n then .ok 0
      else .error ⟨.resourceExhausted, "access budget exhausted"⟩ := by
  simp only [findMatchingTransform, hr, findFrom, hm, hasBudget, hl]
  split <;> simp_all

end BudgetTracker

end ConfidentialLedger.Budget
