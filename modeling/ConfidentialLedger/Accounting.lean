import ConfidentialLedger.Spending

/-!
# The key's tracker is its log

The exact accounting of the ledger, with the spec's tracker: no grant is lost or counted twice,
and no revocation is lost or invented, however calls interleave. The abstract state of a key is
its log, what the successful calls of the run committed to it in order: a grant of the header's
blob under its digest for each successful `authorize_access` whose header names the key, and a
revocation for each successful `revoke_access` of the key. From the key's `create_key` on, its
tracker holds, for every blob and digest, as many accesses as the log has grants of them, and has
exactly the blobs the log revokes revoked. Accesses are counted over the transforms a policy can
have in the run, since the log does not say which transform each access went to.
-/

namespace ConfidentialLedger.Accounting

open Core Proto Budget Service Effects Clock Lifecycle Budgets Spending
open Service.LedgerService BudgetTracker

variable {env : Collaborators BudgetTracker} {self s' : LedgerService BudgetTracker}

/-- The log of key `k` along a run: what its calls commit to the key's tracker, in order. -/
def logOf (env : Collaborators BudgetTracker) (k : UInt32) (evs : List (Event BudgetTracker)) :
    List LogEntry :=
  evs.filterMap fun ev => logEntryOf env k ev.call ev.reply

/-- The accesses the counts `used` hold against the first `n` transforms. -/
def consumedBelow (used : Nat → Nat) : Nat → Nat
  | 0 => 0
  | n + 1 => consumedBelow used n + used n

/-- With no access recorded, none is held. -/
@[simp] theorem consumedBelow_zero (n : Nat) : consumedBelow (fun _ => 0) n = 0 := by
  induction n with
  | zero => rfl
  | succ n ih => simp [consumedBelow, ih]

/-- One more access against transform `i` adds one to the accesses held below `n` exactly when
`i < n`. -/
theorem consumedBelow_spend {used used' : Nat → Nat} {i : Nat}
    (hused : ∀ x, used' x = if x = i then used x + 1 else used x) (n : Nat) :
    consumedBelow used' n = consumedBelow used n + if i < n then 1 else 0 := by
  induction n with
  | zero => rfl
  | succ n ih =>
    simp only [consumedBelow, ih, hused]
    split_ifs <;> omega

/-- Recording an access against a transform below `n` adds one to the accesses held for its blob
and digest below `n`, and none to any other blob or digest. -/
theorem consumedBelow_record {tracker : BudgetTracker} {blobId policyHash b h : Bytes} {i n : Nat}
    (hi : i < n) :
    consumedBelow ((tracker.record blobId policyHash i).consumed b h) n =
      consumedBelow (tracker.consumed b h) n + if b = blobId ∧ h = policyHash then 1 else 0 := by
  by_cases hbh : b = blobId ∧ h = policyHash
  · obtain ⟨rfl, rfl⟩ := hbh
    rw [@consumedBelow_spend (tracker.consumed b h) _ i (fun x => by simp) n, if_pos hi,
      if_pos ⟨rfl, rfl⟩]
  · have hsame : (tracker.record blobId policyHash i).consumed b h = tracker.consumed b h :=
      funext fun x => by simp only [record_consumed, ← and_assoc, hbh, false_and, if_false]
    rw [hsame, if_neg hbh, Nat.add_zero]

/-- Every `authorize_access` of the run presents policy bytes that decode to at most `n`
transforms. -/
def PoliciesWithin (env : Collaborators BudgetTracker) (n : Nat)
    (evs : List (Event BudgetTracker)) : Prop :=
  ∀ ev ∈ evs, ∀ request policy, ev.call = .authorizeAccess request →
    env.decodeDataAccessPolicy request.accessPolicy = .ok policy → policy.transforms.length ≤ n

/-- Along a run that inserts nothing under `k`, the key's tracker moves as its log: the entry at
the end comes from an entry at the start with the same key pair and expiration, and holds the
grants the log adds for each blob and digest, and the revocations it adds. -/
theorem Steps.trackerLog (hb : env.budget = BudgetTracker.ops) {s s₂ : LedgerService BudgetTracker}
    {evs : List (Event BudgetTracker)} {k : UInt32} {n : Nat} (hrun : Steps env s evs s₂)
    (hno : NoInsertOf env k evs) (hn : PoliciesWithin env n evs) {e₂ : PerKeyLedger BudgetTracker}
    (he₂ : s₂.perKeyLedgers k = some e₂) :
    ∃ e, s.perKeyLedgers k = some e ∧ e₂.keys = e.keys ∧
      (∀ b h, consumedBelow (e₂.budgetTracker.consumed b h) n =
        consumedBelow (e.budgetTracker.consumed b h) n + (logOf env k evs).count (.grant b h)) ∧
      ∀ b, e₂.budgetTracker.revoked b = true ↔
        e.budgetTracker.revoked b = true ∨ .revoke b ∈ logOf env k evs := by
  induction hrun with
  | nil s => exact ⟨e₂, he₂, rfl, fun _ _ => rfl, fun _ => by simp [logOf]⟩
  | @cons s s₁ _ c r evs hstep _ ih =>
    obtain ⟨e₁, he₁, hkeys₁, hcount₁, hrev₁⟩ :=
      ih (fun ev hev => hno ev (List.mem_cons_of_mem _ hev))
        (fun ev hev => hn ev (List.mem_cons_of_mem _ hev)) he₂
    obtain ⟨e, he, hkeys, ht⟩ := step_tracker_cases hb hstep (hno _ (List.mem_cons_self _ _)) he₁
    refine ⟨e, he, hkeys₁.trans hkeys, ?_⟩
    rcases ht with ⟨ht, hlog⟩ | ⟨blobId, ht, hlog⟩ |
        ⟨blobId, policyHash, i, ⟨request, -, -, -, policy, tr, hcall, -, -, -, -, -, -, -, hpol,
          hti, -⟩, ht, hlog⟩ <;>
      simp only [logOf, List.filterMap_cons, hlog] at hcount₁ hrev₁ ⊢
    · -- Nothing logged: the tracker is unchanged.
      exact ⟨fun b h => by rw [hcount₁, ht], fun b => by rw [hrev₁, ht]⟩
    · -- A revocation logged: the blob revoked, the counts unchanged.
      refine ⟨fun b h => by simp [hcount₁, ht], fun b => ?_⟩
      rw [hrev₁, ht, consumeBudget_revoked]
      simp only [Bool.or_eq_true, beq_iff_eq, List.mem_cons, LogEntry.revoke.injEq, or_assoc,
        or_left_comm]
    · -- A grant logged: one access recorded against a transform of the call's policy.
      have hin : i < n := lt_of_lt_of_le (List.getElem?_eq_some_iff.1 hti).1
        (hn _ (List.mem_cons_self _ _) request policy hcall hpol)
      refine ⟨fun b h => ?_, fun b => ?_⟩
      · rw [hcount₁, ht, consumedBelow_record hin, List.count_cons]
        simp only [beq_iff_eq, LogEntry.grant.injEq, eq_comm (a := blobId),
          eq_comm (a := policyHash)]
        omega
      · rw [hrev₁, ht, record_revoked]
        simp only [List.mem_cons, reduceCtorEq, false_or]

/-- Exact accounting, however calls interleave, with the spec's tracker. Along a run from the
`create_key` that last inserts key id `k`, with policies of at most `n` transforms, the key, if
there at the end, keeps its key pair and expiration, counts over the first `n` transforms exactly
the grants its log has, and has exactly the blobs revoked that the log revokes. -/
theorem tracker_matches_log (hb : env.budget = BudgetTracker.ops)
    {s s₂ : LedgerService BudgetTracker} {before after : List (Event BudgetTracker)}
    {c : Event BudgetTracker} {k : UInt32} {e : PerKeyLedger BudgetTracker} {n : Nat}
    (hrun : Steps env s (before ++ c :: after) s₂) (hlast : LastInsertion env k c e after)
    (hn : PoliciesWithin env n after) {e₂ : PerKeyLedger BudgetTracker}
    (he₂ : s₂.perKeyLedgers k = some e₂) :
    e₂.keys = e.keys ∧
      (∀ b h, consumedBelow (e₂.budgetTracker.consumed b h) n =
        (logOf env k after).count (.grant b h)) ∧
      ∀ b, e₂.budgetTracker.revoked b = true ↔ .revoke b ∈ logOf env k after := by
  obtain ⟨hstep, hrest⟩ := Steps.of_split hrun
  obtain ⟨e', he', hkeys, hcount, hrev⟩ := Steps.trackerLog hb hrest hlast.2 hn he₂
  rw [step_of_insertion hstep hlast.1, Option.some.injEq] at he'
  subst he'
  have hnew : e.budgetTracker = BudgetTracker.new := by
    rw [insertion_budgetTracker hlast.1, hb]
    rfl
  refine ⟨hkeys, fun b h => ?_, fun b => ?_⟩
  · rw [hcount, hnew]
    simp [BudgetTracker.new]
  · rw [hrev, hnew]
    simp [BudgetTracker.new]

/-- A run from the empty service under `sampleCollaborators`: `create_key` for key `0`, a granted
request for blob `[0]`, its revocation, and the same request refused. The key's log is one grant
and one revocation, and the tracker agrees with it. -/
theorem tracker_matches_log_at_sample :
    ∃ (c : Event BudgetTracker) (after : List (Event BudgetTracker))
      (e : PerKeyLedger BudgetTracker) (s₂ : LedgerService BudgetTracker)
      (e₂ : PerKeyLedger BudgetTracker),
      Steps sampleCollaborators LedgerService.new ([] ++ c :: after) s₂ ∧
      LastInsertion sampleCollaborators 0 c e after ∧ PoliciesWithin sampleCollaborators 1 after ∧
      s₂.perKeyLedgers 0 = some e₂ ∧
      logOf sampleCollaborators 0 after = [.grant [0] [0], .revoke [0]] ∧
      (e₂.keys = e.keys ∧
        (∀ b h, consumedBelow (e₂.budgetTracker.consumed b h) 1 =
          (logOf sampleCollaborators 0 after).count (.grant b h)) ∧
        ∀ b, e₂.budgetTracker.revoked b = true ↔
          .revoke b ∈ logOf sampleCollaborators 0 after) := by
  have hcreate : LedgerService.new.step sampleCollaborators
      (.createKey ⟨some timestamp1000, some durationHour⟩ [0] (⟨[]⟩, [7])) = .ok (_, _) := rfl
  have hrun : Steps sampleCollaborators LedgerService.new ([] ++ [_, _, _, _]) _ :=
    .cons hcreate (.cons (c := .authorizeAccess sampleAuthorizeRequest) rfl
      (.cons (c := .revokeAccess ⟨0, [0]⟩) rfl
        (.cons (c := .authorizeAccess sampleAuthorizeRequest) rfl (.nil _))))
  have hpolicies : ∀ evs, PoliciesWithin sampleCollaborators 1 evs := by
    intro _ _ _ _ _ _ hpol
    cases hpol
    exact le_refl 1
  refine ⟨_, _, ⟨⟨[]⟩, [7], ⟨4600, 0, by decide, by decide⟩, BudgetTracker.new⟩, _, _, hrun,
    ?hlast, hpolicies _, rfl, rfl, tracker_matches_log rfl hrun ?hlast (hpolicies _) rfl⟩
  refine ⟨rfl, fun ev hev => ?_⟩
  simp only [List.mem_cons, List.mem_singleton, List.not_mem_nil, or_false] at hev
  rcases hev with rfl | rfl | rfl <;> exact fun h => nomatch h

end ConfidentialLedger.Accounting
