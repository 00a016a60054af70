import ConfidentialLedger.Budgets

/-!
# No access beyond the budget

What the ledger is for: however calls interleave, a blob is released under a key no more often
than its policy's `Times(n)` budgets allow. The count is taken over the run itself: the
successful `authorize_access` calls for the blob under the key with the given policy bytes, from
the key's `create_key` on. The proof carries a potential, the accesses the policy's transforms
have left against the key's tracker: a grant spends exactly one, and no other call gives any
back, whatever it is (another policy under the same digest, a revocation, a deletion, a clock
move). Policies with an unlimited transform have no bound and stay out, and so do counts per
transform, which the run does not show.
-/

namespace ConfidentialLedger.Spending

open Core Proto Budget Service Effects Clock Lifecycle Authorize Budgets
open Service.LedgerService BudgetTracker

variable {env : Collaborators BudgetTracker} {self s' : LedgerService BudgetTracker}

/-- The accesses the transforms `ts`, numbered from `i`, have left against the counts `used`;
an unlimited transform counts for none. -/
def budgetLeftFrom (used : Nat → Nat) : List Transform → Nat → Nat
  | [], _ => 0
  | t :: ts, i => ((accessLimit t).getD 0 - used i) + budgetLeftFrom used ts (i + 1)

/-- With no access recorded, the transforms have their whole budgets left. -/
theorem budgetLeftFrom_zero (ts : List Transform) (i : Nat) :
    budgetLeftFrom (fun _ => 0) ts i = (ts.map fun t => (accessLimit t).getD 0).sum := by
  induction ts generalizing i with
  | nil => rfl
  | cons t ts ih => simp [budgetLeftFrom, ih]

/-- The budget left from index `i` on reads the counts from `i` on only. -/
theorem budgetLeftFrom_congr {used used' : Nat → Nat} (ts : List Transform) {i : Nat}
    (h : ∀ j, i ≤ j → used' j = used j) : budgetLeftFrom used' ts i = budgetLeftFrom used ts i := by
  induction ts generalizing i with
  | nil => rfl
  | cons t ts ih =>
    have hrest : budgetLeftFrom used' ts (i + 1) = budgetLeftFrom used ts (i + 1) :=
      ih fun j hj => h j (by omega)
    simp only [budgetLeftFrom, h i (le_refl i), hrest]

/-- More recorded accesses leave no more budget. -/
theorem budgetLeftFrom_anti {used used' : Nat → Nat} (h : ∀ j, used j ≤ used' j)
    (ts : List Transform) (i : Nat) : budgetLeftFrom used' ts i ≤ budgetLeftFrom used ts i := by
  induction ts generalizing i with
  | nil => exact le_refl 0
  | cons t ts ih =>
    have hi := h i
    have hrest := ih (i + 1)
    simp only [budgetLeftFrom]
    omega

/-- One more access against a transform with budget left spends exactly one. -/
theorem budgetLeftFrom_spend {used used' : Nat → Nat} {k n : Nat} {t : Transform}
    (hused : ∀ x, used' x = if x = k then used x + 1 else used x)
    (hn : accessLimit t = some n) (hlt : used k < n) (ts : List Transform) {i : Nat}
    (hik : i ≤ k) (ht : ts[k - i]? = some t) :
    budgetLeftFrom used' ts i + 1 = budgetLeftFrom used ts i := by
  induction ts generalizing i with
  | nil => cases ht
  | cons t' ts ih =>
    rcases Nat.eq_or_lt_of_le hik with rfl | hik
    · simp only [Nat.sub_self, List.getElem?_cons_zero, Option.some.injEq] at ht
      subst ht
      have hrest : budgetLeftFrom used' ts (i + 1) = budgetLeftFrom used ts (i + 1) :=
        budgetLeftFrom_congr ts fun j hj => by rw [hused, if_neg (by omega)]
      simp only [budgetLeftFrom, hn, Option.getD_some, hrest]
      rw [hused, if_pos rfl]
      omega
    · have ht' : ts[k - (i + 1)]? = some t := by
        rw [show k - i = k - (i + 1) + 1 by omega] at ht
        simpa using ht
      have hrest : budgetLeftFrom used' ts (i + 1) + 1 = budgetLeftFrom used ts (i + 1) :=
        ih hik ht'
      simp only [budgetLeftFrom]
      rw [hused, if_neg (Nat.ne_of_lt hik)]
      omega

/-- The accesses to blob `b` that the policy, read from bytes with digest `h`, has left under key
`k`: none once the key is gone. -/
def budgetLeft (k : UInt32) (b h : Bytes) (policy : DataAccessPolicy)
    (s : LedgerService BudgetTracker) : Nat :=
  match s.perKeyLedgers k with
  | some e => budgetLeftFrom (e.budgetTracker.consumed b h) policy.transforms 0
  | none => 0

/-- Whether the event is a successful `authorize_access` for blob `b` under key `k` with policy
bytes `π`. -/
def isGrantOf (env : Collaborators BudgetTracker) (k : UInt32) (b π : Bytes)
    (ev : Event BudgetTracker) : Bool :=
  match ev.call, ev.reply with
  | .authorizeAccess request, .ok _ =>
    match env.decodeBlobHeader request.blobHeader with
    | .ok header => header.publicKeyId == k && header.blobId == b && request.accessPolicy == π
    | .error _ => false
  | _, _ => false

section Potential

variable {k : UInt32} {b h : Bytes} {policy : DataAccessPolicy}

/-- A state whose entry under `k` comes from the entry of `self` with no access count lowered has
no more budget left. -/
theorem budgetLeft_anti (hle : ∀ e', s'.perKeyLedgers k = some e' → ∃ e,
      self.perKeyLedgers k = some e ∧ ∀ j, e.budgetTracker.consumed b h j ≤
        e'.budgetTracker.consumed b h j) :
    budgetLeft k b h policy s' ≤ budgetLeft k b h policy self := by
  unfold budgetLeft
  cases hs' : s'.perKeyLedgers k with
  | none => exact Nat.zero_le _
  | some e' =>
    obtain ⟨e, he, hj⟩ := hle e' hs'
    rw [he]
    exact budgetLeftFrom_anti hj _ _

/-- Keeping or evicting the entry under `k` gives no budget back. -/
theorem budgetLeft_of_keptOrEvicted {now : Option Timestamp}
    (hke : KeptOrEvicted self s' now k) :
    budgetLeft k b h policy s' ≤ budgetLeft k b h policy self :=
  budgetLeft_anti fun e' he' => by
    rcases hke with hsame | ⟨hnone, -⟩
    · exact ⟨e', hsame ▸ he', fun _ => le_refl _⟩
    · rw [hnone] at he'
      cases he'

end Potential

variable {k : UInt32} {b π : Bytes} {policy : DataAccessPolicy}

/-- A grant is a successful `authorize_access` whose header names the key and the blob, with the
policy bytes. -/
theorem isGrantOf_eq_true {ev : Event BudgetTracker} (h : isGrantOf env k b π ev = true) :
    ∃ request header response, ev.call = .authorizeAccess request ∧ ev.reply = .ok response ∧
      env.decodeBlobHeader request.blobHeader = .ok header ∧ header.publicKeyId = k ∧
      header.blobId = b ∧ request.accessPolicy = π := by
  unfold isGrantOf at h
  split at h
  · rename_i request response hcall hreply
    split at h
    · rename_i header hh
      simp only [Bool.and_eq_true, beq_iff_eq] at h
      exact ⟨request, header, response, hcall, hreply, hh, h.1.1, h.1.2, h.2⟩
    · cases h
  · cases h

/-- With the spec's tracker, the steps after the clock, when they grant blob `b` under key `k`
with policy bytes `π`, spend exactly one access of the policy's budget. -/
theorem authorizeWithTime_grant_spends (hb : env.budget = BudgetTracker.ops)
    (hpol : env.decodeDataAccessPolicy π = .ok policy)
    (hlim : ∀ t ∈ policy.transforms, (accessLimit t).isSome)
    {request : AuthorizeAccessRequest} {response : AuthorizeAccessResponse} {header : BlobHeader}
    (h : self.authorizeWithTime env request = (.ok response, s'))
    (hh : env.decodeBlobHeader request.blobHeader = .ok header) (hk : header.publicKeyId = k)
    (hblob : header.blobId = b) (hπ : request.accessPolicy = π) :
    budgetLeft k b (env.sha256 π) policy s' + 1 = budgetLeft k b (env.sha256 π) policy self := by
  obtain ⟨_, header', _, e, i, -, hh', hsha, hpol', he, hfind, rfl⟩ :=
    authorizeWithTime_ok_spec hb h
  rw [hh] at hh'
  cases hh'
  subst hk hblob hπ
  rw [hpol] at hpol'
  cases hpol'
  obtain ⟨-, ⟨t, ht, -, hbud⟩, -⟩ := findMatchingTransform_eq_ok hfind
  obtain ⟨n, hn⟩ := Option.isSome_iff_exists.1 (hlim t (List.getElem?_mem ht))
  simp only [hasBudget, hn, decide_eq_true_eq] at hbud
  simp only [budgetLeft, mapInsert_apply, if_true, he, hsha]
  exact budgetLeftFrom_spend (fun x => by simp [record_consumed]) hn hbud _ (Nat.zero_le i)
    (by simpa using ht)

/-- With the spec's tracker, a call that inserts nothing under `k` spends one access of the
policy's budget for a grant of blob `b` under key `k` with policy bytes `π`, and gives none back
otherwise. -/
theorem step_budgetLeft (hb : env.budget = BudgetTracker.ops)
    (hpol : env.decodeDataAccessPolicy π = .ok policy)
    (hlim : ∀ t ∈ policy.transforms, (accessLimit t).isSome) {c : Call}
    {r : Except Status Reply} (h : self.step env c = .ok (r, s'))
    (hk : (insertion env self c).map Prod.fst ≠ some k) :
    (if isGrantOf env k b π ⟨self, c, r, s'⟩ then 1 else 0) +
      budgetLeft k b (env.sha256 π) policy s' ≤ budgetLeft k b (env.sha256 π) policy self := by
  cases hg : isGrantOf env k b π ⟨self, c, r, s'⟩
  · simp only [Bool.false_eq_true, if_false, zero_add]
    refine budgetLeft_anti fun e' he' => ?_
    obtain ⟨e, he, -, ht⟩ := step_entry_of_ne hb h hk he'
    refine ⟨e, he, fun j => ?_⟩
    rcases ht with ht | ⟨_, ht⟩ | ⟨_, _, _, ht⟩
    · rw [ht]
    · rw [ht, consumeBudget_consumed]
    · rw [ht, record_consumed]
      split_ifs <;> omega
  · obtain ⟨request, header, response, hcall, hreply, hh, hk', hblob, hπ⟩ := isGrantOf_eq_true hg
    dsimp only at hcall hreply
    subst hcall hreply
    obtain ⟨res, hc, hr⟩ := step_eq_ok h
    rcases res with st | response
    · cases hr
    obtain ⟨t, ht, -, hw⟩ := authorizeAccess_eq_ok hc
    rw [if_pos rfl, add_comm, authorizeWithTime_grant_spends hb hpol hlim hw hh hk' hblob hπ]
    exact budgetLeft_of_keptOrEvicted (withTime_keptOrEvicted ht k)

/-- Along a run that inserts nothing under `k`, the grants of blob `b` under key `k` with policy
bytes `π` and the budget left at the end together never exceed the budget left at the start. -/
theorem Steps.budgetLeft (hb : env.budget = BudgetTracker.ops)
    (hpol : env.decodeDataAccessPolicy π = .ok policy)
    (hlim : ∀ t ∈ policy.transforms, (accessLimit t).isSome) {s s₂ : LedgerService BudgetTracker}
    {evs : List (Event BudgetTracker)} (hrun : Steps env s evs s₂) (hno : NoInsertOf env k evs) :
    evs.countP (isGrantOf env k b π) + budgetLeft k b (env.sha256 π) policy s₂ ≤
      budgetLeft k b (env.sha256 π) policy s := by
  induction hrun with
  | nil => simp
  | cons hstep _ ih =>
    have h₁ := step_budgetLeft (b := b) hb hpol hlim hstep (hno _ (List.mem_cons_self _ _))
    have h₂ := ih fun ev hev => hno ev (List.mem_cons_of_mem _ hev)
    rw [List.countP_cons]
    omega

/-- A `create_key` that reaches its insert starts the key with the tracker's empty state. -/
theorem insertion_budgetTracker {c : Call} {e : PerKeyLedger BudgetTracker}
    (hi : insertion env self c = some (k, e)) : e.budgetTracker = env.budget.new := by
  unfold insertion at hi
  split at hi
  · split at hi
    · cases hi
      rfl
    · cases hi
  · cases hi

/-- No access beyond the budget, however calls interleave, with the spec's tracker. Along a run
through the `create_key` that last inserts key id `k`, the granted `authorize_access` calls for
blob `b` of key `k` with policy bytes `π`, all of whose transforms are limited by `Times(n)`,
number at most the sum of their budgets. -/
theorem accesses_within_budget (hb : env.budget = BudgetTracker.ops)
    (hpol : env.decodeDataAccessPolicy π = .ok policy)
    (hlim : ∀ t ∈ policy.transforms, (accessLimit t).isSome) {s s₂ : LedgerService BudgetTracker}
    {before after : List (Event BudgetTracker)} {c : Event BudgetTracker}
    {e : PerKeyLedger BudgetTracker} (hrun : Steps env s (before ++ c :: after) s₂)
    (hlast : LastInsertion env k c e after) :
    after.countP (isGrantOf env k b π) ≤
      (policy.transforms.map fun t => (accessLimit t).getD 0).sum := by
  obtain ⟨hstep, hrest⟩ := Steps.of_split hrun
  have hstart : budgetLeft k b (env.sha256 π) policy c.after =
      (policy.transforms.map fun t => (accessLimit t).getD 0).sum := by
    rw [← budgetLeftFrom_zero _ 0]
    simp only [budgetLeft, step_of_insertion hstep hlast.1, insertion_budgetTracker hlast.1, hb]
    rfl
  have hrun' := Steps.budgetLeft (b := b) hb hpol hlim hrest hlast.2
  omega

/-- Under `sampleCollaborators` every policy is one transform of budget `Times(1)`: after one
`create_key` for key `0`, the first of two equal requests for blob `[0]` is granted and the second
is not. -/
theorem accesses_within_budget_at_sample :
    ∃ (c : Event BudgetTracker) (after : List (Event BudgetTracker))
      (e : PerKeyLedger BudgetTracker) (s₂ : LedgerService BudgetTracker),
      Steps sampleCollaborators LedgerService.new ([] ++ c :: after) s₂ ∧
      LastInsertion sampleCollaborators 0 c e after ∧ after.length = 2 ∧
      after.countP (isGrantOf sampleCollaborators 0 [0] [0]) = 1 ∧
      after.countP (isGrantOf sampleCollaborators 0 [0] [0]) ≤
        ([sampleTransform].map fun t => (accessLimit t).getD 0).sum := by
  have hcreate : LedgerService.new.step sampleCollaborators
      (.createKey ⟨some timestamp1000, some durationHour⟩ [0] (⟨[]⟩, [7])) = .ok (_, _) := rfl
  have hrun : Steps sampleCollaborators LedgerService.new ([] ++ [_, _, _]) _ :=
    .cons hcreate (.cons (c := .authorizeAccess sampleAuthorizeRequest) rfl
      (.cons (c := .authorizeAccess sampleAuthorizeRequest) rfl (.nil _)))
  refine ⟨_, _, ⟨⟨[]⟩, [7], ⟨4600, 0, by decide, by decide⟩, BudgetTracker.new⟩, _, hrun, ?hlast,
    rfl, rfl,
    accesses_within_budget rfl rfl (by simp [sampleTransform, accessLimit]) hrun ?hlast⟩
  refine ⟨rfl, fun ev hev => ?_⟩
  rcases List.mem_cons.1 hev with rfl | hev
  · exact fun h => nomatch h
  · rcases List.mem_singleton.1 hev with rfl
    exact fun h => nomatch h

end ConfidentialLedger.Spending
