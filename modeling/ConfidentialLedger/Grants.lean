import ConfidentialLedger.Accounting

/-!
# What a key's tracker has seen

Two facts about the tracker of one key over its whole life, with the spec's tracker. Every access
it counts was granted to an authenticated request: a recipient whose attestation verified, a
header that names the key, policy bytes with the header's digest, and a transform of that policy
that accepts the recipient. And budgets are never restored: the tracker only grows, so once the
selection refuses a request, it refuses every later request with the same recipient, header and
policy bytes for as long as the key lives. What an attestation or a digest proves about the world
is the collaborators' concern and stays outside.
-/

namespace ConfidentialLedger.Grants

open Core Proto Budget Service Effects Lifecycle Authorize Budgets Spending Accounting
open Service.LedgerService BudgetTracker

variable {env : Collaborators BudgetTracker} {self s' : LedgerService BudgetTracker}

/-- A tracker grew into another: it counts at least as many accesses everywhere and has at least
the same blobs revoked. -/
def Grows (t t' : BudgetTracker) : Prop :=
  (∀ b h i, t.consumed b h i ≤ t'.consumed b h i) ∧ ∀ b, t.revoked b = true → t'.revoked b = true

/-- With the spec's tracker, a call that inserts nothing under `k` leaves there an entry that was
there before, whose tracker grew. -/
theorem step_tracker_grows (hb : env.budget = BudgetTracker.ops) {c : Call}
    {r : Except Status Reply} {k : UInt32} (h : self.step env c = .ok (r, s'))
    (hk : (insertion env self c).map Prod.fst ≠ some k) {e' : PerKeyLedger BudgetTracker}
    (he' : s'.perKeyLedgers k = some e') :
    ∃ e, self.perKeyLedgers k = some e ∧ Grows e.budgetTracker e'.budgetTracker := by
  obtain ⟨e, he, -, ht⟩ := step_entry_of_ne hb h hk he'
  refine ⟨e, he, ?_⟩
  rcases ht with ht | ⟨b, ht⟩ | ⟨b, p, i, ht⟩ <;> rw [ht]
  · exact ⟨fun _ _ _ => le_refl _, fun _ hr => hr⟩
  · exact ⟨fun _ _ _ => le_refl _, fun _ hr => by simp [hr]⟩
  · exact ⟨fun _ _ _ => by simp only [record_consumed]; split_ifs <;> omega, fun _ hr => hr⟩

/-- A transform with budget left after some accesses has budget left after fewer. -/
theorem hasBudget_anti {t : Transform} {u u' : Nat} (hle : u ≤ u')
    (h : hasBudget t u' = true) : hasBudget t u = true := by
  unfold hasBudget at *
  split at h
  · rfl
  · simp only [decide_eq_true_eq] at h ⊢
    omega

/-- The walk finds a transform whenever one from index `i` on accepts the application and has
budget left. -/
theorem findFrom_ok_of_fit {used : Nat → Nat} {app : Application} {ts : List Transform}
    {i j : Nat} {m : Bool} {t : Transform} (ht : ts[j]? = some t)
    (hm : matchesApplication t.application app = true) (hbud : hasBudget t (used (i + j)) = true) :
    ∃ j', findFrom used app ts i m = .ok j' := by
  induction ts generalizing i j m with
  | nil => cases ht
  | cons t' ts ih =>
    cases j with
    | zero =>
      obtain rfl : t' = t := by simpa using ht
      simp only [Nat.add_zero] at hbud
      exact ⟨i, by simp [findFrom, hm, hbud]⟩
    | succ j =>
      rw [show i + (j + 1) = i + 1 + j by omega] at hbud
      have hnext := fun m' => ih (i := i + 1) (m := m') (by simpa using ht) hbud
      simp only [findFrom]
      split_ifs
      exacts [⟨i, rfl⟩, hnext true, hnext m]

/-- A selection that fails on a tracker fails on every tracker that grew from it. -/
theorem findMatchingTransform_error_of_grows {t t' : BudgetTracker} (hg : Grows t t')
    {blobId policyHash : Bytes} {nodeId : UInt32} {policy : DataAccessPolicy}
    {app : Application} {st : Status}
    (h : t.findMatchingTransform blobId nodeId policy policyHash app = .error st) :
    ∃ st', t'.findMatchingTransform blobId nodeId policy policyHash app = .error st' := by
  cases h' : t'.findMatchingTransform blobId nodeId policy policyHash app with
  | error st' => exact ⟨st', rfl⟩
  | ok j =>
    obtain ⟨hr, ⟨tr, htr, hm, hbud⟩, -⟩ := findMatchingTransform_eq_ok h'
    have hr₀ : t.revoked blobId = false := by
      cases hrt : t.revoked blobId
      · rfl
      · rw [hg.2 _ hrt] at hr
        cases hr
    obtain ⟨j', hj'⟩ := @findFrom_ok_of_fit (t.consumed blobId policyHash) app policy.transforms 0
      j false tr htr hm (by simpa using hasBudget_anti (hg.1 _ _ _) hbud)
    simp [findMatchingTransform, hr₀, hj'] at h

section Authenticated

variable {k : UInt32} {b h : Bytes} {i : Nat}

/-- Along a run that inserts nothing under `k`, every access the key's tracker counts at the end
was counted at the start, or granted by an authenticated call of the run. -/
theorem Steps.consumed_authenticated (hb : env.budget = BudgetTracker.ops)
    {s s₂ : LedgerService BudgetTracker} {evs : List (Event BudgetTracker)}
    (hrun : Steps env s evs s₂) (hno : NoInsertOf env k evs) {e₂ : PerKeyLedger BudgetTracker}
    (he₂ : s₂.perKeyLedgers k = some e₂) :
    ∃ e, s.perKeyLedgers k = some e ∧ ∀ b h i, 0 < e₂.budgetTracker.consumed b h i →
      0 < e.budgetTracker.consumed b h i ∨ ∃ ev ∈ evs, AuthenticatedGrant env k b h i ev := by
  induction hrun with
  | nil s => exact ⟨e₂, he₂, fun _ _ _ hpos => .inl hpos⟩
  | @cons s s₁ _ c r evs hstep _ ih =>
    obtain ⟨e₁, he₁, hpos₁⟩ := ih (fun ev hev => hno ev (List.mem_cons_of_mem _ hev)) he₂
    obtain ⟨e, he, -, ht⟩ := step_tracker_cases hb hstep (hno _ (List.mem_cons_self _ _)) he₁
    refine ⟨e, he, fun b h i hpos => ?_⟩
    rcases hpos₁ b h i hpos with hpos' | ⟨ev, hev, hgrant⟩
    · rcases ht with ⟨ht, -⟩ | ⟨_, ht, -⟩ | ⟨b', h', i', hgrant, ht, -⟩
      · -- Nothing logged: the tracker is unchanged.
        exact .inl (ht ▸ hpos')
      · -- A revocation: the counts are unchanged.
        rw [ht, consumeBudget_consumed] at hpos'
        exact .inl hpos'
      · -- A grant: one access recorded, by this authenticated call.
        rw [ht, record_consumed] at hpos'
        by_cases hmatch : b = b' ∧ h = h' ∧ i = i'
        · obtain ⟨rfl, rfl, rfl⟩ := hmatch
          exact .inr ⟨_, List.mem_cons_self _ _, hgrant⟩
        · rw [if_neg hmatch] at hpos'
          exact .inl hpos'
    · exact .inr ⟨ev, List.mem_cons_of_mem _ hev, hgrant⟩

/-- No access is counted without an authenticated grant, with the spec's tracker. Take a run
through the `create_key` that last inserts key id `k`. If the key is there at the end and its
tracker counts an access to blob `b` under digest `h` against transform `i`, a call after the
insert granted it to an authenticated request whose transform `i` accepts the recipient. -/
theorem counted_access_authenticated (hb : env.budget = BudgetTracker.ops)
    {s s₂ : LedgerService BudgetTracker} {before after : List (Event BudgetTracker)}
    {c : Event BudgetTracker} {e e₂ : PerKeyLedger BudgetTracker}
    (hrun : Steps env s (before ++ c :: after) s₂) (hlast : LastInsertion env k c e after)
    (he₂ : s₂.perKeyLedgers k = some e₂) (hpos : 0 < e₂.budgetTracker.consumed b h i) :
    ∃ ev ∈ after, AuthenticatedGrant env k b h i ev := by
  obtain ⟨hstep, hrest⟩ := Steps.of_split hrun
  obtain ⟨e', he', hcount⟩ := Steps.consumed_authenticated hb hrest hlast.2 he₂
  rw [step_of_insertion hstep hlast.1, Option.some.injEq] at he'
  subst he'
  have hnew : e.budgetTracker = BudgetTracker.new := by
    rw [insertion_budgetTracker hlast.1, hb]
    rfl
  rcases hcount b h i hpos with h0 | hgrant
  · rw [hnew] at h0
    exact absurd h0 (lt_irrefl 0)
  · exact hgrant

/-- A run from the empty service under `sampleCollaborators`: `create_key` for key `0` and a
granted request for blob `[0]`. The access its tracker counts was granted to that request. -/
theorem counted_access_authenticated_at_sample :
    ∃ (c : Event BudgetTracker) (after : List (Event BudgetTracker))
      (e : PerKeyLedger BudgetTracker) (s₂ : LedgerService BudgetTracker)
      (e₂ : PerKeyLedger BudgetTracker),
      Steps sampleCollaborators LedgerService.new ([] ++ c :: after) s₂ ∧
      LastInsertion sampleCollaborators 0 c e after ∧ s₂.perKeyLedgers 0 = some e₂ ∧
      0 < e₂.budgetTracker.consumed [0] [0] 0 ∧
      ∃ ev ∈ after, AuthenticatedGrant sampleCollaborators 0 [0] [0] 0 ev := by
  have hcreate : LedgerService.new.step sampleCollaborators
      (.createKey ⟨some Clock.timestamp1000, some durationHour⟩ [0] (⟨[]⟩, [7])) = .ok (_, _) := rfl
  have hrun : Steps sampleCollaborators LedgerService.new ([] ++ [_, _]) _ :=
    .cons hcreate (.cons (c := .authorizeAccess sampleAuthorizeRequest) rfl (.nil _))
  refine ⟨_, _, ⟨⟨[]⟩, [7], ⟨4600, 0, by decide, by decide⟩, BudgetTracker.new⟩, _, _, hrun,
    ?hlast, rfl, by decide, counted_access_authenticated rfl hrun ?hlast rfl (by decide)⟩
  refine ⟨rfl, fun ev hev => ?_⟩
  rcases List.mem_singleton.1 hev with rfl
  exact fun h => nomatch h

end Authenticated

section Refusal

/-- Two requests present the same recipient, header and policy bytes; their `now`, ciphertexts
and nonce may differ. -/
def SameSelectionInputs (r r' : AuthorizeAccessRequest) : Prop :=
  r'.recipientPublicKey = r.recipientPublicKey ∧ r'.recipientAttestation = r.recipientAttestation ∧
    r'.recipientTag = r.recipientTag ∧ r'.blobHeader = r.blobHeader ∧
    r'.accessPolicy = r.accessPolicy

/-- In `s`, the selection on the tracker of key `k` refuses the application the request's
recipient attests as, for its header and its policy. -/
def SelectionRefuses (env : Collaborators BudgetTracker) (k : UInt32)
    (request : AuthorizeAccessRequest) (s : LedgerService BudgetTracker) : Prop :=
  ∀ app header policy e, env.verifyAttestation request.recipientPublicKey
      request.recipientAttestation request.recipientTag = .ok app →
    env.decodeBlobHeader request.blobHeader = .ok header → header.publicKeyId = k →
    env.decodeDataAccessPolicy request.accessPolicy = .ok policy → s.perKeyLedgers k = some e →
    ∃ st, e.budgetTracker.findMatchingTransform header.blobId header.accessPolicyNodeId policy
      header.accessPolicySha256 app = .error st

variable {k : UInt32} {request request' : AuthorizeAccessRequest}

/-- The refusal reads only the recipient, the header and the policy bytes. -/
theorem SelectionRefuses.of_same (hs : SelectionRefuses env k request self)
    (hsame : SameSelectionInputs request request') : SelectionRefuses env k request' self := by
  obtain ⟨h₁, h₂, h₃, h₄, h₅⟩ := hsame
  intro app header policy e ha hh hk hp he
  rw [h₁, h₂, h₃] at ha
  rw [h₄] at hh
  rw [h₅] at hp
  exact hs app header policy e ha hh hk hp he

/-- With the spec's tracker, a call that inserts nothing under `k` keeps the refusal: the key's
tracker only grew. -/
theorem step_selectionRefuses (hb : env.budget = BudgetTracker.ops) {c : Call}
    {r : Except Status Reply} (h : self.step env c = .ok (r, s'))
    (hk : (insertion env self c).map Prod.fst ≠ some k) (hs : SelectionRefuses env k request self) :
    SelectionRefuses env k request s' := by
  intro app header policy e' ha hh hkh hp he'
  obtain ⟨e, he, hg⟩ := step_tracker_grows hb h hk he'
  obtain ⟨st, hst⟩ := hs app header policy e ha hh hkh hp he
  exact findMatchingTransform_error_of_grows hg hst

/-- With the spec's tracker, a refused selection refuses the call: `authorize_access` of a
request whose header names `k` never succeeds. -/
theorem authorizeAccess_of_selectionRefuses (hb : env.budget = BudgetTracker.ops)
    (hs : SelectionRefuses env k request self)
    (hname : ∀ header, env.decodeBlobHeader request.blobHeader = .ok header →
      header.publicKeyId = k) (response : AuthorizeAccessResponse) :
    self.authorizeAccess env request ≠ .ok (.ok response, s') := by
  intro h
  obtain ⟨t, -, -, hw⟩ := authorizeAccess_eq_ok h
  obtain ⟨app, header, policy, e, i, ha, hh, -, hpol, he, hi, -⟩ := authorizeWithTime_ok_spec hb hw
  have hkh := hname header hh
  rw [hkh] at he
  obtain ⟨st, hst⟩ := hs app header policy e ha hh hkh hpol (withTime_perKeyLedgers_eq_some.1 he).1
  rw [hst] at hi
  cases hi

/-- Along a run that inserts nothing under `k`, a refusal stays, and every `authorize_access` with
the same recipient, header and policy bytes is refused. -/
theorem Steps.selectionRefuses (hb : env.budget = BudgetTracker.ops)
    {s s₂ : LedgerService BudgetTracker} {evs : List (Event BudgetTracker)}
    (hrun : Steps env s evs s₂) (hno : NoInsertOf env k evs)
    (hs : SelectionRefuses env k request s)
    (hname : ∀ header, env.decodeBlobHeader request.blobHeader = .ok header →
      header.publicKeyId = k) :
    ∀ ev ∈ evs, ∀ request', ev.call = .authorizeAccess request' →
      SameSelectionInputs request request' → ∃ st, ev.reply = .error st := by
  induction hrun with
  | nil => exact fun _ h => nomatch h
  | @cons s s₁ _ c r evs hstep _ ih =>
    refine List.forall_mem_cons.2 ⟨fun request' hc hsame => ?_,
      ih (fun ev hev => hno ev (List.mem_cons_of_mem _ hev))
        (step_selectionRefuses hb hstep (hno _ (List.mem_cons_self _ _)) hs)⟩
    obtain rfl : c = .authorizeAccess request' := hc
    obtain ⟨res, hres, rfl⟩ := step_eq_ok hstep
    rcases res with st | response
    · exact ⟨_, rfl⟩
    · exact absurd hres (authorizeAccess_of_selectionRefuses hb (hs.of_same hsame)
        (hsame.2.2.2.1 ▸ hname) response)

/-- A refusal at the selection leaves a state in which the selection refuses the request. -/
theorem selectionRefuses_of_refusal (hb : env.budget = BudgetTracker.ops) {s : LedgerService BudgetTracker}
    {st : Status} {header : BlobHeader} (h : s.authorizeAccess env request = .ok (.error st, s'))
    (hcode : st.code = .resourceExhausted ∨ st.code = .failedPrecondition)
    (hh : env.decodeBlobHeader request.blobHeader = .ok header) :
    SelectionRefuses env header.publicKeyId request s' := by
  rcases authorizeAccess_cases env s request with ⟨_, -, he⟩ | ⟨t, -, -, he⟩ <;> rw [he] at h
  · cases h
    simp [Status.newWithMessage] at hcode
  have hw := Rust.ok.inj h
  have hs' := authorizeWithTime_of_error (congrArg Prod.fst hw)
  rw [hw] at hs'
  subst hs'
  obtain ⟨app₀, header₀, policy₀, e₀, ha₀, hh₀, hp₀, he₀, hsel⟩ :=
    (authorizeWithTime_error_cases hb (congrArg Prod.fst hw)).resolve_left
      (by rintro (hc | hc) <;> rw [hc] at hcode <;> simp at hcode)
  intro app header' policy e ha hh' _ hp he
  -- The collaborators are functions: the selection saw exactly these inputs.
  obtain rfl := Except.ok.inj (ha₀.symm.trans ha)
  obtain rfl := Except.ok.inj (hh'.symm.trans hh)
  obtain rfl := Except.ok.inj (hh₀.symm.trans hh)
  obtain rfl := Except.ok.inj (hp₀.symm.trans hp)
  obtain rfl := Option.some.inj (he₀.symm.trans he)
  exact ⟨st, hsel⟩

/-- Budgets are never restored, with the spec's tracker. When `authorize_access` refuses a request
at the selection, with `ResourceExhausted` or `FailedPrecondition`, every later `authorize_access`
with the same recipient, header and policy bytes, at any `now`, is refused too, along every run
that inserts nothing more under the key the header names. -/
theorem selection_refusal_permanent (hb : env.budget = BudgetTracker.ops)
    {s s₂ : LedgerService BudgetTracker} {st : Status} {header : BlobHeader}
    {evs : List (Event BudgetTracker)} (h : s.authorizeAccess env request = .ok (.error st, s'))
    (hcode : st.code = .resourceExhausted ∨ st.code = .failedPrecondition)
    (hh : env.decodeBlobHeader request.blobHeader = .ok header) (hrun : Steps env s' evs s₂)
    (hno : NoInsertOf env header.publicKeyId evs) :
    ∀ ev ∈ evs, ∀ request', ev.call = .authorizeAccess request' →
      SameSelectionInputs request request' → ∃ st', ev.reply = .error st' :=
  Steps.selectionRefuses hb hrun hno (selectionRefuses_of_refusal hb h hcode hh)
    fun _ hh' => congrArg BlobHeader.publicKeyId (Except.ok.inj (hh'.symm.trans hh))

/-- Key `0` after one granted sample request: its `Times(1)` budget is spent. -/
def sampleSpentState : LedgerService BudgetTracker :=
  let clocked := sampleKeyState.withTime ⟨1000, 0, by decide, by decide⟩
  { clocked with
    perKeyLedgers := mapInsert clocked.perKeyLedgers 0
      ⟨⟨[]⟩, [7], ⟨4600, 0, by decide, by decide⟩, BudgetTracker.new.record [0] [0] 0⟩ }

/-- The sample request for key `0` at `2000 s`. -/
def sampleLaterRequest : AuthorizeAccessRequest :=
  { sampleAuthorizeRequest with
    now := some ⟨⟨2000, by decide, by decide⟩, ⟨0, by decide, by decide⟩⟩ }

/-- The sample request for key `0` is granted once and then refused with `ResourceExhausted`;
the same request at `2000 s` is refused too. -/
theorem selection_refusal_permanent_at_sample :
    sampleKeyState.authorizeAccess sampleCollaborators sampleAuthorizeRequest =
      .ok (.ok ⟨[2], [1], [7]⟩, sampleSpentState) ∧
    ∃ (s' s₂ : LedgerService BudgetTracker) (evs : List (Event BudgetTracker)),
      sampleSpentState.authorizeAccess sampleCollaborators sampleAuthorizeRequest =
        .ok (.error ⟨.resourceExhausted, "access budget exhausted"⟩, s') ∧
      Steps sampleCollaborators s' evs s₂ ∧ NoInsertOf sampleCollaborators 0 evs ∧
      evs.map Event.call = [.authorizeAccess sampleLaterRequest] ∧
      ∀ ev ∈ evs, ∀ request', ev.call = .authorizeAccess request' →
        SameSelectionInputs sampleAuthorizeRequest request' → ∃ st', ev.reply = .error st' := by
  have h : sampleSpentState.authorizeAccess sampleCollaborators sampleAuthorizeRequest =
      .ok (.error ⟨.resourceExhausted, "access budget exhausted"⟩,
        sampleSpentState.withTime ⟨1000, 0, by decide, by decide⟩) := rfl
  have hrun : Steps sampleCollaborators (sampleSpentState.withTime ⟨1000, 0, by decide, by decide⟩)
      [_] _ := .cons (c := .authorizeAccess sampleLaterRequest) rfl (.nil _)
  refine ⟨rfl, _, _, _, h, hrun, ?hno, rfl,
    selection_refusal_permanent rfl h (.inl rfl) rfl hrun ?hno⟩
  intro ev hev
  rcases List.mem_singleton.1 hev with rfl
  exact fun h => nomatch h

end Refusal

end ConfidentialLedger.Grants
