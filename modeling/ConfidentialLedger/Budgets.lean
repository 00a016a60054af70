import ConfidentialLedger.Authorize

/-!
# Budgets under the spec's tracker

With the tracker of the spec's §4.3 behind the interface, and every other collaborator arbitrary,
the service keeps the spec's budget promises. A successful `authorize_access` records exactly one
access, against the first transform in policy order that accepts the recipient and has budget
left, under the header's blob and policy digest. `Times(n)` lets exactly `n` equal requests
through. A revoked blob stays blocked for as long as its key lives, and the key's other blobs
are untouched. Every error a call returns has a code of the spec's table, never `Internal`. Each call commits at most one entry to the log of a key: a grant
or a revocation, and the tracker moves accordingly.
-/

namespace ConfidentialLedger.Budgets

open Core Proto Budget Service Effects Lifecycle Authorize
open Service.LedgerService BudgetTracker

variable {env : Collaborators BudgetTracker} {self s' : LedgerService BudgetTracker}

/-- A selection that fails reports `FailedPrecondition` or `ResourceExhausted`. -/
theorem findMatchingTransform_error_code {tracker : BudgetTracker} {blobId policyHash : Bytes}
    {nodeId : UInt32} {policy : DataAccessPolicy} {app : Application} {st : Status}
    (h : tracker.findMatchingTransform blobId nodeId policy policyHash app = .error st) :
    st.code = .failedPrecondition ∨ st.code = .resourceExhausted := by
  unfold BudgetTracker.findMatchingTransform at h
  split at h
  · cases h
    exact .inr rfl
  · rw [findFrom_eq_error h]
    split <;> simp

/-- A selection that succeeds found the blob not revoked, and picked the first transform in
policy order that accepts the application and has budget left. -/
theorem findMatchingTransform_eq_ok {tracker : BudgetTracker} {blobId policyHash : Bytes}
    {nodeId : UInt32} {policy : DataAccessPolicy} {app : Application} {i : Nat}
    (h : tracker.findMatchingTransform blobId nodeId policy policyHash app = .ok i) :
    tracker.revoked blobId = false ∧
      (∃ t, policy.transforms[i]? = some t ∧ matchesApplication t.application app ∧
        hasBudget t (tracker.consumed blobId policyHash i)) ∧
      ∀ j < i, ∀ t ∈ policy.transforms[j]?, matchesApplication t.application app →
        hasBudget t (tracker.consumed blobId policyHash j) = false := by
  unfold BudgetTracker.findMatchingTransform at h
  split at h
  · cases h
  · rename_i hr
    obtain ⟨-, hsel, hfirst⟩ := findFrom_eq_ok h
    refine ⟨by simpa using hr, by simpa using hsel, fun j hj t ht hm => ?_⟩
    simpa using hfirst j (by omega) t ht hm

/-- With the spec's tracker, the steps after the clock succeed only after a selection on the
tracker of the header's key, and write back that tracker with one access recorded against the
selected transform. -/
theorem authorizeWithTime_ok_spec (hb : env.budget = BudgetTracker.ops)
    {request : AuthorizeAccessRequest} {response : AuthorizeAccessResponse}
    (h : self.authorizeWithTime env request = (.ok response, s')) :
    ∃ app header policy e i,
      env.verifyAttestation request.recipientPublicKey request.recipientAttestation
        request.recipientTag = .ok app ∧
      env.decodeBlobHeader request.blobHeader = .ok header ∧
      env.sha256 request.accessPolicy = header.accessPolicySha256 ∧
      env.decodeDataAccessPolicy request.accessPolicy = .ok policy ∧
      self.perKeyLedgers header.publicKeyId = some e ∧
      e.budgetTracker.findMatchingTransform header.blobId header.accessPolicyNodeId policy
        header.accessPolicySha256 app = .ok i ∧
      s' = { self with
        perKeyLedgers := mapInsert self.perKeyLedgers header.publicKeyId
          { e with
            budgetTracker :=
              e.budgetTracker.record header.blobId header.accessPolicySha256 i } } := by
  rcases authorizeWithTime_eq h with ⟨_, hres, -⟩ |
    ⟨app, header, policy, e, i, _, _, _, ha, hh, hsha, hpol, he, hi, -, hu, -, rfl⟩
  · cases hres
  rw [hb] at hi hu
  dsimp only [BudgetTracker.ops] at hi hu
  rw [updateBudget_eq_ok hu]
  exact ⟨app, header, policy, e, i, ha, hh, hsha, hpol, he, hi, rfl⟩

/-- What a call commits to the tracker of one key. -/
inductive LogEntry where
  /-- One access to the blob granted, under the header's policy digest. -/
  | grant (blobId policyHash : Bytes)
  /-- The blob revoked. -/
  | revoke (blobId : Bytes)
  deriving DecidableEq, Repr

/-- What a returned call commits to the tracker of key `k`: a successful `authorize_access` whose
header names `k` grants the header's blob under its digest, a successful `revoke_access` of `k`
revokes its blob, and no other call commits anything. -/
def logEntryOf (env : Collaborators BudgetTracker) (k : UInt32) :
    Call → Except Status Reply → Option LogEntry
  | .authorizeAccess request, .ok _ =>
    match env.decodeBlobHeader request.blobHeader with
    | .ok header =>
      if header.publicKeyId = k then some (.grant header.blobId header.accessPolicySha256)
      else none
    | .error _ => none
  | .revokeAccess request, .ok _ =>
    if request.publicKeyId = k then some (.revoke request.blobId) else none
  | _, _ => none

/-- The event is a granted `authorize_access` on key `k` that passed every check for blob `b`
under digest `h`: the recipient attested as an application, the header decoded to blob `b` of key
`k` with digest `h`, the policy bytes hash to `h`, and transform `i` of the decoded policy accepts
the application. -/
def AuthenticatedGrant (env : Collaborators BudgetTracker) (k : UInt32) (b h : Bytes) (i : Nat)
    (ev : Event BudgetTracker) : Prop :=
  ∃ request response app header policy t, ev.call = .authorizeAccess request ∧
    ev.reply = .ok (.authorizeAccess response) ∧
    env.verifyAttestation request.recipientPublicKey request.recipientAttestation
      request.recipientTag = .ok app ∧
    env.decodeBlobHeader request.blobHeader = .ok header ∧ header.publicKeyId = k ∧
    header.blobId = b ∧ header.accessPolicySha256 = h ∧ env.sha256 request.accessPolicy = h ∧
    env.decodeDataAccessPolicy request.accessPolicy = .ok policy ∧
    policy.transforms[i]? = some t ∧ matchesApplication t.application app

/-- With the spec's tracker, a call that inserts nothing under `k` leaves there nothing, or the
entry that was there with the same key pair and expiration and with its tracker unchanged and
nothing logged, the logged blob revoked, or one access recorded by an authenticated grant. -/
theorem step_tracker_cases (hb : env.budget = BudgetTracker.ops) {c : Call}
    {r : Except Status Reply} {k : UInt32} (h : self.step env c = .ok (r, s'))
    (hk : (insertion env self c).map Prod.fst ≠ some k) {e' : PerKeyLedger BudgetTracker}
    (he' : s'.perKeyLedgers k = some e') :
    ∃ e, self.perKeyLedgers k = some e ∧ e'.keys = e.keys ∧
      ((e'.budgetTracker = e.budgetTracker ∧ logEntryOf env k c r = none) ∨
        (∃ blobId, e'.budgetTracker = e.budgetTracker.consumeBudget blobId ∧
          logEntryOf env k c r = some (.revoke blobId)) ∨
        ∃ blobId policyHash i, AuthenticatedGrant env k blobId policyHash i ⟨self, c, r, s'⟩ ∧
          e'.budgetTracker = e.budgetTracker.record blobId policyHash i ∧
          logEntryOf env k c r = some (.grant blobId policyHash)) := by
  have hstep := step_eq_ok h
  cases c with
  | createKey request draws keypair =>
    obtain ⟨_, hc, -⟩ := hstep
    rcases (createKey_frame hc).2 k hk with hsame | ⟨hnone, -⟩
    · exact ⟨e', hsame ▸ he', rfl, .inl ⟨rfl, by cases r <;> rfl⟩⟩
    · rw [hnone] at he'
      cases he'
  | deleteKey request =>
    rw [hstep.1, deleteKey_state] at he'
    simp only [mapRemove_apply] at he'
    split_ifs at he'
    exact ⟨e', he', rfl, .inl ⟨rfl, by cases r <;> rfl⟩⟩
  | revokeAccess request =>
    obtain ⟨rfl, rfl⟩ := hstep
    rw [revokeAccess_state] at he'
    dsimp only at he'
    split_ifs at he' with hkr
    · obtain ⟨e, he, rfl⟩ := Option.map_eq_some'.1 he'
      subst hkr
      refine ⟨e, he, rfl, .inr (.inl ⟨request.blobId, by rw [hb]; rfl, ?_⟩)⟩
      simp [revokeAccess_reply, he, logEntryOf, Except.map]
    · refine ⟨e', he', rfl, .inl ⟨rfl, ?_⟩⟩
      cases (self.revokeAccess env request).1 <;> simp [logEntryOf, Except.map, Ne.symm hkr]
  | authorizeAccess request =>
    obtain ⟨res, hc, rfl⟩ := hstep
    rcases authorizeAccess_cases env self request with ⟨_, -, he⟩ | ⟨t, -, -, he⟩ <;>
      rw [he] at hc
    · cases hc
      exact ⟨e', he', rfl, .inl ⟨rfl, rfl⟩⟩
    have hw := Rust.ok.inj hc
    have hwt : ∀ e, (self.withTime t).perKeyLedgers k = some e → self.perKeyLedgers k = some e :=
      fun e he => (withTime_perKeyLedgers_eq_some.1 he).1
    rcases res with st | response
    · have hs' := authorizeWithTime_of_error (congrArg Prod.fst hw)
      rw [hw] at hs'
      dsimp only at hs'
      subst hs'
      exact ⟨e', hwt e' he', rfl, .inl ⟨rfl, rfl⟩⟩
    obtain ⟨app, header, policy, e, i, ha, hh, hsha, hpol, he, hi, rfl⟩ :=
      authorizeWithTime_ok_spec hb hw
    by_cases hkh : k = header.publicKeyId
    · subst hkh
      simp only [mapInsert_apply, if_true, Option.some.injEq] at he'
      subst he'
      obtain ⟨-, ⟨tr, hti, hmatch, -⟩, -⟩ := findMatchingTransform_eq_ok hi
      exact ⟨e, hwt e he, rfl, .inr (.inr ⟨_, _, i, ⟨request, response, app, header, policy, tr,
        rfl, rfl, ha, hh, rfl, rfl, rfl, hsha, hpol, hti, hmatch⟩, rfl,
        by simp [logEntryOf, Except.map, hh]⟩)⟩
    · simp only [mapInsert_apply, hkh, if_false] at he'
      exact ⟨e', hwt e' he', rfl, .inl ⟨rfl, by simp [logEntryOf, Except.map, hh, Ne.symm hkh]⟩⟩

/-- With the spec's tracker, what a call that inserts nothing under `k` leaves there: nothing, or
the entry that was there, with the same key pair and expiration, and its tracker unchanged, with a
blob revoked, or with one access recorded. -/
theorem step_entry_of_ne (hb : env.budget = BudgetTracker.ops) {c : Call}
    {r : Except Status Reply} {k : UInt32} (h : self.step env c = .ok (r, s'))
    (hk : (insertion env self c).map Prod.fst ≠ some k) {e' : PerKeyLedger BudgetTracker}
    (he' : s'.perKeyLedgers k = some e') :
    ∃ e, self.perKeyLedgers k = some e ∧ e'.keys = e.keys ∧
      (e'.budgetTracker = e.budgetTracker ∨
        (∃ blobId, e'.budgetTracker = e.budgetTracker.consumeBudget blobId) ∨
        ∃ blobId policyHash i, e'.budgetTracker = e.budgetTracker.record blobId policyHash i) := by
  obtain ⟨e, he, hkeys, ht⟩ := step_tracker_cases hb h hk he'
  refine ⟨e, he, hkeys, ?_⟩
  rcases ht with ⟨ht, -⟩ | ⟨b, ht, -⟩ | ⟨b, p, i, -, ht, -⟩
  exacts [.inl ht, .inr (.inl ⟨b, ht⟩), .inr (.inr ⟨b, p, i, ht⟩)]

/-- The state one `create_key` at `1000 s` for an hour leaves under `sampleCollaborators`: the
clock at `1000 s` and key `0`, with public key `[7]`, expiring at `4600 s` with a fresh tracker. -/
def sampleKeyState : LedgerService BudgetTracker :=
  ⟨⟨1000, 0, by decide, by decide⟩, fun k => if k = 0 then
    some ⟨⟨[]⟩, [7], ⟨4600, 0, by decide, by decide⟩, BudgetTracker.new⟩ else none⟩

/-- A conversion of `create_key`'s times that fails reports `InvalidArgument`. -/
theorem publicKeyDetails_error_code {toolchain : Toolchain} {keyId : UInt32}
    {currentTime expiration : Duration} {st : Status}
    (h : publicKeyDetails toolchain keyId currentTime expiration = .ok (.error st)) :
    st.code = .invalidArgument := by
  unfold publicKeyDetails at h
  cases hi : Rust.unwrap toolchain.debugTryFromIntError (I64.tryFrom currentTime.secs) <;>
    rw [hi] at h <;> try cases h
  cases hn : Rust.unwrap toolchain.debugTryFromIntError (I32.tryFrom currentTime.nanos) <;>
    rw [hn] at h <;> try cases h
  dsimp only [Rust.ok_bind] at h
  split at h
  · cases h
    rfl
  · cases hx : Rust.unwrap toolchain.debugTryFromIntError (I32.tryFrom expiration.nanos) <;>
      rw [hx] at h <;> cases h

/-- With the spec's tracker, a failed step after the clock is an early check, reporting
`InvalidArgument` or `NotFound`, or the selection on the tracker of the key the header names, after
every step before it passed; `update_budget` never fails. -/
theorem authorizeWithTime_error_cases (hb : env.budget = BudgetTracker.ops)
    {request : AuthorizeAccessRequest} {st : Status}
    (h : (self.authorizeWithTime env request).1 = .error st) :
    (st.code = .invalidArgument ∨ st.code = .notFound) ∨
      ∃ app header policy e,
        env.verifyAttestation request.recipientPublicKey request.recipientAttestation
          request.recipientTag = .ok app ∧
        env.decodeBlobHeader request.blobHeader = .ok header ∧
        env.decodeDataAccessPolicy request.accessPolicy = .ok policy ∧
        self.perKeyLedgers header.publicKeyId = some e ∧
        e.budgetTracker.findMatchingTransform header.blobId header.accessPolicyNodeId policy
          header.accessPolicySha256 app = .error st := by
  unfold authorizeWithTime at h
  -- Each step in source order; only the key lookup and the selection have their own codes.
  split at h
  · cases h; exact .inl (.inl rfl)
  rename_i app happ
  split at h
  · cases h; exact .inl (.inl rfl)
  rename_i header hheader
  split_ifs at h
  · cases h; exact .inl (.inl rfl)
  split at h
  · cases h; exact .inl (.inl rfl)
  rename_i policy hpolicy
  split at h
  · cases h; exact .inl (.inr rfl)
  rename_i e he
  split at h
  · rename_i hselect
    cases h
    rw [hb] at hselect
    exact .inr ⟨app, header, policy, e, happ, hheader, hpolicy, he, hselect⟩
  rename_i hselect
  split at h
  · cases h; exact .inl (.inl rfl)
  split at h
  · -- `update_budget` cannot fail on the index the selection approved.
    rename_i hupdate
    rw [hb] at hselect hupdate
    dsimp only [BudgetTracker.ops] at hselect hupdate
    rw [updateBudget_of_findMatchingTransform hselect] at hupdate
    cases hupdate
  · cases h

/-- With the spec's tracker, a failed step after the clock reports `InvalidArgument`, `NotFound`,
or the selection's `FailedPrecondition` or `ResourceExhausted`. -/
theorem authorizeWithTime_error_code (hb : env.budget = BudgetTracker.ops)
    {request : AuthorizeAccessRequest} {st : Status}
    (h : (self.authorizeWithTime env request).1 = .error st) :
    st.code = .invalidArgument ∨ st.code = .notFound ∨ st.code = .failedPrecondition ∨
      st.code = .resourceExhausted := by
  rcases authorizeWithTime_error_cases hb h with (hc | hc) | ⟨_, _, _, _, -, -, -, -, hfind⟩
  exacts [.inl hc, .inr (.inl hc), .inr (.inr (findMatchingTransform_error_code hfind))]

/-- The error codes of the spec's table, with the spec's tracker: every call but `create_key`
returns, neither panicking nor looping, and every error any call returns is `InvalidArgument`,
`NotFound`, `FailedPrecondition` or `ResourceExhausted`. The tracker's `Internal` is never
returned. -/
theorem step_returns_with_table_codes (hb : env.budget = BudgetTracker.ops)
    (s : LedgerService BudgetTracker) (c : Call) :
    ((∀ request draws keypair, c ≠ .createKey request draws keypair) →
      ∃ r s', s.step env c = .ok (r, s')) ∧
    ∀ st s', s.step env c = .ok (.error st, s') →
      st.code = .invalidArgument ∨ st.code = .notFound ∨ st.code = .failedPrecondition ∨
        st.code = .resourceExhausted := by
  refine ⟨fun hc => ?_, fun st s' h => ?_⟩
  · cases c with
    | createKey request draws keypair => exact absurd rfl (hc request draws keypair)
    | deleteKey request => exact ⟨_, _, rfl⟩
    | authorizeAccess request =>
      rcases authorizeAccess_cases env s request with ⟨_, -, he⟩ | ⟨_, -, -, he⟩ <;>
        exact ⟨_, _, by simp only [step, he, Rust.map_ok]; rfl⟩
    | revokeAccess request => exact ⟨_, _, rfl⟩
  · have hs := step_eq_ok h
    cases c with
    | createKey request draws keypair =>
      obtain ⟨res, hc, hr⟩ := hs
      rcases res with st' | _ <;> cases hr
      obtain ⟨_, he, hres⟩ := createKey_eq_ok hc
      rcases hres with ⟨_, rfl, hst⟩ | ⟨keyId, x, d, rfl, hd, hres⟩
      · cases hst
        rcases createKeyEntry_eq_ok he with
          ⟨_, -, h₀, -⟩ | ⟨_, -, -, ⟨_, -, h₀, -⟩ | ⟨_, _, _, -, -, -, h₀, -⟩⟩ <;> cases h₀ <;>
          exact .inl rfl
      · rcases d with st'' | _ <;> cases hres
        exact .inl (publicKeyDetails_error_code hd)
    | deleteKey request =>
      have hr := hs.2
      rw [deleteKey_reply] at hr
      split_ifs at hr <;> cases hr
      exact .inr (.inl rfl)
    | authorizeAccess request =>
      obtain ⟨res, hc, hr⟩ := hs
      rcases res with st' | _ <;> cases hr
      rcases authorizeAccess_cases env s request with ⟨_, -, he⟩ | ⟨t, -, -, he⟩ <;> rw [he] at hc
      · cases hc
        exact .inl rfl
      · exact authorizeWithTime_error_code hb (congrArg Prod.fst (Rust.ok.inj hc))
    | revokeAccess request =>
      have hr := hs.2
      rw [revokeAccess_reply] at hr
      split_ifs at hr <;> cases hr
      exact .inr (.inl rfl)

/-- The sample key state answers the sample `authorize_access`, with one of the table's codes if
it refuses. -/
theorem step_returns_with_table_codes_at_sample :
    ((∀ request draws keypair,
        Call.authorizeAccess sampleAuthorizeRequest ≠ .createKey request draws keypair) →
      ∃ r s', sampleKeyState.step sampleCollaborators
        (.authorizeAccess sampleAuthorizeRequest) = .ok (r, s')) ∧
    ∀ st s', sampleKeyState.step sampleCollaborators (.authorizeAccess sampleAuthorizeRequest) =
        .ok (.error st, s') →
      st.code = .invalidArgument ∨ st.code = .notFound ∨ st.code = .failedPrecondition ∨
        st.code = .resourceExhausted :=
  step_returns_with_table_codes rfl sampleKeyState (.authorizeAccess sampleAuthorizeRequest)

section Repeated

variable {request : AuthorizeAccessRequest} {app : Application} {header : BlobHeader}
  {tr : Transform} {n : Nat} {t : Duration} {e : PerKeyLedger BudgetTracker} {ek esk : Bytes}

/-- A state from which equal `authorize_access` calls at `t` go through to the budget check: the
clock at most `t`, and under the header's key id a key with the key pair and expiration of `e`,
the blob not revoked, and `m` accesses recorded against the blob, the policy digest and the
first transform. -/
def RepeatState (header : BlobHeader) (e : PerKeyLedger BudgetTracker) (t : Duration) (m : Nat)
    (s : LedgerService BudgetTracker) : Prop :=
  s.currentTime ≤ t ∧ ∃ e', s.perKeyLedgers header.publicKeyId = some e' ∧ e'.keys = e.keys ∧
    e'.budgetTracker.revoked header.blobId = false ∧
    e'.budgetTracker.consumed header.blobId header.accessPolicySha256 0 = m

/-- One of the equal calls: with `m` accesses recorded it succeeds exactly when `m < n`, and then
records one more; otherwise it reports `ResourceExhausted` and records nothing. -/
theorem authorizeAccess_repeat_step (hb : env.budget = BudgetTracker.ops)
    (ha : env.verifyAttestation request.recipientPublicKey request.recipientAttestation
      request.recipientTag = .ok app)
    (hh : env.decodeBlobHeader request.blobHeader = .ok header)
    (hsha : env.sha256 request.accessPolicy = header.accessPolicySha256)
    (hpol : env.decodeDataAccessPolicy request.accessPolicy = .ok ⟨[tr]⟩)
    (hm : matchesApplication tr.application app = true) (hl : accessLimit tr = some n)
    (hp : parseTimestamp request.now = .ok (.ok t)) (hexp : t < e.expiration)
    (hrw : env.rewrapSymmetricKey request.encryptedSymmetricKey request.encapsulatedKey
      e.privateKey request.blobHeader request.recipientPublicKey
      (e.publicKey ++ request.recipientNonce) = .ok (ek, esk))
    {m : Nat} {s : LedgerService BudgetTracker} (hs : RepeatState header e t m s) :
    ∃ s', s.step env (.authorizeAccess request) =
        .ok (if m < n then .ok (.authorizeAccess ⟨ek, esk, e.publicKey⟩)
          else .error ⟨.resourceExhausted, "access budget exhausted"⟩, s') ∧
      RepeatState header e t (if m < n then m + 1 else m) s' := by
  obtain ⟨hct, e', he', hkeys, hrev, hcount⟩ := hs
  simp only [PerKeyLedger.keys, Prod.mk.injEq] at hkeys
  obtain ⟨hpriv, hpub, hexp'⟩ := hkeys
  have hlive : (s.withTime t).perKeyLedgers header.publicKeyId = some e' :=
    withTime_perKeyLedgers_eq_some.2 ⟨he', hexp' ▸ hexp⟩
  have hfind : e'.budgetTracker.findMatchingTransform header.blobId header.accessPolicyNodeId
      ⟨[tr]⟩ header.accessPolicySha256 app = if m < n then .ok 0
        else .error ⟨.resourceExhausted, "access budget exhausted"⟩ :=
    hcount ▸ findMatchingTransform_single hm hl hrev
  simp only [step, authorizeAccess, updateCurrentTime_of_le hp hct, Rust.ok_bind, Rust.pure_eq,
    authorizeWithTime, ha, hh, hsha, ne_eq, not_true_eq_false, if_false, hpol, hlive, hb]
  dsimp only [BudgetTracker.ops]
  rw [hfind]
  split_ifs with hmn
  · dsimp only
    rw [hpriv, hpub, hrw]
    dsimp only
    rw [updateBudget_of_findMatchingTransform (hfind.trans (if_pos hmn))]
    refine ⟨_, rfl, le_refl t, ⟨e.privateKey, e.publicKey, e'.expiration,
      e'.budgetTracker.record header.blobId header.accessPolicySha256 0⟩, by simp,
      by simp [PerKeyLedger.keys, hexp'], by simp [hrev], by simp [hcount]⟩
  · exact ⟨_, rfl, le_refl t, e', hlive, by simp [PerKeyLedger.keys, hpriv, hpub, hexp'], hrev,
      hcount⟩

/-- `Times(n)` lets exactly `n` equal requests through, with the spec's tracker. For a request
whose checks and re-wrap succeed, whose transform grants `Times(n)` and whose `now` is before the
key's expiration, along every run of it from a state with `m` accesses recorded, the `i`-th call
is granted while `m + i < n` and refused with `ResourceExhausted` from then on. -/
theorem times_budget_lets_exactly_n_through (hb : env.budget = BudgetTracker.ops)
    (ha : env.verifyAttestation request.recipientPublicKey request.recipientAttestation
      request.recipientTag = .ok app)
    (hh : env.decodeBlobHeader request.blobHeader = .ok header)
    (hsha : env.sha256 request.accessPolicy = header.accessPolicySha256)
    (hpol : env.decodeDataAccessPolicy request.accessPolicy = .ok ⟨[tr]⟩)
    (hm : matchesApplication tr.application app = true) (hl : accessLimit tr = some n)
    (hp : parseTimestamp request.now = .ok (.ok t)) (hexp : t < e.expiration)
    (hrw : env.rewrapSymmetricKey request.encryptedSymmetricKey request.encapsulatedKey
      e.privateKey request.blobHeader request.recipientPublicKey
      (e.publicKey ++ request.recipientNonce) = .ok (ek, esk))
    {m : Nat} {s s₂ : LedgerService BudgetTracker} {evs : List (Event BudgetTracker)}
    (hs : RepeatState header e t m s) (hrun : Steps env s evs s₂)
    (hcalls : ∀ ev ∈ evs, ev.call = .authorizeAccess request) :
    evs.map Event.reply = (List.range evs.length).map fun i =>
      if m + i < n then .ok (.authorizeAccess ⟨ek, esk, e.publicKey⟩)
      else .error ⟨.resourceExhausted, "access budget exhausted"⟩ := by
  induction hrun generalizing m with
  | nil => rfl
  | @cons s s₁ _ c r evs hstep _ ih =>
    obtain rfl : c = .authorizeAccess request := hcalls _ (List.mem_cons_self _ _)
    obtain ⟨s', hst, hs'⟩ := authorizeAccess_repeat_step hb ha hh hsha hpol hm hl hp hexp hrw hs
    rw [hst] at hstep
    obtain ⟨rfl, rfl⟩ := Prod.mk.inj (Rust.ok.inj hstep)
    rw [List.map_cons, ih hs' fun ev hev => hcalls ev (List.mem_cons_of_mem _ hev),
      List.length_cons, List.range_succ_eq_map, List.map_cons, List.map_map]
    refine congrArg _ (congrArg (List.map · _) (funext fun i => ?_))
    dsimp only [Function.comp]
    split_ifs <;> first | rfl | omega

/-- The only transform of the sample policy: no matcher, budget `Times(1)`. -/
def sampleTransform : Transform := ⟨none, some ⟨some (.times 1)⟩⟩

/-- Three equal requests for key `0` at `1000 s` under the sample policy of `Times(1)`: the first
is granted, the next two report `ResourceExhausted`. -/
theorem times_budget_lets_exactly_n_through_at_sample :
    ∃ (s₂ : LedgerService BudgetTracker) (evs : List (Event BudgetTracker)),
      Steps sampleCollaborators sampleKeyState evs s₂ ∧ evs.length = 3 ∧
      evs.map Event.reply = [.ok (.authorizeAccess ⟨[2], [1], [7]⟩),
        .error ⟨.resourceExhausted, "access budget exhausted"⟩,
        .error ⟨.resourceExhausted, "access budget exhausted"⟩] := by
  have hrun : Steps sampleCollaborators sampleKeyState [_, _, _] _ :=
    .cons (c := .authorizeAccess sampleAuthorizeRequest) rfl
      (.cons (c := .authorizeAccess sampleAuthorizeRequest) rfl
        (.cons (c := .authorizeAccess sampleAuthorizeRequest) rfl (.nil _)))
  refine ⟨_, _, hrun, rfl, ?_⟩
  rw [@times_budget_lets_exactly_n_through sampleCollaborators sampleAuthorizeRequest ⟨"app"⟩
    ⟨[0], 0, [0], 0⟩ sampleTransform 1 ⟨1000, 0, by decide, by decide⟩
    ⟨⟨[]⟩, [7], ⟨4600, 0, by decide, by decide⟩, BudgetTracker.new⟩ [2] [1] rfl rfl rfl rfl rfl rfl
    rfl rfl (of_decide_eq_true rfl) rfl 0 _ _ _ ⟨le_refl _, _, rfl, rfl, rfl, rfl⟩ hrun
    (by simp only [List.mem_cons, List.mem_singleton, List.not_mem_nil, or_false]
        rintro ev (rfl | rfl | rfl) <;> rfl)]
  rfl

end Repeated

section Revocation

/-- Every key under `k` has the blob revoked in its tracker. -/
def BlobRevoked (k : UInt32) (blobId : Bytes) (s : LedgerService BudgetTracker) : Prop :=
  ∀ e, s.perKeyLedgers k = some e → e.budgetTracker.revoked blobId = true

/-- With the spec's tracker, the steps after the clock fail for a header naming a revoked blob:
at the selection with `ResourceExhausted`, or earlier with `InvalidArgument` or `NotFound`. -/
theorem authorizeWithTime_of_revoked (hb : env.budget = BudgetTracker.ops)
    {request : AuthorizeAccessRequest} {header : BlobHeader}
    (hh : env.decodeBlobHeader request.blobHeader = .ok header)
    (hrev : BlobRevoked header.publicKeyId header.blobId self) :
    ∃ st, (self.authorizeWithTime env request).1 = .error st ∧
      (st = ⟨.resourceExhausted, "access to the blob was revoked"⟩ ∨
        st.code = .invalidArgument ∨ st.code = .notFound) := by
  unfold authorizeWithTime
  split
  · exact ⟨_, rfl, .inr (.inl rfl)⟩
  simp only [hh]
  split_ifs
  · exact ⟨_, rfl, .inr (.inl rfl)⟩
  split
  · exact ⟨_, rfl, .inr (.inl rfl)⟩
  split
  · exact ⟨_, rfl, .inr (.inr rfl)⟩
  rename_i e he
  rw [hb]
  dsimp only [BudgetTracker.ops]
  rw [findMatchingTransform_of_revoked (hrev e he)]
  exact ⟨_, rfl, .inl rfl⟩

/-- With the spec's tracker, a call that inserts nothing under `k` keeps the blob revoked there,
and refuses an `authorize_access` for that key and blob: with `ResourceExhausted` at the
selection, or earlier with `InvalidArgument` or `NotFound`. -/
theorem step_blobRevoked (hb : env.budget = BudgetTracker.ops) {c : Call}
    {r : Except Status Reply} {k : UInt32} {blobId : Bytes} (h : self.step env c = .ok (r, s'))
    (hk : (insertion env self c).map Prod.fst ≠ some k) (hs : BlobRevoked k blobId self) :
    BlobRevoked k blobId s' ∧
      ∀ request header, c = .authorizeAccess request →
        env.decodeBlobHeader request.blobHeader = .ok header → header.publicKeyId = k →
        header.blobId = blobId → ∃ st, r = .error st ∧
          (st = ⟨.resourceExhausted, "access to the blob was revoked"⟩ ∨
            st.code = .invalidArgument ∨ st.code = .notFound) := by
  refine ⟨fun e' he' => ?_, fun request header hreq hh hk' hblob => ?_⟩
  · obtain ⟨e, he, -, ht⟩ := step_entry_of_ne hb h hk he'
    rcases ht with ht | ⟨_, ht⟩ | ⟨_, _, _, ht⟩ <;> simp [ht, hs e he]
  subst hreq hk' hblob
  obtain ⟨res, hc, rfl⟩ := step_eq_ok h
  rcases authorizeAccess_cases env self request with ⟨_, -, he⟩ | ⟨t, -, -, he⟩ <;>
    rw [he] at hc
  · cases hc
    exact ⟨_, rfl, .inr (.inl rfl)⟩
  obtain ⟨st, hst, hcode⟩ := authorizeWithTime_of_revoked hb hh fun e he =>
    hs e (withTime_perKeyLedgers_eq_some.1 he).1
  rw [Rust.ok.inj hc] at hst
  dsimp only at hst
  subst hst
  exact ⟨st, rfl, hcode⟩

/-- Along a run that inserts nothing under `k`, the blob stays revoked under `k`, and every
`authorize_access` for that key and blob is refused. -/
theorem Steps.blobRevoked (hb : env.budget = BudgetTracker.ops) {s s₂ : LedgerService BudgetTracker}
    {evs : List (Event BudgetTracker)} {k : UInt32} {blobId : Bytes} (hrun : Steps env s evs s₂)
    (hno : NoInsertOf env k evs) (hs : BlobRevoked k blobId s) :
    BlobRevoked k blobId s₂ ∧
      ∀ ev ∈ evs, ∀ request header, ev.call = .authorizeAccess request →
        env.decodeBlobHeader request.blobHeader = .ok header → header.publicKeyId = k →
        header.blobId = blobId → ∃ st, ev.reply = .error st ∧
          (st = ⟨.resourceExhausted, "access to the blob was revoked"⟩ ∨
            st.code = .invalidArgument ∨ st.code = .notFound) := by
  induction hrun with
  | nil => exact ⟨hs, fun _ h => nomatch h⟩
  | cons hstep _ ih =>
    obtain ⟨hs', hev⟩ := step_blobRevoked hb hstep (hno _ (List.mem_cons_self _ _)) hs
    obtain ⟨hend, hall⟩ := ih (fun ev hev => hno ev (List.mem_cons_of_mem _ hev)) hs'
    exact ⟨hend, List.forall_mem_cons.2 ⟨hev, hall⟩⟩

/-- Revocation blocks a blob for good, and only that blob, with the spec's tracker. After
`revoke_access` the key's tracker has the blob revoked and nothing else changed; along every later
run that inserts nothing under the key id, the blob stays revoked and every `authorize_access`
for that key and blob fails. -/
theorem revocation_blocks_blob (hb : env.budget = BudgetTracker.ops)
    {s s₂ : LedgerService BudgetTracker} {request : RevokeAccessRequest}
    {evs : List (Event BudgetTracker)} (hrun : Steps env (s.revokeAccess env request).2 evs s₂)
    (hno : NoInsertOf env request.publicKeyId evs) :
    (∀ e, s.perKeyLedgers request.publicKeyId = some e →
      ∃ e', (s.revokeAccess env request).2.perKeyLedgers request.publicKeyId = some e' ∧
        e'.keys = e.keys ∧ e'.budgetTracker.consumed = e.budgetTracker.consumed ∧
        e'.budgetTracker.revoked request.blobId = true ∧
        ∀ b ≠ request.blobId, e'.budgetTracker.revoked b = e.budgetTracker.revoked b) ∧
    (∀ ev ∈ evs, ∀ r header, ev.call = .authorizeAccess r →
      env.decodeBlobHeader r.blobHeader = .ok header →
      header.publicKeyId = request.publicKeyId → header.blobId = request.blobId →
      ∃ st, ev.reply = .error st ∧
        (st = ⟨.resourceExhausted, "access to the blob was revoked"⟩ ∨
          st.code = .invalidArgument ∨ st.code = .notFound)) ∧
    (∀ e, s₂.perKeyLedgers request.publicKeyId = some e →
      e.budgetTracker.revoked request.blobId = true) := by
  have hrev : ∀ e, s.perKeyLedgers request.publicKeyId = some e →
      (s.revokeAccess env request).2.perKeyLedgers request.publicKeyId =
        some { e with budgetTracker := e.budgetTracker.consumeBudget request.blobId } := by
    intro e he
    simp [revokeAccess_state, he, hb, BudgetTracker.ops]
  have hstart : BlobRevoked request.publicKeyId request.blobId (s.revokeAccess env request).2 := by
    intro e' he'
    cases he : s.perKeyLedgers request.publicKeyId with
    | none => simp [revokeAccess_state, he] at he'
    | some e =>
      rw [hrev e he] at he'
      cases he'
      simp
  obtain ⟨hend, hall⟩ := Steps.blobRevoked hb hrun hno hstart
  exact ⟨fun e he => ⟨_, hrev e he, rfl, rfl, by simp, fun b hne => by simp [hne]⟩, hall, hend⟩

/-- Spec scenario 6: after `revoke_access` of blob `[0]` under key `0`, the sample request for
that blob fails with `ResourceExhausted`. -/
theorem revocation_blocks_blob_at_sample :
    ∃ (s₂ : LedgerService BudgetTracker) (evs : List (Event BudgetTracker)),
      Steps sampleCollaborators (sampleKeyState.revokeAccess sampleCollaborators ⟨0, [0]⟩).2
        evs s₂ ∧ NoInsertOf sampleCollaborators 0 evs ∧
      evs.map Event.reply = [.error ⟨.resourceExhausted, "access to the blob was revoked"⟩] ∧
      (∀ e, sampleKeyState.perKeyLedgers 0 = some e →
        ∃ e', (sampleKeyState.revokeAccess sampleCollaborators ⟨0, [0]⟩).2.perKeyLedgers 0 =
            some e' ∧
          e'.keys = e.keys ∧ e'.budgetTracker.consumed = e.budgetTracker.consumed ∧
          e'.budgetTracker.revoked [0] = true ∧
          ∀ b ≠ [0], e'.budgetTracker.revoked b = e.budgetTracker.revoked b) ∧
      (∀ ev ∈ evs, ∀ r header, ev.call = .authorizeAccess r →
        sampleCollaborators.decodeBlobHeader r.blobHeader = .ok header →
        header.publicKeyId = 0 → header.blobId = [0] →
        ∃ st, ev.reply = .error st ∧
          (st = ⟨.resourceExhausted, "access to the blob was revoked"⟩ ∨
            st.code = .invalidArgument ∨ st.code = .notFound)) ∧
      (∀ e, s₂.perKeyLedgers 0 = some e → e.budgetTracker.revoked [0] = true) := by
  have hrun : Steps sampleCollaborators
      (sampleKeyState.revokeAccess sampleCollaborators ⟨0, [0]⟩).2 [_] _ :=
    .cons (c := .authorizeAccess sampleAuthorizeRequest) rfl (.nil _)
  refine ⟨_, _, hrun, fun ev hev => ?_, rfl,
    revocation_blocks_blob rfl hrun fun ev hev => ?_⟩ <;>
  · rcases List.mem_singleton.1 hev with rfl
    exact fun h => nomatch h

end Revocation

end ConfidentialLedger.Budgets
