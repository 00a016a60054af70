import ConfidentialLedger.Service

/-!
# What each operation does

One lemma per function of the service, stating every way it can end. `parse_timestamp` and
`update_current_time` never panic; the clock update either fails and leaves the state alone, or
moves the clock and evicts. `parse_duration` panics only where a build that checks overflow
negates `i64::MIN`. `create_key` is split at its insert. `authorize_access` either fails
at the clock, or hands the clock-updated state to its nine remaining steps, which change at most
the tracker of the key they name. `delete_key` and `revoke_access` do not read the clock. Later
modules cite these lemmas and never unfold an operation again. Runs are chained steps, and
`Steps.invariant` carries a per-step fact to every reachable state.
-/

namespace ConfidentialLedger.Effects

open Core Proto Budget Service

open Service.LedgerService

variable {τ : Type} {env : Collaborators τ} {self s' : LedgerService τ} {toolchain : Toolchain}

/-- `Duration::new` on the seconds and nanoseconds of a timestamp never panics: the `i64`
seconds leave room for the carry of the `i32` nanoseconds. -/
theorem new_timestamp_ne_panic (ts : Timestamp) :
    ∃ d, Duration.new ts.seconds.val.toNat ts.nanos.val.toNat = .ok d := by
  have := ts.seconds.lt; have := ts.nanos.lt
  exact Duration.new_ne_panic (by simp only [nanosPerSec]; omega)

/-- `parse_timestamp` never panics. -/
theorem parseTimestamp_ne_panic (ts : Option Timestamp) : ∃ r, parseTimestamp ts = .ok r := by
  rcases ts with _ | ts
  · exact ⟨_, rfl⟩
  · obtain ⟨d, hd⟩ := new_timestamp_ne_panic ts
    simp only [parseTimestamp, hd]
    split_ifs <;> exact ⟨_, rfl⟩

/-- A timestamp that fails to parse is refused with the parse error, and nothing changes. -/
theorem updateCurrentTime_of_error {now : Option Timestamp} {err : TryFromIntError}
    (h : parseTimestamp now = .ok (.error err)) :
    self.updateCurrentTime toolchain now = .ok (.error (toolchain.debugTryFromIntError err), self) := by
  simp [updateCurrentTime, h]

/-- A time before the clock is refused, and nothing changes. -/
theorem updateCurrentTime_of_lt {now : Option Timestamp} {t : Duration}
    (h : parseTimestamp now = .ok (.ok t)) (ht : t < self.currentTime) :
    self.updateCurrentTime toolchain now = .ok (.error "time must be monotonic", self) := by
  simp [updateCurrentTime, h, ht]

/-- A time at or after the clock is accepted: the clock moves to it and expired keys go. -/
theorem updateCurrentTime_of_le {now : Option Timestamp} {t : Duration}
    (h : parseTimestamp now = .ok (.ok t)) (ht : self.currentTime ≤ t) :
    self.updateCurrentTime toolchain now = .ok (.ok (), self.withTime t) := by
  simp [updateCurrentTime, h, not_lt.2 ht]

/-- Every clock update returns. It either fails and leaves the state as it was, or accepts the
parsed time, which is no earlier than the clock, and moves the clock there. -/
theorem updateCurrentTime_cases (self : LedgerService τ) (toolchain : Toolchain)
    (now : Option Timestamp) :
    (∃ err, self.updateCurrentTime toolchain now = .ok (.error err, self)) ∨
      ∃ t, parseTimestamp now = .ok (.ok t) ∧ self.currentTime ≤ t ∧
        self.updateCurrentTime toolchain now = .ok (.ok (), self.withTime t) := by
  obtain ⟨r, hr⟩ := parseTimestamp_ne_panic now
  rcases r with err | t
  · exact .inl ⟨_, updateCurrentTime_of_error hr⟩
  · by_cases ht : t < self.currentTime
    · exact .inl ⟨_, updateCurrentTime_of_lt hr ht⟩
    · exact .inr ⟨t, hr, not_lt.1 ht, updateCurrentTime_of_le hr (not_lt.1 ht)⟩

/-- A key is left after the clock moved to `t` exactly when it was there and expires after `t`;
it is left unchanged. -/
theorem withTime_perKeyLedgers_eq_some {t : Duration} {k : UInt32} {v : PerKeyLedger τ} :
    (self.withTime t).perKeyLedgers k = some v ↔
      self.perKeyLedgers k = some v ∧ t < v.expiration := by
  simp only [withTime_perKeyLedgers]
  cases self.perKeyLedgers k with
  | none => simp
  | some w =>
    by_cases hw : t < w.expiration <;> simp [Option.filter, hw] <;> rintro rfl <;> simpa using hw

/-- Moving the clock to where it already is evicts nothing more. -/
theorem withTime_withTime (self : LedgerService τ) (t : Duration) :
    (self.withTime t).withTime t = self.withTime t := by
  ext1
  · rfl
  · funext k
    simp only [withTime_perKeyLedgers]
    cases self.perKeyLedgers k with
    | none => rfl
    | some w => by_cases hw : t < w.expiration <;> simp [Option.filter, hw]

/-- `parse_duration` returns, except that a build that checks overflow panics on a duration
whose normalised seconds are `i64::MIN`. -/
theorem parseDuration_cases (toolchain : Toolchain) (duration : Option ProtoDuration) :
    (∃ r, parseDuration toolchain duration = .ok r) ∨
      ∃ d, duration = some d ∧ toolchain.overflowChecks = true ∧ d.normalize.1 = -2 ^ 63 ∧
        parseDuration toolchain duration = .panic "attempt to negate with overflow" := by
  rcases duration with _ | d
  · exact .inl ⟨_, rfl⟩
  · rcases d.toDuration_cases toolchain with hr | ⟨hc, hmin, hp⟩
    · exact .inl hr
    · exact .inr ⟨d, rfl, hc, hmin, hp⟩

/-- The key-id loop exits only with a draw that is absent from the map. -/
theorem drawKeyId_eq_ok {m : UInt32 → Option (PerKeyLedger τ)} {draws : List UInt32}
    {keyId : UInt32} (h : drawKeyId m draws = .ok keyId) : m keyId = none ∧ keyId ∈ draws := by
  induction draws with
  | nil => cases h
  | cons k ks ih =>
    simp only [drawKeyId] at h
    split_ifs at h with hk
    · exact ⟨(ih h).1, List.mem_cons_of_mem _ (ih h).2⟩
    · cases h
      exact ⟨by simpa using hk, List.mem_cons_self _ _⟩

/-- The key-id loop never panics: it exits with a draw, or it does not exit. -/
theorem drawKeyId_ne_panic (m : UInt32 → Option (PerKeyLedger τ)) (draws : List UInt32)
    (msg : String) : drawKeyId m draws ≠ .panic msg := by
  induction draws with
  | nil => exact fun h => nomatch h
  | cons k ks ih =>
    simp only [drawKeyId]
    split_ifs
    exacts [ih, fun h => nomatch h]

/-- Everything `create_key` does up to its insert, when it gets there without panicking. It fails
at the clock and changes nothing; or it fails at `ttl` after the clock update; or it inserts a new
key, expiring at the clock plus `ttl`, under a drawn id. -/
theorem createKeyEntry_eq_ok {request : CreateKeyRequest} {draws : List UInt32}
    {keypair : PrivateKey × Bytes} {res : Except Status (UInt32 × Duration)}
    (h : self.createKeyEntry env request draws keypair = .ok (res, s')) :
    (∃ err, self.updateCurrentTime env.toolchain request.now = .ok (.error err, self) ∧
      res = .error (.newWithMessage .invalidArgument ("`now` is invalid: " ++ err)) ∧ s' = self) ∨
    ∃ t, parseTimestamp request.now = .ok (.ok t) ∧ self.currentTime ≤ t ∧
      ((∃ err, parseDuration env.toolchain request.ttl = .ok (.error err) ∧
        res = .error (.newWithMessage .invalidArgument
          ("`ttl` is invalid: " ++ err.debug env.toolchain)) ∧
        s' = self.withTime t) ∨
      ∃ ttl expiration keyId, parseDuration env.toolchain request.ttl = .ok (.ok ttl) ∧
        t.add ttl = .ok expiration ∧ drawKeyId (self.withTime t).perKeyLedgers draws = .ok keyId ∧
        res = .ok (keyId, expiration) ∧
        s' = { self.withTime t with
          perKeyLedgers := mapInsert (self.withTime t).perKeyLedgers keyId
            ⟨keypair.1, keypair.2, expiration, env.budget.new⟩ }) := by
  unfold createKeyEntry at h
  rcases updateCurrentTime_cases self env.toolchain request.now with
    ⟨err, he⟩ | ⟨t, hp, ht, he⟩ <;> rw [he, Rust.ok_bind] at h <;> dsimp only at h
  · simp only [Rust.pure_eq, Rust.ok.injEq, Prod.mk.injEq] at h
    exact .inl ⟨err, he, h.1.symm, h.2.symm⟩
  · refine .inr ⟨t, hp, ht, ?_⟩
    obtain ⟨r, hr⟩ : ∃ r, parseDuration env.toolchain request.ttl = .ok r := by
      rcases parseDuration_cases env.toolchain request.ttl with hr | ⟨_, -, -, -, hr⟩
      · exact hr
      · rw [hr] at h; cases h
    rw [hr, Rust.ok_bind] at h
    rcases r with err | ttl
    · simp only [Rust.pure_eq, Rust.ok.injEq, Prod.mk.injEq] at h
      exact .inl ⟨err, hr, h.1.symm, h.2.symm⟩
    · simp only [withTime_currentTime] at h
      cases ha : t.add ttl with
      | ok expiration =>
        rw [ha, Rust.ok_bind] at h
        cases hk : drawKeyId (self.withTime t).perKeyLedgers draws with
        | ok keyId =>
          simp only [hk, Rust.ok_bind, Rust.pure_eq, Rust.ok.injEq, Prod.mk.injEq] at h
          exact .inr ⟨ttl, expiration, keyId, hr, ha, rfl, h.1.symm, h.2.symm⟩
        | panic _ => rw [hk] at h; cases h
        | div => rw [hk] at h; cases h
      | panic _ => rw [ha] at h; cases h
      | div => rw [ha] at h; cases h

/-- When `create_key` returns, its state is the one its insert left, and its result is the early
status or the response around the built `PublicKeyDetails`. -/
theorem createKey_eq_ok {request : CreateKeyRequest} {draws : List UInt32}
    {keypair : PrivateKey × Bytes} {res : Except Status CreateKeyResponse}
    (h : self.createKey env request draws keypair = .ok (res, s')) :
    ∃ res₀, self.createKeyEntry env request draws keypair = .ok (res₀, s') ∧
      ((∃ st, res₀ = .error st ∧ res = .error st) ∨
        ∃ keyId expiration d, res₀ = .ok (keyId, expiration) ∧
          publicKeyDetails env.toolchain keyId s'.currentTime expiration = .ok d ∧
          res = (fun details => ⟨keypair.2, details, []⟩) <$> d) := by
  unfold createKey at h
  cases he : self.createKeyEntry env request draws keypair with
  | ok p =>
    obtain ⟨res₀, s₁⟩ := p
    rw [he, Rust.ok_bind] at h
    rcases res₀ with st | ⟨keyId, expiration⟩
    · simp only [Rust.pure_eq, Rust.ok.injEq, Prod.mk.injEq] at h
      exact ⟨_, by rw [← h.2], .inl ⟨st, rfl, h.1.symm⟩⟩
    · cases hd : publicKeyDetails env.toolchain keyId s₁.currentTime expiration with
      | ok d =>
        simp only [hd, Rust.ok_bind] at h
        rcases d with st | details <;>
          simp only [Rust.pure_eq, Rust.ok.injEq, Prod.mk.injEq] at h <;>
          exact ⟨_, by rw [← h.2], .inr ⟨keyId, expiration, _, rfl, h.2 ▸ hd, h.1.symm⟩⟩
      | panic _ => simp only [hd, Rust.ok_bind] at h; cases h
      | div => simp only [hd, Rust.ok_bind] at h; cases h
  | panic _ => rw [he] at h; cases h
  | div => rw [he] at h; cases h

/-- `authorize_access` never panics. It fails at the clock and changes nothing, or it runs its
remaining steps on the state with the clock moved to the accepted time. -/
theorem authorizeAccess_cases (env : Collaborators τ) (self : LedgerService τ)
    (request : AuthorizeAccessRequest) :
    (∃ err, self.updateCurrentTime env.toolchain request.now = .ok (.error err, self) ∧
      self.authorizeAccess env request =
        .ok (.error (.newWithMessage .invalidArgument ("`now` is invalid: " ++ err)), self)) ∨
    ∃ t, parseTimestamp request.now = .ok (.ok t) ∧ self.currentTime ≤ t ∧
      self.authorizeAccess env request = .ok ((self.withTime t).authorizeWithTime env request) := by
  rcases updateCurrentTime_cases self env.toolchain request.now with ⟨err, he⟩ | ⟨t, hp, ht, he⟩
  · exact .inl ⟨err, he, by simp [authorizeAccess, he]⟩
  · exact .inr ⟨t, hp, ht, by simp [authorizeAccess, he]⟩

/-- A successful `authorize_access` accepted its `now` and ran its remaining steps on the state
with the clock moved there. -/
theorem authorizeAccess_eq_ok {request : AuthorizeAccessRequest}
    {response : AuthorizeAccessResponse}
    (h : self.authorizeAccess env request = .ok (.ok response, s')) :
    ∃ t, parseTimestamp request.now = .ok (.ok t) ∧ self.currentTime ≤ t ∧
      (self.withTime t).authorizeWithTime env request = (.ok response, s') := by
  rcases authorizeAccess_cases env self request with ⟨_, -, he⟩ | ⟨t, hp, ht, he⟩ <;>
    rw [he] at h
  · cases h
  · exact ⟨t, hp, ht, Rust.ok.inj h⟩

/-- Everything the nine steps after the clock can do: fail and leave the state as it was, or
succeed after attestation, header, digest, policy, key lookup, transform selection, re-wrap and
budget update all succeeded, changing only the tracker of the header's key to the one
`update_budget` returned for the index `find_matching_transform` selected. -/
theorem authorizeWithTime_eq {request : AuthorizeAccessRequest}
    {res : Except Status AuthorizeAccessResponse}
    (h : self.authorizeWithTime env request = (res, s')) :
    (∃ st, res = .error st ∧ s' = self) ∨
    ∃ app header policy perKeyLedger i encapsulatedKey encryptedSymmetricKey tracker,
      env.verifyAttestation request.recipientPublicKey request.recipientAttestation
        request.recipientTag = .ok app ∧
      env.decodeBlobHeader request.blobHeader = .ok header ∧
      env.sha256 request.accessPolicy = header.accessPolicySha256 ∧
      env.decodeDataAccessPolicy request.accessPolicy = .ok policy ∧
      self.perKeyLedgers header.publicKeyId = some perKeyLedger ∧
      env.budget.findMatchingTransform perKeyLedger.budgetTracker header.blobId
        header.accessPolicyNodeId policy header.accessPolicySha256 app = .ok i ∧
      env.rewrapSymmetricKey request.encryptedSymmetricKey request.encapsulatedKey
        perKeyLedger.privateKey request.blobHeader request.recipientPublicKey
        (perKeyLedger.publicKey ++ request.recipientNonce) =
          .ok (encapsulatedKey, encryptedSymmetricKey) ∧
      env.budget.updateBudget perKeyLedger.budgetTracker header.blobId i policy
        header.accessPolicySha256 = .ok tracker ∧
      res = .ok ⟨encapsulatedKey, encryptedSymmetricKey, perKeyLedger.publicKey⟩ ∧
      s' = { self with
        perKeyLedgers := mapInsert self.perKeyLedgers header.publicKeyId
          { perKeyLedger with budgetTracker := tracker } } := by
  -- Each step in source order: an early return keeps the state.
  have early : ∀ st, (Except.error st, self) = (res, s') → ∃ st, res = .error st ∧ s' = self :=
    fun st h => ⟨st, (Prod.mk.inj h).1.symm, (Prod.mk.inj h).2.symm⟩
  unfold authorizeWithTime at h
  split at h
  · exact .inl (early _ h)
  rename_i app happ
  split at h
  · exact .inl (early _ h)
  rename_i header hheader
  split_ifs at h with hsha
  · exact .inl (early _ h)
  split at h
  · exact .inl (early _ h)
  rename_i policy hpolicy
  split at h
  · exact .inl (early _ h)
  rename_i e he
  split at h
  · exact .inl (early _ h)
  rename_i i hi
  split at h
  · exact .inl (early _ h)
  rename_i encapsulatedKey encryptedSymmetricKey hrewrap
  split at h
  · exact .inl (early _ h)
  rename_i tracker hupdate
  exact .inr ⟨app, header, policy, e, i, encapsulatedKey, encryptedSymmetricKey, tracker, happ,
    hheader, not_not.1 hsha, hpolicy, he, hi, hrewrap, hupdate, (Prod.mk.inj h).1.symm,
    (Prod.mk.inj h).2.symm⟩

/-- A failed `authorize_access` step after the clock leaves the state as it was. -/
theorem authorizeWithTime_of_error {request : AuthorizeAccessRequest} {st : Status}
    (h : (self.authorizeWithTime env request).1 = .error st) :
    (self.authorizeWithTime env request).2 = self := by
  generalize hx : self.authorizeWithTime env request = x at h ⊢
  rcases authorizeWithTime_eq hx with ⟨_, -, hs⟩ |
    ⟨_, _, _, _, _, _, _, _, -, -, -, -, -, -, -, -, hr, -⟩
  · exact hs
  · rw [hr] at h; cases h

/-- The steps after the clock keep every key, its key pair and its expiration; at most one
tracker changes. -/
theorem authorizeWithTime_keys (self : LedgerService τ) (request : AuthorizeAccessRequest)
    (k : UInt32) : ((self.authorizeWithTime env request).2.perKeyLedgers k).map PerKeyLedger.keys =
      (self.perKeyLedgers k).map PerKeyLedger.keys := by
  rcases hx : self.authorizeWithTime env request with ⟨res, s⟩
  rcases authorizeWithTime_eq hx with
    ⟨_, -, rfl⟩ | ⟨_, header, _, e, _, _, _, _, -, -, -, -, he, -, -, -, -, rfl⟩
  · rfl
  · by_cases hk : k = header.publicKeyId
    · subst hk; simp [he, PerKeyLedger.keys]
    · simp [hk]

/-- `delete_key` leaves the clock alone and removes the key, which was absent if it failed. -/
theorem deleteKey_state (self : LedgerService τ) (request : DeleteKeyRequest) :
    (self.deleteKey request).2 =
      { self with perKeyLedgers := mapRemove self.perKeyLedgers request.publicKeyId } := by
  unfold deleteKey
  split
  · rfl
  · ext1
    · rfl
    · funext j
      by_cases hj : j = request.publicKeyId
      · subst hj; simpa
      · simp [hj]

/-- `delete_key` succeeds exactly when the key is in the map. -/
theorem deleteKey_reply (self : LedgerService τ) (request : DeleteKeyRequest) :
    (self.deleteKey request).1 = if (self.perKeyLedgers request.publicKeyId).isSome then .ok {}
      else .error (.newWithMessage .notFound "public key not found") := by
  unfold deleteKey
  split <;> simp_all

/-- `revoke_access` leaves the clock alone and revokes the blob in the tracker of the named key;
nothing changes when the key is absent. -/
theorem revokeAccess_state (self : LedgerService τ) (request : RevokeAccessRequest) :
    (self.revokeAccess env request).2 =
      { self with perKeyLedgers := fun j => if j = request.publicKeyId then
          (self.perKeyLedgers j).map fun e => { e with
            budgetTracker := env.budget.consumeBudget e.budgetTracker request.blobId }
          else self.perKeyLedgers j } := by
  unfold revokeAccess
  split <;> rename_i h
  · ext1
    · rfl
    · funext j
      by_cases hj : j = request.publicKeyId
      · subst hj; simp [h]
      · simp [hj]
  · ext1
    · rfl
    · funext j
      by_cases hj : j = request.publicKeyId
      · subst hj; simp [h]
      · simp [hj]

/-- `revoke_access` keeps every key, its key pair and its expiration. -/
theorem revokeAccess_keys (self : LedgerService τ) (request : RevokeAccessRequest) (k : UInt32) :
    ((self.revokeAccess env request).2.perKeyLedgers k).map PerKeyLedger.keys =
      (self.perKeyLedgers k).map PerKeyLedger.keys := by
  rw [revokeAccess_state]
  dsimp only
  split_ifs
  · simp only [Option.map_map]
    rfl
  · rfl

/-- `revoke_access` succeeds exactly when the key is in the map. -/
theorem revokeAccess_reply (self : LedgerService τ) (request : RevokeAccessRequest) :
    (self.revokeAccess env request).1 = if (self.perKeyLedgers request.publicKeyId).isSome then
      .ok {} else .error (.newWithMessage .notFound "public key not found") := by
  unfold revokeAccess
  split <;> simp_all

/-- What a returning call of each kind returned and left. -/
theorem step_eq_ok {c : Call} {r : Except Status Reply} (h : self.step env c = .ok (r, s')) :
    match c with
    | .createKey request draws keypair => ∃ res,
        self.createKey env request draws keypair = .ok (res, s') ∧ r = res.map .createKey
    | .deleteKey request =>
        s' = (self.deleteKey request).2 ∧ r = (self.deleteKey request).1.map .deleteKey
    | .authorizeAccess request => ∃ res,
        self.authorizeAccess env request = .ok (res, s') ∧ r = res.map .authorizeAccess
    | .revokeAccess request =>
        s' = (self.revokeAccess env request).2 ∧
          r = (self.revokeAccess env request).1.map .revokeAccess := by
  cases c with
  | createKey request draws keypair =>
    simp only [step] at h
    cases hc : self.createKey env request draws keypair with
    | ok p => rw [hc] at h; cases h; exact ⟨p.1, hc, rfl⟩
    | panic _ => rw [hc] at h; cases h
    | div => rw [hc] at h; cases h
  | deleteKey request =>
    simp only [step, Rust.pure_eq, Rust.ok.injEq, Prod.mk.injEq] at h
    exact ⟨h.2.symm, h.1.symm⟩
  | authorizeAccess request =>
    simp only [step] at h
    cases hc : self.authorizeAccess env request with
    | ok p => rw [hc] at h; cases h; exact ⟨p.1, hc, rfl⟩
    | panic _ => rw [hc] at h; cases h
    | div => rw [hc] at h; cases h
  | revokeAccess request =>
    simp only [step, Rust.pure_eq, Rust.ok.injEq, Prod.mk.injEq] at h
    exact ⟨h.2.symm, h.1.symm⟩

/-- A fact that every returning call preserves holds at the end of every run that starts where
it holds. -/
theorem Steps.invariant {P : LedgerService τ → Prop}
    (hP : ∀ s c r s', P s → s.step env c = .ok (r, s') → P s')
    {s s'' : LedgerService τ} {evs : List (Event τ)} (h : Steps env s evs s'') (hs : P s) :
    P s'' := by
  induction h with
  | nil => exact hs
  | cons hstep _ ih => exact ih (hP _ _ _ _ hs hstep)

/-- A run splits at any point into two runs. -/
theorem Steps.append_iff {s s'' : LedgerService τ} {evs₁ evs₂ : List (Event τ)} :
    Steps env s (evs₁ ++ evs₂) s'' ↔ ∃ s', Steps env s evs₁ s' ∧ Steps env s' evs₂ s'' := by
  induction evs₁ generalizing s with
  | nil =>
    constructor
    · exact fun h => ⟨s, .nil s, h⟩
    · rintro ⟨_, ⟨⟩, h₂⟩
      exact h₂
  | cons ev evs₁ ih =>
    constructor
    · rintro (_ | ⟨hstep, hrest⟩)
      obtain ⟨s', h₁, h₂⟩ := ih.1 hrest
      exact ⟨s', .cons hstep h₁, h₂⟩
    · rintro ⟨s', (_ | ⟨hstep, h₁⟩), h₂⟩
      exact .cons hstep (ih.2 ⟨s', h₁, h₂⟩)

/-- Every event of a run is a returning call from its state before to its state after. -/
theorem Steps.step_of_mem {s s'' : LedgerService τ} {evs : List (Event τ)}
    (h : Steps env s evs s'') {ev : Event τ} (hev : ev ∈ evs) :
    ev.before.step env ev.call = .ok (ev.reply, ev.after) := by
  induction h with
  | nil => cases hev
  | cons hstep _ ih =>
    rcases List.mem_cons.1 hev with rfl | hev
    · exact hstep
    · exact ih hev

end ConfidentialLedger.Effects
