import ConfidentialLedger.Lifecycle

/-!
# `authorize_access` and the independence of keys

`authorize_access` is transactional: all nine checks after the clock update run before its one
write, so a failure leaves the state its clock update left, and a success changes only the
tracker of the key the header names, to what `update_budget` returned for the index that
`find_matching_transform` selected. A failure is therefore harmless to retry: the clock update
at the same `now` evicts nothing more. Calls touch one key: every other entry is kept, or evicted
by the clock update at or after its expiration, and what a call returns and writes for its key
depends only on the clock, that key's entry and the request. How trackers count budgets is the
budget module's concern.
-/

namespace ConfidentialLedger.Authorize

open Core Proto Budget Service Effects Lifecycle
open Service.LedgerService

variable {τ : Type} {env : Collaborators τ} {self s' : LedgerService τ}

/-- After a call, the entry under `j` is as it was, or it was evicted by the clock update to the
accepted `now`, at or after its expiration. -/
def KeptOrEvicted (s s' : LedgerService τ) (now : Option Timestamp) (j : UInt32) : Prop :=
  s'.perKeyLedgers j = s.perKeyLedgers j ∨
    s'.perKeyLedgers j = none ∧
      ∃ e t, s.perKeyLedgers j = some e ∧ parseTimestamp now = .ok (.ok t) ∧ e.expiration ≤ t

/-- A clock update to an accepted `now` keeps or evicts each entry. -/
theorem withTime_keptOrEvicted {now : Option Timestamp} {t : Duration}
    (hp : parseTimestamp now = .ok (.ok t)) (j : UInt32) :
    KeptOrEvicted self (self.withTime t) now j := by
  unfold KeptOrEvicted
  cases he : self.perKeyLedgers j with
  | none => exact .inl (by simp [he])
  | some e =>
    by_cases ht : t < e.expiration
    · exact .inl (withTime_perKeyLedgers_eq_some.2 ⟨he, ht⟩)
    · exact .inr ⟨by simp [he, not_lt.1 ht], e, t, rfl, hp, not_lt.1 ht⟩

/-- The clock at `1000 s` with keys `0` and `1`, public keys `[7]` and `[8]`, both expiring at
`4600 s` with fresh trackers. -/
def sampleTwoKeyState : LedgerService BudgetTracker :=
  ⟨⟨1000, 0, by decide, by decide⟩, fun k =>
    if k = 0 then some ⟨⟨[]⟩, [7], ⟨4600, 0, by decide, by decide⟩, BudgetTracker.new⟩
    else if k = 1 then some ⟨⟨[1]⟩, [8], ⟨4600, 0, by decide, by decide⟩, BudgetTracker.new⟩
    else none⟩

/-- A request whose blob header does not decode under `sampleCollaborators`. -/
def sampleBadHeaderRequest : AuthorizeAccessRequest :=
  ⟨some Clock.timestamp1000, [0], [], [1], [2], [3], [], "app", [4]⟩

/-- Retrying a failed `authorize_access` is harmless: from the state the failure left, the same
request fails with the same status and changes nothing. -/
theorem authorizeAccess_retry_of_error {s : LedgerService τ} {request : AuthorizeAccessRequest}
    {st : Status} (h : s.authorizeAccess env request = .ok (.error st, s')) :
    s'.authorizeAccess env request = .ok (.error st, s') := by
  rcases authorizeAccess_cases env s request with ⟨_, -, he⟩ | ⟨t, hp, -, he⟩ <;> rw [he] at h
  · cases h
    exact he
  · have hw := Rust.ok.inj h
    rcases authorizeWithTime_eq hw with
      ⟨_, -, rfl⟩ | ⟨_, _, _, _, _, _, _, _, -, -, -, -, -, -, -, -, hres, -⟩
    · unfold authorizeAccess
      rw [updateCurrentTime_of_le hp (le_refl t), Rust.ok_bind]
      dsimp only
      rw [withTime_withTime, hw]
      rfl
    · cases hres

/-- From `LedgerService::new()`, `authorize_access` at `1000 s` with an undecodable header moves
the clock and fails; retried from there, it fails the same way and changes nothing. -/
theorem authorizeAccess_retry_of_error_at_bad_header :
    ∃ (s' : LedgerService BudgetTracker) (st : Status),
      LedgerService.new.authorizeAccess sampleCollaborators sampleBadHeaderRequest =
        .ok (.error st, s') ∧
      s'.authorizeAccess sampleCollaborators sampleBadHeaderRequest = .ok (.error st, s') :=
  have h : LedgerService.new.authorizeAccess sampleCollaborators sampleBadHeaderRequest =
      .ok (.error _, _) := rfl
  ⟨_, _, h, authorizeAccess_retry_of_error h⟩

/-- `delete_key` changes no entry but the one it names. -/
theorem deleteKey_frame (self : LedgerService τ) (request : DeleteKeyRequest) {j : UInt32}
    (hj : j ≠ request.publicKeyId) :
    (self.deleteKey request).2.perKeyLedgers j = self.perKeyLedgers j := by
  simp [deleteKey_state, hj]

/-- What `delete_key` returns and leaves under its key depends only on that key's entry. -/
theorem deleteKey_local {s₁ s₂ : LedgerService τ} (request : DeleteKeyRequest)
    (hk : s₁.perKeyLedgers request.publicKeyId = s₂.perKeyLedgers request.publicKeyId) :
    (s₁.deleteKey request).1 = (s₂.deleteKey request).1 ∧
      (s₁.deleteKey request).2.perKeyLedgers request.publicKeyId =
        (s₂.deleteKey request).2.perKeyLedgers request.publicKeyId := by
  simp [deleteKey_reply, deleteKey_state, hk]

/-- `revoke_access` changes no entry but the one it names. -/
theorem revokeAccess_frame (self : LedgerService τ) (request : RevokeAccessRequest) {j : UInt32}
    (hj : j ≠ request.publicKeyId) :
    (self.revokeAccess env request).2.perKeyLedgers j = self.perKeyLedgers j := by
  simp [revokeAccess_state, hj]

/-- What `revoke_access` returns and leaves under its key depends only on that key's entry. -/
theorem revokeAccess_local {s₁ s₂ : LedgerService τ} (request : RevokeAccessRequest)
    (hk : s₁.perKeyLedgers request.publicKeyId = s₂.perKeyLedgers request.publicKeyId) :
    (s₁.revokeAccess env request).1 = (s₂.revokeAccess env request).1 ∧
      (s₁.revokeAccess env request).2.perKeyLedgers request.publicKeyId =
        (s₂.revokeAccess env request).2.perKeyLedgers request.publicKeyId := by
  simp [revokeAccess_reply, revokeAccess_state, hk]

/-- `authorize_access` keeps or evicts every entry but the one its header names. -/
theorem authorizeAccess_frame {request : AuthorizeAccessRequest}
    {r : Except Status AuthorizeAccessResponse} {j : UInt32}
    (h : self.authorizeAccess env request = .ok (r, s'))
    (hj : ∀ header, env.decodeBlobHeader request.blobHeader = .ok header →
      j ≠ header.publicKeyId) :
    KeptOrEvicted self s' request.now j := by
  rcases authorizeAccess_cases env self request with ⟨_, -, he⟩ | ⟨t, hp, -, he⟩ <;> rw [he] at h
  · cases h
    exact .inl rfl
  · rcases authorizeWithTime_eq (Rust.ok.inj h) with
      ⟨_, -, rfl⟩ | ⟨_, header, _, _, _, _, _, _, -, hh, -, -, -, -, -, -, -, rfl⟩
    · exact withTime_keptOrEvicted hp j
    · unfold KeptOrEvicted
      simp only [mapInsert_apply, hj header hh, if_false]
      exact withTime_keptOrEvicted hp j

/-- The steps of `authorize_access` after the clock read one entry: the one the header names. -/
theorem authorizeWithTime_local {s₁ s₂ : LedgerService τ} {request : AuthorizeAccessRequest}
    {k : UInt32} (hk : s₁.perKeyLedgers k = s₂.perKeyLedgers k)
    (hname : ∀ header, env.decodeBlobHeader request.blobHeader = .ok header →
      header.publicKeyId = k) :
    (s₁.authorizeWithTime env request).1 = (s₂.authorizeWithTime env request).1 ∧
      (s₁.authorizeWithTime env request).2.perKeyLedgers k =
        (s₂.authorizeWithTime env request).2.perKeyLedgers k := by
  unfold authorizeWithTime
  split
  · exact ⟨rfl, hk⟩
  split
  · exact ⟨rfl, hk⟩
  rename_i header hh
  obtain rfl := hname header hh
  rw [hk]
  repeat' split
  all_goals simp_all

/-- What `authorize_access` returns and leaves under the key its header names depends only on
the clock and that key's entry. -/
theorem authorizeAccess_local {s₁ s₂ : LedgerService τ} {request : AuthorizeAccessRequest}
    {k : UInt32} (hc : s₁.currentTime = s₂.currentTime)
    (hk : s₁.perKeyLedgers k = s₂.perKeyLedgers k)
    (hname : ∀ header, env.decodeBlobHeader request.blobHeader = .ok header →
      header.publicKeyId = k) :
    (fun p => (p.1, p.2.perKeyLedgers k)) <$> s₁.authorizeAccess env request =
      (fun p => (p.1, p.2.perKeyLedgers k)) <$> s₂.authorizeAccess env request := by
  obtain ⟨r, hr⟩ := parseTimestamp_ne_panic request.now
  rcases r with err | t
  · simp [authorizeAccess, updateCurrentTime_of_error hr, hk]
  · by_cases ht : t < s₂.currentTime
    · simp [authorizeAccess, updateCurrentTime_of_lt hr ht, updateCurrentTime_of_lt hr (hc ▸ ht),
        hk]
    · have hl := @authorizeWithTime_local τ env (s₁.withTime t) (s₂.withTime t) request k
        (by simp [hk]) hname
      simp only [authorizeAccess, updateCurrentTime_of_le hr (not_lt.1 ht),
        updateCurrentTime_of_le hr (not_lt.1 (hc ▸ ht)), Rust.ok_bind, Rust.pure_eq, Rust.map_ok,
        hl.1, hl.2]

/-- `create_key` inserts under an id that was free after the clock update, and keeps or evicts
every other entry. -/
theorem createKey_frame {request : CreateKeyRequest} {draws : List UInt32}
    {keypair : PrivateKey × Bytes} {r : Except Status CreateKeyResponse}
    (h : self.createKey env request draws keypair = .ok (r, s')) :
    (∀ k e, insertion env self (.createKey request draws keypair) = some (k, e) →
      ∃ t, parseTimestamp request.now = .ok (.ok t) ∧ (self.withTime t).perKeyLedgers k = none) ∧
    ∀ j, (insertion env self (.createKey request draws keypair)).map Prod.fst ≠ some j →
      KeptOrEvicted self s' request.now j := by
  obtain ⟨_, he, -⟩ := createKey_eq_ok h
  rcases createKeyEntry_eq_ok he with
    ⟨_, -, hres, rfl⟩ | ⟨t, hp, -, ⟨_, -, hres, rfl⟩ | ⟨_, _, keyId, -, -, hk, hres, rfl⟩⟩
  · refine ⟨fun k e hi => ?_, fun j _ => .inl rfl⟩
    simp [insertion, he, hres] at hi
  · refine ⟨fun k e hi => ?_, fun j _ => withTime_keptOrEvicted hp j⟩
    simp [insertion, he, hres] at hi
  · have hi : (insertion env self (.createKey request draws keypair)).map Prod.fst =
        some keyId := by
      simp [insertion, he, hres]
    refine ⟨fun k e hke => ⟨t, hp, ?_⟩, fun j hj => ?_⟩
    · rw [hke] at hi
      cases hi
      exact (drawKeyId_eq_ok hk).1
    · have hne : j ≠ keyId := fun hjk => hj (hjk ▸ hi)
      unfold KeptOrEvicted
      simp only [mapInsert_apply, hne, if_false]
      exact withTime_keptOrEvicted hp j

/-- Keys are independent. `delete_key` and `revoke_access` change only the entry they name and
depend only on it; `authorize_access` keeps or evicts every other entry and depends only on the
clock and its key's entry; `create_key` inserts under an id that was free after the clock update,
so it never replaces a key. -/
theorem keys_independent (env : Collaborators τ) :
    (∀ (s : LedgerService τ) (request : DeleteKeyRequest) j, j ≠ request.publicKeyId →
      (s.deleteKey request).2.perKeyLedgers j = s.perKeyLedgers j) ∧
    (∀ (s₁ s₂ : LedgerService τ) (request : DeleteKeyRequest),
      s₁.perKeyLedgers request.publicKeyId = s₂.perKeyLedgers request.publicKeyId →
      (s₁.deleteKey request).1 = (s₂.deleteKey request).1 ∧
        (s₁.deleteKey request).2.perKeyLedgers request.publicKeyId =
          (s₂.deleteKey request).2.perKeyLedgers request.publicKeyId) ∧
    (∀ (s : LedgerService τ) (request : RevokeAccessRequest) j, j ≠ request.publicKeyId →
      (s.revokeAccess env request).2.perKeyLedgers j = s.perKeyLedgers j) ∧
    (∀ (s₁ s₂ : LedgerService τ) (request : RevokeAccessRequest),
      s₁.perKeyLedgers request.publicKeyId = s₂.perKeyLedgers request.publicKeyId →
      (s₁.revokeAccess env request).1 = (s₂.revokeAccess env request).1 ∧
        (s₁.revokeAccess env request).2.perKeyLedgers request.publicKeyId =
          (s₂.revokeAccess env request).2.perKeyLedgers request.publicKeyId) ∧
    (∀ (s s' : LedgerService τ) (request : AuthorizeAccessRequest) r j,
      s.authorizeAccess env request = .ok (r, s') →
      (∀ header, env.decodeBlobHeader request.blobHeader = .ok header →
        j ≠ header.publicKeyId) →
      KeptOrEvicted s s' request.now j) ∧
    (∀ (s₁ s₂ : LedgerService τ) (request : AuthorizeAccessRequest) k,
      s₁.currentTime = s₂.currentTime → s₁.perKeyLedgers k = s₂.perKeyLedgers k →
      (∀ header, env.decodeBlobHeader request.blobHeader = .ok header →
        header.publicKeyId = k) →
      (fun p => (p.1, p.2.perKeyLedgers k)) <$> s₁.authorizeAccess env request =
        (fun p => (p.1, p.2.perKeyLedgers k)) <$> s₂.authorizeAccess env request) ∧
    (∀ (s s' : LedgerService τ) (request : CreateKeyRequest) draws keypair r,
      s.createKey env request draws keypair = .ok (r, s') →
      (∀ k e, insertion env s (.createKey request draws keypair) = some (k, e) →
        ∃ t, parseTimestamp request.now = .ok (.ok t) ∧ (s.withTime t).perKeyLedgers k = none) ∧
      ∀ j, (insertion env s (.createKey request draws keypair)).map Prod.fst ≠ some j →
        KeptOrEvicted s s' request.now j) :=
  ⟨fun s request _ hj => deleteKey_frame s request hj,
    fun _ _ request hk => deleteKey_local request hk,
    fun s request _ hj => revokeAccess_frame s request hj,
    fun _ _ request hk => revokeAccess_local request hk,
    fun _ _ _ _ _ h hj => authorizeAccess_frame h hj,
    fun _ _ _ _ hc hk hname => authorizeAccess_local hc hk hname,
    fun _ _ _ _ _ _ h => createKey_frame h⟩

/-- With keys `0` and `1` live, the sample request for key `0` keeps key `1`, and returns and
writes for key `0` what it does once key `1` is deleted. -/
theorem keys_independent_at_sample :
    (∃ r s', sampleTwoKeyState.authorizeAccess sampleCollaborators sampleAuthorizeRequest =
        .ok (r, s') ∧ KeptOrEvicted sampleTwoKeyState s' sampleAuthorizeRequest.now 1) ∧
    (fun p => (p.1, p.2.perKeyLedgers 0)) <$>
        sampleTwoKeyState.authorizeAccess sampleCollaborators sampleAuthorizeRequest =
      (fun p => (p.1, p.2.perKeyLedgers 0)) <$>
        (sampleTwoKeyState.deleteKey ⟨1⟩).2.authorizeAccess sampleCollaborators
          sampleAuthorizeRequest :=
  have h : sampleTwoKeyState.authorizeAccess sampleCollaborators sampleAuthorizeRequest =
      .ok (_, _) := rfl
  have hname : ∀ header, sampleCollaborators.decodeBlobHeader sampleAuthorizeRequest.blobHeader =
      .ok header → header.publicKeyId = 0 := fun _ hh => by cases hh; rfl
  ⟨⟨_, _, h, (keys_independent sampleCollaborators).2.2.2.2.1 _ _ _ _ 1 h
      fun header hh => by rw [hname header hh]; decide⟩,
    (keys_independent sampleCollaborators).2.2.2.2.2.1 _ _ _ 0 rfl rfl hname⟩

end ConfidentialLedger.Authorize
