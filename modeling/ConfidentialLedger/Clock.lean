import ConfidentialLedger.Effects

/-!
# The clock

`current_time` only moves forward, the spec's invariant I2. Every returning call leaves the
clock where it was or moves it to an accepted `now`; `delete_key` and `revoke_access` never touch
it; and a `now` below it is refused before anything changes.

The spec's other invariant, I1, asks every key to expire strictly after the clock. The code keeps
it right after every accepted clock update, and in between only its weak form: a key created
with zero `ttl` expires exactly at the clock, until the next accepted clock update evicts it.
-/

namespace ConfidentialLedger.Clock

open Core Proto Budget Service Effects
open Service.LedgerService

variable {τ : Type} {env : Collaborators τ} {self s' : LedgerService τ}

/-- The steps of `authorize_access` after the clock leave it alone. -/
theorem authorizeWithTime_currentTime (self : LedgerService τ) (request : AuthorizeAccessRequest) :
    (self.authorizeWithTime env request).2.currentTime = self.currentTime := by
  rcases hx : self.authorizeWithTime env request with ⟨res, s⟩
  rcases authorizeWithTime_eq hx with
    ⟨_, -, rfl⟩ | ⟨_, _, _, _, _, _, _, _, -, -, -, -, -, -, -, -, -, rfl⟩ <;> rfl

/-- `create_key` leaves the clock where it was or moves it to the accepted `now`. -/
theorem createKey_currentTime_le {request : CreateKeyRequest} {draws : List UInt32}
    {keypair : PrivateKey × Bytes} {res : Except Status CreateKeyResponse}
    (h : self.createKey env request draws keypair = .ok (res, s')) :
    self.currentTime ≤ s'.currentTime := by
  obtain ⟨_, he, -⟩ := createKey_eq_ok h
  rcases createKeyEntry_eq_ok he with
    ⟨_, -, -, rfl⟩ | ⟨t, -, ht, ⟨_, -, -, rfl⟩ | ⟨_, _, _, -, -, -, -, rfl⟩⟩
  · exact le_refl _
  · exact ht
  · exact ht

/-- Every returning call leaves the clock where it was or moves it forward. -/
theorem step_currentTime_le {c : Call} {r : Except Status Reply}
    (h : self.step env c = .ok (r, s')) : self.currentTime ≤ s'.currentTime := by
  have hs := step_eq_ok h
  cases c with
  | createKey request draws keypair =>
    obtain ⟨_, hc, -⟩ := hs
    exact createKey_currentTime_le hc
  | deleteKey request => rw [hs.1, deleteKey_state]
  | authorizeAccess request =>
    obtain ⟨_, hc, -⟩ := hs
    rcases authorizeAccess_cases env self request with
      ⟨_, -, he⟩ | ⟨t, -, ht, he⟩ <;> rw [he] at hc
    · cases hc
      exact le_refl _
    · have hs' := congrArg Prod.snd (Rust.ok.inj hc)
      dsimp only at hs'
      rw [← hs', authorizeWithTime_currentTime]
      exact ht
  | revokeAccess request => rw [hs.1, revokeAccess_state]

/-- `current_time` never decreases. Along every run, from `LedgerService::new()` or any other
state, each call leaves it where it was or moves it forward. `delete_key` and `revoke_access`
never change it. A `create_key` or `authorize_access` whose `now` parses below it (an absent `now`
parses as zero) returns `InvalidArgument` and leaves the whole state as it was. -/
theorem currentTime_never_decreases (env : Collaborators τ) :
    (∀ (s₀ s : LedgerService τ) (evs : List (Event τ)), Steps env s₀ evs s →
      s₀.currentTime ≤ s.currentTime ∧
        ∀ ev ∈ evs, ev.before.currentTime ≤ ev.after.currentTime) ∧
    (∀ (s : LedgerService τ) (request : DeleteKeyRequest),
      (s.deleteKey request).2.currentTime = s.currentTime) ∧
    (∀ (s : LedgerService τ) (request : RevokeAccessRequest),
      (s.revokeAccess env request).2.currentTime = s.currentTime) ∧
    (∀ (s : LedgerService τ) (t : Duration), t < s.currentTime →
      (∀ (request : CreateKeyRequest) (draws : List UInt32) (keypair : PrivateKey × Bytes),
        parseTimestamp request.now = .ok (.ok t) →
        s.createKey env request draws keypair = .ok (.error (.newWithMessage .invalidArgument
          "`now` is invalid: time must be monotonic"), s)) ∧
      ∀ request : AuthorizeAccessRequest, parseTimestamp request.now = .ok (.ok t) →
        s.authorizeAccess env request = .ok (.error (.newWithMessage .invalidArgument
          "`now` is invalid: time must be monotonic"), s)) := by
  refine ⟨fun s₀ s evs h => ⟨?_, fun ev hev => ?_⟩, fun s request => ?_, fun s request => ?_,
    fun s t ht => ⟨fun request draws keypair hp => ?_, fun request hp => ?_⟩⟩
  · exact Steps.invariant (fun _ _ _ _ h₀ hs => le_trans h₀ (step_currentTime_le hs)) h
      (le_refl s₀.currentTime)
  · exact step_currentTime_le (Steps.step_of_mem h hev)
  · rw [deleteKey_state]
  · rw [revokeAccess_state]
  · simp only [createKey, createKeyEntry, updateCurrentTime_of_lt hp ht]
    rfl
  · simp only [authorizeAccess, updateCurrentTime_of_lt hp ht]
    rfl

/-- No key expires before the clock: the spec's I1 in the weak form the code keeps. -/
def ExpiresNoEarlier (s : LedgerService τ) : Prop :=
  ∀ k e, s.perKeyLedgers k = some e → s.currentTime ≤ e.expiration

/-- Right after a clock update every key left expires strictly after the clock. -/
theorem withTime_expiresNoEarlier (self : LedgerService τ) (t : Duration) :
    ExpiresNoEarlier (self.withTime t) := fun _ _ he =>
  le_of_lt (withTime_perKeyLedgers_eq_some.1 he).2

/-- The invariant only reads the clock and each key's expiration. -/
theorem expiresNoEarlier_of_keys {s : LedgerService τ} (hc : s'.currentTime = s.currentTime)
    (hk : ∀ k, (s'.perKeyLedgers k).map PerKeyLedger.keys =
      (s.perKeyLedgers k).map PerKeyLedger.keys)
    (hs : ExpiresNoEarlier s) : ExpiresNoEarlier s' := by
  intro k e he
  have hke := hk k
  rw [he] at hke
  cases h : s.perKeyLedgers k with
  | none => rw [h] at hke; cases hke
  | some e₀ =>
    rw [h] at hke
    simp only [Option.map_some', Option.some.injEq, PerKeyLedger.keys, Prod.mk.injEq] at hke
    rw [hc, hke.2.2]
    exact hs k e₀ h

/-- Every returning call keeps the invariant. -/
theorem step_expiresNoEarlier {c : Call} {r : Except Status Reply}
    (h : self.step env c = .ok (r, s')) (hs : ExpiresNoEarlier self) : ExpiresNoEarlier s' := by
  have hstep := step_eq_ok h
  cases c with
  | createKey request draws keypair =>
    obtain ⟨_, hc, -⟩ := hstep
    obtain ⟨_, he, -⟩ := createKey_eq_ok hc
    rcases createKeyEntry_eq_ok he with
      ⟨_, -, -, rfl⟩ | ⟨t, -, -, ⟨_, -, -, rfl⟩ | ⟨ttl, expiration, keyId, -, ha, -, -, rfl⟩⟩
    · exact hs
    · exact withTime_expiresNoEarlier self t
    · intro k e hk
      by_cases hkey : k = keyId
      · subst hkey
        simp only [mapInsert_apply, if_true, Option.some.injEq] at hk
        subst hk
        rw [Duration.le_iff_toNanos, (Duration.add_eq_ok_iff.1 ha).2]
        exact Nat.le_add_right _ _
      · simp only [mapInsert_apply, hkey, if_false] at hk
        exact withTime_expiresNoEarlier self t k e hk
  | deleteKey request =>
    rw [hstep.1, deleteKey_state]
    intro k e hk
    simp only [mapRemove_apply] at hk
    split_ifs at hk
    exact hs k e hk
  | authorizeAccess request =>
    obtain ⟨_, hc, -⟩ := hstep
    rcases authorizeAccess_cases env self request with
      ⟨_, -, he⟩ | ⟨t, -, -, he⟩ <;> rw [he] at hc
    · cases hc
      exact hs
    · have hs' := congrArg Prod.snd (Rust.ok.inj hc)
      dsimp only at hs'
      rw [← hs']
      exact expiresNoEarlier_of_keys (authorizeWithTime_currentTime _ _)
        (authorizeWithTime_keys _ _) (withTime_expiresNoEarlier self t)
  | revokeAccess request =>
    rw [hstep.1]
    exact expiresNoEarlier_of_keys (by rw [revokeAccess_state]) (revokeAccess_keys _ _) hs

/-- The timestamp of `1000 s` since the epoch. -/
def timestamp1000 : Timestamp := ⟨⟨1000, by decide, by decide⟩, ⟨0, by decide, by decide⟩⟩

/-- The state one `create_key` at `1000 s` without `ttl` leaves from `LedgerService::new()`: the
clock at `1000 s` and key `0`, with public key `[]`, expiring at `1000 s`. -/
def zeroTtlState : LedgerService BudgetTracker :=
  ⟨⟨1000, 0, by decide, by decide⟩, fun k => if k = 0 then
    some ⟨⟨[]⟩, [], ⟨1000, 0, by decide, by decide⟩, BudgetTracker.new⟩ else none⟩

/-- The timestamp of `500 s` since the epoch. -/
def timestamp500 : Timestamp := ⟨⟨500, by decide, by decide⟩, ⟨0, by decide, by decide⟩⟩

/-- After a `create_key` at `1000 s`, a `create_key` and an `authorize_access` at `500 s` are
refused and change nothing, and along that run the clock went from `0` to `1000 s`. -/
theorem currentTime_never_decreases_at_sample :
    (LedgerService.new : LedgerService BudgetTracker).currentTime ≤ zeroTtlState.currentTime ∧
    zeroTtlState.createKey sampleCollaborators ⟨some timestamp500, none⟩ [1] (⟨[]⟩, []) =
      .ok (.error (.newWithMessage .invalidArgument "`now` is invalid: time must be monotonic"),
        zeroTtlState) ∧
    zeroTtlState.authorizeAccess sampleCollaborators
        ⟨some timestamp500, [], [], [], [], [], [], "", []⟩ =
      .ok (.error (.newWithMessage .invalidArgument "`now` is invalid: time must be monotonic"),
        zeroTtlState) := by
  have hcreate : (LedgerService.new : LedgerService BudgetTracker).step sampleCollaborators
      (.createKey ⟨some timestamp1000, none⟩ [0] (⟨[]⟩, [])) = .ok (_, zeroTtlState) := rfl
  have hrefused := (currentTime_never_decreases sampleCollaborators).2.2.2 zeroTtlState
    ⟨500, 0, by decide, by decide⟩ (of_decide_eq_true rfl)
  exact ⟨((currentTime_never_decreases sampleCollaborators).1 _ _ _ (.cons hcreate (.nil _))).1,
    hrefused.1 _ _ _ rfl, hrefused.2 _ rfl⟩

end ConfidentialLedger.Clock
