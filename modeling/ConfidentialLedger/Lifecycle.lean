import ConfidentialLedger.Clock

/-!
# Where every key comes from

A key enters the map only at the insert of a `create_key`; afterwards calls change at most its
budget tracker: a clock update or `delete_key` can only remove it, `authorize_access` and
`revoke_access` replace its tracker. So every entry of a reachable state goes back to the last
insert under its id, with that insert's key pair and expiration, and `authorize_access` only
re-wraps with a live key: the one that insert created, not deleted since, expiring after the
accepted `now`. What the trackers do with their budgets stays out of this module.
-/

namespace ConfidentialLedger.Lifecycle

open Core Proto Budget Service Effects Clock
open Service.LedgerService

variable {τ : Type} {env : Collaborators τ} {self s' : LedgerService τ}

/-- The key id and per-key ledger a call inserts: those of a `create_key` that reaches its
insert, whatever it returns afterwards. -/
def insertion (env : Collaborators τ) (self : LedgerService τ) :
    Call → Option (UInt32 × PerKeyLedger τ)
  | .createKey request draws keypair =>
    match self.createKeyEntry env request draws keypair with
    | .ok (.ok (keyId, expiration), _) =>
      some (keyId, ⟨keypair.1, keypair.2, expiration, env.budget.new⟩)
    | _ => none
  | _ => none

/-- No event of the list inserts under the id `k`. -/
def NoInsertOf (env : Collaborators τ) (k : UInt32) (evs : List (Event τ)) : Prop :=
  ∀ ev ∈ evs, (insertion env ev.before ev.call).map Prod.fst ≠ some k

/-- The event `c` inserts `e` under `k`, and no event of `after` inserts under `k` again. -/
def LastInsertion (env : Collaborators τ) (k : UInt32) (c : Event τ) (e : PerKeyLedger τ)
    (after : List (Event τ)) : Prop :=
  insertion env c.before c.call = some (k, e) ∧ NoInsertOf env k after

/-- A call that inserts leaves the inserted per-key ledger under its id. -/
theorem step_of_insertion {c : Call} {r : Except Status Reply} {k : UInt32} {e : PerKeyLedger τ}
    (h : self.step env c = .ok (r, s')) (hi : insertion env self c = some (k, e)) :
    s'.perKeyLedgers k = some e := by
  have hs := step_eq_ok h
  cases c with
  | createKey request draws keypair =>
    obtain ⟨_, hc, -⟩ := hs
    obtain ⟨_, he, -⟩ := createKey_eq_ok hc
    simp only [insertion, he] at hi
    rcases createKeyEntry_eq_ok he with
      ⟨_, -, rfl, -⟩ | ⟨_, -, -, ⟨_, -, rfl, -⟩ | ⟨_, _, _, -, -, -, rfl, rfl⟩⟩
    · cases hi
    · cases hi
    · simp only [Option.some.injEq, Prod.mk.injEq] at hi
      obtain ⟨rfl, rfl⟩ := hi
      simp
  | deleteKey => cases hi
  | authorizeAccess => cases hi
  | revokeAccess => cases hi

/-- Moving the clock only drops keys: a key left afterwards was there with the same key pair and
expiration. -/
theorem withTime_keys_of_eq_some {t : Duration} {k : UInt32} {x : PrivateKey × Bytes × Duration}
    (hx : ((self.withTime t).perKeyLedgers k).map PerKeyLedger.keys = some x) :
    (self.perKeyLedgers k).map PerKeyLedger.keys = some x := by
  obtain ⟨v, hv, rfl⟩ := Option.map_eq_some'.1 hx
  rw [(withTime_perKeyLedgers_eq_some.1 hv).1]
  rfl

/-- A call that inserts nothing under `k` keeps the key pair and expiration of the entry at `k`,
and cannot bring an entry there. -/
theorem step_keys_of_ne {c : Call} {r : Except Status Reply} {k : UInt32}
    {x : PrivateKey × Bytes × Duration} (h : self.step env c = .ok (r, s'))
    (hk : (insertion env self c).map Prod.fst ≠ some k)
    (hx : (s'.perKeyLedgers k).map PerKeyLedger.keys = some x) :
    (self.perKeyLedgers k).map PerKeyLedger.keys = some x := by
  have hs := step_eq_ok h
  cases c with
  | createKey request draws keypair =>
    obtain ⟨_, hc, -⟩ := hs
    obtain ⟨_, he, -⟩ := createKey_eq_ok hc
    rcases createKeyEntry_eq_ok he with
      ⟨_, -, -, rfl⟩ | ⟨_, -, -, ⟨_, -, -, rfl⟩ | ⟨_, _, keyId, -, -, -, hres, rfl⟩⟩
    · exact hx
    · exact withTime_keys_of_eq_some hx
    · subst hres
      have hne : k ≠ keyId := fun hkey => hk (by simp [insertion, he, hkey])
      simp only [mapInsert_apply, hne, if_false] at hx
      exact withTime_keys_of_eq_some hx
  | deleteKey request =>
    rw [hs.1, deleteKey_state] at hx
    simp only [mapRemove_apply] at hx
    split_ifs at hx
    · cases hx
    · exact hx
  | authorizeAccess request =>
    obtain ⟨_, hc, -⟩ := hs
    rcases authorizeAccess_cases env self request with ⟨_, -, he⟩ | ⟨t, -, -, he⟩ <;>
      rw [he] at hc
    · cases hc
      exact hx
    · have hs' := congrArg Prod.snd (Rust.ok.inj hc)
      dsimp only at hs'
      rw [← hs', authorizeWithTime_keys] at hx
      exact withTime_keys_of_eq_some hx
  | revokeAccess request =>
    rw [hs.1, revokeAccess_keys] at hx
    exact hx

/-- Along a run that inserts nothing under `k`, an entry at `k` at the end was there at the
start, with the same key pair and expiration. -/
theorem Steps.keys_of_noInsertOf {s s'' : LedgerService τ} {evs : List (Event τ)} {k : UInt32}
    {x : PrivateKey × Bytes × Duration} (h : Steps env s evs s'') (hk : NoInsertOf env k evs)
    (hx : (s''.perKeyLedgers k).map PerKeyLedger.keys = some x) :
    (s.perKeyLedgers k).map PerKeyLedger.keys = some x := by
  induction h with
  | nil => exact hx
  | cons hstep _ ih =>
    exact step_keys_of_ne hstep (hk _ (List.mem_cons_self _ _))
      (ih (fun ev hev => hk ev (List.mem_cons_of_mem _ hev)) hx)

/-- Every entry at the end of a run goes back to the last insert under its id in the run, or,
when the run inserts nothing there, to an entry at the start with the same key pair and
expiration. -/
theorem Steps.origin {s s'' : LedgerService τ} {evs : List (Event τ)} {k : UInt32}
    {x : PrivateKey × Bytes × Duration} (h : Steps env s evs s'')
    (hx : (s''.perKeyLedgers k).map PerKeyLedger.keys = some x) :
    (∃ before c after e, evs = before ++ c :: after ∧ LastInsertion env k c e after ∧
      e.keys = x) ∨
    (NoInsertOf env k evs ∧ (s.perKeyLedgers k).map PerKeyLedger.keys = some x) := by
  induction h with
  | nil => exact .inr ⟨(fun _ h => nomatch h), hx⟩
  | @cons s s₁ _ c r _ hstep _ ih =>
    rcases ih hx with ⟨before, c', after, e, rfl, hlast, he⟩ | ⟨hno, hx₁⟩
    · exact .inl ⟨⟨s, c, r, s₁⟩ :: before, c', after, e, rfl, hlast, he⟩
    · by_cases hi : (insertion env s c).map Prod.fst = some k
      · obtain ⟨⟨_, e⟩, hi', rfl⟩ := Option.map_eq_some'.1 hi
        rw [step_of_insertion hstep hi'] at hx₁
        exact .inl ⟨[], ⟨s, c, r, s₁⟩, _, e, rfl, ⟨hi', hno⟩, Option.some.inj hx₁⟩
      · exact .inr ⟨List.forall_mem_cons.2 ⟨hi, hno⟩, step_keys_of_ne hstep hi hx₁⟩

/-- A run through an event splits there: the event is a returning call, and a run leads on from
the state it left. -/
theorem Steps.of_split {s s'' : LedgerService τ} {before after : List (Event τ)} {c : Event τ}
    (h : Steps env s (before ++ c :: after) s'') :
    c.before.step env c.call = .ok (c.reply, c.after) ∧ Steps env c.after after s'' := by
  obtain ⟨_, -, h₂⟩ := Steps.append_iff.1 h
  cases h₂ with
  | cons hstep hrest => exact ⟨hstep, hrest⟩

/-- An id absent after a `delete_key` of it stays absent along a run that inserts nothing there. -/
theorem Steps.absent_after_delete {s s'' : LedgerService τ} {before after : List (Event τ)}
    {c : Event τ} {k : UInt32} (h : Steps env s (before ++ c :: after) s'')
    (hc : c.call = .deleteKey ⟨k⟩) (hk : NoInsertOf env k after) :
    s''.perKeyLedgers k = none := by
  obtain ⟨hstep, hrest⟩ := Steps.of_split h
  rw [hc] at hstep
  have hgone : c.after.perKeyLedgers k = none := by
    rw [(step_eq_ok hstep).1, deleteKey_state]
    simp
  cases hx : s''.perKeyLedgers k with
  | none => rfl
  | some e =>
    have := Steps.keys_of_noInsertOf hrest hk (x := e.keys) (by rw [hx]; rfl)
    rw [hgone] at this
    cases this

/-- Each `authorize_access` that succeeds after a run from `LedgerService::new()` re-wraps with
the key of the last `create_key` that inserted under the header's key id: the entry used has its
key pair and expiration, no `delete_key` of that id came after it, it expires after the accepted
`now`, and the response carries its public key. -/
theorem authorizeAccess_uses_last_created_key {evs : List (Event τ)} {s : LedgerService τ}
    {request : AuthorizeAccessRequest} {response : AuthorizeAccessResponse}
    (hrun : Steps env LedgerService.new evs s)
    (hauth : s.authorizeAccess env request = .ok (.ok response, s')) :
    ∃ header t, env.decodeBlobHeader request.blobHeader = .ok header ∧
      parseTimestamp request.now = .ok (.ok t) ∧
      (∃ before c after e₀, evs = before ++ c :: after ∧
        LastInsertion env header.publicKeyId c e₀ after) ∧
      ∀ before c after e₀, evs = before ++ c :: after →
        LastInsertion env header.publicKeyId c e₀ after →
        (∃ e, (s.withTime t).perKeyLedgers header.publicKeyId = some e ∧ e.keys = e₀.keys) ∧
        env.rewrapSymmetricKey request.encryptedSymmetricKey request.encapsulatedKey
          e₀.privateKey request.blobHeader request.recipientPublicKey
          (e₀.publicKey ++ request.recipientNonce) =
            .ok (response.encapsulatedKey, response.encryptedSymmetricKey) ∧
        (∀ ev ∈ after, ev.call ≠ .deleteKey ⟨header.publicKeyId⟩) ∧
        t < e₀.expiration ∧ response.reencryptionPublicKey = e₀.publicKey := by
  obtain ⟨t, ht, -, hw⟩ := authorizeAccess_eq_ok hauth
  rcases authorizeWithTime_eq hw with ⟨_, hres, -⟩ |
    ⟨_, header, _, e, _, ek, esk, _, -, hh, -, -, he, -, hrw, -, hres, -⟩
  · cases hres
  have hlive := withTime_perKeyLedgers_eq_some.1 he
  have hkeys : (s.perKeyLedgers header.publicKeyId).map PerKeyLedger.keys = some e.keys := by
    rw [hlive.1]; rfl
  have hresp : response = ⟨ek, esk, e.publicKey⟩ := Except.ok.inj hres
  subst hresp
  refine ⟨header, t, hh, ht, ?_, fun before c after e₀ hsplit hlast => ?_⟩
  · rcases Steps.origin hrun hkeys with ⟨before, c, after, e₀, hsplit, hlast, -⟩ | ⟨-, hnew⟩
    · exact ⟨before, c, after, e₀, hsplit, hlast⟩
    · cases hnew
  · subst hsplit
    obtain ⟨hstep, hrest⟩ := Steps.of_split hrun
    have hc := Steps.keys_of_noInsertOf hrest hlast.2 hkeys
    rw [step_of_insertion hstep hlast.1] at hc
    have he₀ : e₀.keys = e.keys := Option.some.inj hc
    simp only [PerKeyLedger.keys, Prod.mk.injEq] at he₀
    obtain ⟨hpriv, hpub, hexp⟩ := he₀
    refine ⟨⟨e, he, by rw [PerKeyLedger.keys, PerKeyLedger.keys, hpriv, hpub, hexp]⟩,
      by rw [hpriv, hpub]; exact hrw, fun ev hev hdel => ?_, hexp ▸ hlive.2, hpub.symm⟩
    obtain ⟨a₁, a₂, rfl⟩ := List.append_of_mem hev
    have hrun' : Steps env LedgerService.new ((before ++ c :: a₁) ++ ev :: a₂) s := by
      rw [List.append_assoc]; exact hrun
    have hgone := Steps.absent_after_delete hrun' hdel
      (fun ev' hev' => hlast.2 ev' (List.mem_append_right _ (List.mem_cons_of_mem _ hev')))
    rw [hlive.1] at hgone
    cases hgone

/-- One hour. -/
def durationHour : ProtoDuration := ⟨⟨3600, by decide, by decide⟩, ⟨0, by decide, by decide⟩⟩

/-- A request that `sampleCollaborators` grant for key `0` at `1000 s`: the header `[0]` names
blob `[0]` of key `0`, and the policy bytes `[0]` are the header's digest. -/
def sampleAuthorizeRequest : AuthorizeAccessRequest :=
  ⟨some timestamp1000, [0], [0], [1], [2], [3], [], "app", [4]⟩

/-- After one `create_key` at `1000 s` for an hour under id `0`, `authorize_access` for key `0`
at `1000 s` succeeds, and it re-wraps with that key. -/
theorem authorizeAccess_uses_last_created_key_at_sample :
    ∃ (evs : List (Event BudgetTracker)) (s s' : LedgerService BudgetTracker)
      (response : AuthorizeAccessResponse),
      Steps sampleCollaborators LedgerService.new evs s ∧
      s.authorizeAccess sampleCollaborators sampleAuthorizeRequest = .ok (.ok response, s') ∧
      ∃ header t, sampleCollaborators.decodeBlobHeader sampleAuthorizeRequest.blobHeader =
          .ok header ∧
        parseTimestamp sampleAuthorizeRequest.now = .ok (.ok t) ∧
        (∃ before c after e₀, evs = before ++ c :: after ∧
          LastInsertion sampleCollaborators header.publicKeyId c e₀ after) ∧
        ∀ before c after e₀, evs = before ++ c :: after →
          LastInsertion sampleCollaborators header.publicKeyId c e₀ after →
          (∃ e, (s.withTime t).perKeyLedgers header.publicKeyId = some e ∧ e.keys = e₀.keys) ∧
          sampleCollaborators.rewrapSymmetricKey sampleAuthorizeRequest.encryptedSymmetricKey
            sampleAuthorizeRequest.encapsulatedKey e₀.privateKey sampleAuthorizeRequest.blobHeader
            sampleAuthorizeRequest.recipientPublicKey
            (e₀.publicKey ++ sampleAuthorizeRequest.recipientNonce) =
              .ok (response.encapsulatedKey, response.encryptedSymmetricKey) ∧
          (∀ ev ∈ after, ev.call ≠ .deleteKey ⟨header.publicKeyId⟩) ∧
          t < e₀.expiration ∧ response.reencryptionPublicKey = e₀.publicKey :=
  have hrun : Steps sampleCollaborators LedgerService.new [_] _ :=
    .cons (c := .createKey ⟨some timestamp1000, some durationHour⟩ [0] (⟨[]⟩, [7])) rfl (.nil _)
  ⟨_, _, _, _, hrun, rfl, authorizeAccess_uses_last_created_key hrun rfl⟩

section Removed

/-- The `now` a call carries: `create_key` and `authorize_access` have one. -/
def nowOf : Call → Option (Option Timestamp)
  | .createKey request _ _ => some request.now
  | .authorizeAccess request => some request.now
  | _ => none

/-- How the event refuses a call naming the absent id `k`: `delete_key` and `revoke_access` fail
with `NotFound` and change nothing, and an `authorize_access` whose header names `k` fails, with
`NotFound` at the key lookup or with `InvalidArgument` at an earlier step. -/
def RefusesAbsent (env : Collaborators τ) (k : UInt32) (ev : Event τ) : Prop :=
  match ev.call with
  | .createKey .. => True
  | .deleteKey request => request.publicKeyId = k →
      ev.reply = .error (.newWithMessage .notFound "public key not found") ∧ ev.after = ev.before
  | .authorizeAccess request => ∀ header, env.decodeBlobHeader request.blobHeader = .ok header →
      header.publicKeyId = k → ∃ st, ev.reply = .error st ∧
        (st = .newWithMessage .notFound "public key not found" ∨ st.code = .invalidArgument)
  | .revokeAccess request => request.publicKeyId = k →
      ev.reply = .error (.newWithMessage .notFound "public key not found") ∧ ev.after = ev.before

/-- The steps after the clock fail for a header naming an absent key: at the key lookup with
`NotFound`, or earlier with `InvalidArgument`. -/
theorem authorizeWithTime_of_absent {request : AuthorizeAccessRequest} {header : BlobHeader}
    (hh : env.decodeBlobHeader request.blobHeader = .ok header)
    (hnone : self.perKeyLedgers header.publicKeyId = none) :
    ∃ st, (self.authorizeWithTime env request).1 = .error st ∧
      (st = .newWithMessage .notFound "public key not found" ∨ st.code = .invalidArgument) := by
  unfold authorizeWithTime
  split
  · exact ⟨_, rfl, .inr rfl⟩
  · simp only [hh]
    split_ifs
    · exact ⟨_, rfl, .inr rfl⟩
    · split
      · exact ⟨_, rfl, .inr rfl⟩
      · simp only [hnone]
        exact ⟨_, rfl, .inl rfl⟩

/-- A call that inserts nothing under the absent id `k` leaves it absent and refuses every
request naming it. -/
theorem step_absent {c : Call} {r : Except Status Reply} {k : UInt32}
    (h : self.step env c = .ok (r, s')) (hk : (insertion env self c).map Prod.fst ≠ some k)
    (hnone : self.perKeyLedgers k = none) :
    s'.perKeyLedgers k = none ∧ RefusesAbsent env k ⟨self, c, r, s'⟩ := by
  refine ⟨?_, ?_⟩
  · cases hx : s'.perKeyLedgers k with
    | none => rfl
    | some e =>
      have hback := step_keys_of_ne h hk (x := e.keys) (by rw [hx]; rfl)
      rw [hnone] at hback
      cases hback
  have hstep := step_eq_ok h
  cases c with
  | createKey => trivial
  | deleteKey request =>
    intro hreq
    subst hreq
    obtain ⟨rfl, rfl⟩ := hstep
    simp [deleteKey, hnone, Except.map]
  | authorizeAccess request =>
    intro header hh hid
    obtain ⟨res, hc, rfl⟩ := hstep
    rcases authorizeAccess_cases env self request with ⟨_, -, he⟩ | ⟨t, -, -, he⟩ <;>
      rw [he] at hc
    · cases hc
      exact ⟨_, rfl, .inr rfl⟩
    · have hgone : (self.withTime t).perKeyLedgers header.publicKeyId = none := by
        simp [hid, hnone]
      obtain ⟨st, hst, hcode⟩ := authorizeWithTime_of_absent hh hgone
      rw [Rust.ok.inj hc] at hst
      dsimp only at hst
      subst hst
      exact ⟨st, rfl, hcode⟩
  | revokeAccess request =>
    intro hreq
    subst hreq
    obtain ⟨rfl, rfl⟩ := hstep
    simp [revokeAccess, hnone, Except.map]

/-- Along a run that inserts nothing under the absent id `k`, the id stays absent and every call
naming it is refused. -/
theorem Steps.absent {s s'' : LedgerService τ} {evs : List (Event τ)} {k : UInt32}
    (h : Steps env s evs s'') (hk : NoInsertOf env k evs) (hnone : s.perKeyLedgers k = none) :
    s''.perKeyLedgers k = none ∧ ∀ ev ∈ evs, RefusesAbsent env k ev := by
  induction h with
  | nil => exact ⟨hnone, fun _ h => nomatch h⟩
  | cons hstep _ ih =>
    obtain ⟨hnone', hev⟩ := step_absent hstep (hk _ (List.mem_cons_self _ _)) hnone
    obtain ⟨hend, hall⟩ := ih (fun ev hev => hk ev (List.mem_cons_of_mem _ hev)) hnone'
    exact ⟨hend, List.forall_mem_cons.2 ⟨hev, hall⟩⟩

/-- A call whose `now` parses to a time no earlier than the expiration of key `k` removes it and
refuses a request naming it, when the clock is no later than every expiration and the call
inserts nothing under `k`: the clock accepts that time and evicts the key. -/
theorem step_evicts {c : Call} {r : Except Status Reply} {k : UInt32} {now : Option Timestamp}
    {t : Duration} {e : PerKeyLedger τ} (h : self.step env c = .ok (r, s'))
    (hs : ExpiresNoEarlier self) (hnow : nowOf c = some now)
    (ht : parseTimestamp now = .ok (.ok t)) (he : self.perKeyLedgers k = some e)
    (hexp : e.expiration ≤ t) (hk : (insertion env self c).map Prod.fst ≠ some k) :
    s'.perKeyLedgers k = none ∧ RefusesAbsent env k ⟨self, c, r, s'⟩ := by
  have hu : self.updateCurrentTime env.toolchain now = .ok (.ok (), self.withTime t) :=
    updateCurrentTime_of_le ht (le_trans (hs k e he) hexp)
  have hgone : (self.withTime t).perKeyLedgers k = none := by
    simp [he, Option.filter, not_lt.2 hexp]
  have hstep := step_eq_ok h
  cases c with
  | createKey request draws keypair =>
    cases hnow
    obtain ⟨_, hc, -⟩ := hstep
    obtain ⟨_, hce, -⟩ := createKey_eq_ok hc
    rcases createKeyEntry_eq_ok hce with
      ⟨_, hclock, -, -⟩ | ⟨t', ht', -, ⟨_, -, -, rfl⟩ | ⟨_, _, keyId, -, -, -, hres, rfl⟩⟩
    · rw [hu] at hclock
      cases hclock
    all_goals rw [ht] at ht'; cases ht'
    · exact ⟨hgone, trivial⟩
    · subst hres
      have hne : k ≠ keyId := fun hkey => hk (by simp [insertion, hce, hkey])
      exact ⟨by simp only [mapInsert_apply, hne, if_false, hgone], trivial⟩
  | authorizeAccess request =>
    cases hnow
    obtain ⟨res, hc, rfl⟩ := hstep
    have ha : self.authorizeAccess env request =
        .ok ((self.withTime t).authorizeWithTime env request) := by
      simp only [authorizeAccess, hu]
      rfl
    rw [ha] at hc
    have hw := Rust.ok.inj hc
    refine ⟨?_, fun header hh hid => ?_⟩
    · have hs' := congrArg Prod.snd hw
      dsimp only at hs'
      have hkeys : ((s'.perKeyLedgers k).map PerKeyLedger.keys) = none := by
        rw [← hs', authorizeWithTime_keys, hgone]
        rfl
      exact Option.map_eq_none'.1 hkeys
    · obtain ⟨st, hst, hcode⟩ := authorizeWithTime_of_absent hh (hid ▸ hgone)
      rw [hw] at hst
      dsimp only at hst
      subst hst
      exact ⟨st, rfl, hcode⟩
  | deleteKey => cases hnow
  | revokeAccess => cases hnow

/-- The spec's removal property as the code keeps it. In a reachable state a key is removed by a
`delete_key` of it, or by a call whose accepted `now` reaches its expiration. From then on, along
every run that inserts nothing under the id, the id stays absent, and every `delete_key`,
`revoke_access` and `authorize_access` naming it fails. -/
theorem removed_key_not_found {s s₁ s₂ : LedgerService τ} {c : Call} {r : Except Status Reply}
    {evs : List (Event τ)} {k : UInt32} (hs : Reachable env s)
    (hstep : s.step env c = .ok (r, s₁))
    (hrm : c = .deleteKey ⟨k⟩ ∨ ∃ now t e, nowOf c = some now ∧
      parseTimestamp now = .ok (.ok t) ∧ s.perKeyLedgers k = some e ∧ e.expiration ≤ t)
    (hno : NoInsertOf env k (⟨s, c, r, s₁⟩ :: evs)) (hrun : Steps env s₁ evs s₂) :
    s₁.perKeyLedgers k = none ∧ (c ≠ .deleteKey ⟨k⟩ → RefusesAbsent env k ⟨s, c, r, s₁⟩) ∧
      s₂.perKeyLedgers k = none ∧ ∀ ev ∈ evs, RefusesAbsent env k ev := by
  have hfirst : s₁.perKeyLedgers k = none ∧
      (c ≠ .deleteKey ⟨k⟩ → RefusesAbsent env k ⟨s, c, r, s₁⟩) := by
    rcases hrm with rfl | ⟨now, t, e, hnow, ht, he, hexp⟩
    · refine ⟨?_, fun hne => absurd rfl hne⟩
      rw [(step_eq_ok hstep).1, deleteKey_state]
      simp
    · obtain ⟨_, hreach⟩ := hs
      have hinv : ExpiresNoEarlier s :=
        Steps.invariant (fun _ _ _ _ hi hst => step_expiresNoEarlier hst hi) hreach
          (fun _ _ h => by cases h)
      obtain ⟨hgone, hrefuse⟩ :=
        step_evicts hstep hinv hnow ht he hexp (hno _ (List.mem_cons_self _ _))
      exact ⟨hgone, fun _ => hrefuse⟩
  exact ⟨hfirst.1, hfirst.2,
    Steps.absent hrun (fun ev hev => hno ev (List.mem_cons_of_mem _ hev)) hfirst.1⟩

/-- The timestamp of `10⁹ s` since the epoch. -/
def timestampBillion : Timestamp :=
  ⟨⟨1000000000, by decide, by decide⟩, ⟨0, by decide, by decide⟩⟩

/-- Spec example 5: after `create_key` at `0 s` for an hour under id `0`, `authorize_access` for
key `0` at `10⁹ s` evicts the key and fails with `NotFound`, and a later `delete_key` of it fails
with `NotFound` too. -/
theorem removed_key_not_found_at_expiry :
    ∃ (s s₁ s₂ : LedgerService BudgetTracker) (r : Except Status Reply)
      (evs : List (Event BudgetTracker)),
      Reachable sampleCollaborators s ∧
      s.step sampleCollaborators
        (.authorizeAccess { sampleAuthorizeRequest with now := some timestampBillion }) =
          .ok (r, s₁) ∧
      r = .error (.newWithMessage .notFound "public key not found") ∧
      Steps sampleCollaborators s₁ evs s₂ ∧ evs.map Event.call = [.deleteKey ⟨0⟩] ∧
      s₁.perKeyLedgers 0 = none ∧
      (Call.authorizeAccess { sampleAuthorizeRequest with now := some timestampBillion } ≠
        .deleteKey ⟨0⟩ →
        RefusesAbsent sampleCollaborators 0 ⟨s, .authorizeAccess
          { sampleAuthorizeRequest with now := some timestampBillion }, r, s₁⟩) ∧
      s₂.perKeyLedgers 0 = none ∧ ∀ ev ∈ evs, RefusesAbsent sampleCollaborators 0 ev := by
  have hs : Reachable sampleCollaborators _ :=
    ⟨[_], .cons (c := .createKey ⟨none, some durationHour⟩ [0] (⟨[]⟩, [7])) rfl (.nil _)⟩
  refine ⟨_, _, _, _, [⟨_, .deleteKey ⟨0⟩, _, _⟩], hs, rfl, rfl, .cons rfl (.nil _), rfl,
    removed_key_not_found hs rfl (.inr ⟨_, _, _, rfl, rfl, rfl, of_decide_eq_true rfl⟩) ?_
      (.cons rfl (.nil _))⟩
  intro ev hev
  rcases List.mem_cons.1 hev with rfl | hev
  · exact fun h => nomatch h
  · rcases List.mem_singleton.1 hev with rfl
    exact fun h => nomatch h

end Removed

end ConfidentialLedger.Lifecycle
