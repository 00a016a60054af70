import ConfidentialLedger.Budgets

/-!
# Calls on different keys commute

The ledger is a map of per-key ledgers behind one clock, and calls on different keys are
independent up to that clock. A call other than
`create_key` reads and writes the entry under one key only, the key `delete_key` and
`revoke_access` name or the key the blob header of `authorize_access` names. Two such calls on
different keys commute from any state, with any collaborators: both orders return the same two
replies and end in the same state, so inside any run such a pair can be swapped without changing
a reply or where the run ends. The one coupling is the clock. Two `authorize_access` calls
commute when their `now` parse alike, and an `authorize_access` commutes with a `delete_key` or
a `revoke_access` when that call's key outlives the time it moves the clock to, since the clock
update evicts expired keys. `create_key` draws its id against every key and stays out.
-/

namespace ConfidentialLedger.Independence

open Core Proto Budget Service Effects Clock Lifecycle Authorize Budgets
open Service.LedgerService

variable {τ α β : Type} {env : Collaborators τ}

/-- An operation that reads and writes the entry under `k` only: it keeps the clock and every
other entry, what it returns and leaves under `k` depends on the entry there only, and an entry it
leaves under `k` has the expiration of the entry it found. -/
structure KeyLocal (k : UInt32) (g : LedgerService τ → α × LedgerService τ) : Prop where
  /-- The clock is kept. -/
  clock : ∀ s, (g s).2.currentTime = s.currentTime
  /-- Every other entry is kept. -/
  frame : ∀ s j, j ≠ k → (g s).2.perKeyLedgers j = s.perKeyLedgers j
  /-- The reply and the entry left under `k` are functions of the entry under `k`. -/
  entry : ∀ s₁ s₂, s₁.perKeyLedgers k = s₂.perKeyLedgers k →
    (g s₁).1 = (g s₂).1 ∧ (g s₁).2.perKeyLedgers k = (g s₂).2.perKeyLedgers k
  /-- An entry left under `k` has the expiration of the entry found there. -/
  expiration : ∀ s e', (g s).2.perKeyLedgers k = some e' →
    ∃ e, s.perKeyLedgers k = some e ∧ e'.expiration = e.expiration

section KeyLocal

variable {k k₁ k₂ : UInt32} {f : LedgerService τ → α × LedgerService τ}
  {g : LedgerService τ → β × LedgerService τ}

/-- Operations on different keys commute: each returns after the other what it returns first,
and both orders end in the same state. -/
theorem KeyLocal.comm (hf : KeyLocal k₁ f) (hg : KeyLocal k₂ g) (hk : k₁ ≠ k₂)
    (s : LedgerService τ) :
    (g (f s).2).1 = (g s).1 ∧ (f (g s).2).1 = (f s).1 ∧ (g (f s).2).2 = (f (g s).2).2 := by
  obtain ⟨hg₁, hg₂⟩ := hg.entry _ _ (hf.frame s k₂ hk.symm)
  obtain ⟨hf₁, hf₂⟩ := hf.entry _ _ (hg.frame s k₁ hk)
  refine ⟨hg₁, hf₁, ?_⟩
  ext1
  · rw [hg.clock, hf.clock, hf.clock, hg.clock]
  · funext j
    by_cases hj₁ : j = k₁
    · subst hj₁
      rw [hg.frame _ _ hk, hf₂]
    by_cases hj₂ : j = k₂
    · subst hj₂
      rw [hg₂, hf.frame _ _ hj₁]
    rw [hg.frame _ _ hj₂, hf.frame _ _ hj₁, hf.frame _ _ hj₁, hg.frame _ _ hj₂]

/-- An operation on a key that outlives time `t` commutes with the clock update to `t`. -/
theorem KeyLocal.withTime (hg : KeyLocal k g) {s : LedgerService τ} {t : Duration}
    (hs : ∀ e, s.perKeyLedgers k = some e → t < e.expiration) :
    (g (s.withTime t)).1 = (g s).1 ∧ (g (s.withTime t)).2 = (g s).2.withTime t := by
  have hk : (s.withTime t).perKeyLedgers k = s.perKeyLedgers k := by
    cases he : s.perKeyLedgers k with
    | none => simp [he]
    | some e => simp [he, hs e he]
  obtain ⟨h₁, h₂⟩ := hg.entry _ _ hk
  refine ⟨h₁, ?_⟩
  ext1
  · rw [hg.clock]
    rfl
  · funext j
    by_cases hj : j = k
    · subst hj
      rw [h₂, withTime_perKeyLedgers]
      cases he' : (g s).2.perKeyLedgers j with
      | none => rfl
      | some e' =>
        obtain ⟨e, he, hexp⟩ := hg.expiration s e' he'
        simp [Option.filter, hexp, hs e he]
    · rw [hg.frame _ _ hj, withTime_perKeyLedgers, withTime_perKeyLedgers, hg.frame _ _ hj]

/-- After a clock update to `t`, an operation on one key leaves nothing that a second update to
`t` would evict. -/
theorem KeyLocal.withTime_after (hg : KeyLocal k g) (s : LedgerService τ) (t : Duration) :
    (g (s.withTime t)).2.withTime t = (g (s.withTime t)).2 := by
  have h := (hg.withTime (s := s.withTime t) (t := t) fun e he =>
    (withTime_perKeyLedgers_eq_some.1 he).2).2
  rw [withTime_withTime] at h
  exact h.symm

end KeyLocal

/-- `delete_key` is an operation on the key it names. -/
theorem deleteKey_keyLocal (request : DeleteKeyRequest) :
    KeyLocal request.publicKeyId fun s : LedgerService τ =>
      ((s.deleteKey request).1.map Reply.deleteKey, (s.deleteKey request).2) :=
  ⟨fun s => by rw [deleteKey_state], fun s _ hj => deleteKey_frame s request hj,
    fun _ _ hk => ⟨by rw [(deleteKey_local request hk).1], (deleteKey_local request hk).2⟩,
    fun s e' he' => by simp [deleteKey_state] at he'⟩

/-- `revoke_access` is an operation on the key it names. -/
theorem revokeAccess_keyLocal (request : RevokeAccessRequest) :
    KeyLocal request.publicKeyId fun s : LedgerService τ =>
      ((s.revokeAccess env request).1.map Reply.revokeAccess, (s.revokeAccess env request).2) :=
  ⟨fun s => by rw [revokeAccess_state], fun s _ hj => revokeAccess_frame s request hj,
    fun _ _ hk => ⟨by rw [(revokeAccess_local request hk).1], (revokeAccess_local request hk).2⟩,
    fun s e' he' => by
      simp only [revokeAccess_state, if_true, Option.map_eq_some'] at he'
      obtain ⟨e, he, rfl⟩ := he'
      exact ⟨e, he, rfl⟩⟩

/-- The steps of `authorize_access` after the clock are an operation on the key its headers
name. -/
theorem authorizeWithTime_keyLocal {request : AuthorizeAccessRequest} {k : UInt32}
    (hname : ∀ header, env.decodeBlobHeader request.blobHeader = .ok header →
      header.publicKeyId = k) :
    KeyLocal k fun s : LedgerService τ => s.authorizeWithTime env request := by
  refine ⟨fun s => authorizeWithTime_currentTime s request, fun s j hj => ?_,
    fun _ _ hk => authorizeWithTime_local hk hname, fun s e' he' => ?_⟩
  · rcases hx : s.authorizeWithTime env request with ⟨res, s'⟩
    rcases authorizeWithTime_eq hx with
      ⟨_, -, rfl⟩ | ⟨_, header, _, _, _, _, _, _, -, hh, -, -, -, -, -, -, -, rfl⟩
    · rfl
    · simp [hname header hh, hj]
  · have hkeys : ((s.authorizeWithTime env request).2.perKeyLedgers k).map PerKeyLedger.keys =
        (s.perKeyLedgers k).map PerKeyLedger.keys := authorizeWithTime_keys s request k
    rw [he'] at hkeys
    obtain ⟨e, he, hke⟩ := Option.map_eq_some'.1 hkeys.symm
    exact ⟨e, he, congrArg (fun x => x.2.2) hke.symm⟩

/-- Key `k` outlives, in `s`, the time `now` parses to: a clock update to `now` keeps it. -/
def Survives (s : LedgerService τ) (k : UInt32) (now : Option Timestamp) : Prop :=
  ∀ t e, parseTimestamp now = .ok (.ok t) → s.perKeyLedgers k = some e → t < e.expiration

section Authorize

variable {request : AuthorizeAccessRequest} {s : LedgerService τ}

/-- At a `now` the clock accepts, `authorize_access` runs its remaining steps on the state with
the clock moved there. -/
theorem authorizeAccess_of_le {t : Duration} (hp : parseTimestamp request.now = .ok (.ok t))
    (ht : s.currentTime ≤ t) :
    s.authorizeAccess env request = .ok ((s.withTime t).authorizeWithTime env request) := by
  simp [authorizeAccess, updateCurrentTime_of_le hp ht]

/-- At a `now` the clock refuses, `authorize_access` changes nothing, and fails alike from every
state with the same clock. -/
theorem authorizeAccess_of_refused (env : Collaborators τ) {s₂ : LedgerService τ}
    (hc : s.currentTime = s₂.currentTime)
    (hrefused : ∀ t, parseTimestamp request.now = .ok (.ok t) → t < s.currentTime) :
    ∃ r, s.authorizeAccess env request = .ok (r, s) ∧
      s₂.authorizeAccess env request = .ok (r, s₂) := by
  obtain ⟨p, hp⟩ := parseTimestamp_ne_panic request.now
  rcases p with err | t
  · exact ⟨.error (.newWithMessage .invalidArgument
        ("`now` is invalid: " ++ env.toolchain.debugTryFromIntError err)),
      by simp [authorizeAccess, updateCurrentTime_of_error hp],
      by simp [authorizeAccess, updateCurrentTime_of_error hp]⟩
  · have ht := hrefused t hp
    exact ⟨.error (.newWithMessage .invalidArgument ("`now` is invalid: " ++
        "time must be monotonic")), by simp [authorizeAccess, updateCurrentTime_of_lt hp ht],
      by simp [authorizeAccess, updateCurrentTime_of_lt hp (hc ▸ ht)]⟩

/-- `authorize_access` on key `k₁` and an operation on another key `k₂` that outlives the
request's `now` commute: the call returns the same before and after the operation, the operation
returns the same before and after the call, and both orders end in the same state. -/
theorem authorizeAccess_comm_keyLocal {k₁ k₂ : UInt32} {g : LedgerService τ → α × LedgerService τ}
    (hname : ∀ header, env.decodeBlobHeader request.blobHeader = .ok header →
      header.publicKeyId = k₁)
    (hg : KeyLocal k₂ g) (hk : k₁ ≠ k₂) (hsurv : Survives s k₂ request.now) :
    ∃ r s₁ s₂, s.authorizeAccess env request = .ok (r, s₁) ∧
      (g s).2.authorizeAccess env request = .ok (r, s₂) ∧ g s₁ = ((g s).1, s₂) := by
  by_cases hacc : ∃ t, parseTimestamp request.now = .ok (.ok t) ∧ s.currentTime ≤ t
  · obtain ⟨t, hp, ht⟩ := hacc
    obtain ⟨hg₁, hg₂⟩ := hg.withTime fun e he => hsurv t e hp he
    obtain ⟨h₁, h₂, h₃⟩ := (authorizeWithTime_keyLocal hname).comm hg hk (s.withTime t)
    refine ⟨((s.withTime t).authorizeWithTime env request).1,
      ((s.withTime t).authorizeWithTime env request).2,
      ((g (s.withTime t)).2.authorizeWithTime env request).2, authorizeAccess_of_le hp ht, ?_, ?_⟩
    · rw [authorizeAccess_of_le hp (by rw [hg.clock]; exact ht), ← hg₂, ← h₂]
    · exact Prod.ext (h₁.trans hg₁) h₃
  · push_neg at hacc
    obtain ⟨r, h₁, h₂⟩ := authorizeAccess_of_refused env (hg.clock s).symm hacc
    exact ⟨r, s, (g s).2, h₁, h₂, rfl⟩

/-- Two `authorize_access` calls on different keys whose `now` parse alike commute: each returns
after the other what it returns first, and both orders end in the same state. -/
theorem authorizeAccess_comm {a b : AuthorizeAccessRequest} {k₁ k₂ : UInt32}
    (ha : ∀ header, env.decodeBlobHeader a.blobHeader = .ok header → header.publicKeyId = k₁)
    (hb : ∀ header, env.decodeBlobHeader b.blobHeader = .ok header → header.publicKeyId = k₂)
    (hk : k₁ ≠ k₂) (hnow : parseTimestamp a.now = parseTimestamp b.now) :
    ∃ ra rb sa sb s₂, s.authorizeAccess env a = .ok (ra, sa) ∧
      s.authorizeAccess env b = .ok (rb, sb) ∧ sa.authorizeAccess env b = .ok (rb, s₂) ∧
      sb.authorizeAccess env a = .ok (ra, s₂) := by
  by_cases hacc : ∃ t, parseTimestamp a.now = .ok (.ok t) ∧ s.currentTime ≤ t
  · obtain ⟨t, hp, ht⟩ := hacc
    have hA := authorizeWithTime_keyLocal (τ := τ) ha
    have hB := authorizeWithTime_keyLocal (τ := τ) hb
    obtain ⟨h₁, h₂, h₃⟩ := hA.comm hB hk (s.withTime t)
    have hle : ∀ s' : LedgerService τ, s'.currentTime = t → s'.currentTime ≤ t :=
      fun _ h => h.le
    have hA' : ((s.withTime t).authorizeWithTime env a).2.withTime t =
        ((s.withTime t).authorizeWithTime env a).2 := hA.withTime_after s t
    have hB' : ((s.withTime t).authorizeWithTime env b).2.withTime t =
        ((s.withTime t).authorizeWithTime env b).2 := hB.withTime_after s t
    refine ⟨((s.withTime t).authorizeWithTime env a).1, ((s.withTime t).authorizeWithTime env b).1,
      ((s.withTime t).authorizeWithTime env a).2, ((s.withTime t).authorizeWithTime env b).2,
      (((s.withTime t).authorizeWithTime env a).2.authorizeWithTime env b).2,
      authorizeAccess_of_le hp ht, authorizeAccess_of_le (hnow ▸ hp) ht, ?_, ?_⟩
    · rw [authorizeAccess_of_le (hnow ▸ hp) (hle _ (hA.clock _)), hA', ← h₁]
    · rw [authorizeAccess_of_le hp (hle _ (hB.clock _)), hB', h₃, ← h₂]
  · push_neg at hacc
    obtain ⟨ra, hA, -⟩ := authorizeAccess_of_refused env rfl hacc
    obtain ⟨rb, hB, -⟩ := authorizeAccess_of_refused env rfl fun t hp => hacc t (hnow ▸ hp)
    exact ⟨ra, rb, s, s, s, hA, hB, hB, hA⟩

end Authorize

/-- The call reads and writes no entry but the one under `k`: `delete_key` and `revoke_access`
name `k`, and every header `authorize_access` decodes names `k`. `create_key` draws its id against
every key and is on no single key. -/
def OnKey (env : Collaborators τ) (k : UInt32) : Call → Prop
  | .createKey .. => False
  | .deleteKey request => request.publicKeyId = k
  | .authorizeAccess request =>
    ∀ header, env.decodeBlobHeader request.blobHeader = .ok header → header.publicKeyId = k
  | .revokeAccess request => request.publicKeyId = k

/-- The clock lets calls on keys `k₁` and `k₂` pass each other in `s`: two calls that move the
clock do when their `now` parse alike, a call that moves it and one that does not when the other
call's key outlives the `now`, and two calls that leave the clock alone always do. -/
def ClockAgrees (s : LedgerService τ) (k₁ k₂ : UInt32) (c₁ c₂ : Call) : Prop :=
  match nowOf c₁, nowOf c₂ with
  | some now₁, some now₂ => parseTimestamp now₁ = parseTimestamp now₂
  | some now₁, none => Survives s k₂ now₁
  | none, some now₂ => Survives s k₁ now₂
  | none, none => True

/-- Two calls commute from `s`: both return from `s`, each returns after the other what it
returns from `s`, and both orders end in the same state. -/
def Commute (env : Collaborators τ) (s : LedgerService τ) (c₁ c₂ : Call) : Prop :=
  ∃ r₁ r₂ s₁ s₂ s₁₂, s.step env c₁ = .ok (r₁, s₁) ∧ s.step env c₂ = .ok (r₂, s₂) ∧
    s₁.step env c₂ = .ok (r₂, s₁₂) ∧ s₂.step env c₁ = .ok (r₁, s₁₂)

section Calls

variable {s : LedgerService τ} {c c₁ c₂ : Call} {k k₁ k₂ : UInt32}

/-- Commuting is symmetric. -/
theorem Commute.symm (h : Commute env s c₁ c₂) : Commute env s c₂ c₁ := by
  obtain ⟨r₁, r₂, s₁, s₂, s₁₂, h₁, h₂, h₁₂, h₂₁⟩ := h
  exact ⟨r₂, r₁, s₂, s₁, s₁₂, h₂, h₁, h₂₁, h₁₂⟩

/-- A call on one key is a `delete_key` or a `revoke_access`, which leaves the clock alone and
returns as an operation on that key, or an `authorize_access` whose headers name it. -/
theorem onKey_cases (h : OnKey env k c) :
    (∃ g : LedgerService τ → Except Status Reply × LedgerService τ, KeyLocal k g ∧
      nowOf c = none ∧ ∀ s : LedgerService τ, s.step env c = .ok (g s)) ∨
    ∃ request, c = .authorizeAccess request ∧
      ∀ header, env.decodeBlobHeader request.blobHeader = .ok header → header.publicKeyId = k := by
  cases c with
  | createKey => exact h.elim
  | deleteKey request =>
    subst h
    exact .inl ⟨_, deleteKey_keyLocal request, rfl, fun _ => rfl⟩
  | authorizeAccess request => exact .inr ⟨request, rfl, h⟩
  | revokeAccess request =>
    subst h
    exact .inl ⟨_, revokeAccess_keyLocal request, rfl, fun _ => rfl⟩

/-- A call that returns as an operation on key `k₁` commutes with an `authorize_access` on another
key `k₂` whose `now` key `k₁` outlives. -/
theorem commute_keyLocal_authorizeAccess
    {g : LedgerService τ → Except Status Reply × LedgerService τ} {request : AuthorizeAccessRequest}
    (hg : KeyLocal k₁ g) (hc : ∀ s : LedgerService τ, s.step env c = .ok (g s))
    (hname : ∀ header, env.decodeBlobHeader request.blobHeader = .ok header →
      header.publicKeyId = k₂)
    (hk : k₁ ≠ k₂) (hsurv : Survives s k₁ request.now) :
    Commute env s c (.authorizeAccess request) := by
  obtain ⟨r, sA, s₂, hA, hgA, hg'⟩ := authorizeAccess_comm_keyLocal hname hg hk.symm hsurv
  refine ⟨(g s).1, r.map .authorizeAccess, (g s).2, sA, s₂, hc s, ?_, ?_, ?_⟩
  · simp only [step, hA, Rust.map_ok]
  · simp only [step, hgA, Rust.map_ok]
  · rw [hc, hg']

/-- Calls on different keys commute, from any state and with any collaborators, when the clock
lets them pass each other (`ClockAgrees`). Both calls return from the state, each returns after
the other what it returns first, and both orders end in the same state. -/
theorem calls_on_distinct_keys_commute (h₁ : OnKey env k₁ c₁) (h₂ : OnKey env k₂ c₂)
    (hk : k₁ ≠ k₂) (hclock : ClockAgrees s k₁ k₂ c₁ c₂) : Commute env s c₁ c₂ := by
  rcases onKey_cases h₁ with ⟨f, hf, hn₁, hc₁⟩ | ⟨a, rfl, ha⟩ <;>
    rcases onKey_cases h₂ with ⟨g, hg, hn₂, hc₂⟩ | ⟨b, rfl, hb⟩
  · -- Neither call moves the clock.
    obtain ⟨hg₁, hf₁, hs⟩ := hf.comm hg hk s
    refine ⟨(f s).1, (g s).1, (f s).2, (g s).2, (g (f s).2).2, hc₁ s, hc₂ s, ?_, ?_⟩
    · rw [hc₂, ← hg₁]
    · rw [hc₁, hs, ← hf₁]
  · -- Only the second call moves the clock, to a `now` the first key outlives.
    simp only [ClockAgrees, hn₁] at hclock
    exact commute_keyLocal_authorizeAccess hf hc₁ hb hk hclock
  · -- Only the first call moves the clock, to a `now` the second key outlives.
    simp only [ClockAgrees, hn₂] at hclock
    exact (commute_keyLocal_authorizeAccess hg hc₂ ha hk.symm hclock).symm
  · -- Both calls move the clock, to `now` values that parse alike.
    simp only [ClockAgrees, nowOf] at hclock
    obtain ⟨ra, rb, sa, sb, s₂, hA, hB, hAB, hBA⟩ := authorizeAccess_comm (s := s) ha hb hk hclock
    refine ⟨ra.map .authorizeAccess, rb.map .authorizeAccess, sa, sb, s₂, ?_, ?_, ?_, ?_⟩ <;>
      simp only [step, hA, hB, hAB, hBA, Rust.map_ok]

/-- Reordering a run: two adjacent calls on different keys that the clock lets pass each other
can be swapped. The swapped sequence is again a run from the same start to the same end, each
call returning what it returned, and only the state between the two changes. -/
theorem Steps.swap_independent {s s₂ : LedgerService τ} {before after : List (Event τ)}
    {ev₁ ev₂ : Event τ} (hrun : Steps env s (before ++ ev₁ :: ev₂ :: after) s₂)
    (h₁ : OnKey env k₁ ev₁.call) (h₂ : OnKey env k₂ ev₂.call) (hk : k₁ ≠ k₂)
    (hclock : ClockAgrees ev₁.before k₁ k₂ ev₁.call ev₂.call) :
    ∃ mid, Steps env s (before ++ ⟨ev₁.before, ev₂.call, ev₂.reply, mid⟩ ::
      ⟨mid, ev₁.call, ev₁.reply, ev₂.after⟩ :: after) s₂ := by
  obtain ⟨s₀, hbefore, hpair⟩ := Steps.append_iff.1 hrun
  rcases hpair with _ | ⟨hstep₁, _ | ⟨hstep₂, hafter⟩⟩
  obtain ⟨r₁, r₂, s₁, mid, s₁₂, h₁', h₂', h₁₂, h₂₁⟩ :=
    calls_on_distinct_keys_commute h₁ h₂ hk hclock
  -- The run's own first step is the diamond's, so its second step is too.
  obtain ⟨rfl, rfl⟩ := Prod.mk.inj (Rust.ok.inj (hstep₁.symm.trans h₁'))
  obtain ⟨rfl, rfl⟩ := Prod.mk.inj (Rust.ok.inj (hstep₂.symm.trans h₁₂))
  exact ⟨mid, Steps.append_iff.2 ⟨s₀, hbefore, .cons h₂' (.cons h₂₁ hafter)⟩⟩

end Calls

/-- The sample request for key `1` at `1000 s`: its header `[1]` names key `1`, and its policy
bytes `[1]` have the header's digest. -/
def sampleRequestKeyOne : AuthorizeAccessRequest :=
  { sampleAuthorizeRequest with blobHeader := [1], accessPolicy := [1] }

/-- With keys `0` and `1` live, the sample requests for key `0` and for key `1`, both at `1000 s`,
are both granted, and can be swapped. -/
theorem swap_independent_at_sample :
    ∃ (ev₁ ev₂ : Event BudgetTracker) (s₂ : LedgerService BudgetTracker),
      Steps sampleCollaborators sampleTwoKeyState ([] ++ ev₁ :: ev₂ :: []) s₂ ∧
      (∃ r₁, ev₁.reply = .ok r₁) ∧ (∃ r₂, ev₂.reply = .ok r₂) ∧
      OnKey sampleCollaborators 0 ev₁.call ∧ OnKey sampleCollaborators 1 ev₂.call ∧
      (0 : UInt32) ≠ 1 ∧ ClockAgrees ev₁.before 0 1 ev₁.call ev₂.call ∧
      ∃ mid, Steps sampleCollaborators sampleTwoKeyState
        ([] ++ ⟨ev₁.before, ev₂.call, ev₂.reply, mid⟩ ::
          ⟨mid, ev₁.call, ev₁.reply, ev₂.after⟩ :: []) s₂ := by
  have h₁ : OnKey sampleCollaborators 0 (.authorizeAccess sampleAuthorizeRequest) := by
    intro header hh
    cases hh
    rfl
  have h₂ : OnKey sampleCollaborators 1 (.authorizeAccess sampleRequestKeyOne) := by
    intro header hh
    cases hh
    rfl
  have hrun : Steps sampleCollaborators sampleTwoKeyState ([] ++ [_, _]) _ :=
    .cons (c := .authorizeAccess sampleAuthorizeRequest) (r := .ok (.authorizeAccess ⟨[2], [1], [7]⟩))
      rfl (.cons (c := .authorizeAccess sampleRequestKeyOne)
        (r := .ok (.authorizeAccess ⟨[2], [1], [8]⟩)) rfl (.nil _))
  exact ⟨_, _, _, hrun, ⟨_, rfl⟩, ⟨_, rfl⟩, h₁, h₂, by decide, rfl,
    Steps.swap_independent hrun h₁ h₂ (by decide) rfl⟩

end ConfidentialLedger.Independence
