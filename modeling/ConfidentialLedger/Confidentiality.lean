import ConfidentialLedger.Lifecycle

/-!
# Private keys are opaque to the ledger

The ledger holds the private key of every live key, and the only thing it does with one is hand
it to `rewrap_symmetric_key`. It never returns a private key, and never lets one decide a key id,
an eviction, a budget, an error or a reply. Stated as a renaming: rename every private key by any
function `φ`, in the state and in the key pairs `create_key` is given, and let the re-wrap see the
keys as before. Then every call returns what it returned, and leaves the renamed state; so every
run of the service is, renamed, again a run with the same replies. What the re-wrap does with a
key is its own business and stays outside.
-/

namespace ConfidentialLedger.Service

variable {τ : Type} (φ : PrivateKey → PrivateKey)

/-- The per-key ledger with its private key renamed by `φ`. -/
def PerKeyLedger.renamePrivate (e : PerKeyLedger τ) : PerKeyLedger τ :=
  { e with privateKey := φ e.privateKey }

/-- The state with every private key renamed by `φ`. -/
def LedgerService.renamePrivate (s : LedgerService τ) : LedgerService τ :=
  { s with perKeyLedgers := fun k => (s.perKeyLedgers k).map (PerKeyLedger.renamePrivate φ) }

/-- The call with the private key of the key pair `create_key` is given renamed by `φ`. -/
def Call.renamePrivate : Call → Call
  | .createKey request draws keypair => .createKey request draws (φ keypair.1, keypair.2)
  | c => c

/-- The collaborators with a re-wrap that renames the private key by `φ` before using it. -/
def Collaborators.renamePrivate (env : Collaborators τ) : Collaborators τ :=
  { env with
    rewrapSymmetricKey := fun encryptedSymmetricKey encapsulatedKey privateKey
        unwrapAssociatedData recipientPublicKey wrapAssociatedData =>
      env.rewrapSymmetricKey encryptedSymmetricKey encapsulatedKey (φ privateKey)
        unwrapAssociatedData recipientPublicKey wrapAssociatedData }

/-- The event with its states and call renamed by `φ`, and the same reply. -/
def Event.renamePrivate (ev : Event τ) : Event τ :=
  ⟨ev.before.renamePrivate φ, ev.call.renamePrivate φ, ev.reply, ev.after.renamePrivate φ⟩

@[simp] theorem Collaborators.renamePrivate_toolchain (env : Collaborators τ) :
    (env.renamePrivate φ).toolchain = env.toolchain := rfl

@[simp] theorem LedgerService.renamePrivate_currentTime (s : LedgerService τ) :
    (s.renamePrivate φ).currentTime = s.currentTime := rfl

@[simp] theorem LedgerService.renamePrivate_perKeyLedgers (s : LedgerService τ) (k : UInt32) :
    (s.renamePrivate φ).perKeyLedgers k = (s.perKeyLedgers k).map (PerKeyLedger.renamePrivate φ) :=
  rfl

end ConfidentialLedger.Service

namespace ConfidentialLedger.Confidentiality

open Core Proto Budget Service Effects Clock Lifecycle
open Service.LedgerService

variable {τ : Type} {env : Collaborators τ} (φ : PrivateKey → PrivateKey)

/-- Renaming the private keys commutes with the clock update's eviction. -/
theorem withTime_renamePrivate (s : LedgerService τ) (t : Duration) :
    (s.renamePrivate φ).withTime t = (s.withTime t).renamePrivate φ := by
  ext1
  · rfl
  · funext k
    simp only [withTime_perKeyLedgers, renamePrivate_perKeyLedgers]
    cases s.perKeyLedgers k <;> simp [Option.filter, PerKeyLedger.renamePrivate]

/-- Renaming the private keys commutes with an insert, which inserts the renamed entry. -/
theorem renamePrivate_insert (s : LedgerService τ) (k : UInt32) (e : PerKeyLedger τ) :
    { s with perKeyLedgers := mapInsert s.perKeyLedgers k e }.renamePrivate φ =
      { s.renamePrivate φ with
        perKeyLedgers := mapInsert (s.renamePrivate φ).perKeyLedgers k (e.renamePrivate φ) } := by
  ext1
  · rfl
  · funext j
    by_cases hj : j = k <;> simp [hj]

/-- The clock update reads no private key. -/
theorem updateCurrentTime_renamePrivate (s : LedgerService τ) (toolchain : Toolchain)
    (now : Option Timestamp) :
    (s.renamePrivate φ).updateCurrentTime toolchain now =
      (fun p => (p.1, p.2.renamePrivate φ)) <$> s.updateCurrentTime toolchain now := by
  obtain ⟨p, hp⟩ := parseTimestamp_ne_panic now
  rcases p with err | t
  · rw [updateCurrentTime_of_error hp, updateCurrentTime_of_error hp]
    rfl
  by_cases ht : t < s.currentTime
  · have ht' : t < (s.renamePrivate φ).currentTime := ht
    rw [updateCurrentTime_of_lt hp ht', updateCurrentTime_of_lt hp ht]
    rfl
  · have ht' : (s.renamePrivate φ).currentTime ≤ t := not_lt.1 ht
    rw [updateCurrentTime_of_le hp ht', updateCurrentTime_of_le hp (not_lt.1 ht),
      withTime_renamePrivate]
    rfl

/-- The key-id loop reads only which ids are taken. -/
theorem drawKeyId_renamePrivate (s : LedgerService τ) (draws : List UInt32) :
    drawKeyId (s.renamePrivate φ).perKeyLedgers draws = drawKeyId s.perKeyLedgers draws := by
  induction draws with
  | nil => rfl
  | cons d ds ih => simp [drawKeyId, ih]

/-- `create_key` up to its insert stores the key pair it is given and reads no private key. -/
theorem createKeyEntry_renamePrivate (s : LedgerService τ) (request : CreateKeyRequest)
    (draws : List UInt32) (keypair : PrivateKey × Bytes) :
    (s.renamePrivate φ).createKeyEntry env request draws (φ keypair.1, keypair.2) =
      (fun p => (p.1, p.2.renamePrivate φ)) <$>
        s.createKeyEntry (env.renamePrivate φ) request draws keypair := by
  simp only [createKeyEntry, updateCurrentTime_renamePrivate, Collaborators.renamePrivate_toolchain,
    Rust.bind_map, Rust.map_bind]
  congr 1
  funext ⟨res, s'⟩
  rcases res with err | ⟨⟩
  · rfl
  rcases parseDuration env.toolchain request.ttl with (err | ttl) | _ | _
  · simp only [Rust.ok_bind, Rust.map_ok]
    rfl
  rotate_left
  · rfl
  · rfl
  simp only [Rust.ok_bind, renamePrivate_currentTime, drawKeyId_renamePrivate, Rust.map_bind]
  rcases s'.currentTime.add ttl with expiration | _ | _ <;> try rfl
  rcases drawKeyId s'.perKeyLedgers draws with keyId | _ | _ <;> try rfl
  simp only [Rust.ok_bind, Rust.pure_eq, Rust.map_ok]
  rw [renamePrivate_insert]
  rfl

/-- `create_key` reads no private key, and returns only the public key of the pair. -/
theorem createKey_renamePrivate (s : LedgerService τ) (request : CreateKeyRequest)
    (draws : List UInt32) (keypair : PrivateKey × Bytes) :
    (s.renamePrivate φ).createKey env request draws (φ keypair.1, keypair.2) =
      (fun p => (p.1, p.2.renamePrivate φ)) <$>
        s.createKey (env.renamePrivate φ) request draws keypair := by
  simp only [createKey, createKeyEntry_renamePrivate, Collaborators.renamePrivate_toolchain,
    Rust.bind_map, Rust.map_bind]
  congr 1
  funext ⟨res, s'⟩
  rcases res with st | ⟨keyId, expiration⟩
  · rfl
  simp only [renamePrivate_currentTime, Rust.map_bind]
  rcases publicKeyDetails env.toolchain keyId s'.currentTime expiration with d | _ | _ <;> try rfl
  rcases d <;> rfl

/-- `delete_key` reads no private key. -/
theorem deleteKey_renamePrivate (s : LedgerService τ) (request : DeleteKeyRequest) :
    (s.renamePrivate φ).deleteKey request =
      ((s.deleteKey request).1, (s.deleteKey request).2.renamePrivate φ) := by
  refine Prod.ext (by simp [deleteKey_reply]) ?_
  rw [deleteKey_state, deleteKey_state]
  ext1
  · rfl
  · funext j
    by_cases hj : j = request.publicKeyId <;> simp [hj]

/-- `revoke_access` reads no private key. -/
theorem revokeAccess_renamePrivate (s : LedgerService τ) (request : RevokeAccessRequest) :
    (s.renamePrivate φ).revokeAccess env request =
      ((s.revokeAccess (env.renamePrivate φ) request).1,
        (s.revokeAccess (env.renamePrivate φ) request).2.renamePrivate φ) := by
  refine Prod.ext (by simp [revokeAccess_reply]) ?_
  rw [revokeAccess_state, revokeAccess_state]
  ext1
  · rfl
  · funext j
    by_cases hj : j = request.publicKeyId <;>
      simp [hj, Option.map_map, Function.comp_def, PerKeyLedger.renamePrivate,
        Collaborators.renamePrivate]

/-- The steps of `authorize_access` after the clock hand the private key to the re-wrap and use
it nowhere else. -/
theorem authorizeWithTime_renamePrivate (s : LedgerService τ) (request : AuthorizeAccessRequest) :
    (s.renamePrivate φ).authorizeWithTime env request =
      ((s.authorizeWithTime (env.renamePrivate φ) request).1,
        (s.authorizeWithTime (env.renamePrivate φ) request).2.renamePrivate φ) := by
  unfold authorizeWithTime
  simp only [Collaborators.renamePrivate]
  -- Up to the key lookup the two sides take the same branch and change nothing.
  split
  · rfl
  split
  · rfl
  rename_i header _
  split_ifs
  · rfl
  split
  · rfl
  rw [renamePrivate_perKeyLedgers]
  rcases s.perKeyLedgers header.publicKeyId with _ | e
  · rfl
  -- From the lookup on, the renamed key goes to the re-wrap, and the entry written back is renamed.
  simp only [Option.map_some', PerKeyLedger.renamePrivate]
  split
  · rfl
  split
  · rfl
  split
  · rfl
  rw [renamePrivate_insert]
  rfl

/-- `authorize_access` hands the private key to the re-wrap and uses it nowhere else. -/
theorem authorizeAccess_renamePrivate (s : LedgerService τ) (request : AuthorizeAccessRequest) :
    (s.renamePrivate φ).authorizeAccess env request =
      (fun p => (p.1, p.2.renamePrivate φ)) <$>
        s.authorizeAccess (env.renamePrivate φ) request := by
  simp only [authorizeAccess, updateCurrentTime_renamePrivate,
    Collaborators.renamePrivate_toolchain, Rust.bind_map, Rust.map_bind]
  congr 1
  funext ⟨res, s'⟩
  rcases res with err | ⟨⟩
  · rfl
  simp only [Rust.pure_eq, Rust.map_ok, authorizeWithTime_renamePrivate]

/-- One call on the renamed state returns what the call returns where the re-wrap renames, and
leaves the renamed state. -/
theorem step_renamePrivate (s : LedgerService τ) (c : Call) :
    (s.renamePrivate φ).step env (c.renamePrivate φ) =
      (fun p => (p.1, p.2.renamePrivate φ)) <$> s.step (env.renamePrivate φ) c := by
  cases c with
  | createKey request draws keypair =>
    simp only [step, Call.renamePrivate, createKey_renamePrivate]
    rcases s.createKey (env.renamePrivate φ) request draws keypair with _ | _ | _ <;> rfl
  | deleteKey request =>
    simp only [step, Call.renamePrivate, deleteKey_renamePrivate]
    rfl
  | authorizeAccess request =>
    simp only [step, Call.renamePrivate, authorizeAccess_renamePrivate]
    rcases s.authorizeAccess (env.renamePrivate φ) request with _ | _ | _ <;> rfl
  | revokeAccess request =>
    simp only [step, Call.renamePrivate, revokeAccess_renamePrivate]
    rfl

/-- Private keys are opaque to the ledger. Renaming private keys by any `φ` in the states and
calls of a run whose re-wrap sees them renamed gives a run of the service itself with the same
replies. So a private key decides no key id, eviction, budget, error or reply, and reaches a reply
only through the re-wrap's result. -/
theorem Steps.privateKeys_opaque {s s₂ : LedgerService τ} {evs : List (Event τ)}
    (hrun : Steps (env.renamePrivate φ) s evs s₂) :
    Steps env (s.renamePrivate φ) (evs.map (Event.renamePrivate φ)) (s₂.renamePrivate φ) := by
  induction hrun with
  | nil s => exact .nil _
  | cons hstep _ ih => exact .cons (by rw [step_renamePrivate, hstep]; rfl) ih

/-- Any private key renamed to `[9]`: a `create_key` and the sample `authorize_access` from
`LedgerService::new()`, under the sample collaborators, whose re-wrap ignores the key. -/
theorem privateKeys_opaque_at_sample :
    ∃ (evs : List (Event BudgetTracker)) (s₂ : LedgerService BudgetTracker),
      Steps (sampleCollaborators.renamePrivate fun _ => ⟨[9]⟩) LedgerService.new evs s₂ ∧
        evs.length = 2 ∧
        Steps sampleCollaborators (LedgerService.new.renamePrivate fun _ => ⟨[9]⟩)
          (evs.map (Event.renamePrivate fun _ => ⟨[9]⟩)) (s₂.renamePrivate fun _ => ⟨[9]⟩) := by
  have hcreate : LedgerService.new.step (sampleCollaborators.renamePrivate fun _ => ⟨[9]⟩)
      (.createKey ⟨some timestamp1000, some durationHour⟩ [0] (⟨[]⟩, [7])) = .ok (_, _) := rfl
  have hrun : Steps (sampleCollaborators.renamePrivate fun _ => ⟨[9]⟩) LedgerService.new
      [_, _] _ :=
    .cons hcreate (.cons (c := .authorizeAccess sampleAuthorizeRequest) rfl (.nil _))
  exact ⟨_, _, hrun, rfl, Steps.privateKeys_opaque _ hrun⟩

end ConfidentialLedger.Confidentiality
