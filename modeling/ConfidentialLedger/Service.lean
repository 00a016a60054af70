import ConfidentialLedger.Budget

/-!
# The ledger service

`LedgerService` of `ledger.rs`: a clock and a map from key ids to per-key ledgers, with the four
operations of the `Ledger` trait and the helpers they call, translated as the code computes them.
A `&mut self` method returns its new receiver next to its Rust `Result`, inside the `Rust`
outcome, so an early `?` return keeps the changes made before it and a panic keeps none.

The crates the ledger calls are its collaborators: attestation, the two decoders, SHA-256,
re-wrapping and the budget tracker, and with them the toolchain it was built with. Each is an
arbitrary function of its inputs, and every result holds for all of them; the re-wrap, which
seals with fresh randomness, is thus taken as one fixed choice of that randomness per input.
`OsRng` and `gen_keypair` are inputs of `create_key`. A run is a
list of calls that returned, each with the states around it; a panic, or a loop that does not
exit, ends the run.
-/

namespace ConfidentialLedger.Service

open Core Proto Budget

/-- `cfc_crypto::PrivateKey`, opaque to the ledger. -/
structure PrivateKey where
  /-- The key material. -/
  bytes : Bytes
  deriving DecidableEq, Repr

/-- The collaborators of `ledger.rs` that are not among the sources. -/
structure Collaborators (τ : Type) where
  /-- `budget::BudgetTracker`, by its contract. -/
  budget : BudgetOps τ
  /-- `attestation::verify_attestation(public_key, attestation, tag)`. -/
  verifyAttestation : Bytes → Bytes → String → Except String Application
  /-- `BlobHeader::decode`. -/
  decodeBlobHeader : Bytes → Except String BlobHeader
  /-- `DataAccessPolicy::decode`. -/
  decodeDataAccessPolicy : Bytes → Except String DataAccessPolicy
  /-- `Sha256::digest`. -/
  sha256 : Bytes → Bytes
  /-- `cfc_crypto::rewrap_symmetric_key(encrypted_symmetric_key, encapsulated_key, private_key,
  unwrap_associated_data, recipient_public_key, wrap_associated_data)`. -/
  rewrapSymmetricKey : Bytes → Bytes → PrivateKey → Bytes → Bytes → Bytes →
    Except String (Bytes × Bytes)
  /-- The toolchain the ledger was built with. -/
  toolchain : Toolchain

/-- `PerKeyLedger`: one live key pair with its expiration and budget tracker. -/
structure PerKeyLedger (τ : Type) where
  /-- The `private_key` field. -/
  privateKey : PrivateKey
  /-- The `public_key` field. -/
  publicKey : Bytes
  /-- The `expiration` field, a duration since the Unix epoch. -/
  expiration : Duration
  /-- The `budget_tracker` field. -/
  budgetTracker : τ

/-- What a per-key ledger holds besides its budget tracker: the key pair and the expiration. -/
def PerKeyLedger.keys {τ : Type} (e : PerKeyLedger τ) : PrivateKey × Bytes × Duration :=
  (e.privateKey, e.publicKey, e.expiration)

/-- `BTreeMap::insert` on a map given by its lookup function. -/
def mapInsert {V : Type} (m : UInt32 → Option V) (k : UInt32) (v : V) : UInt32 → Option V :=
  fun j => if j = k then some v else m j

/-- `BTreeMap::remove` on a map given by its lookup function. -/
def mapRemove {V : Type} (m : UInt32 → Option V) (k : UInt32) : UInt32 → Option V :=
  fun j => if j = k then none else m j

/-- `BTreeMap::retain` on a map given by its lookup function. -/
def mapRetain {V : Type} (m : UInt32 → Option V) (p : UInt32 → V → Bool) : UInt32 → Option V :=
  fun j => (m j).filter (p j)

@[simp] theorem mapInsert_apply {V : Type} (m : UInt32 → Option V) (k j : UInt32) (v : V) :
    mapInsert m k v j = if j = k then some v else m j := rfl

@[simp] theorem mapRemove_apply {V : Type} (m : UInt32 → Option V) (k j : UInt32) :
    mapRemove m k j = if j = k then none else m j := rfl

@[simp] theorem mapRetain_apply {V : Type} (m : UInt32 → Option V) (p : UInt32 → V → Bool)
    (j : UInt32) : mapRetain m p j = (m j).filter (p j) := rfl

/-- `LedgerService`: the clock and the per-key ledgers. -/
@[ext] structure LedgerService (τ : Type) where
  /-- The `current_time` field, a duration since the Unix epoch. -/
  currentTime : Duration
  /-- The `per_key_ledgers` map, by key id. -/
  perKeyLedgers : UInt32 → Option (PerKeyLedger τ)

/-- The calls a run is made of, each with the inputs its result depends on. -/
inductive Call where
  /-- `create_key`, with the values `OsRng` draws and the key pair `gen_keypair` returns. -/
  | createKey (request : CreateKeyRequest) (draws : List UInt32) (keypair : PrivateKey × Bytes)
  /-- `delete_key`. -/
  | deleteKey (request : DeleteKeyRequest)
  /-- `authorize_access`. -/
  | authorizeAccess (request : AuthorizeAccessRequest)
  /-- `revoke_access`. -/
  | revokeAccess (request : RevokeAccessRequest)

/-- The responses of the four calls. -/
inductive Reply where
  | createKey (response : CreateKeyResponse)
  | deleteKey (response : DeleteKeyResponse)
  | authorizeAccess (response : AuthorizeAccessResponse)
  | revokeAccess (response : RevokeAccessResponse)

namespace LedgerService

variable {τ : Type}

/-- `LedgerService::new()`: the default service, at time zero with no keys. -/
def new : LedgerService τ := ⟨Duration.zero, fun _ => none⟩

/-- `LedgerService::parse_timestamp`: a proto timestamp as a duration since the Unix epoch. An
absent timestamp is zero; negative seconds or nanoseconds fail the integer conversions. -/
def parseTimestamp (timestamp : Option Timestamp) : Rust (Except TryFromIntError Duration) :=
  match timestamp with
  | none => pure (.ok Duration.zero)
  | some ts =>
    if ts.seconds.val < 0 then pure (.error {})
    else if ts.nanos.val < 0 then pure (.error {})
    else .ok <$> Duration.new ts.seconds.val.toNat ts.nanos.val.toNat

/-- `LedgerService::parse_duration`: an absent duration is zero. -/
def parseDuration (toolchain : Toolchain) (duration : Option ProtoDuration) :
    Rust (Except DurationError Duration) :=
  match duration with
  | none => pure (.ok Duration.zero)
  | some d => d.toDuration toolchain

/-- The two assignments of `update_current_time` once `now` is accepted: the clock moves to
`now`, and every key with `expiration ≤ now` is dropped. -/
def withTime (self : LedgerService τ) (now : Duration) : LedgerService τ :=
  { currentTime := now
    perKeyLedgers := mapRetain self.perKeyLedgers fun _ v => decide (v.expiration > now) }

@[simp] theorem withTime_currentTime (self : LedgerService τ) (now : Duration) :
    (self.withTime now).currentTime = now := rfl

@[simp] theorem withTime_perKeyLedgers (self : LedgerService τ) (now : Duration) (k : UInt32) :
    (self.withTime now).perKeyLedgers k =
      (self.perKeyLedgers k).filter fun v => decide (v.expiration > now) := rfl

/-- `LedgerService::update_current_time`: parse `now`, refuse a clock that goes back, then move
the clock and evict the expired keys. A parse error becomes the `anyhow` error of its `Debug`
text. -/
def updateCurrentTime (self : LedgerService τ) (toolchain : Toolchain) (now : Option Timestamp) :
    Rust (Except String Unit × LedgerService τ) :=
  parseTimestamp now >>= fun
  | .error err => pure (.error (toolchain.debugTryFromIntError err), self)
  | .ok now =>
    if now < self.currentTime then pure (.error "time must be monotonic", self)
    else pure (.ok (), self.withTime now)

/-- The `while` loop of `create_key`: draw key ids until one is absent from the map. `draws` are
the values `OsRng.next_u32` returns; while every draw is taken, the loop does not exit. -/
def drawKeyId (m : UInt32 → Option (PerKeyLedger τ)) : List UInt32 → Rust UInt32
  | [] => .div
  | keyId :: draws => if (m keyId).isSome then drawKeyId m draws else .ok keyId

/-- `create_key` up to the insert of the new `PerKeyLedger`: advance the clock, parse `ttl`,
add it to the clock, find a free key id and insert the new key. Returns the key id and its
expiration, or the status of an early return. -/
def createKeyEntry (env : Collaborators τ) (self : LedgerService τ) (request : CreateKeyRequest)
    (draws : List UInt32) (keypair : PrivateKey × Bytes) :
    Rust (Except Status (UInt32 × Duration) × LedgerService τ) :=
  self.updateCurrentTime env.toolchain request.now >>= fun
  | (.error err, self) =>
    pure (.error (.newWithMessage .invalidArgument ("`now` is invalid: " ++ err)), self)
  | (.ok (), self) =>
    parseDuration env.toolchain request.ttl >>= fun
    | .error err =>
      pure (.error (.newWithMessage .invalidArgument
        ("`ttl` is invalid: " ++ err.debug env.toolchain)), self)
    | .ok ttl =>
      self.currentTime.add ttl >>= fun expiration =>
      drawKeyId self.perKeyLedgers draws >>= fun keyId =>
      pure (.ok (keyId, expiration),
        { self with
          perKeyLedgers := mapInsert self.perKeyLedgers keyId
            ⟨keypair.1, keypair.2, expiration, env.budget.new⟩ })

/-- The `PublicKeyDetails` that `create_key` builds, field by field in source order: the issued
time's seconds and nanoseconds are `unwrap`ped into `i64` and `i32`, the expiration's seconds
return an error when they do not fit an `i64`, and its nanoseconds are `unwrap`ped. -/
def publicKeyDetails (toolchain : Toolchain) (keyId : UInt32)
    (currentTime expiration : Duration) : Rust (Except Status PublicKeyDetails) :=
  Rust.unwrap toolchain.debugTryFromIntError (I64.tryFrom currentTime.secs) >>= fun issuedSeconds =>
  Rust.unwrap toolchain.debugTryFromIntError (I32.tryFrom currentTime.nanos) >>= fun issuedNanos =>
  match I64.tryFrom expiration.secs with
  | .error _ => pure (.error (.newWithMessage .invalidArgument "`now` + `ttl` overflowed"))
  | .ok expirationSeconds =>
    Rust.unwrap toolchain.debugTryFromIntError (I32.tryFrom expiration.nanos) >>=
      fun expirationNanos =>
        pure (.ok ⟨keyId, some ⟨issuedSeconds, issuedNanos⟩,
          some ⟨expirationSeconds, expirationNanos⟩⟩)

/-- `Ledger::create_key`. -/
def createKey (env : Collaborators τ) (self : LedgerService τ) (request : CreateKeyRequest)
    (draws : List UInt32) (keypair : PrivateKey × Bytes) :
    Rust (Except Status CreateKeyResponse × LedgerService τ) :=
  self.createKeyEntry env request draws keypair >>= fun
  | (.error status, self) => pure (.error status, self)
  | (.ok (keyId, expiration), self) =>
    publicKeyDetails env.toolchain keyId self.currentTime expiration >>= fun
    | .error status => pure (.error status, self)
    | .ok details => pure (.ok ⟨keypair.2, details, []⟩, self)

/-- `Ledger::delete_key`. -/
def deleteKey (self : LedgerService τ) (request : DeleteKeyRequest) :
    Except Status DeleteKeyResponse × LedgerService τ :=
  match self.perKeyLedgers request.publicKeyId with
  | some _ => (.ok {}, { self with perKeyLedgers := mapRemove self.perKeyLedgers request.publicKeyId })
  | none => (.error (.newWithMessage .notFound "public key not found"), self)

/-- Steps 2 to 10 of `authorize_access`, after the clock update: verify the attestation, decode
the header, check the policy digest, decode the policy, find the per-key ledger, select a
transform, re-wrap the symmetric key, and only then update the budget. -/
def authorizeWithTime (env : Collaborators τ) (self : LedgerService τ)
    (request : AuthorizeAccessRequest) : Except Status AuthorizeAccessResponse × LedgerService τ :=
  match env.verifyAttestation request.recipientPublicKey request.recipientAttestation
      request.recipientTag with
  | .error err =>
    (.error (.newWithMessage .invalidArgument ("attestation validation failed: " ++ err)), self)
  | .ok recipientApp =>
  match env.decodeBlobHeader request.blobHeader with
  | .error err =>
    (.error (.newWithMessage .invalidArgument ("failed to parse blob header: " ++ err)), self)
  | .ok header =>
  if env.sha256 request.accessPolicy ≠ header.accessPolicySha256 then
    (.error (.newWithMessage .invalidArgument "access policy does not match blob header"), self)
  else
  match env.decodeDataAccessPolicy request.accessPolicy with
  | .error err =>
    (.error (.newWithMessage .invalidArgument ("failed to parse access policy: " ++ err)), self)
  | .ok accessPolicy =>
  match self.perKeyLedgers header.publicKeyId with
  | none => (.error (.newWithMessage .notFound "public key not found"), self)
  | some perKeyLedger =>
  match env.budget.findMatchingTransform perKeyLedger.budgetTracker header.blobId
      header.accessPolicyNodeId accessPolicy header.accessPolicySha256 recipientApp with
  | .error status => (.error status, self)
  | .ok transformIndex =>
  match env.rewrapSymmetricKey request.encryptedSymmetricKey request.encapsulatedKey
      perKeyLedger.privateKey request.blobHeader request.recipientPublicKey
      (perKeyLedger.publicKey ++ request.recipientNonce) with
  | .error err =>
    (.error (.newWithMessage .invalidArgument ("failed to re-wrap symmetric key: " ++ err)), self)
  | .ok (encapsulatedKey, encryptedSymmetricKey) =>
  match env.budget.updateBudget perKeyLedger.budgetTracker header.blobId transformIndex
      accessPolicy header.accessPolicySha256 with
  | .error status => (.error status, self)
  | .ok budgetTracker =>
    (.ok ⟨encapsulatedKey, encryptedSymmetricKey, perKeyLedger.publicKey⟩,
      { self with
        perKeyLedgers := mapInsert self.perKeyLedgers header.publicKeyId
          { perKeyLedger with budgetTracker := budgetTracker } })

/-- `Ledger::authorize_access`. -/
def authorizeAccess (env : Collaborators τ) (self : LedgerService τ)
    (request : AuthorizeAccessRequest) :
    Rust (Except Status AuthorizeAccessResponse × LedgerService τ) :=
  self.updateCurrentTime env.toolchain request.now >>= fun
  | (.error err, self) =>
    pure (.error (.newWithMessage .invalidArgument ("`now` is invalid: " ++ err)), self)
  | (.ok (), self) => pure (self.authorizeWithTime env request)

/-- `Ledger::revoke_access`. -/
def revokeAccess (env : Collaborators τ) (self : LedgerService τ)
    (request : RevokeAccessRequest) : Except Status RevokeAccessResponse × LedgerService τ :=
  match self.perKeyLedgers request.publicKeyId with
  | none => (.error (.newWithMessage .notFound "public key not found"), self)
  | some perKeyLedger =>
    (.ok {}, { self with
      perKeyLedgers := mapInsert self.perKeyLedgers request.publicKeyId
        { perKeyLedger with
          budgetTracker := env.budget.consumeBudget perKeyLedger.budgetTracker request.blobId } })

/-- One call of the service. -/
def step (env : Collaborators τ) (self : LedgerService τ) :
    Call → Rust (Except Status Reply × LedgerService τ)
  | .createKey request draws keypair =>
    (fun r => (r.1.map .createKey, r.2)) <$> self.createKey env request draws keypair
  | .deleteKey request =>
    pure ((self.deleteKey request).1.map .deleteKey, (self.deleteKey request).2)
  | .authorizeAccess request =>
    (fun r => (r.1.map .authorizeAccess, r.2)) <$> self.authorizeAccess env request
  | .revokeAccess request =>
    pure ((self.revokeAccess env request).1.map .revokeAccess, (self.revokeAccess env request).2)

end LedgerService

/-- One call of a run: the state before it, the call, its result and the state after it. -/
structure Event (τ : Type) where
  /-- The state the call started in. -/
  before : LedgerService τ
  /-- The call. -/
  call : Call
  /-- What the call returned. -/
  reply : Except Status Reply
  /-- The state the call left. -/
  after : LedgerService τ

/-- `Steps env s events s'`: the events are calls that returned one after another, leading from
`s` to `s'`. -/
inductive Steps {τ : Type} (env : Collaborators τ) :
    LedgerService τ → List (Event τ) → LedgerService τ → Prop
  | nil (s : LedgerService τ) : Steps env s [] s
  | cons {s s' s'' : LedgerService τ} {c : Call} {r : Except Status Reply} {evs : List (Event τ)} :
    s.step env c = .ok (r, s') → Steps env s' evs s'' → Steps env s (⟨s, c, r, s'⟩ :: evs) s''

/-- The states some run from `LedgerService::new()` reaches. -/
def Reachable {τ : Type} (env : Collaborators τ) (s : LedgerService τ) : Prop :=
  ∃ evs, Steps env LedgerService.new evs s

/-- Collaborators to run the service on small inputs: the spec's tracker, an attestation check
that accepts every recipient, header `[b]` read as blob `[b]` of key `b` with digest `[b]`, any
policy read as one transform of budget `Times(1)`, the identity as digest, a re-wrap that swaps its
ciphertexts, and a test build that checks overflow. -/
def sampleCollaborators : Collaborators BudgetTracker where
  budget := BudgetTracker.ops
  verifyAttestation := fun _ _ tag => .ok ⟨tag⟩
  decodeBlobHeader := fun
    | [b] => .ok ⟨[b], b.toUInt32, [b], 0⟩
    | _ => .error "DecodeError"
  decodeDataAccessPolicy := fun _ => .ok ⟨[⟨none, some ⟨some (.times 1)⟩⟩]⟩
  sha256 := id
  rewrapSymmetricKey := fun encryptedSymmetricKey encapsulatedKey _ _ _ _ =>
    .ok (encryptedSymmetricKey, encapsulatedKey)
  toolchain := ⟨fun _ => "TryFromIntError(())", fun d => toString d.toNanos ++ "ns", true⟩

end ConfidentialLedger.Service
