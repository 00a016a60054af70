import ConfidentialLedger.Core

/-!
# Wire types of the ledger

The `prost_types` values the ledger reads and writes: `Timestamp` and `Duration`, with their
`i64` seconds and `i32` nanoseconds, `Duration::normalize`, and the conversion of a proto
duration into a `core::time::Duration` with its error `NegativeDuration`. What depends on the
build is a `Toolchain`: the `Debug` texts of the library errors the ledger formats, and whether
arithmetic overflow panics. Then the messages that `ledger.rs` names, each with the fields it
reads or writes, and `micro_rpc::Status`. Byte strings are lists of bytes. The wire encoding
itself belongs to collaborators of the ledger and stays outside; so do the fields that
`ledger.rs` never touches.
-/

namespace ConfidentialLedger.Proto

open Core

/-- Byte strings, `Vec<u8>` and `&[u8]`. -/
abbrev Bytes := List UInt8

/-- A Rust `i64`. -/
structure I64 where
  /-- The value. -/
  val : Int
  /-- At least `i64::MIN`. -/
  ge : -2 ^ 63 ≤ val
  /-- At most `i64::MAX`. -/
  lt : val < 2 ^ 63
  deriving DecidableEq, Repr

/-- A Rust `i32`. -/
structure I32 where
  /-- The value. -/
  val : Int
  /-- At least `i32::MIN`. -/
  ge : -2 ^ 31 ≤ val
  /-- At most `i32::MAX`. -/
  lt : val < 2 ^ 31
  deriving DecidableEq, Repr

/-- `core::num::TryFromIntError`, the error of a failed integer conversion. -/
structure TryFromIntError where
  deriving DecidableEq, Repr

/-- `i64::try_from(u64)`. -/
def I64.tryFrom (n : Nat) : Except TryFromIntError I64 :=
  if h : n < 2 ^ 63 then .ok ⟨n, by omega, by omega⟩ else .error {}

/-- `i32::try_from(u32)`. -/
def I32.tryFrom (n : Nat) : Except TryFromIntError I32 :=
  if h : n < 2 ^ 31 then .ok ⟨n, by omega, by omega⟩ else .error {}

/-- A value below `2^63` converts to `i64` unchanged. -/
theorem I64.tryFrom_of_lt {n : Nat} (h : n < 2 ^ 63) :
    I64.tryFrom n = .ok ⟨n, by omega, by omega⟩ := dif_pos h

/-- A value of `2^63` or more does not fit `i64`. -/
theorem I64.tryFrom_of_le {n : Nat} (h : 2 ^ 63 ≤ n) : I64.tryFrom n = .error {} :=
  dif_neg (by omega)

/-- A value below `2^31` converts to `i32` unchanged. -/
theorem I32.tryFrom_of_lt {n : Nat} (h : n < 2 ^ 31) :
    I32.tryFrom n = .ok ⟨n, by omega, by omega⟩ := dif_pos h

/-- `prost_types::Timestamp`: signed seconds and nanoseconds since the Unix epoch; nothing
bounds the nanoseconds below one second. -/
structure Timestamp where
  /-- The `seconds` field. -/
  seconds : I64
  /-- The `nanos` field. -/
  nanos : I32
  deriving DecidableEq, Repr

/-- `prost_types::Duration`: signed seconds and nanoseconds. -/
structure ProtoDuration where
  /-- The `seconds` field. -/
  seconds : I64
  /-- The `nanos` field. -/
  nanos : I32
  deriving DecidableEq, Repr

/-- `NANOS_PER_SECOND` of `prost_types`. -/
def nanosPerSecond : Int := 1000000000

/-- `NANOS_MAX` of `prost_types`, the largest normal nanosecond part. -/
def nanosMax : Int := nanosPerSecond - 1

/-- `prost_types::Duration::normalize` on the `(seconds, nanos)` pair. Whole seconds of the
nanoseconds move into the seconds (truncating division), saturating at the `i64` bounds; then
the nanoseconds take the sign of the seconds. -/
def ProtoDuration.normalize (d : ProtoDuration) : Int × Int :=
  let carried : Int × Int :=
    if d.nanos.val ≤ -nanosPerSecond ∨ nanosPerSecond ≤ d.nanos.val then
      let seconds := d.seconds.val + d.nanos.val.tdiv nanosPerSecond
      if -2 ^ 63 ≤ seconds ∧ seconds < 2 ^ 63 then (seconds, d.nanos.val.tmod nanosPerSecond)
      else if d.nanos.val < 0 then (-2 ^ 63, -nanosMax) else (2 ^ 63 - 1, nanosMax)
    else (d.seconds.val, d.nanos.val)
  if carried.1 < 0 ∧ 0 < carried.2 then
    if carried.1 + 1 < 2 ^ 63 then (carried.1 + 1, carried.2 - nanosPerSecond)
    else (carried.1, nanosMax)
  else if 0 < carried.1 ∧ carried.2 < 0 then
    if -2 ^ 63 ≤ carried.1 - 1 then (carried.1 - 1, carried.2 + nanosPerSecond)
    else (carried.1, -nanosMax)
  else carried

/-- `prost_types::DurationError` as the conversion into `core::time::Duration` returns it:
`NegativeDuration`, carrying the negated duration. -/
inductive DurationError where
  | negativeDuration (duration : Duration)
  deriving DecidableEq, Repr

/-- What of the ledger's behaviour depends on how it was built. -/
structure Toolchain where
  /-- `Debug` of `core::num::TryFromIntError`, such as `TryFromIntError(())`. -/
  debugTryFromIntError : TryFromIntError → String
  /-- `Debug` of `core::time::Duration`, such as `1.5s`. -/
  debugDuration : Duration → String
  /-- Whether arithmetic overflow panics, as in debug and test builds; otherwise it wraps. -/
  overflowChecks : Bool

/-- The derived `Debug` of `DurationError`. -/
def DurationError.debug (toolchain : Toolchain) : DurationError → String
  | .negativeDuration duration => "NegativeDuration(" ++ toolchain.debugDuration duration ++ ")"

/-- Unary `-` on an `i64`. Only `-i64::MIN` overflows: it panics when the build checks overflow,
and wraps back to `i64::MIN` otherwise. -/
def negateI64 (toolchain : Toolchain) (x : Int) : Rust Int :=
  if x = -2 ^ 63 then
    if toolchain.overflowChecks then .panic "attempt to negate with overflow" else .ok x
  else .ok (-x)

/-- `x as u64`: the two's-complement bits of `x` read unsigned. -/
def asU64 (x : Int) : Nat := (x % 2 ^ 64).toNat

/-- `x as u32`: the low 32 bits of `x` read unsigned. -/
def asU32 (x : Int) : Nat := (x % 2 ^ 32).toNat

/-- `TryFrom<prost_types::Duration> for core::time::Duration`: normalise, then convert when both
parts are non-negative. Otherwise the error is `NegativeDuration` of
`Duration::new((-seconds) as u64, (-nanos) as u32)`. -/
def ProtoDuration.toDuration (toolchain : Toolchain) (d : ProtoDuration) :
    Rust (Except DurationError Duration) :=
  let normal := d.normalize
  if 0 ≤ normal.1 ∧ 0 ≤ normal.2 then .ok <$> Duration.new normal.1.toNat normal.2.toNat
  else
    negateI64 toolchain normal.1 >>= fun seconds =>
    (fun duration => .error (.negativeDuration duration)) <$>
      Duration.new (asU64 seconds) (asU32 (-normal.2))

/-- The truncated remainder by one second stays strictly within one second of zero. -/
theorem tmod_nanosPerSecond_bounds (a : Int) :
    -nanosPerSecond < a.tmod nanosPerSecond ∧ a.tmod nanosPerSecond < nanosPerSecond := by
  simp only [nanosPerSecond]
  by_cases ha : 0 ≤ a
  · exact ⟨by have := Int.tmod_nonneg 1000000000 ha; omega, Int.tmod_lt_of_pos a (by decide)⟩
  · have h1 := Int.tmod_def a 1000000000
    have h2 := Int.tmod_def (-a) 1000000000
    rw [Int.neg_tdiv] at h2
    have h3 := Int.tmod_nonneg 1000000000 (by omega : 0 ≤ -a)
    have h4 := Int.tmod_lt_of_pos (-a) (by decide : (0 : Int) < 1000000000)
    omega

/-- A normalised duration has `i64` seconds, nanoseconds within one second of zero, and no two
parts of opposite signs. -/
theorem ProtoDuration.normalize_bounds (d : ProtoDuration) :
    -2 ^ 63 ≤ d.normalize.1 ∧ d.normalize.1 < 2 ^ 63 ∧
      -nanosPerSecond < d.normalize.2 ∧ d.normalize.2 < nanosPerSecond ∧
      ¬(d.normalize.1 < 0 ∧ 0 < d.normalize.2) ∧ ¬(0 < d.normalize.1 ∧ d.normalize.2 < 0) := by
  have := d.seconds.ge; have := d.seconds.lt
  have := tmod_nanosPerSecond_bounds d.nanos.val
  unfold normalize nanosMax
  unfold nanosPerSecond at *
  dsimp only
  -- The carried pair first, then the sign fix-up on it.
  generalize hc : (if d.nanos.val ≤ -1000000000 ∨ 1000000000 ≤ d.nanos.val then _
    else (d.seconds.val, d.nanos.val)) = c
  have hcb : -2 ^ 63 ≤ c.1 ∧ c.1 < 2 ^ 63 ∧ -1000000000 < c.2 ∧ c.2 < 1000000000 := by
    subst hc
    split_ifs <;> dsimp only <;> omega
  obtain ⟨c1, c2⟩ := c
  dsimp only at hcb ⊢
  split_ifs <;> dsimp only <;> omega

/-- The length a proto duration stands for, in nanoseconds. -/
def ProtoDuration.value (d : ProtoDuration) : Int := d.seconds.val * nanosPerSecond + d.nanos.val

/-- The seconds once the whole seconds of the nanoseconds are carried into them. -/
def ProtoDuration.carriedSeconds (d : ProtoDuration) : Int :=
  d.seconds.val + d.nanos.val.tdiv nanosPerSecond

/-- Nanoseconds within one second of zero carry no whole second. -/
theorem tdiv_nanosPerSecond_of_lt {a : Int} (h₁ : -nanosPerSecond < a) (h₂ : a < nanosPerSecond) :
    a.tdiv nanosPerSecond = 0 := by
  rcases le_or_lt 0 a with ha | ha
  · exact Int.tdiv_eq_zero_of_lt ha h₂
  · rw [← neg_neg a, Int.neg_tdiv, Int.tdiv_eq_zero_of_lt (by omega) (by omega), neg_zero]

/-- While the carried seconds stay within `i64`, normalising keeps the length. -/
theorem ProtoDuration.normalize_value (d : ProtoDuration)
    (hc : -2 ^ 63 ≤ d.carriedSeconds ∧ d.carriedSeconds < 2 ^ 63) :
    d.normalize.1 * nanosPerSecond + d.normalize.2 = d.value := by
  have hdm := Int.tmod_add_tdiv d.nanos.val nanosPerSecond
  have := tmod_nanosPerSecond_bounds d.nanos.val
  unfold normalize nanosMax value carriedSeconds at *
  unfold nanosPerSecond at *
  dsimp only
  -- The carried pair keeps the length; the sign fix-up moves one second into the nanoseconds.
  generalize hc' : (if d.nanos.val ≤ -1000000000 ∨ 1000000000 ≤ d.nanos.val then _
    else (d.seconds.val, d.nanos.val)) = c
  have hcv : c.1 * 1000000000 + c.2 = d.seconds.val * 1000000000 + d.nanos.val ∧
      -1000000000 < c.2 ∧ c.2 < 1000000000 := by
    subst hc'
    split_ifs <;> dsimp only <;> omega
  obtain ⟨c1, c2⟩ := c
  dsimp only at hcv ⊢
  split_ifs <;> dsimp only <;> omega

/-- When the carried seconds leave `i64`, normalising saturates: to the least normal duration for
negative nanoseconds, to the greatest otherwise. -/
theorem ProtoDuration.normalize_of_overflow (d : ProtoDuration)
    (hc : ¬(-2 ^ 63 ≤ d.carriedSeconds ∧ d.carriedSeconds < 2 ^ 63)) :
    d.normalize = if d.nanos.val < 0 then (-2 ^ 63, -nanosMax) else (2 ^ 63 - 1, nanosMax) := by
  have := d.seconds.ge; have := d.seconds.lt
  have hcarry : d.nanos.val ≤ -nanosPerSecond ∨ nanosPerSecond ≤ d.nanos.val := by
    by_contra h
    push_neg at h
    rw [carriedSeconds, tdiv_nanosPerSecond_of_lt h.1 h.2] at hc
    omega
  unfold carriedSeconds at hc
  unfold normalize nanosMax nanosPerSecond at *
  simp only [if_pos hcarry, if_neg hc]
  split_ifs <;> first | rfl | omega

/-- A non-negative normalised duration converts to the duration of its length. -/
theorem ProtoDuration.toDuration_of_nonneg (toolchain : Toolchain) {d : ProtoDuration}
    (h : 0 ≤ d.normalize.1 ∧ 0 ≤ d.normalize.2) :
    ∃ x, d.toDuration toolchain = .ok (.ok x) ∧
      (x.toNanos : Int) = d.normalize.1 * nanosPerSecond + d.normalize.2 := by
  have hb := d.normalize_bounds
  obtain ⟨x, hx⟩ := @Duration.new_ne_panic d.normalize.1.toNat d.normalize.2.toNat
    (by simp only [nanosPerSec, nanosPerSecond] at *; omega)
  have hlen := (Duration.new_eq_ok_iff.1 hx).2
  refine ⟨x, by simp only [toDuration, if_pos h, hx, Rust.map_ok], ?_⟩
  simp only [nanosPerSec, nanosPerSecond] at *
  omega

/-- Negating `i64::MIN` seconds panics in a build that checks overflow. -/
theorem ProtoDuration.toDuration_of_min {toolchain : Toolchain} {d : ProtoDuration}
    (hc : toolchain.overflowChecks = true) (hmin : d.normalize.1 = -2 ^ 63) :
    d.toDuration toolchain = .panic "attempt to negate with overflow" := by
  simp [toDuration, hmin, negateI64, hc]

/-- Any other negative normalised duration is refused with `NegativeDuration` of its negation,
also in a build that wraps `-i64::MIN` to `i64::MIN`, whose `u64` bits are `2^63`. -/
theorem ProtoDuration.toDuration_of_neg (toolchain : Toolchain) {d : ProtoDuration}
    (h : ¬(0 ≤ d.normalize.1 ∧ 0 ≤ d.normalize.2))
    (hmin : ¬(toolchain.overflowChecks = true ∧ d.normalize.1 = -2 ^ 63)) :
    ∃ x, d.toDuration toolchain = .ok (.error (.negativeDuration x)) ∧
      (x.toNanos : Int) = -(d.normalize.1 * nanosPerSecond + d.normalize.2) := by
  have hb := d.normalize_bounds
  unfold nanosPerSecond at hb
  have hneg : d.normalize.1 ≤ 0 ∧ d.normalize.2 ≤ 0 := by omega
  -- The negated seconds, read as a `u64`, are the magnitude of the seconds in both builds.
  have hsec : ∃ s, negateI64 toolchain d.normalize.1 = .ok s ∧ asU64 s = (-d.normalize.1).toNat := by
    unfold negateI64 asU64
    split_ifs with h₁ h₂
    · exact absurd ⟨h₂, h₁⟩ hmin
    · exact ⟨_, rfl, by rw [h₁]; rfl⟩
    · exact ⟨_, rfl, by omega⟩
  obtain ⟨s, hs, hsu⟩ := hsec
  have hnan : asU32 (-d.normalize.2) = (-d.normalize.2).toNat := by unfold asU32; omega
  obtain ⟨x, hx⟩ := @Duration.new_ne_panic (asU64 s) (asU32 (-d.normalize.2))
    (by rw [hsu, hnan]; simp only [nanosPerSec]; omega)
  have hlen := (Duration.new_eq_ok_iff.1 hx).2
  rw [hsu, hnan] at hlen
  refine ⟨x, by simp only [toDuration, if_neg h, hs, Rust.ok_bind, hx, Rust.map_ok], ?_⟩
  simp only [nanosPerSec, nanosPerSecond] at *
  omega

/-- Converting a proto duration returns, except that it panics when the build checks overflow
and the normalised seconds are `i64::MIN`. -/
theorem ProtoDuration.toDuration_cases (toolchain : Toolchain) (d : ProtoDuration) :
    (∃ r, d.toDuration toolchain = .ok r) ∨
      toolchain.overflowChecks = true ∧ d.normalize.1 = -2 ^ 63 ∧
        d.toDuration toolchain = .panic "attempt to negate with overflow" := by
  by_cases h : 0 ≤ d.normalize.1 ∧ 0 ≤ d.normalize.2
  · obtain ⟨x, hx, -⟩ := d.toDuration_of_nonneg toolchain h
    exact .inl ⟨_, hx⟩
  by_cases hmin : toolchain.overflowChecks = true ∧ d.normalize.1 = -2 ^ 63
  · exact .inr ⟨hmin.1, hmin.2, toDuration_of_min hmin.1 hmin.2⟩
  · obtain ⟨x, hx, -⟩ := d.toDuration_of_neg toolchain h hmin
    exact .inl ⟨_, hx⟩

/-- `micro_rpc::StatusCode`: the gRPC status codes. -/
inductive StatusCode where
  | ok | cancelled | unknown | invalidArgument | deadlineExceeded | notFound | alreadyExists
  | permissionDenied | resourceExhausted | failedPrecondition | aborted | outOfRange
  | unimplemented | internal | unavailable | dataLoss | unauthenticated
  deriving DecidableEq, Repr

/-- `micro_rpc::Status`: the code and message of an error response. -/
structure Status where
  /-- The status code. -/
  code : StatusCode
  /-- The human-readable message. -/
  message : String
  deriving DecidableEq, Repr

/-- `micro_rpc::Status::new_with_message`. -/
def Status.newWithMessage (code : StatusCode) (message : String) : Status := ⟨code, message⟩

/-- `BlobHeader`, the header a client binds to a blob as associated data. -/
structure BlobHeader where
  /-- The `blob_id` field. -/
  blobId : Bytes
  /-- The `public_key_id` field: the ledger key the blob was encrypted to. -/
  publicKeyId : UInt32
  /-- The `access_policy_sha256` field: the digest of the serialised access policy. -/
  accessPolicySha256 : Bytes
  /-- The `access_policy_node_id` field. -/
  accessPolicyNodeId : UInt32
  deriving DecidableEq, Repr

/-- `ApplicationMatcher`: the constraint a transform puts on the requesting application. -/
structure ApplicationMatcher where
  /-- The `tag` field. -/
  tag : Option String
  deriving DecidableEq, Repr

/-- `access_budget::Kind`: the one kind of budget, `Times(n)` accesses. -/
inductive AccessBudgetKind where
  | times (n : UInt32)
  deriving DecidableEq, Repr

/-- `AccessBudget`. -/
structure AccessBudget where
  /-- The `kind` field. -/
  kind : Option AccessBudgetKind
  deriving DecidableEq, Repr

/-- `data_access_policy::Transform`, with the fields the ledger's tests set. -/
structure Transform where
  /-- The `application` field. -/
  application : Option ApplicationMatcher
  /-- The `access_budget` field. -/
  accessBudget : Option AccessBudget
  deriving DecidableEq, Repr

/-- `DataAccessPolicy`. -/
structure DataAccessPolicy where
  /-- The `transforms` field, in policy order. -/
  transforms : List Transform
  deriving DecidableEq, Repr

/-- Modelled from the spec: the `Application` that `attestation::verify_attestation` returns
(the attestation module is not among the sources); the spec names its `tag`. -/
structure Application where
  /-- The tag the attested application presented. -/
  tag : String
  deriving DecidableEq, Repr

/-- `CreateKeyRequest`. -/
structure CreateKeyRequest where
  /-- The `now` field. -/
  now : Option Timestamp
  /-- The `ttl` field. -/
  ttl : Option ProtoDuration
  deriving DecidableEq, Repr

/-- `PublicKeyDetails`, kept as a message: `encode_to_vec` is the wire codec. -/
structure PublicKeyDetails where
  /-- The `public_key_id` field. -/
  publicKeyId : UInt32
  /-- The `issued` field. -/
  issued : Option Timestamp
  /-- The `expiration` field. -/
  expiration : Option Timestamp
  deriving DecidableEq, Repr

/-- `CreateKeyResponse`. -/
structure CreateKeyResponse where
  /-- The `public_key` field. -/
  publicKey : Bytes
  /-- The `public_key_details` field, before encoding. -/
  publicKeyDetails : PublicKeyDetails
  /-- The `attestation` field, left at its default. -/
  attestation : Bytes
  deriving DecidableEq, Repr

/-- `DeleteKeyRequest`. -/
structure DeleteKeyRequest where
  /-- The `public_key_id` field. -/
  publicKeyId : UInt32
  deriving DecidableEq, Repr

/-- `DeleteKeyResponse`, an empty message. -/
structure DeleteKeyResponse where
  deriving DecidableEq, Repr

/-- `AuthorizeAccessRequest`. -/
structure AuthorizeAccessRequest where
  /-- The `now` field. -/
  now : Option Timestamp
  /-- The `access_policy` field: the serialised policy, not yet trusted. -/
  accessPolicy : Bytes
  /-- The `blob_header` field: the serialised header. -/
  blobHeader : Bytes
  /-- The `encapsulated_key` field. -/
  encapsulatedKey : Bytes
  /-- The `encrypted_symmetric_key` field. -/
  encryptedSymmetricKey : Bytes
  /-- The `recipient_public_key` field. -/
  recipientPublicKey : Bytes
  /-- The `recipient_attestation` field. -/
  recipientAttestation : Bytes
  /-- The `recipient_tag` field. -/
  recipientTag : String
  /-- The `recipient_nonce` field. -/
  recipientNonce : Bytes
  deriving DecidableEq, Repr

/-- `AuthorizeAccessResponse`. -/
structure AuthorizeAccessResponse where
  /-- The `encapsulated_key` field. -/
  encapsulatedKey : Bytes
  /-- The `encrypted_symmetric_key` field. -/
  encryptedSymmetricKey : Bytes
  /-- The `reencryption_public_key` field. -/
  reencryptionPublicKey : Bytes
  deriving DecidableEq, Repr

/-- `RevokeAccessRequest`. -/
structure RevokeAccessRequest where
  /-- The `public_key_id` field. -/
  publicKeyId : UInt32
  /-- The `blob_id` field. -/
  blobId : Bytes
  deriving DecidableEq, Repr

/-- `RevokeAccessResponse`, an empty message. -/
structure RevokeAccessResponse where
  deriving DecidableEq, Repr

end ConfidentialLedger.Proto
