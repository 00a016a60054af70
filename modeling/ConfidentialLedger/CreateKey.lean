import ConfidentialLedger.Lifecycle

/-!
# What `create_key` reports

`create_key` inserts the new key and only then converts the clock and the expiration into the
proto timestamps of its `PublicKeyDetails`. When both have fewer than `2^63` seconds, the details
name the inserted key and give back the clock and the expiration exactly, normalised, so the
expiration a client reads is the instant the key stops working. Near `i64::MAX` seconds the
source's comment that nothing can overflow is wrong: `now + ttl` can overflow `Duration` and
panic, an issued time of `2^63` seconds or more panics in its `unwrap`, and an expiration that
large returns `InvalidArgument` with the key already inserted. The `ttl` it adds is read by
`parse_duration` as the length the proto duration stands for, whatever the signs of its parts,
except where prost saturates a carry out of `i64`; a negative `ttl` of `i64::MIN` seconds makes
prost negate `i64::MIN`, which panics in a build that checks overflow. The byte encoding of the
details belongs to `prost` and stays outside.
-/

namespace ConfidentialLedger.CreateKey

open Core Proto Budget Service Effects Lifecycle
open Service.LedgerService

variable {τ : Type} {env : Collaborators τ} {self s' : LedgerService τ}

/-- The panic message of `unwrap` on a failed integer conversion. -/
def unwrapTryFromIntError (toolchain : Toolchain) : String :=
  "called `Result::unwrap()` on an `Err` value: " ++ toolchain.debugTryFromIntError {}

/-- The nanoseconds of a duration fit an `i32`. -/
theorem nanos_lt_i32 (d : Duration) : d.nanos < 2 ^ 31 :=
  lt_of_lt_of_le d.nanos_lt (by decide)

/-- An issued time of `2^63` seconds or more panics in the first `unwrap`. -/
theorem publicKeyDetails_of_issued_overflow (toolchain : Toolchain) (keyId : UInt32)
    {currentTime : Duration} (expiration : Duration) (h : 2 ^ 63 ≤ currentTime.secs) :
    publicKeyDetails toolchain keyId currentTime expiration =
      .panic (unwrapTryFromIntError toolchain) := by
  simp only [publicKeyDetails, I64.tryFrom_of_le h, Rust.unwrap, Rust.panic_bind]
  rfl

/-- An issued time that fits an `i64`, with an expiration of `2^63` seconds or more, returns
`InvalidArgument`. -/
theorem publicKeyDetails_of_expiration_overflow (toolchain : Toolchain) (keyId : UInt32)
    {currentTime expiration : Duration} (hc : currentTime.secs < 2 ^ 63)
    (he : 2 ^ 63 ≤ expiration.secs) :
    publicKeyDetails toolchain keyId currentTime expiration =
      .ok (.error (.newWithMessage .invalidArgument "`now` + `ttl` overflowed")) := by
  simp only [publicKeyDetails, I64.tryFrom_of_lt hc, I32.tryFrom_of_lt (nanos_lt_i32 _),
    I64.tryFrom_of_le he, Rust.unwrap, Rust.ok_bind]
  rfl

/-- When both times fit an `i64`, the details name the key and carry the seconds and nanoseconds
of both times. -/
theorem publicKeyDetails_of_lt (toolchain : Toolchain) (keyId : UInt32)
    {currentTime expiration : Duration} (hc : currentTime.secs < 2 ^ 63)
    (he : expiration.secs < 2 ^ 63) :
    ∃ issued expiration', publicKeyDetails toolchain keyId currentTime expiration =
        .ok (.ok ⟨keyId, some issued, some expiration'⟩) ∧
      issued.seconds.val = currentTime.secs ∧ issued.nanos.val = currentTime.nanos ∧
      expiration'.seconds.val = expiration.secs ∧ expiration'.nanos.val = expiration.nanos := by
  have := nanos_lt_i32 currentTime; have := nanos_lt_i32 expiration
  refine ⟨⟨⟨currentTime.secs, by omega, by omega⟩, ⟨currentTime.nanos, by omega, by omega⟩⟩,
    ⟨⟨expiration.secs, by omega, by omega⟩, ⟨expiration.nanos, by omega, by omega⟩⟩, ?_,
    rfl, rfl, rfl, rfl⟩
  simp only [publicKeyDetails, I64.tryFrom_of_lt hc, I32.tryFrom_of_lt (nanos_lt_i32 _),
    I64.tryFrom_of_lt he, Rust.unwrap, Rust.ok_bind]
  rfl

/-- `parse_duration` reads a proto duration as the length it stands for, whatever the signs of its
parts. While the carried seconds stay within `i64`, a non-negative length parses to a `Duration`
of that length and a negative one to `NegativeDuration` of its negation, except that from
`i64::MIN` seconds down a build that checks overflow panics. Out of `i64`, prost saturates. -/
theorem parseDuration_value (toolchain : Toolchain) (d : ProtoDuration) :
    ((-2 ^ 63 ≤ d.carriedSeconds ∧ d.carriedSeconds < 2 ^ 63) →
      (0 ≤ d.value →
        ∃ x, parseDuration toolchain (some d) = .ok (.ok x) ∧ (x.toNanos : Int) = d.value) ∧
      (d.value < 0 →
        if toolchain.overflowChecks = true ∧ d.value ≤ -2 ^ 63 * nanosPerSecond then
          parseDuration toolchain (some d) = .panic "attempt to negate with overflow"
        else ∃ x, parseDuration toolchain (some d) = .ok (.error (.negativeDuration x)) ∧
          (x.toNanos : Int) = -d.value)) ∧
    (¬(-2 ^ 63 ≤ d.carriedSeconds ∧ d.carriedSeconds < 2 ^ 63) →
      parseDuration toolchain (some d) =
        if d.nanos.val < 0 then
          if toolchain.overflowChecks = true then .panic "attempt to negate with overflow"
          else .ok (.error (.negativeDuration ⟨2 ^ 63, 999999999, by decide, by decide⟩))
        else .ok (.ok ⟨2 ^ 63 - 1, 999999999, by decide, by decide⟩)) := by
  have hb := d.normalize_bounds
  unfold nanosPerSecond at hb
  refine ⟨fun hc => ?_, fun hc => ?_⟩
  · have hv := d.normalize_value hc
    unfold nanosPerSecond at hv ⊢
    -- In range, the seconds normalise to `i64::MIN` exactly from `i64::MIN` seconds down.
    have hmin : d.normalize.1 = -2 ^ 63 ↔ d.value ≤ -2 ^ 63 * 1000000000 := by omega
    refine ⟨fun h0 => ?_, fun h0 => ?_⟩
    · obtain ⟨x, hx, hlen⟩ := d.toDuration_of_nonneg toolchain (by omega)
      exact ⟨x, hx, by unfold nanosPerSecond at hlen; omega⟩
    · have hneg : ¬(0 ≤ d.normalize.1 ∧ 0 ≤ d.normalize.2) := by omega
      split_ifs with hp
      · exact ProtoDuration.toDuration_of_min hp.1 (hmin.2 hp.2)
      · obtain ⟨x, hx, hlen⟩ :=
          d.toDuration_of_neg toolchain hneg fun h => hp ⟨h.1, hmin.1 h.2⟩
        exact ⟨x, hx, by unfold nanosPerSecond at hlen; omega⟩
  · have hn := d.normalize_of_overflow hc
    unfold nanosMax nanosPerSecond at hn
    -- Saturated, the parts are `i64::MIN` or `i64::MAX` seconds with a full second of nanos less.
    split_ifs at hn ⊢ with hneg hcheck
    · exact ProtoDuration.toDuration_of_min hcheck (by rw [hn])
    · obtain ⟨x, hx, hlen⟩ := d.toDuration_of_neg toolchain (by rw [hn]; decide)
        fun h => hcheck h.1
      rw [hn] at hlen
      rwa [Duration.eq_of_toNanos_eq (a := x) (b := ⟨2 ^ 63, 999999999, by decide, by decide⟩)
        (by simp only [Duration.toNanos, nanosPerSec, nanosPerSecond] at hlen ⊢; omega)] at hx
    · obtain ⟨x, hx, hlen⟩ := d.toDuration_of_nonneg toolchain (by rw [hn]; decide)
      rw [hn] at hlen
      rwa [Duration.eq_of_toNanos_eq (a := x) (b := ⟨2 ^ 63 - 1, 999999999, by decide, by decide⟩)
        (by simp only [Duration.toNanos, nanosPerSec, nanosPerSecond] at hlen ⊢; omega)] at hx

/-- A duration of parts with opposite signs parses to its length, and in a build that checks
overflow a duration of `i64::MIN` seconds panics. -/
theorem parseDuration_value_at_samples :
    (∃ x, parseDuration sampleCollaborators.toolchain
        (some ⟨⟨1, by decide, by decide⟩, ⟨-1, by decide, by decide⟩⟩) = .ok (.ok x) ∧
      (x.toNanos : Int) = 999999999) ∧
    parseDuration sampleCollaborators.toolchain
        (some ⟨⟨-9223372036854775808, by decide, by decide⟩, ⟨0, by decide, by decide⟩⟩) =
      .panic "attempt to negate with overflow" :=
  ⟨((parseDuration_value sampleCollaborators.toolchain
      ⟨⟨1, by decide, by decide⟩, ⟨-1, by decide, by decide⟩⟩).1 ⟨by decide, by decide⟩).1
      (by decide),
    by
      have h := ((parseDuration_value sampleCollaborators.toolchain
        ⟨⟨-9223372036854775808, by decide, by decide⟩, ⟨0, by decide, by decide⟩⟩).1
        ⟨by decide, by decide⟩).2 (by decide)
      rwa [if_pos ⟨rfl, by decide⟩] at h⟩

/-- A `create_key` whose `ttl` parse panics panics there. -/
theorem createKey_of_ttl_panic {request : CreateKeyRequest} {draws : List UInt32}
    {keypair : PrivateKey × Bytes} {t : Duration} {msg : String}
    (hp : parseTimestamp request.now = .ok (.ok t)) (ht : self.currentTime ≤ t)
    (hd : parseDuration env.toolchain request.ttl = .panic msg) :
    self.createKey env request draws keypair = .panic msg := by
  simp only [createKey, createKeyEntry, updateCurrentTime_of_le hp ht, Rust.ok_bind, hd,
    Rust.panic_bind]

/-- A `create_key` whose `now + ttl` overflows panics in the addition. -/
theorem createKey_of_add_panic {request : CreateKeyRequest} {draws : List UInt32}
    {keypair : PrivateKey × Bytes} {t ttl : Duration} {msg : String}
    (hp : parseTimestamp request.now = .ok (.ok t)) (ht : self.currentTime ≤ t)
    (hd : parseDuration env.toolchain request.ttl = .ok (.ok ttl))
    (ha : t.add ttl = .panic msg) :
    self.createKey env request draws keypair = .panic msg := by
  simp only [createKey, createKeyEntry, updateCurrentTime_of_le hp ht, Rust.ok_bind, hd,
    withTime_currentTime, ha, Rust.panic_bind]

/-- A `create_key` that reaches its insert returns what the conversion of the clock and the
expiration decides, with the key inserted. -/
theorem createKey_of_insert {request : CreateKeyRequest} {draws : List UInt32}
    {keypair : PrivateKey × Bytes} {t ttl expiration : Duration} {keyId : UInt32}
    (hp : parseTimestamp request.now = .ok (.ok t)) (ht : self.currentTime ≤ t)
    (hd : parseDuration env.toolchain request.ttl = .ok (.ok ttl))
    (ha : t.add ttl = .ok expiration)
    (hk : drawKeyId (self.withTime t).perKeyLedgers draws = .ok keyId) :
    self.createKey env request draws keypair =
      (fun d => (d.map fun details => ⟨keypair.2, details, []⟩,
        { self.withTime t with
          perKeyLedgers := mapInsert (self.withTime t).perKeyLedgers keyId
            ⟨keypair.1, keypair.2, expiration, env.budget.new⟩ })) <$>
        publicKeyDetails env.toolchain keyId t expiration := by
  simp only [createKey, createKeyEntry, updateCurrentTime_of_le hp ht, Rust.ok_bind, hd,
    withTime_currentTime, ha, hk, Rust.pure_eq]
  rcases publicKeyDetails env.toolchain keyId t expiration with (_ | _) | _ | _ <;> rfl

/-- `i64::MAX` seconds and `10^9` nanoseconds: a `now` that `parse_timestamp` accepts, whose
nanoseconds carry one second past `i64::MAX`. -/
def timestampCarryPastI64Max : Timestamp :=
  ⟨⟨9223372036854775807, by decide, by decide⟩, ⟨1000000000, by decide, by decide⟩⟩

/-- The largest timestamp: `i64::MAX` seconds and `i32::MAX` nanoseconds. -/
def timestampMax : Timestamp :=
  ⟨⟨9223372036854775807, by decide, by decide⟩, ⟨2147483647, by decide, by decide⟩⟩

/-- The largest normalised proto duration: `i64::MAX` seconds and `999_999_999` nanoseconds. -/
def durationMax : ProtoDuration :=
  ⟨⟨9223372036854775807, by decide, by decide⟩, ⟨999999999, by decide, by decide⟩⟩

/-- `create_key` panics from `LedgerService::new()`, whatever the collaborators. A `now` of
`i64::MAX` seconds and `10^9` nanoseconds without `ttl` moves the clock to `2^63` seconds; the
key is inserted, and the `unwrap` of the issued seconds panics. The largest `now` with the
largest normalised `ttl` overflows `now + ttl` and panics before the insert. -/
theorem createKey_panics_near_i64_max (env : Collaborators τ) (keyId : UInt32)
    (draws : List UInt32) (keypair : PrivateKey × Bytes) :
    (LedgerService.new : LedgerService τ).createKey env ⟨some timestampCarryPastI64Max, none⟩
        (keyId :: draws) keypair = .panic (unwrapTryFromIntError env.toolchain) ∧
    (LedgerService.new : LedgerService τ).createKey env ⟨some timestampMax, some durationMax⟩
        draws keypair = .panic "overflow when adding durations" := by
  constructor
  · rw [createKey_of_insert]
    case hp => exact rfl
    case ht => exact of_decide_eq_true rfl
    case hd => exact rfl
    case ha => exact rfl
    case hk => exact rfl
    rw [publicKeyDetails_of_issued_overflow _ _ _ (le_refl (2 ^ 63))]
    rfl
  · apply createKey_of_add_panic
    case hp => exact rfl
    case ht => exact of_decide_eq_true rfl
    case hd => exact rfl
    case ha => exact rfl

/-- Exactly where `create_key` panics, always after it accepted `now`: a build that checks
overflow negates a `ttl` of `i64::MIN` normalised seconds; or `now + ttl` overflows `Duration`; or
the sum fits, the clock has `2^63` seconds or more and the key-id loop exits, so that the
`unwrap` of the issued seconds fails. -/
theorem createKey_eq_panic_iff {request : CreateKeyRequest} {draws : List UInt32}
    {keypair : PrivateKey × Bytes} {msg : String} :
    self.createKey env request draws keypair = .panic msg ↔
      ∃ t, parseTimestamp request.now = .ok (.ok t) ∧ self.currentTime ≤ t ∧
        ((env.toolchain.overflowChecks = true ∧
            (∃ d, request.ttl = some d ∧ d.normalize.1 = -2 ^ 63) ∧
            msg = "attempt to negate with overflow") ∨
          ∃ ttl, parseDuration env.toolchain request.ttl = .ok (.ok ttl) ∧
            ((2 ^ 64 * nanosPerSec ≤ t.toNanos + ttl.toNanos ∧
                msg = "overflow when adding durations") ∨
              (t.toNanos + ttl.toNanos < 2 ^ 64 * nanosPerSec ∧ 2 ^ 63 ≤ t.secs ∧
                (∃ keyId, drawKeyId (self.withTime t).perKeyLedgers draws = .ok keyId) ∧
                msg = unwrapTryFromIntError env.toolchain))) := by
  constructor
  · intro h
    rcases updateCurrentTime_cases self env.toolchain request.now with
      ⟨_, he⟩ | ⟨t, hp, ht, he⟩
    · simp [createKey, createKeyEntry, he] at h
    refine ⟨t, hp, ht, ?_⟩
    rcases parseDuration_cases env.toolchain request.ttl with ⟨r, hr⟩ | ⟨d, hd, hc, hmin, hr⟩
    swap
    · -- The `ttl` parse panics.
      rw [createKey_of_ttl_panic hp ht hr] at h
      exact .inl ⟨hc, ⟨d, hd, hmin⟩, (Rust.panic.inj h).symm⟩
    rcases r with _ | ttl
    · simp [createKey, createKeyEntry, he, hr] at h
    refine .inr ⟨ttl, hr, ?_⟩
    by_cases ho : 2 ^ 64 * nanosPerSec ≤ t.toNanos + ttl.toNanos
    · rw [createKey_of_add_panic hp ht hr (Duration.add_eq_panic_iff.2 ho)] at h
      exact .inl ⟨ho, (Rust.panic.inj h).symm⟩
    obtain ⟨x, hx⟩ := Duration.add_ne_panic (Nat.lt_of_not_le ho)
    cases hk : drawKeyId (self.withTime t).perKeyLedgers draws with
    | ok keyId =>
      rw [createKey_of_insert hp ht hr hx hk] at h
      by_cases hc : t.secs < 2 ^ 63
      · by_cases hxs : x.secs < 2 ^ 63
        · obtain ⟨_, _, hd, -⟩ := publicKeyDetails_of_lt env.toolchain keyId hc hxs
          rw [hd] at h
          cases h
        · rw [publicKeyDetails_of_expiration_overflow env.toolchain keyId hc
            (Nat.le_of_not_lt hxs)] at h
          cases h
      · rw [publicKeyDetails_of_issued_overflow env.toolchain keyId x (Nat.le_of_not_lt hc)] at h
        exact .inr ⟨Nat.lt_of_not_le ho, Nat.le_of_not_lt hc, ⟨keyId, rfl⟩, (Rust.panic.inj h).symm⟩
    | panic m => exact absurd hk (drawKeyId_ne_panic _ _ m)
    | div =>
      simp only [createKey, createKeyEntry, updateCurrentTime_of_le hp ht, Rust.ok_bind, hr,
        withTime_currentTime, hx, hk, Rust.div_bind] at h
      cases h
  · rintro ⟨t, hp, ht, ⟨hc, ⟨d, hd, hmin⟩, rfl⟩ |
      ⟨ttl, hr, ⟨ho, rfl⟩ | ⟨ho, hc, ⟨keyId, hk⟩, rfl⟩⟩⟩
    · exact createKey_of_ttl_panic hp ht (hd ▸ ProtoDuration.toDuration_of_min hc hmin)
    · exact createKey_of_add_panic hp ht hr (Duration.add_eq_panic_iff.2 ho)
    · obtain ⟨x, hx⟩ := Duration.add_ne_panic ho
      rw [createKey_of_insert hp ht hr hx hk,
        publicKeyDetails_of_issued_overflow env.toolchain keyId x hc]
      rfl

/-- One second since the epoch. -/
def timestamp1 : Timestamp := ⟨⟨1, by decide, by decide⟩, ⟨0, by decide, by decide⟩⟩

/-- A proto duration of `i64::MAX` seconds. -/
def durationI64Max : ProtoDuration :=
  ⟨⟨9223372036854775807, by decide, by decide⟩, ⟨0, by decide, by decide⟩⟩

/-- A failed `create_key` can leave a new key behind. From `LedgerService::new()`, the clock
update to `1 s` alone leaves no key under id `0`; `create_key` at `1 s` with a `ttl` of
`i64::MAX` seconds returns `InvalidArgument` ("`now` + `ttl` overflowed"), after inserting under
id `0` a live key with the generated public key. -/
theorem createKey_error_keeps_inserted_key (env : Collaborators τ)
    (keypair : PrivateKey × Bytes) :
    ∃ (s₁ s' : LedgerService τ) (e : PerKeyLedger τ),
      LedgerService.new.updateCurrentTime env.toolchain (some timestamp1) = .ok (.ok (), s₁) ∧
      s₁.perKeyLedgers 0 = none ∧
      LedgerService.new.createKey env ⟨some timestamp1, some durationI64Max⟩ [0] keypair =
        .ok (.error (.newWithMessage .invalidArgument "`now` + `ttl` overflowed"), s') ∧
      s'.perKeyLedgers 0 = some e ∧ e.publicKey = keypair.2 ∧ s'.currentTime < e.expiration := by
  apply Exists.intro; apply Exists.intro; apply Exists.intro
  refine ⟨rfl, rfl, ?_⟩
  rw [createKey_of_insert]
  case hp => exact rfl
  case ht => exact of_decide_eq_true rfl
  case hd => exact rfl
  case ha => exact rfl
  case hk => exact rfl
  rw [publicKeyDetails_of_expiration_overflow env.toolchain 0 (by decide) (by decide)]
  exact ⟨rfl, rfl, rfl, of_decide_eq_true rfl⟩

end ConfidentialLedger.CreateKey
