import Mathlib

/-!
# Rust outcomes and `core::time::Duration`

A Rust call returns, panics with a message, or stays in a loop that never exits. `Rust` records
the three ends and is the monad the model of `ledger.rs` runs in; a Rust `Result` is an `Except`
value inside it, and a `&mut self` method returns its new receiver next to that value.
`Duration` is `core::time::Duration`: `u64` seconds and a nanosecond part below one second, with
the lexicographic order the standard library derives. `Duration.new` and `+` panic exactly where
the standard library panics. The rest of the standard library stays outside.
-/

namespace ConfidentialLedger.Core

/-- How a Rust computation ends: with a value, with a panic, or in a loop that never exits. -/
inductive Rust (α : Type) where
  /-- The computation returned `a`. -/
  | ok (a : α)
  /-- The computation panicked with message `msg`. -/
  | panic (msg : String)
  /-- The computation entered a loop that does not exit. -/
  | div
  deriving DecidableEq, Repr

namespace Rust

/-- Sequencing: a panic or a divergence ends the whole computation. -/
def bind {α β : Type} (x : Rust α) (f : α → Rust β) : Rust β :=
  match x with
  | ok a => f a
  | panic msg => panic msg
  | div => div

instance : Monad Rust where
  pure := ok
  bind := bind

variable {α β : Type}

@[simp] theorem pure_eq (a : α) : (pure a : Rust α) = ok a := rfl

@[simp] theorem ok_bind (a : α) (f : α → Rust β) : (ok a >>= f) = f a := rfl

@[simp] theorem panic_bind (msg : String) (f : α → Rust β) : (panic msg >>= f) = panic msg := rfl

@[simp] theorem div_bind (f : α → Rust β) : (div >>= f) = div := rfl

@[simp] theorem map_ok (f : α → β) (a : α) : (f <$> ok a : Rust β) = ok (f a) := rfl

/-- Mapping over a result and then binding is binding the mapped value. -/
theorem bind_map {γ : Type} (f : α → β) (x : Rust α) (g : β → Rust γ) :
    (f <$> x) >>= g = x >>= fun a => g (f a) := by
  cases x <;> rfl

/-- Mapping over a bind maps over its continuation. -/
theorem map_bind {γ : Type} (f : β → γ) (x : Rust α) (g : α → Rust β) :
    f <$> (x >>= g) = x >>= fun a => f <$> g a := by
  cases x <;> rfl

/-- `Result::unwrap`: the value of `Ok`; on `Err` a panic that shows the error's `Debug` text,
which `debug` gives. -/
def unwrap {ε α : Type} (debug : ε → String) : Except ε α → Rust α
  | .ok a => ok a
  | .error e => panic ("called `Result::unwrap()` on an `Err` value: " ++ debug e)

end Rust

/-- Nanoseconds per second, `NANOS_PER_SEC` of `core::time`. -/
def nanosPerSec : Nat := 1000000000

/-- `core::time::Duration`: whole seconds in a `u64` and the nanoseconds below one second. -/
@[ext] structure Duration where
  /-- Whole seconds, what `as_secs` returns. -/
  secs : Nat
  /-- Nanoseconds past the last whole second, what `subsec_nanos` returns. -/
  nanos : Nat
  /-- The seconds fit in a `u64`. -/
  secs_lt : secs < 2 ^ 64
  /-- The nanosecond part is below one second. -/
  nanos_lt : nanos < nanosPerSec
  deriving DecidableEq, Repr

namespace Duration

/-- `Duration::ZERO`. -/
def zero : Duration := ⟨0, 0, by decide, by decide⟩

/-- `Duration::new(secs, nanos)`: whole seconds of `nanos` carry into `secs`, and the
constructor panics when that carry overflows the `u64` seconds. -/
def new (secs nanos : Nat) : Rust Duration :=
  if h : secs + nanos / nanosPerSec < 2 ^ 64 then
    .ok ⟨secs + nanos / nanosPerSec, nanos % nanosPerSec, h, Nat.mod_lt _ (by decide)⟩
  else .panic "overflow in Duration::new"

/-- `Duration::checked_add`: add the nanosecond parts, carry one second when they reach a
second, and fail when the seconds overflow the `u64`. -/
def checkedAdd (a b : Duration) : Option Duration :=
  let nanos := a.nanos + b.nanos
  let secs := a.secs + b.secs + (if nanos < nanosPerSec then 0 else 1)
  if h : secs < 2 ^ 64 then
    some ⟨secs, if nanos < nanosPerSec then nanos else nanos - nanosPerSec, h, by
      have := a.nanos_lt; have := b.nanos_lt; split <;> omega⟩
  else none

/-- `a + b` for durations: `checked_add` followed by `expect("overflow when adding durations")`. -/
def add (a b : Duration) : Rust Duration :=
  match a.checkedAdd b with
  | some d => .ok d
  | none => .panic "overflow when adding durations"

/-- The derived order of `Duration`: lexicographic on `(secs, nanos)`. -/
instance : LT Duration := ⟨fun a b => a.secs < b.secs ∨ (a.secs = b.secs ∧ a.nanos < b.nanos)⟩

/-- The derived non-strict order of `Duration`. -/
instance : LE Duration := ⟨fun a b => a.secs < b.secs ∨ (a.secs = b.secs ∧ a.nanos ≤ b.nanos)⟩

/-- The derived strict order is decidable. -/
instance (a b : Duration) : Decidable (a < b) :=
  inferInstanceAs (Decidable (_ ∨ _))

/-- The derived non-strict order is decidable. -/
instance (a b : Duration) : Decidable (a ≤ b) :=
  inferInstanceAs (Decidable (_ ∨ _))

/-- The length of a duration in nanoseconds. -/
def toNanos (d : Duration) : Nat := d.secs * nanosPerSec + d.nanos

/-- A duration is determined by its length. -/
theorem eq_of_toNanos_eq {a b : Duration} (h : a.toNanos = b.toNanos) : a = b := by
  have := a.nanos_lt; have := b.nanos_lt
  simp only [toNanos, nanosPerSec] at *
  ext <;> omega

/-- The derived order is the order of lengths. -/
theorem lt_iff_toNanos {a b : Duration} : a < b ↔ a.toNanos < b.toNanos := by
  have := a.nanos_lt; have := b.nanos_lt
  show (_ ∨ _) ↔ _
  simp only [toNanos, nanosPerSec] at *
  omega

/-- The derived non-strict order is the order of lengths. -/
theorem le_iff_toNanos {a b : Duration} : a ≤ b ↔ a.toNanos ≤ b.toNanos := by
  have := a.nanos_lt; have := b.nanos_lt
  show (_ ∨ _) ↔ _
  simp only [toNanos, nanosPerSec] at *
  omega

/-- The derived order is reflexive. -/
theorem lexLe_refl (a : Duration) : a ≤ a := le_iff_toNanos.2 (Nat.le_refl _)

/-- The derived order is transitive. -/
theorem lexLe_trans {a b c : Duration} (hab : a ≤ b) (hbc : b ≤ c) : a ≤ c :=
  le_iff_toNanos.2 (Nat.le_trans (le_iff_toNanos.1 hab) (le_iff_toNanos.1 hbc))

/-- The derived strict order is the strict part of the non-strict one. -/
theorem lexLt_iff_le_not_le {a b : Duration} : a < b ↔ a ≤ b ∧ ¬b ≤ a := by
  simp only [lt_iff_toNanos, le_iff_toNanos]
  omega

/-- The derived order is antisymmetric. -/
theorem lexLe_antisymm {a b : Duration} (hab : a ≤ b) (hba : b ≤ a) : a = b :=
  eq_of_toNanos_eq (Nat.le_antisymm (le_iff_toNanos.1 hab) (le_iff_toNanos.1 hba))

/-- The derived order is total. -/
theorem lexLe_total (a b : Duration) : a ≤ b ∨ b ≤ a := by
  simp only [le_iff_toNanos]
  omega

/-- The derived order is linear. -/
instance : LinearOrder Duration where
  le_refl := lexLe_refl
  le_trans _ _ _ := lexLe_trans
  lt_iff_le_not_le _ _ := lexLt_iff_le_not_le
  le_antisymm _ _ := lexLe_antisymm
  le_total := lexLe_total
  decidableLE := inferInstance
  decidableLT := inferInstance

@[simp] theorem toNanos_zero : zero.toNanos = 0 := rfl

/-- `Duration::new` returns the duration of `secs` seconds and `nanos` nanoseconds exactly when
the carry fits. -/
theorem new_eq_ok_iff {secs nanos : Nat} {d : Duration} :
    new secs nanos = .ok d ↔ secs + nanos / nanosPerSec < 2 ^ 64 ∧
      d.toNanos = secs * nanosPerSec + nanos := by
  have := d.nanos_lt
  unfold new toNanos nanosPerSec at *
  split
  · simp only [Rust.ok.injEq, Duration.ext_iff]
    omega
  · simp only [reduceCtorEq, false_iff, not_and]
    exact fun h => absurd h (by assumption)

/-- `Duration::new` returns when the carry fits. -/
theorem new_ne_panic {secs nanos : Nat} (h : secs + nanos / nanosPerSec < 2 ^ 64) :
    ∃ d, new secs nanos = .ok d :=
  ⟨_, dif_pos h⟩

/-- Checked addition returns the duration whose length is the sum, unless the sum overflows. -/
theorem checkedAdd_eq_some_iff {a b d : Duration} :
    a.checkedAdd b = some d ↔
      a.toNanos + b.toNanos < 2 ^ 64 * nanosPerSec ∧ d.toNanos = a.toNanos + b.toNanos := by
  have := a.nanos_lt; have := b.nanos_lt; have := d.nanos_lt; have := d.secs_lt
  simp only [checkedAdd, toNanos, nanosPerSec] at *
  by_cases hc : a.nanos + b.nanos < 1000000000 <;> simp only [hc, if_true, if_false] <;> split <;>
    simp only [Option.some.injEq, Duration.ext_iff, reduceCtorEq, false_iff, not_and] <;> omega

/-- Checked addition fails exactly when the sum of the lengths overflows. -/
theorem checkedAdd_eq_none_iff {a b : Duration} :
    a.checkedAdd b = none ↔ 2 ^ 64 * nanosPerSec ≤ a.toNanos + b.toNanos := by
  have := a.nanos_lt; have := b.nanos_lt
  simp only [checkedAdd, toNanos, nanosPerSec] at *
  by_cases hc : a.nanos + b.nanos < 1000000000 <;> simp only [hc, if_true, if_false] <;> split <;>
    simp only [reduceCtorEq, false_iff, true_iff] <;> omega

/-- Addition returns the duration whose length is the sum, unless the sum overflows. -/
theorem add_eq_ok_iff {a b d : Duration} :
    a.add b = .ok d ↔
      a.toNanos + b.toNanos < 2 ^ 64 * nanosPerSec ∧ d.toNanos = a.toNanos + b.toNanos := by
  rw [← checkedAdd_eq_some_iff]
  unfold add
  split <;> simp_all

/-- Addition panics exactly when the sum of the lengths overflows. -/
theorem add_eq_panic_iff {a b : Duration} :
    a.add b = .panic "overflow when adding durations" ↔
      2 ^ 64 * nanosPerSec ≤ a.toNanos + b.toNanos := by
  rw [← checkedAdd_eq_none_iff]
  unfold add
  split <;> simp_all

/-- Addition returns when the sum of the lengths fits. -/
theorem add_ne_panic {a b : Duration} (h : a.toNanos + b.toNanos < 2 ^ 64 * nanosPerSec) :
    ∃ d, a.add b = .ok d := by
  cases hc : a.checkedAdd b with
  | none => exact absurd (checkedAdd_eq_none_iff.1 hc) (Nat.not_le.2 h)
  | some d => exact ⟨d, by simp [add, hc]⟩

end Duration

end ConfidentialLedger.Core
