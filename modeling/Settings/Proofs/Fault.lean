import Mathlib
import Settings.Fault

/-!
# How failures show

What a caller sees of a failure is the kind of the configuration error that reports it, and
what that error is about.  The integers of a width are those of its number of bits.

## Main definitions

* `IntWidth.bits` — the number of bits of a width.
* `Raises` — a result is a configuration error of some kind.
* `Within` — a result is a value, or a configuration error of certain kinds.
* `ClosedUnless` — so it is, unless something is the case.

## Main results

* `bind_eq_ok_iff` — when a computation in two steps succeeds.
* `IntWidth.holds_iff` — the integers that a width has.
* `Raises.kind_unique` — a result is an error of one kind only.
* `ClosedUnless.within_iff` — the exception is exact.
-/

namespace Settings

open Number

/-- A computation in two steps succeeds if both do. -/
theorem bind_eq_ok_iff {ε α β : Type} {x : Except ε α} {f : α → Except ε β} {b : β} :
    x >>= f = .ok b ↔ ∃ a, x = .ok a ∧ f a = .ok b := by
  cases x with
  | error e => exact ⟨fun h => (nomatch h), fun ⟨_, h, _⟩ => (nomatch h)⟩
  | ok a => exact ⟨fun h => ⟨a, rfl, h⟩, fun ⟨_, h, hb⟩ => Except.ok.inj h ▸ hb⟩

/-- The number of bits of a width. -/
def IntWidth.bits : IntWidth → Nat
  | .int32 => 32
  | .int64 => 64

theorem IntWidth.holds_iff (w : IntWidth) (n : Int) :
    w.holds n = true ↔ -2 ^ (w.bits - 1) ≤ n ∧ n ≤ 2 ^ (w.bits - 1) - 1 := by
  rw [holds, Bool.and_eq_true, decide_eq_true_eq, decide_eq_true_eq]
  cases w <;> exact Iff.rfl

/-- The result is an error that is reported as a configuration error of the given kind. -/
def Raises {α : Type} (result : Except Fault α) (kind : ErrorKind) : Prop :=
  ∃ fault message, result = .error fault ∧ fault.configError? = some ⟨message, kind⟩

theorem not_raises_ok {α : Type} {a : α} {kind : ErrorKind} : ¬ Raises (.ok a) kind := by
  rintro ⟨fault, message, h, -⟩
  exact nomatch h

theorem raises_error_iff {α : Type} {fault : Fault} {kind : ErrorKind} :
    Raises (.error fault : Except Fault α) kind ↔
      ∃ message, fault.configError? = some ⟨message, kind⟩ := by
  constructor
  · rintro ⟨fault', message, h, hkind⟩
    cases h
    exact ⟨message, hkind⟩
  · rintro ⟨message, hkind⟩
    exact ⟨fault, message, rfl, hkind⟩

/-- A result is an error of one kind only. -/
theorem Raises.kind_unique {α : Type} {result : Except Fault α} {kind kind' : ErrorKind}
    (h : Raises result kind) (h' : Raises result kind') : kind = kind' := by
  obtain ⟨fault, message, rfl, hkind⟩ := h
  obtain ⟨message', hkind'⟩ := raises_error_iff.1 h'
  rw [hkind] at hkind'
  exact (ConfigError.mk.inj (Option.some.inj hkind')).2

/-! ### Kinds of failure -/

/-- The result is a value, or a configuration error of one of the kinds. -/
def Within {α : Type} (kinds : ErrorKind → Prop) (result : Except Fault α) : Prop :=
  (∃ a, result = .ok a) ∨ ∃ kind, kinds kind ∧ Raises result kind

/-- The result is within the kinds, unless `exception` holds; then it is a failure to convert
a numeral, which is no configuration error at all. -/
structure ClosedUnless {α : Type} (exception : Prop) (kinds : ErrorKind → Prop)
    (result : Except Fault α) : Prop where
  within : ¬ exception → Within kinds result
  escapes : exception → ∃ fault, result = .error (.numeral fault)

section Within

variable {α β : Type} {kinds : ErrorKind → Prop} {result : Except Fault α}

theorem Within.ok (a : α) : Within kinds (.ok a) := Or.inl ⟨a, rfl⟩

theorem Within.raises {kind : ErrorKind} (hkind : kinds kind) (h : Raises result kind) :
    Within kinds result := Or.inr ⟨kind, hkind, h⟩

theorem Within.mono {kinds' : ErrorKind → Prop} (hkinds : ∀ kind, kinds kind → kinds' kind)
    (h : Within kinds result) : Within kinds' result := by
  rcases h with hok | ⟨kind, hkind, hraises⟩
  · exact Or.inl hok
  · exact Or.inr ⟨kind, hkinds kind hkind, hraises⟩

theorem Raises.map {kind : ErrorKind} (f : α → β) (h : Raises result kind) :
    Raises (result.map f) kind := by
  obtain ⟨fault, message, rfl, hkind⟩ := h
  exact ⟨fault, message, rfl, hkind⟩

theorem Within.map (f : α → β) (h : Within kinds result) : Within kinds (result.map f) := by
  rcases h with ⟨a, rfl⟩ | ⟨kind, hkind, hraises⟩
  · exact Within.ok (f a)
  · exact Within.raises hkind (hraises.map f)

/-- A failure to convert a numeral is no configuration error. -/
theorem not_within_numeral (fault : NumeralFault) :
    ¬ Within kinds (.error (.numeral fault) : Except Fault α) := by
  rintro (⟨a, h⟩ | ⟨kind, -, hraises⟩)
  · exact nomatch h
  · obtain ⟨message, h⟩ := raises_error_iff.1 hraises
    exact nomatch h

namespace ClosedUnless

variable {p q : Prop}

/-- The exception is exact. -/
theorem within_iff (h : ClosedUnless p kinds result) : Within kinds result ↔ ¬ p := by
  refine ⟨fun hwithin hp => ?_, h.within⟩
  obtain ⟨fault, hresult⟩ := h.escapes hp
  rw [hresult] at hwithin
  exact not_within_numeral fault hwithin

theorem map (f : α → β) (h : ClosedUnless p kinds result) :
    ClosedUnless p kinds (result.map f) where
  within hp := (h.within hp).map f
  escapes hp := by
    obtain ⟨fault, hresult⟩ := h.escapes hp
    exact ⟨fault, by rw [hresult]; rfl⟩

theorem mono {kinds' : ErrorKind → Prop} (hkinds : ∀ kind, kinds kind → kinds' kind)
    (h : ClosedUnless p kinds result) : ClosedUnless p kinds' result :=
  ⟨fun hp => (h.within hp).mono hkinds, h.escapes⟩

theorem congr (hpq : p ↔ q) (h : ClosedUnless p kinds result) : ClosedUnless q kinds result :=
  ⟨fun hq => h.within (mt hpq.1 hq), fun hq => h.escapes (hpq.2 hq)⟩

end ClosedUnless

theorem Within.closedUnless {p : Prop} (hp : ¬ p) (h : Within kinds result) :
    ClosedUnless p kinds result :=
  ⟨fun _ => h, fun hp' => absurd hp' hp⟩

end Within

end Settings
