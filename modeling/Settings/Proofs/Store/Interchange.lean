import Mathlib
import Settings.Proofs.Store.Taxonomy

/-!
# Entries that compare equal

Declared entries are compared by key and default, and defaults by what they are worth: the truth
values are worth the numbers 0 and 1.  Typed calls go by the type of the default instead, and
there a truth value is no integer.  So an entry may stand for an equal one whose default has the
same type, since the two do not differ in anything; but of two equal entries with a truth value
and an integer for their defaults, each is refused what the other one is granted.  Only a removal
does not tell them apart.

## Main definitions

* `Store.TreatsAlike` — no typed call on a store tells two entries apart.

## Main results

* `Scalar.same_iff` — which scalars compare equal.
* `Store.type_eq_of_read_eq`, `Store.type_eq_of_set_eq` — the answer to a typed call gives away
  the type of the default.
* `Store.interchangeable_iff` — **equal entries are interchangeable if their defaults have the
  same type, and only then.**
-/

namespace Settings

/-! ### Equal scalars and entries -/

/-- **Scalars compare equal** if they are the same, or a truth value and what it is worth. -/
theorem Scalar.same_iff (d d' : Scalar) :
    d.same d' = true ↔ d = d' ∨ ∃ b, (d = .bool b ∧ d' = .int (StoredKey.ofBool b)) ∨
      (d = .int (StoredKey.ofBool b) ∧ d' = .bool b) := by
  cases d with
  | bool a => cases d' <;> simp [Scalar.same, StoredKey.ofBool]
  | int n => cases d' <;> simp [Scalar.same, StoredKey.ofBool]
  | null => cases d' <;> simp [Scalar.same]
  | text s => cases d' <;> simp [Scalar.same]

/-- Of equal scalars with different types one is a truth value and the other an integer. -/
theorem Scalar.types_of_same {d d' : Scalar} (h : d.same d' = true) (ht : d.type ≠ d'.type) :
    (d.type = .bool ∧ d'.type = .int) ∨ (d.type = .int ∧ d'.type = .bool) := by
  rcases (Scalar.same_iff d d').1 h with rfl | ⟨b, ⟨rfl, rfl⟩ | ⟨rfl, rfl⟩⟩
  · exact absurd rfl ht
  · exact Or.inl ⟨rfl, rfl⟩
  · exact Or.inr ⟨rfl, rfl⟩

/-- Equal scalars of one type are the same. -/
theorem Scalar.eq_of_same {d d' : Scalar} (h : d.same d' = true) (ht : d.type = d'.type) :
    d = d' := by
  rcases (Scalar.same_iff d d').1 h with rfl | ⟨b, ⟨rfl, rfl⟩ | ⟨rfl, rfl⟩⟩
  · rfl
  · cases ht
  · cases ht

/-- Entries compare equal if they are declared, with the same key and equal defaults. -/
theorem Entry.same_iff (e e' : Entry) :
    e.same e' = true ↔ ∃ key d d', e = .declared key d ∧ e' = .declared key d' ∧
      d.same d' = true := by
  cases e with
  | declared key d =>
    cases e' with
    | declared key' d' =>
      rw [Entry.same, Bool.and_eq_true, beq_iff_eq]
      constructor
      · rintro ⟨rfl, h⟩
        exact ⟨key, d, d', rfl, rfl, h⟩
      · rintro ⟨k, c, c', he, he', h⟩
        cases he
        cases he'
        exact ⟨rfl, h⟩
    | adHoc key' d' => simp [Entry.same]
  | adHoc key d => simp [Entry.same]

/-! ### Answers that give away a type -/

/-- What fails over a text only is not refused for its type. -/
theorem ClosedUnless.ne_wrongAccessor {α : Type} {p : Prop} {result : Except Fault α}
    (h : ClosedUnless p ErrorKind.AboutText result) (key : String)
    (declared requested : ValueType) :
    result ≠ .error (.wrongAccessor key declared requested) := by
  rintro rfl
  by_cases hp : p
  · obtain ⟨fault, hfault⟩ := h.escapes hp
    cases hfault
  · rcases h.within hp with ⟨a, ha⟩ | ⟨kind, hkind, hraises⟩
    · cases ha
    · obtain ⟨message, hmessage⟩ := raises_error_iff.1 hraises
      cases hmessage
      cases hkind

namespace Store

section Types

variable {s : Store} {e e' : Entry}

/-- A read as the type of the default is not refused for its type. -/
theorem read_ne_wrongAccessor (s : Store) {a : Accessor} {e : Entry} (h : e.default.type = a.type)
    (key : String) (declared requested : ValueType) :
    s.read a e ≠ .error (.wrongAccessor key declared requested) := by
  cases a with
  | string =>
    rcases Value.eq_text_of_type h with hd | ⟨d, hd⟩ <;> simp [read, getString, hd, Except.map]
  | boolean =>
    obtain ⟨d, hd⟩ := Value.eq_bool_of_type h
    simp [read, getBoolean, hd, Except.map]
  | integer w =>
    obtain ⟨d, hd⟩ := Value.eq_int_of_type h
    cases hget : s.get e.key with
    | none => simp [read, getInteger, hd, hget, Except.map]
    | some value =>
      rw [read, getInteger_of_get w h hget]
      exact ((parseInteger_closedUnless e.key value w).map _).ne_wrongAccessor _ _ _
  | duration =>
    rw [read_duration]
    rcases Value.eq_text_of_type h with hd | ⟨d, hd⟩
    · cases hget : s.get e.key with
      | none => simp [getDuration, hd, hget, Except.map]
      | some value =>
        rw [getDuration_of_get h hget]
        exact ((Duration.ofText_closedUnless value).map _).ne_wrongAccessor _ _ _
    · have hread : s.getDuration e = Duration.ofText ((s.get e.key).getD d) := by
        rw [getDuration, hd]
      rw [hread]
      exact ((Duration.ofText_closedUnless _).map _).ne_wrongAccessor _ _ _

/-- **A read gives away the type of the default**: entries that read alike have defaults of the
same type, whatever the accessor. -/
theorem type_eq_of_read_eq {a : Accessor} (h : s.read a e = s.read a e') :
    e.default.type = e'.default.type := by
  by_cases ht : e.default.type = a.type
  · by_cases ht' : e'.default.type = a.type
    · rw [ht, ht']
    · rw [read_of_type_ne s ht'] at h
      exact absurd h (read_ne_wrongAccessor s ht _ _ _)
  · by_cases ht' : e'.default.type = a.type
    · rw [read_of_type_ne s ht] at h
      exact absurd h.symm (read_ne_wrongAccessor s ht' _ _ _)
    · -- both are refused, and each refusal names the type of its default
      rw [read_of_type_ne s ht, read_of_type_ne s ht'] at h
      simp only [Except.error.injEq, Fault.wrongAccessor.injEq] at h
      exact h.2.1

/-- A write of a value of the type of the default is not refused for its type. -/
theorem set_ne_wrongValueType (s : Store) {e : Entry} {v : Value} (hv : v ≠ .null)
    (h : v.type = e.default.type) (key : String) (declared actual : ValueType) :
    (s.setEntry e v).result ≠ .error (.wrongValueType key declared actual) := by
  rw [setEntry_of_type_eq s hv h]
  cases v.stored with
  | ok text => simp
  | error fault => simp

/-- **A write gives away the type of the default** unless it is a removal. -/
theorem type_eq_of_set_eq {v : Value} (hv : v ≠ .null)
    (h : (s.setEntry e v).result = (s.setEntry e' v).result) :
    e.default.type = e'.default.type := by
  by_cases ht : v.type = e.default.type
  · by_cases ht' : v.type = e'.default.type
    · rw [← ht, ← ht']
    · have hrefused := congrArg Outcome.result (setEntry_of_type_ne s hv ht')
      exact absurd (h.trans hrefused) (set_ne_wrongValueType s hv ht _ _ _)
  · have hrefused := congrArg Outcome.result (setEntry_of_type_ne s hv ht)
    by_cases ht' : v.type = e'.default.type
    · exact absurd (h.symm.trans hrefused) (set_ne_wrongValueType s hv ht' _ _ _)
    · have hrefused' := congrArg Outcome.result (setEntry_of_type_ne s hv ht')
      rw [hrefused, hrefused'] at h
      simp only [Except.error.injEq, Fault.wrongValueType.injEq] at h
      exact h.2.1

end Types

/-! ### Interchangeable entries -/

/-- No typed call on a store tells the entries apart: whichever is used, the call has the same
answer, leaves the same store and logs the same events. -/
structure TreatsAlike (s : Store) (e e' : Entry) : Prop where
  /-- Reads by every accessor. -/
  read : ∀ a, s.perform (.read a e) = s.perform (.read a e')
  /-- Reads as a text without an accessor. -/
  get : s.perform (.get (.entry e)) = s.perform (.get (.entry e'))
  /-- Writes of values of any kind. -/
  set : ∀ v, s.perform (.set (.entry e) v) = s.perform (.set (.entry e') v)

theorem eq_of_map_eq {α β : Type} {f : α → β} (hf : Function.Injective f) {r r' : Except Fault α}
    (h : r.map f = r'.map f) : r = r' := by
  cases r with
  | ok a =>
    cases r' with
    | ok b => exact congrArg Except.ok (hf (Except.ok.inj h))
    | error fault => cases h
  | error fault =>
    cases r' with
    | ok b => cases h
    | error fault' => exact congrArg Except.error (Except.error.inj h)

section Calls

variable {s : Store} {e e' : Entry}

theorem type_eq_of_result_read_eq {a : Accessor}
    (h : (s.perform (.read a e)).result = (s.perform (.read a e')).result) :
    e.default.type = e'.default.type := by
  rw [perform_read, perform_read] at h
  exact type_eq_of_read_eq (eq_of_map_eq (fun _ _ => Answer.scalar.inj) h)

theorem type_eq_of_result_set_eq {v : Value} (hv : v ≠ .null)
    (h : (s.perform (.set (.entry e) v)).result = (s.perform (.set (.entry e') v)).result) :
    e.default.type = e'.default.type :=
  type_eq_of_set_eq hv (eq_of_map_eq (fun _ _ _ => rfl) h)

/-- Equal entries with defaults of one type are the same entry. -/
theorem eq_of_same_of_type_eq (h : e.same e' = true) (ht : e.default.type = e'.default.type) :
    e = e' := by
  obtain ⟨key, d, d', rfl, rfl, hd⟩ := (Entry.same_iff e e').1 h
  rw [Scalar.eq_of_same hd ht]

/-- **Equal entries are interchangeable if their defaults have the same type, and only then.**
If the types differ, one default is a truth value and the other an integer; then every typed read
answers differently, and so does every typed write but the removal, which is the same for both. -/
theorem interchangeable_iff (h : e.same e' = true) (s : Store) :
    (s.TreatsAlike e e' ↔ e.default.type = e'.default.type) ∧
      (∀ a, (s.perform (.read a e)).result = (s.perform (.read a e')).result ↔
        e.default.type = e'.default.type) ∧
      (∀ v, v ≠ .null →
        ((s.perform (.set (.entry e) v)).result = (s.perform (.set (.entry e') v)).result ↔
          e.default.type = e'.default.type)) ∧
      s.perform (.set (.entry e) .null) = s.perform (.set (.entry e') .null) ∧
      (e.default.type = e'.default.type ∨
        (e.default.type = .bool ∧ e'.default.type = .int) ∨
        (e.default.type = .int ∧ e'.default.type = .bool)) := by
  have heq : e.default.type = e'.default.type → e = e' := eq_of_same_of_type_eq h
  obtain ⟨key, d, d', rfl, rfl, hd⟩ := (Entry.same_iff e e').1 h
  refine ⟨⟨fun halike => ?_, fun ht => ?_⟩, fun a => ⟨type_eq_of_result_read_eq, fun ht => ?_⟩,
    fun v hv => ⟨type_eq_of_result_set_eq hv, fun ht => ?_⟩, rfl, ?_⟩
  · exact type_eq_of_result_read_eq (congrArg Outcome.result (halike.read .string))
  · rw [heq ht]
    exact ⟨fun _ => rfl, rfl, fun _ => rfl⟩
  · rw [heq ht]
  · rw [heq ht]
  · by_cases ht : d.type = d'.type
    · exact Or.inl ht
    · exact Or.inr (Scalar.types_of_same hd ht)

end Calls

/-- Of two entries that compare equal, the one with the default `true` takes a truth value and
the one with the default 1 refuses it; a removal is the same for both. -/
theorem interchangeable_of_true_and_one :
    let e := Entry.declared "k" (.bool true)
    let e' := Entry.declared "k" (.int 1)
    let s := reached ⟨.empty, .empty⟩ (some [(.text "k", .text "1")]) []
    e.same e' = true ∧ ¬ s.TreatsAlike e e' ∧
      (s.perform (.set (.entry e) (.bool false))).result
        ≠ (s.perform (.set (.entry e') (.bool false))).result ∧
      s.perform (.set (.entry e) .null) = s.perform (.set (.entry e') .null) := by
  intro e e' s
  have hsame : e.same e' = true := rfl
  have htypes : e.default.type ≠ e'.default.type := by decide
  obtain ⟨halike, -, hwrites, hremoval, -⟩ := interchangeable_iff hsame s
  exact ⟨hsame, fun h => htypes (halike.1 h),
    fun h => htypes ((hwrites (.bool false) (by simp)).1 h), hremoval⟩

/-- Equal entries are told apart: where the one reads its default `true` as a truth value, the
other is refused. -/
theorem told_apart_of_true_and_one :
    let e := Entry.declared "k" (.bool true)
    let e' := Entry.declared "k" (.int 1)
    let s := reached ⟨.empty, .empty⟩ none []
    e.same e' = true ∧
      (s.perform (.read .boolean e)).result = .ok (.scalar (.bool true)) ∧
      (s.perform (.read .boolean e')).result = .error (.wrongAccessor "k" .int .bool) :=
  ⟨rfl, rfl, rfl⟩

end Store

end Settings
