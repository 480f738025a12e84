import Mathlib.Logic.Function.Basic
import Mathlib.Logic.Relation
import Settings.Proofs.Store.Warnings

/-!
# Clients of one store

Any number of clients call one store at once.  A call changes or copies the pairs in one critical
section, under the lock of the store.  A key is checked for deprecation outside of it: before
the section of a plain or typed write, and after that of a write under a missing key, if the
value has been stored.  Between any two of these steps the other clients may take any number
of theirs.

What a client calls next may depend on the replies that it has got, so that a copy of another
store is a program of single writes, and a copy of the store itself one that begins with a
snapshot.

## Main definitions

* `Store.Call`, `Store.Call.enter` — the calls, and their critical sections.
* `Store.Program`, `Store.Client` — what a client is to do, and how far it has come.
* `Store.Shared`, `Store.Shared.Step` — a store with its clients, and one step of one of them.
* `Store.Program.setAll`, `Store.Program.setAllSelf` — copies.

## Main results

* `Store.perform_request` — a call is its critical section, between its checks.
* `Store.Shared.exists_step` — a client that has not finished can always go on.
* `Store.Shared.call_alone` — a client that is not interrupted does what `Store.perform` does.
* `Store.Shared.setAll_alone` — and so does one that copies another store.
-/

namespace Settings

namespace Store

/-! ### Calls -/

/-- A call of a client. -/
inductive Call where
  | set (key : Key) (v : Value)
  | setIfMissing (key : String) (v : Value)
  | remove (key : String)
  | iterate

/-- What a client gets back from a call. -/
abbrev Reply := Except Fault Answer

/-- What happens in a critical section: the reply of the call, the pairs that are left, and the
key that is to be checked afterwards. -/
structure Passage where
  reply : Reply
  config : OrderedMap StoredKey String
  settles : Option String

namespace Call

/-- The call as a request. -/
def request : Call → Request
  | set key v => .set key v
  | setIfMissing key v => .setIfMissing (.name key) v
  | remove key => .remove (.name key)
  | iterate => .pairs

/-- The key that is checked before the critical section of a typed write. -/
def precheckEntry (e : Entry) (v : Value) : Option String :=
  if !v.fits e.default then none
  else
    match v with
    | .scalar .null => none
    | _ => some e.key

/-- The key that is checked before the critical section of a call. -/
def precheck : Call → Option String
  | set (.name key) v => v.text?.map fun _ => key
  | set (.entry e) v => precheckEntry e v
  | _ => none

/-- The critical section of a typed write: the value is turned into text inside of it. -/
def enterEntry (m : OrderedMap StoredKey String) (e : Entry) (v : Value) : Passage :=
  if !v.fits e.default then ⟨.error (.wrongValueType e.key e.default.type v.type), m, none⟩
  else
    match v with
    | .scalar .null => ⟨.ok .done, m.erase (.text e.key), none⟩
    | v =>
      match v.stored with
      | .ok text => ⟨.ok .done, m.insert (.text e.key) text, none⟩
      | .error fault => ⟨.error (.numeral fault), m, none⟩

/-- The critical section of a call.  A call that is refused has none; the moment of its refusal
stands for one. -/
def enter (m : OrderedMap StoredKey String) : Call → Passage
  | set (.name key) v =>
    match v.text? with
    | some value => ⟨.ok .done, m.insert (.text key) value, none⟩
    | none => ⟨.error (.notText (.text key) key v.type), m, none⟩
  | set (.entry e) v => enterEntry m e v
  | set (.other k _) _ => ⟨.error (.notAnEntry k.kindName), m, none⟩
  | setIfMissing key v =>
    match v.text? with
    | some value =>
      -- only a value that has been stored leaves its key to be checked
      if m.contains (.text key) then ⟨.ok .done, m, none⟩
      else ⟨.ok .done, m.insert (.text key) value, some key⟩
    | none => ⟨.error (.notText (.text key) key v.type), m, none⟩
  | remove key => ⟨.ok .done, m.erase (.text key), none⟩
  | iterate => ⟨.ok (.pairs m.toList), m, none⟩

end Call

/-! ### A call and its parts -/

/-- The store after the check of a key, if there is one, and what is logged. -/
def noteIf (s : Store) : Option String → Store × List Event
  | none => (s, [])
  | some key => s.note key

/-- The store with other pairs. -/
def withPairs (s : Store) (m : OrderedMap StoredKey String) : Store := { s with config := m }

@[simp] theorem config_withPairs (s : Store) (m : OrderedMap StoredKey String) :
    (s.withPairs m).config = m := rfl

@[simp] theorem config_noteIf (s : Store) (key? : Option String) :
    (s.noteIf key?).1.config = s.config := by
  cases key? <;> rfl

theorem Follows.withPairs {s : Store} {t : Tables} (hs : s.Follows t)
    (m : OrderedMap StoredKey String) : (s.withPairs m).Follows t := hs.of_eq rfl rfl

theorem Follows.noteIf {s : Store} {t : Tables} (hs : s.Follows t) (key? : Option String) :
    (s.noteIf key?).1.Follows t ∧
      warningTexts (s.noteIf key?).2 = key?.toList.filterMap t.warningText? := by
  cases key? with
  | none => exact ⟨hs, rfl⟩
  | some key =>
    obtain ⟨hnote, hwarn⟩ := hs.note key
    refine ⟨hnote, hwarn.trans ?_⟩
    cases h : t.warningText? key <;> simp [h]

/-- A call in its three parts. -/
def threefold (s : Store) (o : Call) : Outcome Answer :=
  let (s, before) := s.noteIf o.precheck
  let passage := o.enter s.config
  let (s, after) := (s.withPairs passage.config).noteIf passage.settles
  ⟨passage.reply, s, before ++ after⟩

section Typed

variable {e : Entry} {v : Value} (m : OrderedMap StoredKey String)

theorem enterEntry_of_type_eq (hv : v ≠ .null) (ht : v.type = e.default.type) :
    Call.enterEntry m e v
      = match v.stored with
        | .ok text => ⟨.ok .done, m.insert (.text e.key) text, none⟩
        | .error fault => ⟨.error (.numeral fault), m, none⟩ := by
  have hfits : v.fits e.default = true := (fits_iff_type_eq hv e.default).2 ht
  simp only [Call.enterEntry, hfits, Bool.not_true, Bool.false_eq_true, if_false]

theorem precheckEntry_of_type_eq (hv : v ≠ .null) (ht : v.type = e.default.type) :
    Call.precheckEntry e v = some e.key := by
  have hfits : v.fits e.default = true := (fits_iff_type_eq hv e.default).2 ht
  simp only [Call.precheckEntry, hfits, Bool.not_true, Bool.false_eq_true, if_false]

theorem fits_eq_false (hv : v ≠ .null) (ht : v.type ≠ e.default.type) :
    v.fits e.default = false := by
  rw [Bool.eq_false_iff, Ne, fits_iff_type_eq hv]
  exact ht

theorem enterEntry_of_type_ne (hv : v ≠ .null) (ht : v.type ≠ e.default.type) :
    Call.enterEntry m e v = ⟨.error (.wrongValueType e.key e.default.type v.type), m, none⟩ := by
  simp only [Call.enterEntry, fits_eq_false hv ht, Bool.not_false, if_true]

theorem precheckEntry_of_type_ne (hv : v ≠ .null) (ht : v.type ≠ e.default.type) :
    Call.precheckEntry e v = none := by
  simp only [Call.precheckEntry, fits_eq_false hv ht, Bool.not_false, if_true]

end Typed

theorem threefold_entry (s : Store) (e : Entry) (v : Value) :
    s.threefold (.set (.entry e) v) = ofChange (s.setEntry e v) := by
  by_cases hv : v = .null
  · subst hv
    rfl
  by_cases ht : v.type = e.default.type
  · rw [setEntry_of_type_eq s hv ht]
    simp only [threefold, Call.precheck, Call.enter, precheckEntry_of_type_eq hv ht,
      enterEntry_of_type_eq _ hv ht]
    -- nothing is checked after the section, so that no events follow those of before
    cases v.stored with
    | ok text => exact congrArg (Outcome.mk _ _) (List.append_nil _)
    | error fault => exact congrArg (Outcome.mk _ _) (List.append_nil _)
  · rw [setEntry_of_type_ne s hv ht]
    simp only [threefold, Call.precheck, Call.enter, precheckEntry_of_type_ne hv ht,
      enterEntry_of_type_ne _ hv ht]
    rfl

theorem threefold_name (s : Store) (key : String) (v : Value) :
    s.threefold (.set (.name key) v) = ofChange (s.setRaw key v) := by
  cases hv : v.text? with
  | none =>
    rw [setRaw_of_not_text s key hv]
    simp only [threefold, Call.precheck, Call.enter, hv]
    rfl
  | some value =>
    obtain rfl : v = .text value := Value.eq_text_of_text? hv
    exact congrArg (Outcome.mk _ _) (List.append_nil _)

theorem threefold_setIfMissing (s : Store) (key : String) (v : Value) :
    s.threefold (.setIfMissing key v) = ofChange (s.setIfMissing key v) := by
  cases hv : v.text? with
  | none =>
    rw [setIfMissing_of_not_text s key hv]
    simp only [threefold, Call.precheck, Call.enter, hv]
    rfl
  | some value =>
    obtain rfl : v = .text value := Value.eq_text_of_text? hv
    have hcontains : s.contains key = s.config.contains (.text key) := rfl
    cases hc : s.contains key with
    | true =>
      rw [setIfMissing_of_contains hc]
      rw [hcontains] at hc
      simp only [threefold, Call.precheck, Call.enter, noteIf, hc, Value.text?_text, if_true]
      rfl
    | false =>
      rw [setIfMissing_of_not_contains hc]
      rw [hcontains] at hc
      simp only [threefold, Call.precheck, Call.enter, noteIf, hc, Value.text?_text,
        Bool.false_eq_true, if_false]
      rfl

/-- **A call is its critical section, between its checks.** -/
theorem perform_request (s : Store) (o : Call) : s.perform o.request = s.threefold o := by
  cases o with
  | set key v =>
    cases key with
    | name key => exact (threefold_name s key v).symm
    | entry e => exact (threefold_entry s e v).symm
    | other k hk => rfl
  | setIfMissing key v => exact (threefold_setIfMissing s key v).symm
  | remove key => rfl
  | iterate => rfl

/-! ### Clients -/

/-- What a client is to do: nothing more, or a call and then what its reply decides. -/
inductive Program where
  | finished
  | call (o : Call) (next : Reply → Program)

namespace Program

/-- A copy of the pairs of another store: single writes, up to the first that fails. -/
def setAll (next : Except Fault Unit → Program) : List (StoredKey × String) → Program
  | [] => next (.ok ())
  | (key, value) :: ps =>
    .call (.set (keyOf key) (.text value)) fun
      | .ok _ => setAll next ps
      | .error fault => next (.error fault)

/-- A copy of the pairs of the store itself: a snapshot comes first. -/
def setAllSelf (next : Except Fault Unit → Program) : Program :=
  .call .iterate fun
    | .ok (.pairs ps) => setAll next ps
    | .ok _ => next (.ok ())
    | .error fault => next (.error fault)

end Program

/-- How far a client has come. -/
inductive Client where
  /-- Its next call has not begun. -/
  | between (p : Program)
  /-- The key of its call is checked; the critical section comes next. -/
  | prechecked (o : Call) (next : Reply → Program)
  /-- Its value is stored; the key is still to be checked. -/
  | unsettled (key : String) (p : Program)

/-- A client after its critical section: a key may be left to be checked. -/
def Client.after (settles : Option String) (p : Program) : Client :=
  match settles with
  | none => .between p
  | some key => .unsettled key p

/-- A critical section that has been entered: by whom, for which call, and the pairs that were
found there. -/
structure Visit (ι : Type) where
  client : ι
  call : Call
  found : OrderedMap StoredKey String

namespace Visit

variable {ι : Type} (v : Visit ι)

/-- What happened in the critical section. -/
def passage : Passage := v.call.enter v.found

/-- The reply of the call. -/
def reply : Reply := v.passage.reply

/-- The pairs that were left. -/
def left : OrderedMap StoredKey String := v.passage.config

/-- The keys that the call checks, before and after its critical section. -/
def checks : List String := v.call.precheck.toList ++ v.passage.settles.toList

end Visit

/-- A store with its clients.  The critical sections that have been entered and the keys that
have been checked are written down with the client. -/
structure Shared (ι : Type) where
  store : Store
  clients : ι → Client
  visits : List (Visit ι)
  checked : List (ι × String)
  events : List Event

namespace Shared

/-- The clients are to begin with their programs. -/
def initial {ι : Type} (s : Store) (p : ι → Program) : Shared ι :=
  ⟨s, fun i => .between (p i), [], [], []⟩

variable {ι : Type} [DecidableEq ι]

/-- One client has come further. -/
def move (c : Shared ι) (i : ι) (client : Client) : Shared ι :=
  { c with clients := Function.update c.clients i client }

/-- A client has had a key checked. -/
def check (c : Shared ι) (i : ι) (key : String) (client : Client) : Shared ι :=
  { c.move i client with
    store := (c.store.note key).1
    checked := c.checked ++ [(i, key)]
    events := c.events ++ (c.store.note key).2 }

/-- The call of a client that enters its critical section now. -/
def visit (c : Shared ι) (i : ι) (o : Call) : Visit ι := ⟨i, o, c.store.config⟩

/-- A client has been in its critical section. -/
def enter (c : Shared ι) (i : ι) (o : Call) (next : Reply → Program) : Shared ι :=
  { c.move i (.after (c.visit i o).passage.settles (next (c.visit i o).reply)) with
    store := c.store.withPairs (c.visit i o).left
    visits := c.visits ++ [c.visit i o] }

/-- One step of one client. -/
inductive Step : Shared ι → Shared ι → Prop
  | precheck {c : Shared ι} {i o next key} (calls : c.clients i = .between (.call o next))
      (first : o.precheck = some key) : Step c (c.check i key (.prechecked o next))
  | enter {c : Shared ι} {i o next} (ready : c.clients i = .prechecked o next) :
      Step c (c.enter i o next)
  | enterAtOnce {c : Shared ι} {i o next} (calls : c.clients i = .between (.call o next))
      (first : o.precheck = none) : Step c (c.enter i o next)
  | settle {c : Shared ι} {i key p} (owes : c.clients i = .unsettled key p) :
      Step c (c.check i key (.between p))

/-- Any number of steps. -/
abbrev Steps : Shared ι → Shared ι → Prop := Relation.ReflTransGen Step

/-- All clients have finished. -/
def Finished (c : Shared ι) : Prop := ∀ i, c.clients i = .between .finished

theorem clients_move_self (c : Shared ι) (i : ι) (client : Client) :
    (c.move i client).clients i = client := by
  simp [move]

/-- **A client that has not finished can always go on.** -/
theorem exists_step {c : Shared ι} {i : ι} (h : c.clients i ≠ .between .finished) :
    ∃ c', Step c c' := by
  cases hi : c.clients i with
  | between p =>
    cases p with
    | finished => exact absurd hi h
    | call o next =>
      cases hfirst : o.precheck with
      | none => exact ⟨_, .enterAtOnce hi hfirst⟩
      | some key => exact ⟨_, .precheck hi hfirst⟩
  | prechecked o next => exact ⟨_, .enter hi⟩
  | unsettled key p => exact ⟨_, .settle hi⟩

/-! ### A client alone -/

/-- One client has come to a program, with what has been done to the store on the way. -/
def advance (c : Shared ι) (i : ι) (p : Program) (s : Store) (vs : List (Visit ι))
    (ks : List (ι × String)) (es : List Event) : Shared ι :=
  { c.move i (.between p) with
    store := s
    visits := c.visits ++ vs
    checked := c.checked ++ ks
    events := c.events ++ es }

/-- Without the others, the client comes to a program, leaves a store and logs some events. -/
def Does (c : Shared ι) (i : ι) (p : Program) (s : Store) (es : List Event) : Prop :=
  ∃ vs ks, Steps c (c.advance i p s vs ks es)

variable {c : Shared ι} {i : ι} {p p' : Program} {s s' : Store} {es es' : List Event}

theorem Does.refl (hi : c.clients i = .between p) : c.Does i p c.store [] := by
  have hself : Function.update c.clients i (.between p) = c.clients := by
    rw [← hi, Function.update_eq_self]
  refine ⟨[], [], ?_⟩
  simp only [advance, move, hself, List.append_nil]
  exact .refl

/-- What a client does next it does from where it has come to. -/
theorem Does.trans (h : c.Does i p s es)
    (h' : ∀ c' : Shared ι, c'.clients i = .between p → c'.store = s → c'.Does i p' s' es') :
    c.Does i p' s' (es ++ es') := by
  obtain ⟨vs, ks, hsteps⟩ := h
  obtain ⟨vs', ks', hsteps'⟩ :=
    h' (c.advance i p s vs ks es) (clients_move_self c i (.between p)) rfl
  have hboth : (c.advance i p s vs ks es).advance i p' s' vs' ks' es'
      = c.advance i p' s' (vs ++ vs') (ks ++ ks') (es ++ es') := by
    simp only [advance, move, Function.update_idem, List.append_assoc]
  rw [hboth] at hsteps'
  exact ⟨_, _, hsteps.trans hsteps'⟩

theorem clients_check_self (c : Shared ι) (i : ι) (key : String) (client : Client) :
    (c.check i key client).clients i = client := clients_move_self c i client

theorem clients_enter_self (c : Shared ι) (i : ι) (o : Call) (next : Reply → Program) :
    (c.enter i o next).clients i
      = .after (c.visit i o).passage.settles (next (c.visit i o).reply) :=
  clients_move_self c i _

/-- A client settles what it has left to be checked. -/
theorem does_settle {settles : Option String} (hi : c.clients i = .after settles p) :
    c.Does i p (c.store.noteIf settles).1 (c.store.noteIf settles).2 := by
  cases settles with
  | none => exact Does.refl hi
  | some key =>
    refine ⟨[], [(i, key)], ?_⟩
    rw [advance, List.append_nil]
    exact .single (.settle hi)

/-- A client enters its critical section and then settles. -/
theorem does_enter {o : Call} {next : Reply → Program}
    (hstep : Step c (c.enter i o next)) :
    c.Does i (next (o.enter c.store.config).reply)
      ((c.store.withPairs (o.enter c.store.config).config).noteIf
        (o.enter c.store.config).settles).1
      ((c.store.withPairs (o.enter c.store.config).config).noteIf
        (o.enter c.store.config).settles).2 := by
  obtain ⟨vs, ks, hsteps⟩ := does_settle (clients_enter_self c i o next)
  refine ⟨c.visit i o :: vs, ks, ?_⟩
  have hrest := hsteps.head hstep
  simp only [advance, enter, move, Function.update_idem, List.append_assoc,
    List.singleton_append] at hrest
  exact hrest

/-- **A client that is not interrupted does what `Store.perform` does.** -/
theorem call_alone {o : Call} {next : Reply → Program}
    (hi : c.clients i = .between (.call o next)) :
    c.Does i (next (c.store.perform o.request).result) (c.store.perform o.request).store
      (c.store.perform o.request).events := by
  rw [perform_request]
  cases hfirst : o.precheck with
  | none =>
    have hdoes := does_enter (.enterAtOnce hi hfirst)
    simp only [threefold, hfirst, noteIf, List.nil_append]
    exact hdoes
  | some key =>
    obtain ⟨vs, ks, hsteps⟩ :=
      does_enter (.enter (clients_check_self c i key (.prechecked o next)))
    refine ⟨vs, (i, key) :: ks, ?_⟩
    have hall := hsteps.head (.precheck hi hfirst)
    simp only [threefold, hfirst, noteIf]
    simp only [advance, check, move, Function.update_idem, List.append_assoc,
      List.singleton_append] at hall
    exact hall

/-- **A copy of another store by a client that is not interrupted** does what `Store.setAll`
does. -/
theorem setAll_alone {next : Except Fault Unit → Program} {ps : List (StoredKey × String)}
    (hi : c.clients i = .between (.setAll next ps)) :
    c.Does i (next (c.store.setAll ps).result) (c.store.setAll ps).store
      (c.store.setAll ps).events := by
  induction ps generalizing c with
  | nil => exact Does.refl hi
  | cons pair ps ih =>
    obtain ⟨key, value⟩ := pair
    have hfirst := call_alone hi
    have hperform : c.store.perform (Call.set (keyOf key) (.text value)).request
        = ofChange (c.store.set (keyOf key) (.text value)) := rfl
    rw [hperform] at hfirst
    unfold Store.setAll
    dsimp only [ofChange] at hfirst ⊢
    cases hresult : (c.store.set (keyOf key) (.text value)).result with
    | error fault =>
      rw [hresult] at hfirst
      exact hfirst
    | ok u =>
      -- the next write finds the store as this one has left it
      rw [hresult] at hfirst
      refine hfirst.trans fun c' hi' hstore => ?_
      rw [← hstore]
      exact ih hi'

/-- A copy of the store itself copies the pairs that are there when it begins. -/
theorem setAllSelf_alone {next : Except Fault Unit → Program}
    (hi : c.clients i = .between (.setAllSelf next)) :
    c.Does i (next (c.store.setAll c.store.toList).result)
      (c.store.setAll c.store.toList).store (c.store.setAll c.store.toList).events := by
  have hsnapshot := call_alone hi
  refine hsnapshot.trans fun c' hi' hstore => ?_
  have hcopy := setAll_alone hi'
  rw [hstore] at hcopy
  exact hcopy

end Shared

end Store

end Settings
